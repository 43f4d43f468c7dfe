import BindingAudit.Text.CaseFold.Table

/-!
# Case folding

Full case folding, character by character: two texts that differ only in case fold to the same
text.  A character may fold to several (`ß` folds to `ss`).
-/

namespace BindingAudit.Text

/-- Whether a code point belongs to a run of the folding table. -/
def CaseFold.Run.covers (r : CaseFold.Run) (n : Nat) : Bool :=
  r.first ≤ n && n ≤ r.last && (n - r.first) % r.step == 0

/-- The folding of one character. -/
def foldChar (c : Char) : List Char :=
  let n := c.toNat
  if n < 0x80 then [c.toLower]
  else
    match CaseFold.expansions.find? (fun e => e.1 == n) with
    | some (_, folded) => folded.map Char.ofNat
    | none =>
      match CaseFold.runs.find? (fun r => r.covers n) with
      | some r => [Char.ofNat ((n : Int) + r.offset).toNat]
      | none => [c]

/-- The folding of a text. -/
def foldCase (cs : List Char) : List Char :=
  cs.flatMap foldChar

end BindingAudit.Text
