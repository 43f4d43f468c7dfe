import BindingAudit.Position
import BindingAudit.Proofs.Text.Blank
import Mathlib.Algebra.Ring.Nat
import Mathlib.Data.List.GetD

/-!
# Positions in a text

The position of a finding is made from two searches: the line counts the line feeds in front of the
offset, and the column is how far the offset is from the last of them.  Here both are compared with
the lines the text falls into.

## Main results

- The two searches agree (`Text.exists_lines_append`): as many lines lie in front of the offset as
  there are line feeds, and the last line feed is where they end.
- A position stands for its offset (`Position.stands_ofOffset`), positions are in the order of the
  offsets (`Position.Stands.before`), and they do not look alike (`Position.shown_injective`).
- What is shown of an offset in a source identifies it (`Workspace.placeIn_identifies`).
-/

namespace BindingAudit

/-! ## Section 1: The lines of a text -/

namespace Text

variable {text front piece : List Char} {m n : Nat}

/-- The lines of a text: what stands between its line feeds. -/
def lines (text : List Char) : List (List Char) :=
  text.splitOn '\n'

/-- Where a line starts, the first line being number zero: behind the lines in front of it and the
line feed that ends each of them. -/
def lineOffset (text : List Char) (n : Nat) : Nat :=
  (((lines text).take n).map fun line => line.length + 1).sum

theorem lines_of_notMem (h : '\n' ∉ piece) : lines piece = [piece] :=
  List.splitOn_eq_singleton h

theorem lines_append_break (front rest : List Char) :
    lines (front ++ '\n' :: rest) = lines front ++ lines rest :=
  List.splitOn_append_cons_self front rest

/-- A beginning without line feed belongs to the first line. -/
theorem lines_append_of_notMem (h : '\n' ∉ piece) (rest : List Char) :
    ∃ tail others, lines (piece ++ rest) = (piece ++ tail) :: others := by
  by_cases hrest : '\n' ∈ rest
  · obtain ⟨tail, after, rfl, htail⟩ := List.eq_append_cons_of_mem hrest
    refine ⟨tail, lines after, ?_⟩
    rw [← List.append_assoc, lines_append_break, lines_of_notMem (by simp [h, htail])]
    rfl
  · exact ⟨rest, [], lines_of_notMem (by simp [h, hrest])⟩

/-- A text without line feed is one line; any other has a last line feed. -/
theorem notMem_or_exists_last_break (text : List Char) :
    '\n' ∉ text ∨ ∃ front piece, text = front ++ '\n' :: piece ∧ '\n' ∉ piece := by
  by_cases h : '\n' ∈ text
  · obtain ⟨piece, front, hsplit, hpiece⟩ := List.eq_append_cons_of_mem (List.mem_reverse.mpr h)
    refine Or.inr ⟨front.reverse, piece.reverse, ?_, by simpa using hpiece⟩
    rw [List.reverse_eq_iff] at hsplit
    simpa using hsplit
  · exact Or.inl h

/-- There is one line more than there are line feeds. -/
theorem length_lines (text : List Char) : (lines text).length = text.count '\n' + 1 := by
  induction text with
  | nil => rfl
  | cons c rest ih =>
    rw [lines, List.splitOn_cons_eq_if_modifyHead, List.count_cons]
    split
    · rw [List.length_cons, ← lines, ih]
    · rw [List.length_modifyHead, ← lines, ih]

/-- The lines with a line feed each are one character longer than the text, which has none behind
its last line. -/
theorem sum_lines (text : List Char) :
    ((lines text).map fun line => line.length + 1).sum = text.length + 1 := by
  induction text with
  | nil => rfl
  | cons c rest ih =>
    rw [lines, List.splitOn_cons_eq_if_modifyHead]
    split
    · rw [List.map_cons, List.sum_cons, ← lines, ih]
      simp only [List.length_nil, List.length_cons]
      omega
    · rw [← lines]
      cases hlines : lines rest with
      | nil => exact absurd hlines (List.splitOn_ne_nil _ _)
      | cons line others =>
        rw [hlines] at ih
        simp only [List.modifyHead_cons, List.map_cons, List.sum_cons, List.length_cons] at ih ⊢
        omega

example : lines "I(\n\n t.a)".toList = ["I(".toList, [], " t.a)".toList] := by decide +kernel

theorem bne_of_notMem {a : Char} {cs : List Char} (h : a ∉ cs) : ∀ c ∈ cs, (c != a) = true :=
  fun _ hc => bne_iff_ne.mpr fun heq => h (heq ▸ hc)

theorem lineStart_of_notMem (h : '\n' ∉ piece) : Position.lineStart piece = 0 := by
  rw [Position.lineStart, List.takeWhile_eq_self_iff.mpr, List.length_reverse, Nat.sub_self]
  exact bne_of_notMem (by rwa [List.mem_reverse])

theorem lineStart_append_break (h : '\n' ∉ piece) :
    Position.lineStart (front ++ '\n' :: piece) = front.length + 1 := by
  rw [Position.lineStart, List.reverse_append, List.reverse_cons, List.append_assoc,
    List.takeWhile_append_of_pos (bne_of_notMem (by rwa [List.mem_reverse]))]
  simp only [List.singleton_append, bne_self_eq_false, Bool.false_eq_true, not_false_eq_true,
    List.takeWhile_cons_of_neg, List.append_nil, List.length_append, List.length_cons,
    List.length_reverse]
  omega

/-- **The searches agree.**  In front of an offset as many lines end as there are line feeds, and
the line it is in starts behind the last of them. -/
theorem exists_lines_append (before after : List Char) :
    ∃ earlier piece tail others, lines (before ++ after) = earlier ++ (piece ++ tail) :: others ∧
      earlier.length = before.count '\n' ∧
      (earlier.map fun line => line.length + 1).sum = Position.lineStart before ∧
      Position.lineStart before + piece.length = before.length := by
  obtain hbefore | ⟨front, piece, rfl, hpiece⟩ := notMem_or_exists_last_break before
  · obtain ⟨tail, others, hlines⟩ := lines_append_of_notMem hbefore after
    refine ⟨[], before, tail, others, hlines, ?_, ?_, ?_⟩
    · rw [List.count_eq_zero.mpr hbefore, List.length_nil]
    · rw [lineStart_of_notMem hbefore, List.map_nil, List.sum_nil]
    · rw [lineStart_of_notMem hbefore, Nat.zero_add]
  · obtain ⟨tail, others, hlines⟩ := lines_append_of_notMem hpiece after
    refine ⟨lines front, piece, tail, others, ?_, ?_, ?_, ?_⟩
    · rw [List.append_assoc, List.cons_append, lines_append_break, hlines]
    · rw [length_lines, List.count_append, List.count_cons_self, List.count_eq_zero.mpr hpiece]
    · rw [sum_lines, lineStart_append_break hpiece]
    · rw [lineStart_append_break hpiece, List.length_append, List.length_cons]
      omega

theorem lineOffset_succ (h : n < (lines text).length) :
    lineOffset text (n + 1) = lineOffset text n + ((lines text).getD n []).length + 1 := by
  rw [lineOffset, List.take_succ_eq_append_getElem h, List.map_append, List.sum_append,
    ← lineOffset, List.getD_eq_getElem _ _ h, List.map_singleton, List.sum_singleton, Nat.add_assoc]

theorem lineOffset_mono (h : m ≤ n) : lineOffset text m ≤ lineOffset text n := by
  obtain ⟨k, rfl⟩ := Nat.exists_eq_add_of_le h
  rw [lineOffset, lineOffset, List.take_add, List.map_append, List.sum_append]
  exact Nat.le_add_right _ _

end Text

/-! ## Section 2: What positions stand for -/

namespace Position

variable {text : List Char} {offset offset' : Int} {p q : Position}

/-- A position stands for an offset: it is in a line of the text, or right behind one, and counted
from the start of the line it leads to the offset. -/
structure Stands (text : List Char) (offset : Int) (p : Position) : Prop where
  one_le_line : 1 ≤ p.line
  line_le : p.line ≤ (Text.lines text).length
  one_le_column : 1 ≤ p.column
  column_le : p.column ≤ ((Text.lines text).getD (p.line - 1) []).length + 1
  offset_eq : Text.lineOffset text (p.line - 1) + p.column - 1 = offset

/-- A position is in front of another: in an earlier line, or further left in the same one. -/
def Before (p q : Position) : Prop :=
  p.line < q.line ∨ p.line = q.line ∧ p.column < q.column

/-- **A position stands for its offset.** -/
theorem stands_ofOffset (h : 0 ≤ offset) (hle : offset ≤ text.length) :
    (ofOffset text offset).Stands text offset := by
  obtain ⟨n, rfl⟩ := Int.eq_ofNat_of_zero_le h
  have hn : n ≤ text.length := Int.ofNat_le.mp hle
  have hlength : (text.take n).length = n := List.length_take_of_le hn
  obtain ⟨earlier, piece, tail, others, hlines, hcount, hsum, hpiece⟩ :=
    Text.exists_lines_append (text.take n) (text.drop n)
  rw [List.take_append_drop] at hlines
  rw [hlength] at hpiece
  have hline : (Text.lines text).getD earlier.length [] = piece ++ tail := by
    rw [hlines, List.getD_append_right _ _ _ _ (Nat.le_refl _), Nat.sub_self, List.getD_cons_zero]
  have hstart : Text.lineOffset text earlier.length = lineStart (text.take n) := by
    rw [Text.lineOffset, hlines, List.take_left, hsum]
  have hposition : ofOffset text n = ⟨earlier.length + 1, piece.length + 1⟩ := by
    rw [ofOffset, Text.boundary_of_le h (by omega), Int.toNat_natCast, ← hcount]
    congr 1
    omega
  rw [hposition]
  constructor
  · exact Nat.le_add_left _ _
  · simp only [hlines, List.length_append, List.length_cons]
    omega
  · simp only
    omega
  · simp only [Nat.add_sub_cancel, hline, List.length_append]
    omega
  · simp only [Nat.add_sub_cancel, hstart]
    omega

/-- **Positions are in the order of the offsets** they stand for. -/
theorem Stands.before (hp : p.Stands text offset) (hq : q.Stands text offset')
    (h : offset < offset') : p.Before q := by
  have hp' := hp.offset_eq
  have hq' := hq.offset_eq
  rcases Nat.lt_trichotomy p.line q.line with hlt | heq | hgt
  · exact Or.inl hlt
  · rw [heq] at hp'
    exact Or.inr ⟨heq, by omega⟩
  · -- a later line starts behind everything in the line of `q`
    have hfirst := hq.one_le_line
    have hlast := hq.line_le
    have hnext : Text.lineOffset text (q.line - 1 + 1) ≤ Text.lineOffset text (p.line - 1) :=
      Text.lineOffset_mono (by omega)
    rw [Text.lineOffset_succ (by omega)] at hnext
    have hwithin := hq.column_le
    have hpositive := hp.one_le_column
    omega

theorem Before.ne (h : p.Before q) : p ≠ q := by
  rintro rfl
  rcases h with h | ⟨-, h⟩
  · exact Nat.lt_irrefl _ h
  · exact Int.lt_irrefl _ h

theorem notMem_repr {c : Char} (hc : c.isDigit = false) (n : Nat) : c ∉ n.repr.toList := by
  rw [Nat.toList_repr]
  intro h
  rw [Nat.isDigit_of_mem_toDigits (by decide) (by decide) h] at hc
  cases hc

/-- A number is told by its digits. -/
theorem eq_of_repr_eq {m n : Nat} (h : m.repr = n.repr) : m = n := by
  have hdigits := congrArg String.toList h
  rw [Nat.toList_repr, Nat.toList_repr] at hdigits
  rw [← Nat.ofDigitChars_ten_toDigits (n := m), hdigits, Nat.ofDigitChars_ten_toDigits]

/-- An integer is told by its sign and digits. -/
theorem eq_of_intRepr_eq {m n : Int} (h : m.repr = n.repr) : m = n := by
  have hsign (m n : Nat) : m.repr ≠ "-" ++ (n + 1).repr := by
    intro h
    refine notMem_repr (c := '-') (by decide) m ?_
    rw [h, String.toList_append]
    exact List.mem_cons_self ..
  cases m with
  | ofNat m =>
    cases n with
    | ofNat n => exact congrArg Int.ofNat (eq_of_repr_eq h)
    | negSucc n => exact absurd h (hsign m n)
  | negSucc m =>
    cases n with
    | ofNat n => exact absurd h.symm (hsign n m)
    | negSucc n =>
      have hdigits := eq_of_repr_eq ((String.append_right_inj "-").mp h)
      exact congrArg Int.negSucc (Nat.succ.inj hdigits)

/-- What stands in front of the first colon is the line. -/
theorem takeWhile_shown (p : Position) :
    p.shown.toList.takeWhile (· != ':') = p.line.repr.toList := by
  rw [shown, String.toList_append, String.toList_append, List.append_assoc, Nat.toString_eq_repr,
    List.takeWhile_append_of_pos (Text.bne_of_notMem (notMem_repr (by decide) p.line))]
  simp

/-- **Positions do not look alike.** -/
theorem shown_injective : Function.Injective shown := by
  intro p q h
  have hline : p.line = q.line := by
    refine eq_of_repr_eq (String.toList_inj.mp ?_)
    rw [← takeWhile_shown, ← takeWhile_shown, h]
  have hcolumn : p.column = q.column := by
    rw [shown, shown, hline, String.append_right_inj, Int.toString_eq_repr,
      Int.toString_eq_repr] at h
    exact eq_of_intRepr_eq h
  cases p
  cases q
  simp only at hline hcolumn
  rw [hline, hcolumn]

end Position

/-! ## Section 3: What is shown of a source -/

namespace Workspace

variable {w : Workspace} {path text : String} {offset : Int}

/-- **What is shown identifies the offset.**  Inside a source that is not empty an offset is shown
as the line and the column that stand for it, and an offset behind it is shown by a later position
that looks different.  The exception is an offset with more digits than are shown, and no memory
holds a text that long. -/
theorem placeIn_identifies (h : w.readText path = .ok text) (hne : text ≠ "") (hlow : 0 ≤ offset)
    (hhigh : offset ≤ text.toList.length) :
    w.placeIn (some path) offset =
        (if exceedsDigits offset then .error (.digits .showing)
          else .ok (Position.ofOffset text.toList offset).shown) ∧
      (Position.ofOffset text.toList offset).Stands text.toList offset ∧
      ∀ offset', offset < offset' → offset' ≤ text.toList.length →
        (Position.ofOffset text.toList offset).Before (Position.ofOffset text.toList offset') ∧
          (Position.ofOffset text.toList offset).shown ≠
            (Position.ofOffset text.toList offset').shown := by
  have hnull : hasNull path = false := by
    by_contra hnull
    rw [readText, if_pos (by simpa using hnull)] at h
    cases h
  have hsource : w.sourceText? (some path) = some text.toList := by
    rw [sourceText?, Option.bind_some, h]
  have hshown : Position.placeShown (some text.toList) offset =
      (Position.ofOffset text.toList offset).shown := by
    have hnot : ¬ (text.toList = [] ∨ (text.toList.length : Int) < offset) :=
      not_or.mpr ⟨by rwa [String.toList_eq_nil_iff], by omega⟩
    simp only [Position.placeShown, Option.bind_some, Position.inText?, if_neg hnot]
  refine ⟨?_, Position.stands_ofOffset hlow hhigh, fun offset' hlt hle => ?_⟩
  · rw [placeIn, hsource, hshown]
    simp [hnull]
  · have hbefore := (Position.stands_ofOffset hlow hhigh).before
      (Position.stands_ofOffset (by omega) hle) hlt
    exact ⟨hbefore, fun heq => hbefore.ne (Position.shown_injective heq)⟩

/-- A source with an empty line. -/
def broken : Workspace where
  base := "/w"
  stored := [(["A.qml"], .file (Text.Utf8.encode "I(\n\n t.a)".toList))]

/-- The second of two line feeds is at the start of a line of its own, and what follows it is in the
next one. -/
theorem placeIn_broken :
    broken.readText "A.qml" = .ok "I(\n\n t.a)" ∧ "I(\n\n t.a)" ≠ "" ∧
      broken.placeIn (some "A.qml") 3 = .ok "2:1" ∧
      (⟨2, 1⟩ : Position).Stands "I(\n\n t.a)".toList 3 ∧
      (⟨2, 1⟩ : Position).Before ⟨3, 1⟩ := by
  have hread : broken.readText "A.qml" = .ok "I(\n\n t.a)" := by decide +kernel
  have hne : "I(\n\n t.a)" ≠ "" := by decide
  have hhigh : (4 : Int) ≤ "I(\n\n t.a)".toList.length := by decide
  have hthird : Position.ofOffset "I(\n\n t.a)".toList 3 = ⟨2, 1⟩ := by decide +kernel
  have hfourth : Position.ofOffset "I(\n\n t.a)".toList 4 = ⟨3, 1⟩ := by decide +kernel
  obtain ⟨hplace, hstands, hlater⟩ :=
    @placeIn_identifies broken "A.qml" _ 3 hread hne (by decide) (by omega)
  rw [if_neg (by decide +kernel), hthird] at hplace
  have hbefore := (hlater 4 (by decide) hhigh).1
  rw [hthird] at hstands hbefore
  rw [hfourth] at hbefore
  exact ⟨hread, hne, hplace.trans (by decide +kernel), hstands, hbefore⟩

end Workspace

end BindingAudit
