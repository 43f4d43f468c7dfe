import BindingAudit.Proofs.Edit.Order
import BindingAudit.Proofs.Text.Blank

/-!
# Edits as simultaneous substitution

The loop that applies edits changes the text while every span refers to the text before all
changes.  This module says what the outcome is without a loop, in two ways:

- **Rendering** (`render`): go through the edits from left to right, copy the original text
  between consecutive spans and put each edit's text in place of its span.
- **Cells** (`cell`): every offset of the original contributes the insertions made there, the
  text of the replacement that starts there, and its own character unless a replacement covers it.

Both are shown for edits that are `Separated`, that is, lie one behind the other: the loop is the
rendering (`foldr_substitute`), and the rendering is the row of cells (`renderFrom_eq_cells`).
When a list of edits is separated is the subject of `Edit.Substitution`.
-/

namespace BindingAudit

namespace Edit

/-! ## Section 1: Rendering -/

/-- The position of the first character an edit replaces. -/
def start (e : Edit) : Nat := e.span.offset.toNat

/-- The position behind the last character an edit replaces. -/
def finish (e : Edit) : Nat := e.span.stop.toNat

/-- The text from a position on, with the text of each edit in place of its span. -/
def renderFrom (text : List Char) (k : Nat) : List Edit → List Char
  | [] => text.drop k
  | e :: rest => (text.take e.start).drop k ++ e.text.toList ++ renderFrom text e.finish rest

/-- A text with all edits made at once, written from left to right. -/
def render (text : List Char) (edits : List Edit) : List Char :=
  renderFrom text 0 (leftToRight edits)

/-- Edits lie one behind the other in a text of the given size, and none before a position. -/
def Separated (size : Nat) : Nat → List Edit → Prop
  | k, [] => k ≤ size
  | k, e :: rest =>
    (k : Int) ≤ e.span.offset ∧ e.span.offset ≤ e.span.stop ∧ Separated size e.finish rest

theorem Separated.le_size {size k : Nat} {edits : List Edit} (h : Separated size k edits) :
    k ≤ size := by
  induction edits generalizing k with
  | nil => exact h
  | cons e rest ih =>
    obtain ⟨hk, hle, hrest⟩ := h
    have hfinish : e.finish ≤ size := ih hrest
    unfold finish at hfinish
    omega

theorem Separated.le_offset {size k : Nat} {edits : List Edit} (h : Separated size k edits) :
    ∀ e ∈ edits, (k : Int) ≤ e.span.offset := by
  induction edits generalizing k with
  | nil => intro e he; cases he
  | cons e rest ih =>
    obtain ⟨hk, hle, hrest⟩ := h
    intro f hf
    rcases List.mem_cons.mp hf with rfl | hf
    · exact hk
    · have hfinish : (e.finish : Int) ≤ f.span.offset := ih hrest f hf
      unfold finish at hfinish
      omega

/-- **The loop is the rendering**: making separated edits from the last to the first leaves the
text before the lowest position alone and renders the rest. -/
theorem foldr_substitute {text : List Char} {k : Nat} {edits : List Edit}
    (h : Separated text.length k edits) :
    edits.foldr (fun e acc => substitute acc e) text = text.take k ++ renderFrom text k edits := by
  induction edits generalizing k with
  | nil => simp [renderFrom]
  | cons e rest ih =>
    obtain ⟨hk, hle, hrest⟩ := h
    have hsize : e.finish ≤ text.length := hrest.le_size
    have hstart : e.start ≤ e.finish := by
      unfold start finish
      omega
    have hks : k ≤ e.start := by
      unfold start
      omega
    -- what has been made so far still begins with the original up to the end of this edit
    have hlen : (text.take e.finish).length = e.finish := by
      rw [List.length_take, Nat.min_eq_left hsize]
    have htail : e.finish ≤ (text.take e.finish ++ renderFrom text e.finish rest).length := by
      rw [List.length_append, hlen]
      omega
    have hlo : Text.boundary (text.take e.finish ++ renderFrom text e.finish rest).length
        e.span.offset = e.start :=
      Text.boundary_of_le (by omega) (le_trans hstart htail)
    have hhi : Text.boundary (text.take e.finish ++ renderFrom text e.finish rest).length
        e.span.stop = e.finish :=
      Text.boundary_of_le (by omega) htail
    rw [List.foldr_cons, ih hrest, substitute, hlo, hhi, renderFrom]
    have htake : (text.take e.finish ++ renderFrom text e.finish rest).take e.start =
        text.take k ++ (text.take e.start).drop k := by
      rw [List.take_append_of_le_length (by omega), List.take_take, Nat.min_eq_left hstart]
      conv_lhs => rw [← List.take_append_drop k (text.take e.start)]
      rw [List.take_take, Nat.min_eq_left hks]
    have hdrop : (text.take e.finish ++ renderFrom text e.finish rest).drop e.finish =
        renderFrom text e.finish rest := by
      rw [List.drop_append_of_le_length (by omega), List.drop_eq_nil_of_le (by omega),
        List.nil_append]
    rw [htake, hdrop]
    simp only [List.append_assoc]

/-! ## Section 2: Cells -/

/-- Whether an edit inserts at an offset. -/
def insertsAt (k : Nat) (e : Edit) : Bool :=
  e.kind == .insertion && e.span.offset == (k : Int)

/-- Whether an edit replaces a span that starts at an offset. -/
def replacesAt (k : Nat) (e : Edit) : Bool :=
  e.kind == .replacement && e.span.offset == (k : Int)

/-- Whether an edit replaces the character at an offset. -/
def covers (k : Nat) (e : Edit) : Bool :=
  e.kind == .replacement && e.span.offset ≤ (k : Int) && (k : Int) < e.span.stop

/-- What an offset of a text contributes to the text with all edits made: the insertions at the
offset in their order, the replacement that starts there, and the character itself unless it is
replaced. -/
def cell (text : List Char) (edits : List Edit) (k : Nat) : List Char :=
  (edits.filter (insertsAt k)).flatMap (·.text.toList) ++
    ((edits.filter (replacesAt k)).flatMap (·.text.toList) ++
      if edits.any (covers k) then [] else text[k]?.toList)

/-- The characters between two positions, one by one. -/
theorem drop_take_eq_flatMap (text : List Char) (k m : Nat) :
    (text.take m).drop k = (List.range' k (m - k)).flatMap fun j => text[j]?.toList := by
  rw [List.drop_take]
  generalize m - k = d
  induction d generalizing k with
  | zero => simp
  | succ d ih =>
    rw [List.range'_succ, List.flatMap_cons, ← ih (k + 1)]
    by_cases hk : k < text.length
    · rw [List.drop_eq_getElem_cons hk, List.take_succ_cons, List.getElem?_eq_getElem hk]
      rfl
    · rw [List.drop_eq_nil_of_le (by omega), List.drop_eq_nil_of_le (by omega),
        List.getElem?_eq_none (by omega)]
      simp

theorem range'_split {a b c : Nat} (hab : a ≤ b) (hbc : b ≤ c) :
    List.range' a (c - a) = List.range' a (b - a) ++ List.range' b (c - b) := by
  have hb : List.range' b (c - b) = List.range' (a + 1 * (b - a)) (c - b) := by
    congr 1
    omega
  rw [hb, List.range'_append]
  congr 1
  omega

/-- Before all edits a cell is the character itself. -/
private theorem cell_of_lt {text : List Char} {edits : List Edit} {j : Nat}
    (h : ∀ e ∈ edits, (j : Int) < e.span.offset) : cell text edits j = text[j]?.toList := by
  have hins : edits.filter (insertsAt j) = [] := by
    refine List.filter_eq_nil_iff.mpr fun e he => ?_
    have := h e he
    simp only [insertsAt, Bool.and_eq_true, beq_iff_eq]
    omega
  have hrep : edits.filter (replacesAt j) = [] := by
    refine List.filter_eq_nil_iff.mpr fun e he => ?_
    have := h e he
    simp only [replacesAt, Bool.and_eq_true, beq_iff_eq]
    omega
  have hcov : edits.any (covers j) = false := by
    refine List.any_eq_false.mpr fun e he => ?_
    have := h e he
    simp only [covers, Bool.and_eq_true, decide_eq_true_eq]
    omega
  simp [cell, hins, hrep, hcov]

/-- Behind an edit a cell does not see it. -/
private theorem cell_cons_of_le {text : List Char} {e : Edit} {rest : List Edit} {j : Nat}
    (hoff : e.span.offset < (j : Int)) (hstop : e.span.stop ≤ (j : Int)) :
    cell text (e :: rest) j = cell text rest j := by
  have hins : insertsAt j e = false := by
    simp only [insertsAt, Bool.and_eq_false_iff, beq_eq_false_iff_ne]
    right
    omega
  have hrep : replacesAt j e = false := by
    simp only [replacesAt, Bool.and_eq_false_iff, beq_eq_false_iff_ne]
    right
    omega
  have hcov : covers j e = false := by
    simp only [covers, Bool.and_eq_false_iff, decide_eq_false_iff_not]
    right
    omega
  simp [cell, hins, hrep, hcov]

/-- The cells of the characters a replacement covers hold its text, once. -/
private theorem cells_of_replacement {text : List Char} {e : Edit} {rest : List Edit}
    (hkind : e.kind = .replacement) (hnonneg : 0 ≤ e.span.offset)
    (hlt : e.span.offset < e.span.stop)
    (hrest : ∀ f ∈ rest, e.span.stop ≤ f.span.offset) :
    (List.range' e.start (e.finish - e.start)).flatMap (cell text (e :: rest)) =
      e.text.toList := by
  have hlen : e.finish - e.start = (e.finish - e.start - 1) + 1 := by
    unfold start finish
    omega
  have hcov : ∀ j : Nat, e.start ≤ j → j < e.finish → covers j e = true := by
    intro j hj hj'
    unfold start finish at *
    simp only [covers, hkind, beq_self_eq_true, Bool.true_and, Bool.and_eq_true,
      decide_eq_true_eq]
    omega
  -- nothing behind the replacement starts inside it
  have hnone : ∀ j : Nat, j < e.finish → rest.filter (insertsAt j) = [] ∧
      rest.filter (replacesAt j) = [] := by
    intro j hj
    constructor <;> refine List.filter_eq_nil_iff.mpr fun f hf => ?_ <;>
      have := hrest f hf <;> unfold finish at hj <;>
      simp only [insertsAt, replacesAt, Bool.and_eq_true, beq_iff_eq] <;> omega
  have hfirst : cell text (e :: rest) e.start = e.text.toList := by
    obtain ⟨hins, hrep⟩ := hnone e.start (by omega)
    have hat : replacesAt e.start e = true := by
      simp only [replacesAt, hkind, beq_self_eq_true, Bool.true_and, beq_iff_eq]
      unfold start
      omega
    have hnot : insertsAt e.start e = false := by
      simp [insertsAt, hkind]
    simp [cell, hins, hrep, hat, hnot, hcov e.start (le_refl _) (by omega)]
  have hlater : (List.range' (e.start + 1) (e.finish - e.start - 1)).flatMap
      (cell text (e :: rest)) = [] := by
    refine List.flatMap_eq_nil_iff.mpr fun j hj => ?_
    rw [List.mem_range'_1] at hj
    obtain ⟨hins, hrep⟩ := hnone j (by omega)
    have hnot : insertsAt j e = false ∧ replacesAt j e = false := by
      unfold start at hj
      simp only [insertsAt, replacesAt, Bool.and_eq_false_iff, beq_eq_false_iff_ne]
      constructor <;> right <;> omega
    simp [cell, hins, hrep, hnot, hcov j (by omega) (by omega)]
  rw [hlen, List.range'_succ, List.flatMap_cons, hfirst, hlater, List.append_nil]

/-- An insertion adds its text in front of the cell at its offset. -/
private theorem cell_of_insertion {text : List Char} {e : Edit} {rest : List Edit}
    (hkind : e.kind = .insertion) (hnonneg : 0 ≤ e.span.offset) :
    cell text (e :: rest) e.start = e.text.toList ++ cell text rest e.start := by
  have hat : insertsAt e.start e = true := by
    simp only [insertsAt, hkind, beq_self_eq_true, Bool.true_and, beq_iff_eq]
    unfold start
    omega
  simp [cell, hat, replacesAt, covers, hkind]

/-- Insertions have an empty span and replacements do not. -/
def Proper (e : Edit) : Prop :=
  match e.kind with
  | .insertion => e.span.stop = e.span.offset
  | .replacement => e.span.offset < e.span.stop

theorem Proper.of_insertion {e : Edit} (h : e.Proper) (hk : e.kind = .insertion) :
    e.span.stop = e.span.offset := by
  simpa [Proper, hk] using h

theorem Proper.of_replacement {e : Edit} (h : e.Proper) (hk : e.kind = .replacement) :
    e.span.offset < e.span.stop := by
  simpa [Proper, hk] using h

/-- In front of the first edit the cells hold the original. -/
private theorem cells_in_front {text : List Char} {e : Edit} {rest : List Edit} (k : Nat)
    (hspan : e.span.offset ≤ e.span.stop) (hbehind : ∀ f ∈ rest, e.span.stop ≤ f.span.offset) :
    (List.range' k (e.start - k)).flatMap (cell text (e :: rest)) =
      (text.take e.start).drop k := by
  rw [drop_take_eq_flatMap]
  refine List.flatMap_congr fun j hj => cell_of_lt fun f hf => ?_
  rw [List.mem_range'_1] at hj
  unfold start at hj
  rcases List.mem_cons.mp hf with rfl | hf
  · omega
  · have := hbehind f hf
    omega

/-- From the first edit on the cells hold its text, and then what the other edits make of the
rest. -/
private theorem cells_from_edit {text : List Char} {e : Edit} {rest : List Edit} (hp : e.Proper)
    (hnonneg : 0 ≤ e.span.offset) (hsize : e.finish ≤ text.length)
    (hbehind : ∀ f ∈ rest, e.span.stop ≤ f.span.offset) :
    (List.range' e.start (text.length + 1 - e.start)).flatMap (cell text (e :: rest)) =
      e.text.toList ++ (List.range' e.finish (text.length + 1 - e.finish)).flatMap
        (cell text rest) := by
  cases hkind : e.kind with
  | insertion =>
    -- the cell at the insertion is split into its text and the cell of the other edits
    have hstop := hp.of_insertion hkind
    have hsame : e.finish = e.start := by
      unfold start finish
      omega
    have hlen : text.length + 1 - e.start = (text.length - e.start) + 1 := by omega
    rw [hsame, hlen, List.range'_succ, List.flatMap_cons, List.flatMap_cons,
      cell_of_insertion hkind hnonneg, List.append_assoc]
    congr 2
    refine List.flatMap_congr fun j hj => cell_cons_of_le ?_ ?_ <;>
      rw [List.mem_range'_1] at hj <;> unfold start at hj <;> omega
  | replacement =>
    -- the covered cells hold the text, and the cells behind do not see the replacement
    have hlt := hp.of_replacement hkind
    have hse : e.start ≤ e.finish := by
      unfold start finish
      omega
    rw [range'_split hse (by omega), List.flatMap_append,
      cells_of_replacement hkind hnonneg hlt hbehind]
    congr 1
    refine List.flatMap_congr fun j hj => cell_cons_of_le ?_ ?_ <;>
      rw [List.mem_range'_1] at hj <;> unfold finish at hj <;> omega

/-- **The rendering is the row of cells**, from any position in front of the edits. -/
theorem renderFrom_eq_cells {text : List Char} {k : Nat} {edits : List Edit}
    (h : Separated text.length k edits) (hproper : ∀ e ∈ edits, e.Proper) :
    renderFrom text k edits =
      (List.range' k (text.length + 1 - k)).flatMap (cell text edits) := by
  induction edits generalizing k with
  | nil =>
    have hcell : cell text [] = fun j => text[j]?.toList := by
      funext j
      simp [cell]
    rw [renderFrom, hcell, ← drop_take_eq_flatMap, List.take_of_length_le (by omega)]
  | cons e rest ih =>
    -- the cells fall into those in front of the edit, and those from it on
    obtain ⟨hk, hspan, hrest⟩ := h
    have hsize : e.finish ≤ text.length := hrest.le_size
    have hbehind : ∀ f ∈ rest, e.span.stop ≤ f.span.offset := by
      intro f hf
      have := hrest.le_offset f hf
      unfold finish at this
      omega
    have hks : k ≤ e.start := by
      unfold start
      omega
    have hss : e.start ≤ text.length + 1 := by
      unfold start
      unfold finish at hsize
      omega
    rw [renderFrom, range'_split hks hss, List.flatMap_append, cells_in_front k hspan hbehind,
      cells_from_edit (hproper e (List.mem_cons_self ..)) (by omega) hsize hbehind,
      ih hrest fun f hf => hproper f (List.mem_cons_of_mem _ hf), List.append_assoc]

end Edit

end BindingAudit
