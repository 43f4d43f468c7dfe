import BindingAudit.Proofs.Edit.Rendering
import BindingAudit.Proofs.Text.Blank

/-!
# When edits can be made together

`Applicable` lists what the checks on edits ask for, one field per check, and
`firstFault?_eq_none_iff` says that passing the checks is exactly that.  The edits that are
produced at all have one of two shapes (`Shaped`); for them the checks leave no two edits in each
other's way, although each check looks at one kind of conflict only.

Main statement: applying edits is simultaneous substitution.
-/

namespace BindingAudit

namespace Edit

/-! ## Section 1: What the checks establish -/

/-- The edits of a list can be made together: each lies in the text and finds what it expects, no
two replacements compete, and no insertion falls inside a replaced span. -/
structure Applicable (text : List Char) (edits : List Edit) : Prop where
  inside : ∀ e ∈ edits, 0 ≤ e.span.offset ∧ e.span.stop ≤ (text.length : Int)
  fitting : ∀ e ∈ edits, fits text e = true
  apart : (replacements edits).Pairwise fun e f => competes e f = false
  clear : ∀ i ∈ insertions edits, ∀ r ∈ replacements edits,
    r.span.enclosesPoint i.span.offset = false

theorem fault?_eq_none_iff {text : List Char} {e : Edit} :
    fault? text e = none ↔
      (0 ≤ e.span.offset ∧ e.span.stop ≤ (text.length : Int)) ∧ fits text e = true := by
  unfold fault?
  split
  · next h => simp only [reduceCtorEq, false_iff]; omega
  · next h =>
    split
    · next hfits => simp only [hfits, and_true, true_iff]; omega
    · next hfits => simp [hfits]

theorem overlap?_eq_none_iff {edits : List Edit} :
    overlap? edits = none ↔ edits.Pairwise fun e f => competes e f = false := by
  induction edits with
  | nil => simp [overlap?]
  | cons e rest ih =>
    rw [List.pairwise_cons, ← ih, overlap?]
    cases hfind : rest.find? (competes e) with
    | none =>
      have hnone : ∀ f ∈ rest, competes e f = false := by
        simpa using hfind
      exact ⟨fun h => ⟨hnone, h⟩, fun h => h.2⟩
    | some f =>
      have hf := List.find?_some hfind
      have hmem := List.mem_of_find?_eq_some hfind
      simp only [reduceCtorEq, false_iff, not_and]
      intro hall
      rw [hall f hmem] at hf
      cases hf

theorem insideReplaced?_eq_none_iff {edits : List Edit} :
    insideReplaced? edits = none ↔ ∀ i ∈ insertions edits, ∀ r ∈ replacements edits,
      r.span.enclosesPoint i.span.offset = false := by
  simp [insideReplaced?]

/-- **The checks are exact**: no fault is found in a list of edits if and only if they can be made
together. -/
theorem firstFault?_eq_none_iff {text : List Char} {edits : List Edit} :
    firstFault? text edits = none ↔ Applicable text edits := by
  unfold firstFault?
  simp only [Option.or_eq_none_iff, List.findSome?_eq_none_iff, fault?_eq_none_iff,
    overlap?_eq_none_iff, insideReplaced?_eq_none_iff]
  constructor
  · rintro ⟨heach, hapart, hclear⟩
    exact ⟨fun e he => (heach e he).1, fun e he => (heach e he).2, hapart, hclear⟩
  · intro h
    exact ⟨fun e he => ⟨h.inside e he, h.fitting e he⟩, h.apart, h.clear⟩

/-! ## Section 2: The shapes of edits -/

/-- The shape of the edits that are produced: an insertion has an empty span; a replacement has a
span that is not negative and either holds a character or expects one that is not blank. -/
def Shaped (e : Edit) : Prop :=
  match e.kind with
  | .insertion => e.span.length = 0
  | .replacement => 0 ≤ e.span.offset ∧ 0 ≤ e.span.length ∧
      (0 < e.span.length ∨ ∃ x, e.expected = some x ∧ ∃ c ∈ x.toList, Text.isBlank c = false)

/-- An empty span reads as nothing, so a replacement that finds what it expects is not empty. -/
theorem Shaped.proper {text : List Char} {e : Edit} (h : e.Shaped) (hfits : fits text e = true) :
    e.Proper := by
  unfold Shaped at h
  unfold Proper
  cases hk : e.kind with
  | insertion =>
    simp only [hk] at h
    simp [Span.stop, h]
  | replacement =>
    simp only [hk] at h
    obtain ⟨-, hlen, hpos | ⟨x, hx, c, hc, hblank⟩⟩ := h
    · simp only [Span.stop]
      omega
    · simp only [Span.stop]
      by_contra hempty
      have hzero : e.span.stop = e.span.offset := by
        unfold Span.stop
        omega
      unfold fits at hfits
      simp only [hx, hzero, Text.slice_self, beq_iff_eq] at hfits
      -- the expected text would have to be blank
      have hall := (Text.trim_eq_nil_iff x.toList).mp hfits.symm c hc
      rw [hblank] at hall
      cases hall

/-- Two edits do not get in each other's way: one ends where or before the other starts. -/
def Clear (e f : Edit) : Prop :=
  e.span.stop ≤ f.span.offset ∨ f.span.stop ≤ e.span.offset

theorem clear_of_competes {e f : Edit} (h : competes e f = false) : Clear e f := by
  simp only [competes, Span.overlaps, Bool.or_eq_false_iff, Bool.and_eq_false_iff,
    decide_eq_false_iff_not] at h
  unfold Clear
  omega

/-- Edits that pass the checks are clear of each other. -/
theorem clear_of_applicable {text : List Char} {edits : List Edit}
    (h : Applicable text edits) (hproper : ∀ e ∈ edits, e.Proper) : edits.Pairwise Clear := by
  have hapart := h.apart
  unfold replacements at hapart
  rw [List.pairwise_filter] at hapart
  refine hapart.imp_of_mem ?_
  intro e f he hf hcompete
  -- an insertion is a point, and a point outside a span is on one side of it
  have hinsertion : ∀ i ∈ edits, ∀ r ∈ edits, i.kind = .insertion → r.kind = .replacement →
      Clear i r := by
    intro i hi r hr hik hrk
    have hout := h.clear i (List.mem_filter.mpr ⟨hi, by simp [hik]⟩) r
      (List.mem_filter.mpr ⟨hr, by simp [hrk]⟩)
    have hstop := (hproper i hi).of_insertion hik
    simp only [Span.enclosesPoint, Bool.and_eq_false_iff, decide_eq_false_iff_not] at hout
    unfold Clear
    omega
  cases hek : e.kind with
  | insertion =>
    cases hfk : f.kind with
    | insertion =>
      have hes := (hproper e he).of_insertion hek
      have hfs := (hproper f hf).of_insertion hfk
      unfold Clear
      omega
    | replacement => exact hinsertion e he f hf hek hfk
  | replacement =>
    cases hfk : f.kind with
    | insertion => exact (hinsertion f hf e he hfk hek).symm
    | replacement => exact clear_of_competes (hcompete (by simp [hek]) (by simp [hfk]))

private theorem separated_of_pairwise {size k : Nat} {edits : List Edit} (hk : k ≤ size)
    (hinside : ∀ e ∈ edits, (k : Int) ≤ e.span.offset ∧ e.span.offset ≤ e.span.stop ∧
      e.span.stop ≤ (size : Int))
    (hbehind : edits.Pairwise fun e f => e.span.stop ≤ f.span.offset) :
    Separated size k edits := by
  induction edits generalizing k with
  | nil => exact hk
  | cons e rest ih =>
    obtain ⟨hke, hle, hsize⟩ := hinside e (List.mem_cons_self ..)
    obtain ⟨hfirst, hrest⟩ := List.pairwise_cons.mp hbehind
    refine ⟨hke, hle, ih ?_ ?_ hrest⟩
    · unfold finish
      omega
    · intro f hf
      obtain ⟨-, hfle, hfsize⟩ := hinside f (List.mem_cons_of_mem _ hf)
      have := hfirst f hf
      refine ⟨?_, hfle, hfsize⟩
      unfold finish
      omega

theorem Proper.offset_le_stop {e : Edit} (h : e.Proper) : e.span.offset ≤ e.span.stop := by
  cases hk : e.kind with
  | insertion => exact (h.of_insertion hk).ge
  | replacement => exact (h.of_replacement hk).le

/-- Edits of a text that are clear of each other lie one behind the other in the reader's order. -/
theorem separated_of_clear {size : Nat} {edits : List Edit}
    (hinside : ∀ e ∈ edits, 0 ≤ e.span.offset ∧ e.span.stop ≤ (size : Int))
    (hproper : ∀ e ∈ edits, e.Proper) (h : edits.Pairwise Clear) :
    Separated size 0 (leftToRight edits) := by
  -- being clear of each other does not depend on the order
  have hclear : (leftToRight edits).Pairwise Clear :=
    ((leftToRight_perm edits).pairwise_iff fun hef => hef.symm).mpr h
  apply separated_of_pairwise (Nat.zero_le _)
  · intro e he
    have he' := mem_leftToRight.mp he
    have hin := hinside e he'
    exact ⟨by simpa using hin.1, (hproper e he').offset_le_stop, hin.2⟩
  · refine (hclear.and (leftToRight_pairwise edits)).imp_of_mem ?_
    rintro e f he hf ⟨hef | hfe, hlead⟩
    · exact hef
    · -- both are at one offset and `f` is empty, so `e` is an insertion like `f`
      have hep := hproper e (mem_leftToRight.mp he)
      have hfp := hproper f (mem_leftToRight.mp hf)
      have hfle := hfp.offset_le_stop
      rcases hlead with hlt | ⟨heq, hek | hfk⟩
      · omega
      · have := hep.of_insertion hek
        omega
      · have := hfp.of_replacement hfk
        omega

/-- Edits that pass the checks lie one behind the other in the reader's order. -/
theorem separated_leftToRight {text : List Char} {edits : List Edit}
    (h : Applicable text edits) (hproper : ∀ e ∈ edits, e.Proper) :
    Separated text.length 0 (leftToRight edits) :=
  separated_of_clear h.inside hproper (clear_of_applicable h hproper)

/-! ## Section 3: Applying edits is simultaneous substitution -/

/-- The cells of a text do not depend on how its edits are arranged for the reader. -/
theorem cell_leftToRight (text : List Char) (edits : List Edit) :
    cell text (leftToRight edits) = cell text edits := by
  funext k
  -- insertions at one offset lead each other, and so do replacements: stability applies
  have hins : (leftToRight edits).filter (insertsAt k) = edits.filter (insertsAt k) := by
    apply filter_leftToRight
    intro e f he hf
    simp only [insertsAt, Bool.and_eq_true, beq_iff_eq] at he hf
    exact Or.inr ⟨he.2.trans hf.2.symm, Or.inl he.1⟩
  have hrep : (leftToRight edits).filter (replacesAt k) = edits.filter (replacesAt k) := by
    apply filter_leftToRight
    intro e f he hf
    simp only [replacesAt, Bool.and_eq_true, beq_iff_eq] at he hf
    exact Or.inr ⟨he.2.trans hf.2.symm, Or.inr hf.1⟩
  have hcov : (leftToRight edits).any (covers k) = edits.any (covers k) := by
    rw [Bool.eq_iff_iff]
    simp only [List.any_eq_true, mem_leftToRight]
  rw [cell, cell, hins, hrep, hcov]

/-- Applying edits to characters succeeds only if they are applicable, and then makes them in
order. -/
theorem applyToChars_eq_ok_iff {text : List Char} {edits : List Edit} {result : List Char} :
    applyToChars text edits = .ok result ↔
      Applicable text edits ∧ result = (inOrder edits).foldl substitute text := by
  unfold applyToChars
  rw [← firstFault?_eq_none_iff]
  cases firstFault? text edits with
  | none => simp [eq_comm]
  | some fault => simp

/-- The outcome for applicable edits with proper spans, both as a rendering and as cells. -/
theorem foldl_inOrder {text : List Char} {edits : List Edit}
    (h : Applicable text edits) (hproper : ∀ e ∈ edits, e.Proper) :
    (inOrder edits).foldl substitute text = render text edits ∧
      render text edits = (List.range (text.length + 1)).flatMap (cell text edits) := by
  have hsep := separated_leftToRight h hproper
  constructor
  · rw [inOrder_eq_reverse_leftToRight, List.foldl_reverse, foldr_substitute hsep, List.take_zero,
      List.nil_append, render]
  · rw [render, renderFrom_eq_cells hsep fun e he => hproper e (mem_leftToRight.mp he),
      cell_leftToRight, Nat.sub_zero, List.range_eq_range']

theorem apply_eq_ok_iff {text : String} {edits : List Edit} {result : String} :
    apply text edits = .ok result ↔ applyToChars text.toList edits = .ok result.toList := by
  unfold apply
  cases applyToChars text.toList edits with
  | error fault => simp
  | ok chars =>
    simp only [Except.map_ok, Except.ok.injEq]
    constructor
    · rintro rfl
      simp
    · intro h
      rw [h, String.ofList_toList]

theorem apply_eq_error_iff {text : String} {edits : List Edit} {fault : EditError} :
    apply text edits = .error fault ↔ firstFault? text.toList edits = some fault := by
  unfold apply applyToChars
  cases firstFault? text.toList edits with
  | none => simp
  | some found => simp

theorem exists_error_iff {text : String} {edits : List Edit} :
    (∃ fault, apply text edits = .error fault) ↔ ¬ Applicable text.toList edits := by
  simp only [apply_eq_error_iff, ← firstFault?_eq_none_iff, ← Option.isSome_iff_exists,
    Option.not_isSome_iff_eq_none.symm, not_not]

/-- **Applying edits is simultaneous substitution**: if shaped edits are applied, the outcome is
the text with the edits in the reader's order in place of their spans.  Every edit lies in the
text, so each edit's text stands whole in the cell of its offset, and each original character that
no replacement covers stands in its own cell and nowhere else. -/
theorem apply_eq_render {text result : String} {edits : List Edit}
    (hshape : ∀ e ∈ edits, e.Shaped) (h : apply text edits = .ok result) :
    result.toList = render text.toList edits ∧
      result.toList =
        (List.range (text.toList.length + 1)).flatMap (cell text.toList edits) ∧
      ∀ e ∈ edits, 0 ≤ e.span.offset ∧ e.span.stop ≤ (text.toList.length : Int) := by
  obtain ⟨happ, hresult⟩ := applyToChars_eq_ok_iff.mp (apply_eq_ok_iff.mp h)
  have hproper : ∀ e ∈ edits, e.Proper := fun e he => (hshape e he).proper (happ.fitting e he)
  obtain ⟨hrender, hcells⟩ := foldl_inOrder happ hproper
  rw [hresult, hrender]
  exact ⟨rfl, hcells, happ.inside⟩

/-- Two replacements that touch, with insertions in front of each of them. -/
theorem apply_touching_edits :
    (∀ e ∈ [replacement ⟨2, 2⟩ "XY" (some " cd"), insertion 2 "1", replacement ⟨4, 1⟩ "" none,
        insertion 4 "3", insertion 2 "2"], e.Shaped) ∧
      "ab12XY3f".toList = render "abcdef".toList
        [replacement ⟨2, 2⟩ "XY" (some " cd"), insertion 2 "1", replacement ⟨4, 1⟩ "" none,
          insertion 4 "3", insertion 2 "2"] := by
  have hshape : ∀ e ∈ [replacement ⟨2, 2⟩ "XY" (some " cd"), insertion 2 "1",
      replacement ⟨4, 1⟩ "" none, insertion 4 "3", insertion 2 "2"], e.Shaped := by
    simp [Shaped, replacement, insertion]
  have happly : apply "abcdef" [replacement ⟨2, 2⟩ "XY" (some " cd"), insertion 2 "1",
      replacement ⟨4, 1⟩ "" none, insertion 4 "3", insertion 2 "2"] = .ok "ab12XY3f" := by
    decide +kernel
  exact ⟨hshape, (apply_eq_render hshape happly).1⟩

end Edit

end BindingAudit
