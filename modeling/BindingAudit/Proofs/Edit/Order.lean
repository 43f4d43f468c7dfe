import BindingAudit.Edit.Apply
import Mathlib.Data.List.Sort

/-!
# The order of edits in a text

Edits are applied from the highest offset down.  A reader of the changed text meets them the other
way round: by offset, at one offset the insertions before a replacement, and insertions at one
offset as they stand in the list.

`leftToRight` arranges edits in the reader's order by a stable sort.  The main statement is that
the order of application is exactly its reverse (`inOrder_eq_reverse_leftToRight`); stability is
`filter_leftToRight_comm`, from which it follows that the edits at one offset keep their order.
-/

namespace BindingAudit

namespace Edit

/-! ## Section 1: The reader's order -/

/-- Whether an edit may stand in front of another when a text is read from left to right. -/
def Leads (e f : Edit) : Prop :=
  e.span.offset < f.span.offset ∨
    (e.span.offset = f.span.offset ∧ (e.kind = .insertion ∨ f.kind = .replacement))

instance : DecidableRel Leads := fun e f =>
  inferInstanceAs (Decidable (e.span.offset < f.span.offset ∨
    (e.span.offset = f.span.offset ∧ (e.kind = .insertion ∨ f.kind = .replacement))))

theorem leads_trans {e f g : Edit} (hef : Leads e f) (hfg : Leads f g) : Leads e g := by
  rcases hef with hef | ⟨hef, hef'⟩
  · rcases hfg with hfg | ⟨hfg, _⟩
    · exact Or.inl (lt_trans hef hfg)
    · exact Or.inl (hfg ▸ hef)
  · rcases hfg with hfg | ⟨hfg, hfg'⟩
    · exact Or.inl (hef ▸ hfg)
    · refine Or.inr ⟨hef.trans hfg, ?_⟩
      -- a replacement in the middle leaves only a replacement behind it
      rcases hfg' with hfg' | hfg'
      · left
        rcases hef' with hef' | hef'
        · exact hef'
        · rw [hfg'] at hef'
          cases hef'
      · exact Or.inr hfg'

theorem leads_total (e f : Edit) : Leads e f ∨ Leads f e := by
  rcases lt_trichotomy e.span.offset f.span.offset with h | h | h
  · exact Or.inl (Or.inl h)
  · cases hk : e.kind with
    | insertion => exact Or.inl (Or.inr ⟨h, Or.inl hk⟩)
    | replacement => exact Or.inr (Or.inr ⟨h.symm, Or.inr hk⟩)
  · exact Or.inr (Or.inl h)

instance : IsTrans Edit Leads := ⟨fun _ _ _ => leads_trans⟩

instance : Std.Total Leads := ⟨leads_total⟩

/-- Edits in the order in which a reader meets them: by offset, insertions before a replacement
at the same offset, and otherwise as they stand in the list. -/
def leftToRight (edits : List Edit) : List Edit :=
  edits.insertionSort Leads

theorem leftToRight_perm (edits : List Edit) : (leftToRight edits).Perm edits :=
  List.perm_insertionSort Leads edits

theorem leftToRight_pairwise (edits : List Edit) : (leftToRight edits).Pairwise Leads :=
  List.pairwise_insertionSort Leads edits

@[simp] theorem mem_leftToRight {e : Edit} {edits : List Edit} :
    e ∈ leftToRight edits ↔ e ∈ edits :=
  List.mem_insertionSort Leads

/-! ## Section 2: Stability -/

/-- Whatever leads the first of some edits in order leads all of them. -/
theorem leads_of_mem {e f : Edit} {rest : List Edit} (hsorted : (f :: rest).Pairwise Leads)
    (hef : Leads e f) : ∀ g ∈ f :: rest, Leads e g := by
  intro g hg
  rcases List.mem_cons.mp hg with rfl | hg
  · exact hef
  · exact leads_trans hef ((List.pairwise_cons.mp hsorted).1 g hg)

/-- Putting an edit in order and taking some edits out can be done in either order. -/
private theorem filter_orderedInsert {p : Edit → Bool} {e : Edit} {edits : List Edit}
    (hp : p e = true) (hsorted : edits.Pairwise Leads) :
    (edits.orderedInsert Leads e).filter p = (edits.filter p).orderedInsert Leads e := by
  induction edits with
  | nil => simp [hp]
  | cons f rest ih =>
    have hrest := (List.pairwise_cons.mp hsorted).2
    by_cases hef : Leads e f
    · -- `e` leads all that is behind `f`, so it goes in front of what is left
      rw [List.orderedInsert_cons_of_le Leads _ hef, List.filter_cons_of_pos hp]
      cases hleft : (f :: rest).filter p with
      | nil => rfl
      | cons g left =>
        have hg : g ∈ f :: rest := List.mem_of_mem_filter (hleft ▸ List.mem_cons_self ..)
        rw [List.orderedInsert_cons_of_le Leads _ (leads_of_mem hsorted hef g hg)]
    · rw [List.orderedInsert_of_not_le Leads rest hef]
      cases hpf : p f with
      | true =>
        rw [List.filter_cons_of_pos hpf, List.filter_cons_of_pos hpf, ih hrest,
          List.orderedInsert_of_not_le Leads _ hef]
      | false =>
        rw [List.filter_cons_of_neg (by simp [hpf]), List.filter_cons_of_neg (by simp [hpf]),
          ih hrest]

private theorem filter_orderedInsert_of_not {p : Edit → Bool} {e : Edit} (edits : List Edit)
    (hp : p e = false) : (edits.orderedInsert Leads e).filter p = edits.filter p := by
  induction edits with
  | nil => simp [hp]
  | cons f rest ih =>
    by_cases hef : Leads e f
    · rw [List.orderedInsert_cons_of_le Leads _ hef, List.filter_cons_of_neg (by simp [hp])]
    · rw [List.orderedInsert_of_not_le Leads rest hef, List.filter_cons, List.filter_cons, ih]

/-- **The reader's order is stable**: some of the edits have the order among all of them that they
have on their own. -/
theorem filter_leftToRight_comm (p : Edit → Bool) (edits : List Edit) :
    (leftToRight edits).filter p = leftToRight (edits.filter p) := by
  induction edits with
  | nil => rfl
  | cons e rest ih =>
    show ((leftToRight rest).orderedInsert Leads e).filter p = _
    cases hp : p e with
    | true =>
      rw [filter_orderedInsert hp (leftToRight_pairwise rest), ih, List.filter_cons_of_pos hp]
      rfl
    | false =>
      rw [filter_orderedInsert_of_not _ hp, ih, List.filter_cons_of_neg (by simp [hp])]

/-- Edits that all lead each other keep their order. -/
theorem filter_leftToRight (p : Edit → Bool) (edits : List Edit)
    (hp : ∀ e f, p e = true → p f = true → Leads e f) :
    (leftToRight edits).filter p = edits.filter p := by
  have hsorted : (edits.filter p).Pairwise Leads := by
    rw [List.pairwise_filter]
    exact List.pairwise_of_forall fun e f => hp e f
  rw [filter_leftToRight_comm]
  exact hsorted.insertionSort_eq

/-! ## Section 3: The order of application -/

/-- Against an edit that is later in the list, "applied before" is "does not lead". -/
theorem before_iff_not_leads {n m : Nat} (e f : Edit) (h : n < m) :
    before (n, e) (m, f) = true ↔ ¬ Leads e f := by
  have hm : ¬ m < n := by omega
  -- at one offset the kinds decide, and the numbers where these agree
  unfold before Leads
  by_cases ho : e.span.offset = f.span.offset
  · cases e.kind <;> cases f.kind <;> simp [ho, hm]
  · simp only [ne_eq, ho, not_false_eq_true, if_true, decide_eq_true_eq, false_and, or_false,
      not_lt]
    exact ⟨le_of_lt, fun hle => lt_of_le_of_ne hle (Ne.symm ho)⟩

private theorem orderedInsert_append_of_leads {e f : Edit} (edits : List Edit) (h : Leads e f) :
    (edits ++ [f]).orderedInsert Leads e = edits.orderedInsert Leads e ++ [f] := by
  induction edits with
  | nil => simp [List.orderedInsert_cons, h]
  | cons g rest ih =>
    by_cases hg : Leads e g
    · simp [List.orderedInsert_cons, hg]
    · simp [List.orderedInsert_cons, hg, ih]

private theorem orderedInsert_eq_append_of_not_leads {e : Edit} (edits : List Edit)
    (h : ∀ f ∈ edits, ¬ Leads e f) : edits.orderedInsert Leads e = edits ++ [e] := by
  induction edits with
  | nil => rfl
  | cons f rest ih =>
    have hf : ¬ Leads e f := h f (List.mem_cons_self ..)
    have hrest : ∀ g ∈ rest, ¬ Leads e g := fun g hg => h g (List.mem_cons_of_mem _ hg)
    rw [List.orderedInsert_of_not_le Leads rest hf, ih hrest, List.cons_append]

/-- One step of the two sorts: putting an edit with the lowest number in order of application is
putting it in order for the reader, seen from the other end. -/
private theorem insertInOrder_reverse (x : Nat × Edit) (sorted : List (Nat × Edit))
    (hlow : ∀ f ∈ sorted, x.1 < f.1)
    (hsorted : (sorted.map (·.2)).reverse.Pairwise Leads) :
    ((insertInOrder x sorted).map (·.2)).reverse =
      (sorted.map (·.2)).reverse.orderedInsert Leads x.2 := by
  induction sorted with
  | nil => simp [insertInOrder]
  | cons f rest ih =>
    have hxf : before x f = true ↔ ¬ Leads x.2 f.2 :=
      before_iff_not_leads x.2 f.2 (hlow f (List.mem_cons_self ..))
    rw [List.map_cons, List.reverse_cons] at hsorted ⊢
    obtain ⟨hrest, -, hlast⟩ := List.pairwise_append.mp hsorted
    by_cases hb : before x f = true
    · -- `x` is applied first: nothing before `f` can be led by it, as all of that leads `f`
      have hnone : ∀ g ∈ (rest.map (·.2)).reverse ++ [f.2], ¬ Leads x.2 g := by
        intro g hg hxg
        apply hxf.mp hb
        rcases List.mem_append.mp hg with hg | hg
        · exact leads_trans hxg (hlast g hg f.2 (List.mem_singleton_self _))
        · exact List.mem_singleton.mp hg ▸ hxg
      rw [orderedInsert_eq_append_of_not_leads _ hnone]
      simp [insertInOrder, hb]
    · -- `f` is applied first: for the reader it stays last, and `x` goes among the others
      have hleads : Leads x.2 f.2 := by
        by_contra hn
        exact hb (hxf.mpr hn)
      have ih' := ih (fun g hg => hlow g (List.mem_cons_of_mem _ hg)) hrest
      rw [orderedInsert_append_of_leads _ hleads, ← ih']
      simp [insertInOrder, hb]

private theorem mem_insertInOrder {x y : Nat × Edit} {sorted : List (Nat × Edit)} :
    y ∈ insertInOrder x sorted ↔ y = x ∨ y ∈ sorted := by
  induction sorted with
  | nil => simp [insertInOrder]
  | cons f rest ih =>
    by_cases hb : before x f = true
    · simp [insertInOrder, hb]
    · simp only [insertInOrder, hb, Bool.false_eq_true, if_false, List.mem_cons, ih]
      tauto

private theorem le_of_mem_sortNumbered {n : Nat} {edits : List Edit} {f : Nat × Edit}
    (h : f ∈ sortNumbered (numberFrom n edits)) : n ≤ f.1 := by
  induction edits generalizing n with
  | nil => cases h
  | cons e rest ih =>
    rcases mem_insertInOrder.mp h with rfl | h
    · exact le_refl _
    · have := ih h
      omega

private theorem sortNumbered_reverse (n : Nat) (edits : List Edit) :
    ((sortNumbered (numberFrom n edits)).map (·.2)).reverse = leftToRight edits := by
  induction edits generalizing n with
  | nil => rfl
  | cons e rest ih =>
    have hlow : ∀ f ∈ sortNumbered (numberFrom (n + 1) rest), n < f.1 :=
      fun f hf => le_of_mem_sortNumbered hf
    -- the numbers grow along the list, so the head has the lowest
    have hsorted := leftToRight_pairwise rest
    rw [← ih (n + 1)] at hsorted
    show ((insertInOrder (n, e) (sortNumbered (numberFrom (n + 1) rest))).map (·.2)).reverse =
      (leftToRight rest).orderedInsert Leads e
    rw [insertInOrder_reverse (n, e) _ hlow hsorted, ih (n + 1)]

/-- Edits are applied in the reverse of the reader's order. -/
theorem inOrder_eq_reverse_leftToRight (edits : List Edit) :
    inOrder edits = (leftToRight edits).reverse := by
  rw [← sortNumbered_reverse 0 edits, List.reverse_reverse]
  rfl

end Edit

end BindingAudit
