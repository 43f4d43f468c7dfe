import BindingAudit.Proofs.Element.Arena
import Mathlib.Data.List.Sort
import Mathlib.Logic.Relation

/-!
# Arenas in document order

A tree may be built in any order that puts parents first.  If moreover every new element becomes a
child of the newest one or of one of its ancestors, then the indices follow the document: the
descendants of an element are the indices right behind it.  `Preordered` says this of an arena, and
`walk_eq_range` that the walk through such an arena is `0, 1, 2, ...`.  The walk through any other
tree meets the same indices in another order (`walk_perm`).

`Above es i a` reads "`a` is `i` or an ancestor of it".
-/

namespace BindingAudit

/-- The second index is the first or one of its ancestors. -/
def Above (es : Array Element) : Nat → Nat → Prop :=
  Relation.ReflTransGen (ParentLink es)

/-- Every element is a child of the one before it or of an ancestor of that one. -/
def Preordered (es : Array Element) : Prop :=
  ∀ i p, ParentLink es (i + 1) p → Above es i p

theorem Linked.le_of_above {es : Array Element} (h : Linked es) {i a : Nat}
    (ha : Above es i a) : a ≤ i := by
  induction ha with
  | refl => exact le_refl _
  | tail _ hstep ih =>
    obtain ⟨e, he, hp⟩ := hstep
    exact le_trans (le_of_lt (h.parent_lt he hp)) ih

/-- Links that stay when an arena grows keep everything above an index. -/
theorem Above.mono {es es' : Array Element}
    (h : ∀ c p, ParentLink es c p → ParentLink es' c p) {i a : Nat} (ha : Above es i a) :
    Above es' i a :=
  Relation.ReflTransGen.mono h _ _ ha

/-! ## Section 1: Descendants are contiguous -/

/-- An element between an element and one of its descendants is a descendant as well. -/
theorem Preordered.above_of_le {es : Array Element} (hpre : Preordered es) {a i j : Nat}
    (ha : Above es j a) (hai : a ≤ i) (hij : i ≤ j) : Above es i a := by
  induction j with
  | zero =>
    obtain rfl : i = 0 := by omega
    exact ha
  | succ j ih =>
    by_cases hi : i = j + 1
    · exact hi ▸ ha
    · apply ih ?_ (by omega)
      -- the parent of `j + 1` is above `j`, and `a` is above the parent
      rcases Relation.ReflTransGen.cases_head ha with hja | ⟨p, hp, hpa⟩
      · omega
      · exact (hpre j p hp).trans hpa

namespace ElementTree

variable {t : ElementTree}

theorem mem_children_iff (h : Linked t.elements) {p c : Nat} :
    c ∈ t.children p ↔ ParentLink t.elements c p := by
  unfold children
  cases hp : t.get? p with
  | none =>
    simp only [Option.map_none, Option.getD_none, List.not_mem_nil, false_iff]
    rintro ⟨f, hf, hfp⟩
    -- a parent lies before its child, so it is in the arena
    have hlt := h.parent_lt hf hfp
    have hc := lt_size_of_get? hf
    obtain ⟨e, he⟩ := get?_eq_some_of_lt (t := t) (i := p) (by omega)
    rw [hp] at he
    cases he
  | some e => exact h.mem_children_iff hp

/-- A child is found behind its parent. -/
theorem lt_of_mem_children (h : Linked t.elements) {p c : Nat} (hc : c ∈ t.children p) :
    p < c ∧ c < t.size := by
  obtain ⟨f, hf, hfp⟩ := (mem_children_iff h).mp hc
  exact ⟨h.parent_lt hf hfp, lt_size_of_get? hf⟩

theorem children_increasing (h : Linked t.elements) (p : Nat) :
    (t.children p).Pairwise (· < ·) := by
  unfold children
  cases hp : t.get? p with
  | none => exact List.Pairwise.nil
  | some e => exact h.children_increasing hp

/-! ## Section 2: What a subtree holds -/

theorem above_of_mem_subtree (h : Linked t.elements) {depth i j : Nat}
    (hj : j ∈ t.subtree depth i) : Above t.elements j i := by
  induction depth generalizing i with
  | zero => cases hj
  | succ depth ih =>
    rw [subtree, List.mem_cons, List.mem_flatMap] at hj
    rcases hj with rfl | ⟨c, hc, hj⟩
    · exact Relation.ReflTransGen.refl
    · exact (ih hj).tail ((mem_children_iff h).mp hc)

theorem subtree_mono {depth i j : Nat} (hj : j ∈ t.subtree depth i) :
    j ∈ t.subtree (depth + 1) i := by
  induction depth generalizing i with
  | zero => cases hj
  | succ depth ih =>
    rw [subtree, List.mem_cons, List.mem_flatMap] at hj ⊢
    rcases hj with rfl | ⟨c, hc, hj⟩
    · exact Or.inl rfl
    · exact Or.inr ⟨c, hc, ih hj⟩

theorem subtree_mono_le {depth depth' i j : Nat} (hle : depth ≤ depth')
    (hj : j ∈ t.subtree depth i) : j ∈ t.subtree depth' i := by
  induction hle with
  | refl => exact hj
  | step _ ih => exact subtree_mono ih

theorem mem_subtree_of_child {depth i p c : Nat} (hp : p ∈ t.subtree depth i)
    (hc : c ∈ t.children p) : c ∈ t.subtree (depth + 1) i := by
  induction depth generalizing i with
  | zero => cases hp
  | succ depth ih =>
    rw [subtree, List.mem_cons, List.mem_flatMap] at hp
    rw [subtree, List.mem_cons, List.mem_flatMap]
    right
    rcases hp with rfl | ⟨d, hd, hp⟩
    · exact ⟨c, hc, by rw [subtree]; exact List.mem_cons_self ..⟩
    · exact ⟨d, hd, ih hp⟩

/-- The walk misses no element: one at index `i` lies no deeper than `i` levels. -/
theorem mem_subtree_root (h : Linked t.elements) {i : Nat} (hi : i < t.size) :
    i ∈ t.subtree (i + 1) 0 := by
  induction i using Nat.strongRecOn with
  | ind i ih =>
    by_cases hzero : i = 0
    · subst hzero
      rw [subtree]
      exact List.mem_cons_self ..
    · obtain ⟨p, hp⟩ := exists_parent? h hi hzero
      have hlt := parent?_lt h hp
      have hchild : i ∈ t.children p := (mem_children_iff h).mpr (parent?_eq_some_iff.mp hp)
      have hmem := mem_subtree_of_child (ih p hlt (by omega)) hchild
      exact subtree_mono_le (by omega) hmem

theorem mem_walk_iff (h : Linked t.elements) {i : Nat} : i ∈ t.walk ↔ i < t.size := by
  constructor
  · intro hi
    -- an index in the walk is the root or names a parent, so it is in the arena
    rcases Relation.ReflTransGen.cases_head (above_of_mem_subtree h hi) with rfl | ⟨p, hp, -⟩
    · exact t.nonempty
    · obtain ⟨e, he, -⟩ := hp
      exact lt_size_of_get? he
  · intro hi
    exact subtree_mono_le hi (mem_subtree_root h hi)

theorem parentLink_unique {es : Array Element} : Relator.RightUnique (ParentLink es) := by
  rintro c p q ⟨e, he, hp⟩ ⟨f, hf, hq⟩
  obtain rfl : e = f := Option.some.inj (he.symm.trans hf)
  exact Option.some.inj (hp.symm.trans hq)

/-- A sibling is not above a sibling: the chain would go through their parent, in front of both. -/
theorem eq_of_above_of_sibling (h : Linked t.elements) {p c d : Nat}
    (hc : ParentLink t.elements c p) (hd : ParentLink t.elements d p)
    (habove : Above t.elements c d) : c = d := by
  rcases Relation.ReflTransGen.cases_head habove with hcd | ⟨q, hq, hqd⟩
  · exact hcd
  · obtain rfl := parentLink_unique hc hq
    have hle := h.le_of_above hqd
    obtain ⟨e, he, hp⟩ := hd
    have hlt := h.parent_lt he hp
    omega

/-- No element is met twice on the way through a subtree. -/
theorem subtree_nodup (h : Linked t.elements) (depth i : Nat) : (t.subtree depth i).Nodup := by
  induction depth generalizing i with
  | zero => exact List.nodup_nil
  | succ depth ih =>
    rw [subtree, List.nodup_cons, List.nodup_flatMap]
    refine ⟨?_, fun c _ => ih c, ?_⟩
    · intro hi
      obtain ⟨c, hc, hi⟩ := List.mem_flatMap.mp hi
      obtain ⟨e, he, hp⟩ := (mem_children_iff h).mp hc
      have hlt := h.parent_lt he hp
      have hle := h.le_of_above (above_of_mem_subtree h hi)
      omega
    · -- what is below two siblings is below one of them twice
      refine (children_increasing h i).imp_of_mem fun {c d} hc hd hcd j hjc hjd => ?_
      rw [mem_children_iff h] at hc hd
      have hne : c ≠ d := Nat.ne_of_lt hcd
      rcases Relation.ReflTransGen.total_of_right_unique parentLink_unique
        (above_of_mem_subtree h hjc) (above_of_mem_subtree h hjd) with hup | hup
      · exact hne (eq_of_above_of_sibling h hc hd hup)
      · exact hne (eq_of_above_of_sibling h hd hc hup).symm

theorem walk_nodup (h : Linked t.elements) : t.walk.Nodup :=
  subtree_nodup h t.size 0

/-- **The walk meets every element once.** -/
theorem walk_perm (h : Linked t.elements) : t.walk.Perm (List.range t.size) := by
  rw [List.perm_ext_iff_of_nodup (walk_nodup h) List.nodup_range]
  intro i
  rw [List.mem_range]
  exact mem_walk_iff h

theorem length_walk (h : Linked t.elements) : t.walk.length = t.size := by
  rw [(walk_perm h).length_eq, List.length_range]

/-! ## Section 3: The walk through a preordered arena -/

/-- A descendant of an element lies before the element's next sibling. -/
private theorem lt_of_mem_subtree_of_sibling (h : Linked t.elements)
    (hpre : Preordered t.elements) {p c d depth j : Nat} (hc : ParentLink t.elements c p)
    (hd : ParentLink t.elements d p) (hcd : c < d) (hj : j ∈ t.subtree depth c) : j < d := by
  by_contra hle
  have hdc : Above t.elements d c :=
    hpre.above_of_le (above_of_mem_subtree h hj) (le_of_lt hcd) (by omega)
  have heq := eq_of_above_of_sibling h hd hc hdc
  omega

theorem subtree_increasing (h : Linked t.elements) (hpre : Preordered t.elements)
    (depth i : Nat) : (t.subtree depth i).Pairwise (· < ·) := by
  induction depth generalizing i with
  | zero => exact List.Pairwise.nil
  | succ depth ih =>
    rw [subtree, List.pairwise_cons, List.pairwise_flatMap]
    refine ⟨?_, fun c _ => ih c, ?_⟩
    · intro j hj
      obtain ⟨c, hc, hj⟩ := List.mem_flatMap.mp hj
      obtain ⟨e, he, hp⟩ := (mem_children_iff h).mp hc
      exact lt_of_lt_of_le (h.parent_lt he hp) (h.le_of_above (above_of_mem_subtree h hj))
    · refine (children_increasing h i).imp_of_mem ?_
      intro c d hc hd hcd j hj k hk
      have hjd := lt_of_mem_subtree_of_sibling h hpre ((mem_children_iff h).mp hc)
        ((mem_children_iff h).mp hd) hcd hj
      exact lt_of_lt_of_le hjd (h.le_of_above (above_of_mem_subtree h hk))

/-- **The walk of a preordered arena visits the indices in order.** -/
theorem walk_eq_range (h : Linked t.elements) (hpre : Preordered t.elements) :
    t.walk = List.range t.size := by
  apply List.Pairwise.eq_of_mem_iff (subtree_increasing h hpre t.size 0) List.pairwise_lt_range
  intro i
  rw [List.mem_range]
  exact mem_walk_iff h

end ElementTree

end BindingAudit
