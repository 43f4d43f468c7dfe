import BindingAudit.Proofs.Element.Scope
import BindingAudit.Proofs.Model.RoundTrip

/-!
# The walk of a tree

A walk keeps a stack of elements that are still to be visited: it takes the top one, and puts the
children of it in its place, the first of them on top.  `Visits` says what such a walk visits until
the stack is empty.  Started with the root, it ends, and it visits the elements in the order of
`walk` (`visits_walk`).

## Architecture

1. Branches: an element with all its descendants is the element, and then the branches of its
   children in turn (`branch_eq`); a depth that is enough for all descendants makes no difference.
2. The stack: a walk visits the branches of the elements on its stack, one after the other
   (`visits_flatMap_branch`).
3. The order: the branch of every element is a contiguous part of the walk (`branch_infix_walk`),
   and holds the element and what it encloses.
-/

namespace BindingAudit

namespace ElementTree

variable {t : ElementTree} {i j c p : Nat}

/-! ## Section 1: Branches -/

/-- An element with all its descendants, every element before its descendants. -/
def branch (t : ElementTree) (i : Nat) : List Nat :=
  t.subtree t.size i

/-- Depths that are enough for all descendants of an element give the same. -/
theorem subtree_eq_subtree (hl : Linked t.elements) {depth depth' : Nat} (hi : i < t.size)
    (hdepth : t.size ≤ i + depth) (hdepth' : t.size ≤ i + depth') :
    t.subtree depth i = t.subtree depth' i := by
  induction depth generalizing i depth' with
  | zero => omega
  | succ depth ih =>
    obtain ⟨depth', rfl⟩ : ∃ k, depth' = k + 1 := ⟨depth' - 1, by omega⟩
    rw [subtree, subtree]
    refine congrArg (i :: ·) (List.flatMap_congr fun c hc => ?_)
    have hlt := lt_of_mem_children hl hc
    exact ih hlt.2 (by omega) (by omega)

/-- **A branch** is its element, followed by the branches of the children in turn. -/
theorem branch_eq (hl : Linked t.elements) (hi : i < t.size) :
    t.branch i = i :: (t.children i).flatMap t.branch := by
  obtain ⟨depth, hdepth⟩ : ∃ depth, t.size = depth + 1 := ⟨t.size - 1, by omega⟩
  rw [branch, hdepth, subtree]
  refine congrArg (i :: ·) (List.flatMap_congr fun c hc => ?_)
  have hlt := lt_of_mem_children hl hc
  exact subtree_eq_subtree hl hlt.2 (by omega) (by omega)

/-- A branch holds its element and what the element encloses. -/
theorem mem_branch_iff (hl : Linked t.elements) (hi : i < t.size) :
    j ∈ t.branch i ↔ Above t.elements j i := by
  constructor
  · exact above_of_mem_subtree hl
  · intro h
    induction h with
    | refl =>
      rw [branch_eq hl (by omega)]
      exact List.mem_cons_self ..
    | @tail c p hjc hcp ih =>
      -- what is in the branch of a child is in that of the parent
      rw [branch_eq hl hi]
      exact List.mem_cons_of_mem _ (List.mem_flatMap.mpr
        ⟨c, (mem_children_iff hl).mpr hcp, ih hcp.lt_size⟩)

/-! ## Section 2: The stack -/

/-- `t.Visits pending visited` reads "a walk with the elements `pending` on its stack, the first of
them on top, ends after it has visited the elements `visited`". -/
inductive Visits (t : ElementTree) : List Nat → List Nat → Prop
  /-- Nothing is left to be visited. -/
  | done : Visits t [] []
  /-- The top of the stack is visited, and its children take its place. -/
  | visit {i : Nat} {e : Element} {rest visited : List Nat} (he : t.get? i = some e)
      (h : Visits t (e.children ++ rest) visited) : Visits t (i :: rest) (i :: visited)

/-- A walk has one outcome. -/
theorem Visits.unique {pending visited visited' : List Nat} (h : t.Visits pending visited)
    (h' : t.Visits pending visited') : visited = visited' := by
  induction h generalizing visited' with
  | done =>
    cases h'
    rfl
  | visit he _ ih =>
    cases h' with
    | visit he' h' =>
      obtain rfl := Option.some.inj (he.symm.trans he')
      rw [ih h']

/-- **A walk ends, and visits branch by branch**: every step takes one element off the front of the
branches that are still to be visited. -/
theorem visits_flatMap_branch (hl : Linked t.elements) {pending : List Nat}
    (hpending : ∀ i ∈ pending, i < t.size) : t.Visits pending (pending.flatMap t.branch) := by
  induction hsize : (pending.flatMap t.branch).length generalizing pending with
  | zero =>
    cases pending with
    | nil => exact .done
    | cons i rest =>
      rw [List.flatMap_cons, branch_eq hl (hpending i (List.mem_cons_self ..))] at hsize
      cases hsize
  | succ size ih =>
    cases pending with
    | nil => cases hsize
    | cons i rest =>
      have hi := hpending i (List.mem_cons_self ..)
      obtain ⟨e, he⟩ := get?_eq_some_of_lt hi
      have hchildren : t.children i = e.children := by
        rw [children, he]
        rfl
      have hbranches : (i :: rest).flatMap t.branch =
          i :: (e.children ++ rest).flatMap t.branch := by
        rw [List.flatMap_cons, branch_eq hl hi, hchildren, List.flatMap_append, List.cons_append]
      rw [hbranches] at hsize ⊢
      refine .visit he (ih (fun c hc => ?_) (Nat.succ.inj hsize))
      rcases List.mem_append.mp hc with hc | hc
      · exact (lt_of_mem_children hl (hchildren ▸ hc)).2
      · exact hpending c (List.mem_cons_of_mem _ hc)

/-- A walk from the root visits the elements in the order of `walk`. -/
theorem visits_walk (hl : Linked t.elements) {visited : List Nat} :
    t.Visits [0] visited ↔ visited = t.walk := by
  have hwalk : t.Visits [0] t.walk := by
    have h : t.Visits [0] ([0].flatMap t.branch) :=
      visits_flatMap_branch hl (List.forall_mem_singleton.mpr t.nonempty)
    rwa [List.flatMap_singleton] at h
  exact ⟨fun h => h.unique hwalk, fun h => h ▸ hwalk⟩

/-! ## Section 3: The order of the walk -/

/-- The branch of a child is a contiguous part of the branch of its parent. -/
theorem branch_infix_of_child (hl : Linked t.elements) (hi : i < t.size)
    (hc : c ∈ t.children i) : t.branch c <:+: t.branch i := by
  rw [branch_eq hl hi]
  obtain ⟨earlier, later, hsplit⟩ := List.append_of_mem hc
  refine ⟨i :: earlier.flatMap t.branch, later.flatMap t.branch, ?_⟩
  rw [hsplit, List.flatMap_append, List.flatMap_cons]
  simp only [List.cons_append, List.append_assoc]

/-- **Every branch is a contiguous part of the walk.** -/
theorem branch_infix_walk (hl : Linked t.elements) (hi : i < t.size) :
    t.branch i <:+: t.walk := by
  -- the walk is the branch of the root, and every element is reached from there along its parents
  induction i using Nat.strongRecOn with
  | ind i ih =>
    by_cases hzero : i = 0
    · exact hzero ▸ List.infix_refl _
    · obtain ⟨p, hp⟩ := exists_parent? hl hi hzero
      have hlt := parent?_lt hl hp
      have hchild : i ∈ t.children p := (mem_children_iff hl).mpr (parent?_eq_some_iff.mp hp)
      exact (branch_infix_of_child hl (by omega) hchild).trans (ih p hlt (by omega))

/-- What the branches of the children hold is what the element encloses. -/
theorem mem_flatMap_branch_iff (hl : Linked t.elements) :
    j ∈ (t.children i).flatMap t.branch ↔ t.Encloses i j := by
  rw [List.mem_flatMap, Encloses, Relation.TransGen.tail'_iff]
  constructor
  · rintro ⟨c, hc, hj⟩
    exact ⟨c, (mem_branch_iff hl (lt_of_mem_children hl hc).2).mp hj, (mem_children_iff hl).mp hc⟩
  · rintro ⟨c, hjc, hci⟩
    have hc := (mem_children_iff hl).mpr hci
    exact ⟨c, hc, (mem_branch_iff hl (lt_of_mem_children hl hc).2).mpr hjc⟩

end ElementTree

/-- **The walk is a complete pre-order**: in a tree that was built, the walk with a stack that
starts at the root ends, and it visits what `walk` lists.  Every index is listed once.  Directly
behind an element stand the elements it encloses, and no others: the branches of its children, in
the order of the children, each of which is again a child with what that encloses.  So every element
comes before all elements it encloses.  In a tree that was read from a document the walk is
`0, 1, 2, ...`. -/
theorem walk_is_preorder :
    (∀ t : ElementTree, t.Built →
      (∀ visited, t.Visits [0] visited ↔ visited = t.walk) ∧
      t.walk.Perm (List.range t.size) ∧
      ∀ i, i < t.size →
        (∃ before behind,
          t.walk = before ++ i :: ((t.children i).flatMap t.branch ++ behind)) ∧
        (∀ c ∈ t.children i, t.branch c = c :: (t.children c).flatMap t.branch) ∧
        (∀ j, j ∈ (t.children i).flatMap t.branch ↔ t.Encloses i j) ∧
        ∀ j, t.Encloses i j → [i, j].Sublist t.walk) ∧
    ∀ (d : Document) (root : Nat) (t : ElementTree), Model.buildTree d root = .ok t →
      t.walk = List.range t.size := by
  constructor
  · intro t ht
    have hl := ht.linked
    refine ⟨fun visited => ElementTree.visits_walk hl, ElementTree.walk_perm hl, fun i hi => ?_⟩
    obtain ⟨before, behind, hwalk⟩ := ElementTree.branch_infix_walk hl hi
    rw [ElementTree.branch_eq hl hi, List.append_assoc, List.cons_append] at hwalk
    refine ⟨⟨before, behind, hwalk.symm⟩, fun c hc => ?_, fun j => ?_, fun j hj => ?_⟩
    · exact ElementTree.branch_eq hl (ElementTree.lt_of_mem_children hl hc).2
    · exact ElementTree.mem_flatMap_branch_iff hl
    · -- the enclosed element is somewhere in the block behind `i`
      have hmem := (ElementTree.mem_flatMap_branch_iff hl).mpr hj
      rw [← hwalk]
      refine (List.Sublist.cons_cons i ?_).trans (List.sublist_append_right _ _)
      exact List.singleton_sublist.mpr (List.mem_append_left _ hmem)
  · intro d root t ht
    have hloaded := Model.buildTree_loaded ht
    exact ElementTree.walk_eq_range hloaded.linked hloaded.preordered

/-- The last element that was added is visited before the second child of the root; and the records
of the same tree, read from a document, are numbered as they are visited. -/
theorem walk_interleaved_is_preorder :
    ElementTree.interleaved.Built ∧
    ElementTree.interleaved.Visits [0] [0, 1, 3, 2] ∧
    ElementTree.interleaved.Encloses 1 3 ∧ [1, 3].Sublist ElementTree.interleaved.walk ∧
    ∃ d root t', Model.buildTree d root = .ok t' ∧ t'.walk = [0, 1, 2, 3] := by
  obtain ⟨hbuilt, hread⟩ := walk_is_preorder
  obtain ⟨hvisits, -, helement⟩ := hbuilt _ ElementTree.interleaved_built
  obtain ⟨-, -, hencloses, hfirst⟩ := helement 1 (by decide)
  have hinside : ElementTree.interleaved.Encloses 1 3 := (hencloses 3).mp (by decide)
  have htree : Model.buildTree (Document.ofData ElementTree.interleaved.document)
      (Document.ofData ElementTree.interleaved.document).top =
        .ok ⟨#[{ typeName := "Item", span := ⟨0, 40⟩, id := some "top", children := [1, 3] },
          { typeName := "Row", span := ⟨5, 15⟩, parent := some 0, children := [2] },
          { typeName := "Image", span := ⟨8, 9⟩, parent := some 1,
            bindings := [⟨"x", "top.y", ⟨11, 5⟩, 2⟩] },
          { typeName := "Text", span := ⟨25, 10⟩, id := some "", parent := some 0 }],
          by decide⟩ := by decide +kernel
  refine ⟨ElementTree.interleaved_built, (hvisits _).mpr (by decide), hinside, hfirst 3 hinside,
    _, _, _, htree, ?_⟩
  rw [hread _ _ _ htree]
  rfl

end BindingAudit
