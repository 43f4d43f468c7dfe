import BindingAudit.Element.Scope
import BindingAudit.Proofs.Element.Preorder
import BindingAudit.Proofs.Element.Requests

/-!
# The nearest declaration of an id

`Nearest` says by two rules which declaration an id used in an element means: the first child with
the id in the scope around the element, or, if that scope has none, what the id means one scope
further out.  The search along the chain of ancestors finds exactly this
(`declaration?_eq_some_iff`).

The same without a recursion: of the scopes that enclose an element and declare the id, the search
takes the one that all others enclose, and there the first child with the id
(`nearest_declaration_wins`).  Types play no part in this.
-/

namespace BindingAudit.ElementTree

variable {t : ElementTree} {id : String}

/-- An element is the first child of a scope that declares an id. -/
def FirstWithId (t : ElementTree) (id : String) (scope k : Nat) : Prop :=
  ∃ earlier later, t.children scope = earlier ++ k :: later ∧ t.id? k = some id ∧
    ∀ c ∈ earlier, t.id? c ≠ some id

/-- `t.Nearest id i k` reads "the id, used in element `i`, means element `k`". -/
inductive Nearest (t : ElementTree) (id : String) : Nat → Nat → Prop
  /-- The scope around the element declares the id. -/
  | here {i p k : Nat} (hp : ParentLink t.elements i p) (hk : t.FirstWithId id p k) :
      Nearest t id i k
  /-- That scope does not, and the id means what it means in the scope itself. -/
  | outer {i p k : Nat} (hp : ParentLink t.elements i p)
      (hnone : ∀ c ∈ t.children p, t.id? c ≠ some id) (h : Nearest t id p k) : Nearest t id i k

theorem childWithId?_eq_some_iff {p k : Nat} :
    t.childWithId? id p = some k ↔ t.FirstWithId id p k := by
  unfold childWithId? FirstWithId
  rw [List.find?_eq_some_iff_append]
  constructor
  · rintro ⟨hk, earlier, later, hchildren, hearlier⟩
    exact ⟨earlier, later, hchildren, by simpa using hk,
      fun c hc => by simpa using hearlier c hc⟩
  · rintro ⟨earlier, later, hchildren, hk, hearlier⟩
    exact ⟨by simpa using hk, earlier, later, hchildren,
      fun c hc => by simpa using hearlier c hc⟩

theorem childWithId?_eq_none_iff {p : Nat} :
    t.childWithId? id p = none ↔ ∀ c ∈ t.children p, t.id? c ≠ some id := by
  simp [childWithId?]

/-- An id means what the scope around the element declares, and otherwise what it means there. -/
theorem declaration?_of_parent (hl : Linked t.elements) {i p : Nat} (hp : t.parent? i = some p) :
    t.declaration? id i = (t.childWithId? id p).or (t.declaration? id p) := by
  rw [declaration?, ancestors_of_parent hl hp, List.findSome?_cons, declaration?]
  cases t.childWithId? id p <;> rfl

theorem declaration?_of_root {i : Nat} (hp : t.parent? i = none) : t.declaration? id i = none := by
  rw [declaration?, ancestors_of_root hp]
  rfl

/-- **The search finds the nearest declaration**, and finds none only if there is none. -/
theorem declaration?_eq_some_iff (hl : Linked t.elements) {i k : Nat} :
    t.declaration? id i = some k ↔ t.Nearest id i k := by
  constructor
  · -- the search goes up along the parents, whose indices get smaller
    induction i using Nat.strongRecOn with
    | ind i ih =>
      intro h
      cases hp : t.parent? i with
      | none =>
        rw [declaration?_of_root hp] at h
        cases h
      | some p =>
        have hlink := parent?_eq_some_iff.mp hp
        rw [declaration?_of_parent hl hp, Option.or_eq_some_iff] at h
        rcases h with hk | ⟨hnone, h⟩
        · exact .here hlink (childWithId?_eq_some_iff.mp hk)
        · exact .outer hlink (childWithId?_eq_none_iff.mp hnone) (ih p (parent?_lt hl hp) h)
  · intro h
    induction h with
    | here hlink hk =>
      rw [declaration?_of_parent hl (parent?_eq_some_iff.mpr hlink),
        childWithId?_eq_some_iff.mpr hk, Option.some_or]
    | outer hlink hnone _ ih =>
      rw [declaration?_of_parent hl (parent?_eq_some_iff.mpr hlink),
        childWithId?_eq_none_iff.mpr hnone, Option.none_or, ih]

/-- Whether an id refers to a native object is decided by the one element it means. -/
theorem refersToNative_eq_true_iff {s : Settings} {i : Nat} :
    t.refersToNative s id i = true ↔ ∃ k e, t.declaration? id i = some k ∧ t.get? k = some e ∧
      s.isNativeType e.typeName = true := by
  unfold refersToNative
  constructor
  · intro h
    split at h
    · cases h
    · next e he =>
      obtain ⟨k, hk, hget⟩ := Option.bind_eq_some_iff.mp he
      exact ⟨k, e, hk, hget, h⟩
  · rintro ⟨k, e, hk, hget, hnative⟩
    rw [hk, Option.bind_some, hget]
    exact hnative

/-! ## The scopes around an element -/

/-- A scope encloses an element: it is a proper ancestor of it. -/
def Encloses (t : ElementTree) (p i : Nat) : Prop :=
  Relation.TransGen (ParentLink t.elements) i p

/-- A scope declares an id: one of its children has it. -/
def Declares (t : ElementTree) (id : String) (p : Nat) : Prop :=
  ∃ c ∈ t.children p, t.id? c = some id

/-- The nearest scope that declares an id used in an element: every other one encloses it. -/
structure NearestScope (t : ElementTree) (id : String) (i p : Nat) : Prop where
  encloses : t.Encloses p i
  declares : t.Declares id p
  nearest : ∀ q, t.Encloses q i → t.Declares id q → Above t.elements p q

variable {i p q k : Nat}

theorem FirstWithId.declares (h : t.FirstWithId id p k) : t.Declares id p := by
  obtain ⟨earlier, later, hchildren, hk, -⟩ := h
  exact ⟨k, by rw [hchildren]; simp, hk⟩

theorem FirstWithId.mem_children (h : t.FirstWithId id p k) : k ∈ t.children p := by
  obtain ⟨earlier, later, hchildren, -, -⟩ := h
  rw [hchildren]
  simp

/-- What encloses an element is its parent or encloses the parent. -/
theorem encloses_iff_of_parent (hp : ParentLink t.elements i p) :
    t.Encloses q i ↔ Above t.elements p q := by
  constructor
  · intro h
    obtain ⟨p', hp', hq⟩ := Relation.TransGen.head'_iff.mp h
    rwa [← parentLink_unique hp hp'] at hq
  · intro h
    exact Relation.TransGen.head' hp h

theorem lt_of_encloses (hl : Linked t.elements) (h : t.Encloses p i) : p < i := by
  obtain ⟨q, hq, hup⟩ := Relation.TransGen.head'_iff.mp h
  exact lt_of_le_of_lt (hl.le_of_above hup) (parent?_lt hl (parent?_eq_some_iff.mpr hq))

/-- The chain of ancestors holds exactly the scopes around an element. -/
theorem mem_ancestors_iff (hl : Linked t.elements) : p ∈ t.ancestors i ↔ t.Encloses p i := by
  induction i using Nat.strongRecOn with
  | ind i ih =>
    cases hparent : t.parent? i with
    | none =>
      rw [ancestors_of_root hparent]
      simp only [List.not_mem_nil, false_iff]
      intro h
      obtain ⟨q, hq, -⟩ := Relation.TransGen.head'_iff.mp h
      rw [parent?_eq_some_iff.mpr hq] at hparent
      cases hparent
    | some q =>
      rw [ancestors_of_parent hl hparent, List.mem_cons, ih q (parent?_lt hl hparent),
        encloses_iff_of_parent (parent?_eq_some_iff.mp hparent)]
      exact Relation.reflTransGen_iff_eq_or_transGen.symm

/-- **Nothing is found only if nothing is declared** around the element. -/
theorem declaration?_eq_none_iff (hl : Linked t.elements) :
    t.declaration? id i = none ↔ ∀ p, t.Encloses p i → ∀ c ∈ t.children p, t.id? c ≠ some id := by
  rw [declaration?, List.findSome?_eq_none_iff]
  simp only [mem_ancestors_iff hl, childWithId?_eq_none_iff]

theorem Nearest.exists_scope (h : t.Nearest id i k) :
    ∃ p, t.NearestScope id i p ∧ t.FirstWithId id p k := by
  induction h with
  | here hp hk =>
    exact ⟨_, ⟨.single hp, hk.declares, fun q hq _ => (encloses_iff_of_parent hp).mp hq⟩, hk⟩
  | outer hp hnone _ ih =>
    obtain ⟨r, hr, hk⟩ := ih
    refine ⟨r, ⟨.head hp hr.encloses, hr.declares, fun q hq hdeclares => ?_⟩, hk⟩
    -- the parent declares nothing of the kind, so the scope lies further out
    rcases Relation.reflTransGen_iff_eq_or_transGen.mp ((encloses_iff_of_parent hp).mp hq) with
      rfl | hq
    · obtain ⟨c, hc, hid⟩ := hdeclares
      exact absurd hid (hnone c hc)
    · exact hr.nearest q hq hdeclares

theorem NearestScope.nearest_declaration (hl : Linked t.elements) (h : t.NearestScope id i p)
    (hk : t.FirstWithId id p k) : t.Nearest id i k := by
  obtain ⟨hencloses, hdeclares, hnearest⟩ := h
  induction hencloses using Relation.TransGen.head_induction_on with
  | single hp => exact .here hp hk
  | @head i m hm hencloses ih =>
    refine .outer hm (fun c hc hid => ?_) (ih fun q hq => hnearest q (.head hm hq))
    -- a scope further in that declares the id would have to enclose the nearest one
    have hle := hl.le_of_above (hnearest m (.single hm) ⟨c, hc, hid⟩)
    have hlt := lt_of_encloses hl hencloses
    omega

end BindingAudit.ElementTree

namespace BindingAudit

open ElementTree in
/-- **The nearest declaration wins**: in a tree that was built the chains of parents end, so that
the searches along them do, and all of them at index 0.  An id used in an element means the first
child with this id of the nearest scope around the element that has such a child, and it means
nothing exactly if no scope around the element has one; so nothing has a meaning in the root, and
the root is never meant.  Whether the id refers to a native object is for the type of the one
element that is meant to say. -/
theorem nearest_declaration_wins {t : ElementTree} (ht : t.Built) :
    (WellFounded fun p i => ParentLink t.elements i p) ∧
    (∀ i p, ParentLink t.elements i p → t.topOf i = t.topOf p ∧ ∀ id,
      t.declaration? id i = (t.childWithId? id p).or (t.declaration? id p)) ∧
    (∀ i, i < t.size → t.topOf i = 0) ∧
    (∀ id, t.declaration? id 0 = none) ∧
    ∀ id i,
      (∀ k, t.declaration? id i = some k ↔
        ∃ p, t.NearestScope id i p ∧ t.FirstWithId id p k) ∧
      (t.declaration? id i = none ↔
        ∀ p, t.Encloses p i → ∀ c ∈ t.children p, t.id? c ≠ some id) ∧
      t.declaration? id i ≠ some 0 ∧
      ∀ s, t.refersToNative s id i = true ↔
        ∃ k e, t.declaration? id i = some k ∧ t.get? k = some e ∧
          s.isNativeType e.typeName = true := by
  have hl := ht.linked
  have hlt : ∀ i p, ParentLink t.elements i p → p < i := fun i p hp =>
    parent?_lt hl (parent?_eq_some_iff.mpr hp)
  refine ⟨Subrelation.wf (fun {p i} hp => hlt i p hp) Nat.lt_wfRel.wf, ?_,
    fun i hi => topOf_eq_zero hl hi, fun id => declaration?_of_root (parent?_zero hl), ?_⟩
  · intro i p hp
    have hparent := parent?_eq_some_iff.mpr hp
    exact ⟨topOf_of_parent hl hparent, fun id => declaration?_of_parent hl hparent⟩
  · intro id i
    have hsome : ∀ k, t.declaration? id i = some k ↔
        ∃ p, t.NearestScope id i p ∧ t.FirstWithId id p k := by
      intro k
      rw [declaration?_eq_some_iff hl]
      exact ⟨Nearest.exists_scope, fun ⟨p, hp, hk⟩ => hp.nearest_declaration hl hk⟩
    refine ⟨hsome, declaration?_eq_none_iff hl, ?_, fun s => refersToNative_eq_true_iff⟩
    -- what is meant is a child, and the root is none
    intro hzero
    obtain ⟨p, -, hk⟩ := (hsome 0).mp hzero
    exact Nat.not_lt_zero p (hlt 0 p ((mem_children_iff hl).mp hk.mem_children))

/-- A root with an id of its own, under it a timer and a label that take the same id, and an item
with a label and an item that reads it. -/
def ElementTree.fourNamesakes : ElementTree :=
  ⟨#[{ typeName := "QItem", span := ⟨0, 60⟩, id := some "t", children := [1, 2, 3] },
    { typeName := "QTimer", span := ⟨5, 5⟩, id := some "t", parent := some 0 },
    { typeName := "Label", span := ⟨12, 5⟩, id := some "t", parent := some 0 },
    { typeName := "Item", span := ⟨20, 30⟩, parent := some 0, children := [4, 5] },
    { typeName := "Label", span := ⟨25, 5⟩, id := some "t", parent := some 3 },
    { typeName := "Item", span := ⟨32, 9⟩, parent := some 3 }], by decide⟩

private theorem fourNamesakes_built : ElementTree.fourNamesakes.Built :=
  ⟨_, TreeBuilder.built_performAll .empty [
    .element "QItem" ⟨0, 60⟩ (some "t") none, .element "QTimer" ⟨5, 5⟩ (some "t") (some 0),
    .element "Label" ⟨12, 5⟩ (some "t") (some 0), .element "Item" ⟨20, 30⟩ none (some 0),
    .element "Label" ⟨25, 5⟩ (some "t") (some 3), .element "Item" ⟨32, 9⟩ none (some 3)], rfl⟩

/-- Inside, the label hides the timer, although it is not native; outside, the timer comes before
the other label; and the root is not meant even by itself. -/
theorem nearest_of_fourNamesakes :
    ElementTree.fourNamesakes.Built ∧
    (∃ p, ElementTree.fourNamesakes.NearestScope "t" 5 p ∧
      ElementTree.fourNamesakes.FirstWithId "t" p 4) ∧
    ElementTree.fourNamesakes.refersToNative {} "t" 5 = false ∧
    (∃ p, ElementTree.fourNamesakes.NearestScope "t" 3 p ∧
      ElementTree.fourNamesakes.FirstWithId "t" p 1) ∧
    ElementTree.fourNamesakes.refersToNative {} "t" 3 = true ∧
    ElementTree.fourNamesakes.declaration? "t" 0 = none ∧
    ElementTree.fourNamesakes.topOf 5 = 0 := by
  obtain ⟨-, -, htop, hroot, hid⟩ := nearest_declaration_wins fourNamesakes_built
  exact ⟨fourNamesakes_built, ((hid "t" 5).1 4).mp (by decide), by decide +kernel,
    ((hid "t" 3).1 1).mp (by decide), by decide +kernel, hroot "t", htop 5 (by decide)⟩

end BindingAudit
