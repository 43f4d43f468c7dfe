import BindingAudit.Proofs.Model.Traversal
import Mathlib.Data.List.Lex

/-!
# Documents with anchors

A document may share nodes, and a mapping may even be among its own descendants.  An occurrence of
a node is a way that leads to it through lists of children; ways are compared as in document order,
an element before its descendants and siblings from left to right.  There may be infinitely many of
them, but `buildTree` stops at the first occurrence where a check fails, and that a mapping has
occurred before counts as such a check.

## Architecture

1. Occurrences: ways, their order, and what is checked at the end of one (`FaultAt`).
2. The loop without a bound on its steps (`Ends`), and one step of the bounded one.
3. What the loop has done halfway (`Halfway`): the ways behind it are in order and without faults,
   and every other way starts with one that is still to come.  A step keeps this
   (`Halfway.step`), and a fault is the first one (`Halfway.firstFault`).
4. The whole run (`readPending_halfway`), and the tree it comes to (`buildTree_anchored`).
-/

namespace BindingAudit.Model

variable {d : Document} {root i j n m : Nat} {way way' x y z : List Nat} {location : String}
  {fault : ModelFault} {part : ElementPart} {items : List Nat} {entries : List (Scalar × Nat)}

/-! ## Section 1: Occurrences -/

/-- The nodes that a node lists as its children. -/
def listed (d : Document) (i : Nat) : List Nat :=
  match d.node i with
  | .map entries => (listOf? (fieldNode d entries "children")).getD []
  | _ => []

/-- The node that occurs at the end of a way: each position leads from a node to one of its
children. -/
def occurrence (d : Document) (i : Nat) (way : List Nat) : Option Nat :=
  way.foldlM (fun j n => (listed d j)[n]?) i

/-- The location of the end of a way. -/
def locationOf (way : List Nat) : String :=
  way.foldl (fun location n => itemLocation location "children" n) "root"

/-- What the element at a node declares, and the nodes of its children; or the first check that
fails. -/
def partOf (d : Document) (i : Nat) (location : String) :
    Except ModelFault (ElementPart × List Nat) :=
  match d.node i with
  | .map entries => do
    let (typeName, id, s) ← head d entries location
    let parts ← bindings d entries location
    let items ← children d entries location
    return (⟨typeName, id, s, parts⟩, items)
  | _ => .error ⟨.notMapping, location⟩

/-- What is wrong at the end of a way: a check of an element that has not occurred before fails, or
its mapping has occurred before. -/
inductive FaultAt (d : Document) (root : Nat) (way : List Nat) : ModelFault → Prop
  | own {i : Nat} {fault : ModelFault} (h : occurrence d root way = some i)
      (hnew : ∀ earlier < way, occurrence d root earlier ≠ some i)
      (hread : partOf d i (locationOf way) = .error fault) : FaultAt d root way fault
  | again {earlier : List Nat} {i : Nat} {entries : List (Scalar × Nat)} (hlt : earlier < way)
      (hearlier : occurrence d root earlier = some i) (h : occurrence d root way = some i)
      (hnode : d.node i = .map entries) : FaultAt d root way ⟨.repeated, locationOf way⟩

/-- A fault in front of which, in document order, there is no other. -/
def FirstFault (d : Document) (root : Nat) (fault : ModelFault) : Prop :=
  ∃ way, FaultAt d root way fault ∧ ∀ earlier < way, ∀ other, ¬ FaultAt d root earlier other

theorem occurrence_append (x y : List Nat) :
    occurrence d root (x ++ y) = (occurrence d root x).bind fun j => occurrence d j y :=
  List.foldlM_append ..

theorem occurrence_concat (h : occurrence d root way = some i) (n : Nat) :
    occurrence d root (way ++ [n]) = (listed d i)[n]? := by
  rw [occurrence_append, h]
  exact bind_pure _

theorem locationOf_concat (way : List Nat) (n : Nat) :
    locationOf (way ++ [n]) = itemLocation (locationOf way) "children" n := by
  rw [locationOf, List.foldl_append]
  rfl

theorem listed_of_partOf (h : partOf d i location = .ok (part, items)) : listed d i = items := by
  unfold partOf at h
  unfold listed
  split at h
  · next entries hnode =>
    obtain ⟨_, -, h⟩ := Outcome.bind_eq_ok_iff.mp h
    obtain ⟨_, -, h⟩ := Outcome.bind_eq_ok_iff.mp h
    obtain ⟨items', hchildren, h⟩ := Outcome.bind_eq_ok_iff.mp h
    cases h
    unfold children at hchildren
    split at hchildren
    · cases hchildren
    · next found hfound =>
      cases hchildren
      simp only [hfound, Option.getD_some]
  · cases h

theorem FaultAt.occurs (h : FaultAt d root way fault) : ∃ i, occurrence d root way = some i := by
  cases h with
  | own h => exact ⟨_, h⟩
  | again _ _ h => exact ⟨_, h⟩

/-- There is one fault at most at the end of a way. -/
theorem FaultAt.unique {other : ModelFault} (h : FaultAt d root way fault)
    (h' : FaultAt d root way other) : fault = other := by
  cases h with
  | own h hnew hread =>
    cases h' with
    | own h' _ hread' =>
      cases h.symm.trans h'
      exact Except.error.inj (hread.symm.trans hread')
    | again hlt hearlier h' =>
      cases h.symm.trans h'
      exact absurd hearlier (hnew _ hlt)
  | again hlt hearlier h =>
    cases h' with
    | own h' hnew =>
      cases h.symm.trans h'
      exact absurd hearlier (hnew _ hlt)
    | again => rfl

theorem FirstFault.unique {other : ModelFault} (h : FirstFault d root fault)
    (h' : FirstFault d root other) : fault = other := by
  obtain ⟨x, hx, hfirst⟩ := h
  obtain ⟨y, hy, hfirst'⟩ := h'
  rcases lt_trichotomy x y with hlt | rfl | hlt
  · exact absurd hx (hfirst' x hlt _)
  · exact hx.unique hy
  · exact absurd hy (hfirst y hlt _)

/-! ### The order of ways -/

/-- One way turns off to the left of another. -/
def LeftOf (x y : List Nat) : Prop :=
  ∃ common n m x' y', n < m ∧ x = common ++ n :: x' ∧ y = common ++ m :: y'

theorem lt_append_cons (x : List Nat) (n : Nat) (z : List Nat) : x < x ++ n :: z := by
  induction x with
  | nil => exact .nil
  | cons k x ih => exact .cons ih

theorem LeftOf.lt (h : LeftOf x y) : x < y := by
  obtain ⟨common, n, m, x', y', hnm, rfl, rfl⟩ := h
  induction common with
  | nil => exact .rel hnm
  | cons k common ih => exact .cons ih

theorem LeftOf.append (h : LeftOf x y) (z : List Nat) : LeftOf (x ++ z) y := by
  obtain ⟨common, n, m, x', y', hnm, rfl, rfl⟩ := h
  exact ⟨common, n, m, x' ++ z, y', hnm, by simp, rfl⟩

theorem le_of_isPrefix (h : x <+: y) : x ≤ y := by
  obtain ⟨z, rfl⟩ := h
  cases z with
  | nil => simp
  | cons n z => exact le_of_lt (lt_append_cons x n z)

/-! ## Section 2: The loop -/

/-- How the loop ends, however many steps it takes. -/
inductive Ends (d : Document) :
    List Pending → List Nat → TreeBuilder → Except ModelFault TreeBuilder → Prop
  | done {seen : List Nat} {b : TreeBuilder} : Ends d [] seen b (.ok b)
  | fault {p : Pending} {rest : List Pending} {seen : List Nat} {b : TreeBuilder}
      {fault : ModelFault} (hnew : p.node ∉ seen)
      (hread : partOf d p.node p.location = .error fault) : Ends d (p :: rest) seen b (.error fault)
  | again {p : Pending} {rest : List Pending} {seen : List Nat} {b : TreeBuilder}
      {entries : List (Scalar × Nat)} (hnode : d.node p.node = .map entries)
      (hseen : p.node ∈ seen) : Ends d (p :: rest) seen b (.error ⟨.repeated, p.location⟩)
  | next {p : Pending} {rest : List Pending} {seen : List Nat} {b b' : TreeBuilder}
      {part : ElementPart} {items : List Nat} {index : Nat} {r : Except ModelFault TreeBuilder}
      (hnew : p.node ∉ seen) (hread : partOf d p.node p.location = .ok (part, items))
      (hadd : addTo b p.parent part.typeName part.id part.span part.bindings = .ok (index, b'))
      (hrest : Ends d (pendingFrom index p.location 0 items ++ rest) (p.node :: seen) b' r) :
      Ends d (p :: rest) seen b r

variable {fuel : Nat} {stack rest : List Pending} {seen : List Nat} {b b' : TreeBuilder}
  {p : Pending} {parent : Option Nat} {ways done todo : List (List Nat)} {index k : Nat}

theorem readPending_again (hnode : d.node p.node = .map entries) (hseen : p.node ∈ seen) :
    readPending d (fuel + 1) (p :: rest) seen b = .error ⟨.repeated, p.location⟩ := by
  rw [readPending, hnode]
  exact if_pos hseen

theorem readPending_of_new (hnew : p.node ∉ seen) :
    readPending d (fuel + 1) (p :: rest) seen b = (do
      let (part, items) ← partOf d p.node p.location
      match addTo b p.parent part.typeName part.id part.span part.bindings with
      | .error _ => .error ⟨.notMapping, p.location⟩
      | .ok (index, b) =>
        readPending d fuel (pendingFrom index p.location 0 items ++ rest) (p.node :: seen) b) := by
  cases hnode : d.node p.node with
  | map entries =>
    rw [readPending_of_map hnode hnew, partOf, hnode]
    dsimp only
    -- the two sides differ in how the three checks are bracketed
    rcases head d entries p.location with fault | ⟨typeName, id, s⟩
    · rfl
    · rcases bindings d entries p.location with fault | parts
      · rfl
      · rcases children d entries p.location with fault | items
        · rfl
        · rfl
  | _ =>
    rewrite [readPending, partOf, hnode]
    rfl

theorem readPending_fault (hnew : p.node ∉ seen)
    (hread : partOf d p.node p.location = .error fault) :
    readPending d (fuel + 1) (p :: rest) seen b = .error fault := by
  rw [readPending_of_new hnew, hread]
  rfl

theorem readPending_next (hnew : p.node ∉ seen)
    (hread : partOf d p.node p.location = .ok (part, items))
    (hadd : addTo b p.parent part.typeName part.id part.span part.bindings = .ok (index, b')) :
    readPending d (fuel + 1) (p :: rest) seen b =
      readPending d fuel (pendingFrom index p.location 0 items ++ rest) (p.node :: seen) b' := by
  rw [readPending_of_new hnew, hread]
  simp only [Outcome.ok_bind, hadd]

theorem map_of_partOf (h : partOf d i location = .ok (part, items)) :
    ∃ entries, d.node i = .map entries := by
  unfold partOf at h
  split at h
  · next entries hnode => exact ⟨entries, hnode⟩
  · cases h

/-! ## Section 3: Halfway -/

/-- The index of the parent of the element at the end of a way, where elements are numbered as their
ways are listed. -/
inductive Parented (ways : List (List Nat)) : List Nat → Option Nat → Prop
  | root : Parented ways [] none
  | child {way : List Nat} {p : Nat} (n : Nat) (h : ways[p]? = some way) :
      Parented ways (way ++ [n]) (some p)

/-- The pending node of a way. -/
structure Awaits (d : Document) (root : Nat) (ways : List (List Nat)) (way : List Nat)
    (p : Pending) : Prop where
  occurs : occurrence d root way = some p.node
  location_eq : p.location = locationOf way
  parented : Parented ways way p.parent

/-- An arena has the element at the end of a way at an index.  Which children it lists is not
said: more are to come while the loop goes on. -/
def Recorded (d : Document) (root : Nat) (ways : List (List Nat)) (way : List Nat) (k : Nat)
    (es : List Element) : Prop :=
  ∃ i part items parent children, occurrence d root way = some i ∧
    partOf d i (locationOf way) = .ok (part, items) ∧ Parented ways way parent ∧
    es[k]? = some (part.element k parent children)

/-- The state of the loop when the elements at the ends of some ways are read, `done`, and those of
others are pending, `todo`. -/
structure Halfway (d : Document) (root : Nat) (done todo : List (List Nat)) (stack : List Pending)
    (seen : List Nat) (b : TreeBuilder) : Prop where
  pending : List.Forall₂ (Awaits d root done) todo stack
  ordered : done.Pairwise (· < ·)
  ahead : ∀ x ∈ done, ∀ y ∈ todo, x < y
  apart : todo.Pairwise LeftOf
  /-- Whatever is not read yet is at or below a pending node. -/
  covers : ∀ way i, occurrence d root way = some i → way ∈ done ∨ ∃ x ∈ todo, x <+: way
  seen_eq : done.map (occurrence d root) = seen.reverse.map some
  size_eq : b.elements.size = done.length
  recorded : ∀ k way, done[k]? = some way → Recorded d root done way k b.elements.toList

theorem Parented.mono (h : Parented ways way parent) (x : List Nat) :
    Parented (ways ++ [x]) way parent := by
  cases h with
  | root => exact .root
  | child n h =>
    refine .child n ?_
    rw [List.getElem?_append_left (List.getElem?_eq_some_iff.mp h).1, h]

theorem getElem?_adopt (es : List Element) (parent : Option Nat) (added : List Nat) (k : Nat) :
    ∃ f : List Nat → List Nat, (adopt es parent added)[k]? =
      es[k]?.map fun e => { e with children := f e.children } := by
  cases parent with
  | none => exact ⟨id, by simp [adopt]⟩
  | some p =>
    rw [adopt, List.getElem?_modify]
    by_cases h : p = k
    · exact ⟨(· ++ added), by simp [h]⟩
    · exact ⟨id, by simp [h]⟩

theorem Recorded.mono {es es' : List Element} (h : Recorded d root ways way k es) (x : List Nat)
    (hes : ∃ f : List Nat → List Nat, es'[k]? =
      es[k]?.map fun e => { e with children := f e.children }) :
    Recorded d root (ways ++ [x]) way k es' := by
  obtain ⟨i, part, items, parent, children, hway, hread, hparented, hk⟩ := h
  obtain ⟨f, hf⟩ := hes
  exact ⟨i, part, items, parent, f children, hway, hread, hparented.mono x, by rw [hf, hk]; rfl⟩

/-- The ways to the children of the element at the end of a way, from the one with number `m` on. -/
def childWays (way : List Nat) (m n : Nat) : List (List Nat) :=
  (List.range' m n).map fun k => way ++ [k]

theorem mem_childWays_iff : x ∈ childWays way m n ↔ ∃ k, m ≤ k ∧ k < m + n ∧ x = way ++ [k] := by
  simp [childWays, List.mem_range'_1, and_assoc, eq_comm]

/-- Siblings are pending in order. -/
theorem awaits_pendingFrom (hway : occurrence d root way = some i)
    (hindex : ways[index]? = some way) (hlisted : ∀ k, (listed d i)[m + k]? = items[k]?) :
    List.Forall₂ (Awaits d root ways) (childWays way m items.length)
      (pendingFrom index (locationOf way) m items) := by
  induction items generalizing m with
  | nil => exact .nil
  | cons c rest ih =>
    refine .cons ⟨?_, (locationOf_concat way m).symm, .child m hindex⟩ (ih fun k => ?_)
    · rw [occurrence_concat hway]
      exact hlisted 0
    · rw [Nat.add_assoc, Nat.add_comm 1 k]
      exact hlisted (k + 1)

theorem apart_childWays (way : List Nat) (m n : Nat) : (childWays way m n).Pairwise LeftOf := by
  rw [childWays, List.pairwise_map]
  refine (List.pairwise_lt_range' 1).imp fun {k l} hkl => ?_
  exact ⟨way, k, l, [], [], hkl, rfl, rfl⟩

namespace Halfway

theorem start (d : Document) (root : Nat) :
    Halfway d root [] [[]] [⟨root, none, "root"⟩] [] {} where
  pending := .cons ⟨rfl, rfl, .root⟩ .nil
  ordered := List.Pairwise.nil
  ahead := List.forall_mem_nil _
  apart := List.pairwise_singleton _ _
  covers := fun _ _ _ => Or.inr ⟨[], List.mem_singleton_self _, List.nil_prefix⟩
  seen_eq := rfl
  size_eq := rfl
  recorded := nofun

theorem mem_seen_iff (h : Halfway d root done todo stack seen b) :
    i ∈ seen ↔ ∃ way ∈ done, occurrence d root way = some i := by
  have hmem : some i ∈ seen.reverse.map some ↔ i ∈ seen := by simp
  rw [← hmem, ← h.seen_eq, List.mem_map]

/-- A mapping was read at one way only. -/
theorem once (h : Halfway d root done todo stack seen b) (hnodup : seen.Nodup) (hx : x ∈ done)
    (hy : y ∈ done) (heq : occurrence d root x = occurrence d root y) : x = y := by
  -- the nodes of the ways that were read are the seen ones, each of which was seen once
  refine List.inj_on_of_nodup_map ?_ hx hy heq
  rw [h.seen_eq]
  exact (List.nodup_reverse.mpr hnodup).map (Option.some_injective _)

/-- All that comes before the next pending node has been read. -/
theorem mem_done (h : Halfway d root done todo stack seen b) (hx : occurrence d root x = some i)
    (hbefore : ∀ y ∈ todo, x < y) : x ∈ done := by
  rcases h.covers x i hx with hx | ⟨y, hy, hyx⟩
  · exact hx
  · exact absurd (hbefore y hy) (not_lt_of_ge (le_of_isPrefix hyx))

/-- Nothing is wrong with what has been read. -/
theorem not_faultAt (h : Halfway d root done todo stack seen b) (hnodup : seen.Nodup)
    (hx : x ∈ done) : ¬ FaultAt d root x fault := by
  intro hfault
  cases hfault with
  | own hocc hnew hread =>
    obtain ⟨k, hk⟩ := List.mem_iff_getElem?.mp hx
    obtain ⟨i, part, items, -, -, hi, hread', -⟩ := h.recorded k x hk
    cases hi.symm.trans hocc
    cases hread.symm.trans hread'
  | again hlt hearlier hocc hnode =>
    have hdone := h.mem_done hearlier fun y hy => hlt.trans (h.ahead x hx y hy)
    exact hlt.ne (h.once hnodup hdone hx (hearlier.trans hocc.symm))

theorem lt_todo (h : Halfway d root done (way :: todo) stack seen b) (hlt : x < way) :
    ∀ y ∈ way :: todo, x < y := by
  intro y hy
  rcases List.mem_cons.mp hy with rfl | hy
  · exact hlt
  · exact hlt.trans ((List.pairwise_cons.mp h.apart).1 y hy).lt

/-- A fault at the next pending node is the first one. -/
theorem firstFault (h : Halfway d root done (way :: todo) stack seen b) (hnodup : seen.Nodup)
    (hfault : FaultAt d root way fault) : FirstFault d root fault := by
  refine ⟨way, hfault, fun earlier hlt other hother => ?_⟩
  obtain ⟨i, hi⟩ := hother.occurs
  exact h.not_faultAt hnodup (h.mem_done hi (h.lt_todo hlt)) hother

/-- The builder takes the next element. -/
theorem accepts (h : Halfway d root done (way :: todo) stack seen b)
    (hparented : Parented done way parent) : Accepts b parent := by
  cases hparented with
  | root =>
    -- no way is shorter than that of the root
    refine .first (Array.eq_empty_of_size_eq_zero ?_)
    rw [h.size_eq, List.length_eq_zero_iff, List.eq_nil_iff_forall_not_mem]
    exact fun x hx => List.not_lt_nil x (h.ahead x hx [] (List.mem_cons_self ..))
  | child n hp =>
    refine .child ?_
    rw [h.size_eq]
    exact (List.getElem?_eq_some_iff.mp hp).1

/-- What was at or below the element is the element, or at or below one of its children. -/
theorem covers_step (h : Halfway d root done (way :: todo) stack seen b)
    (hway : occurrence d root way = some i) (hx : occurrence d root x = some j) :
    x ∈ done ++ [way] ∨
      ∃ y ∈ childWays way 0 (listed d i).length ++ todo, y <+: x := by
  rcases h.covers x j hx with hdone | ⟨y, hy, hyx⟩
  · exact Or.inl (List.mem_append_left _ hdone)
  · rcases List.mem_cons.mp hy with rfl | hy
    · -- at the element itself, or behind one of its positions
      obtain ⟨z, rfl⟩ := hyx
      cases z with
      | nil => exact Or.inl (by simp)
      | cons k z =>
        rw [← List.singleton_append, ← List.append_assoc, occurrence_append,
          occurrence_concat hway] at hx
        obtain ⟨c, hc, -⟩ := Option.bind_eq_some_iff.mp hx
        have hk := (List.getElem?_eq_some_iff.mp hc).1
        refine Or.inr ⟨y ++ [k], List.mem_append_left _ ?_, ⟨z, by simp⟩⟩
        exact mem_childWays_iff.mpr ⟨k, Nat.zero_le k, by omega, rfl⟩
    · exact Or.inr ⟨y, List.mem_append_right _ hy, hyx⟩

/-- What was recorded stays so, and the element is recorded behind it. -/
theorem recorded_step (h : Halfway d root done (way :: todo) stack seen b)
    (hp : Awaits d root done way p) (hread : partOf d p.node p.location = .ok (part, items))
    (hb' : b'.elements.toList = adopt b.elements.toList p.parent [b.elements.size] ++
      [part.element b.elements.size p.parent []]) (hk : (done ++ [way])[k]? = some x) :
    Recorded d root (done ++ [way]) x k b'.elements.toList := by
  have hlen : (adopt b.elements.toList p.parent [b.elements.size]).length = b.elements.size := by
    rw [length_adopt, Array.length_toList]
  rcases Nat.lt_or_ge k done.length with hlt | hge
  · rw [List.getElem?_append_left hlt] at hk
    obtain ⟨f, hf⟩ := getElem?_adopt b.elements.toList p.parent [b.elements.size] k
    refine (h.recorded k x hk).mono way ⟨f, ?_⟩
    rw [hb', List.getElem?_append_left (by rwa [hlen, h.size_eq]), hf]
  · have hlast : k = done.length := by
      have hk' := (List.getElem?_eq_some_iff.mp hk).1
      rw [List.length_append, List.length_singleton] at hk'
      omega
    rw [hlast, List.getElem?_concat_length] at hk
    rw [hlast, ← h.size_eq]
    cases hk
    refine ⟨p.node, part, items, p.parent, [], hp.occurs, hp.location_eq ▸ hread,
      hp.parented.mono way, ?_⟩
    rw [hb', List.getElem?_append_right hlen.le, hlen, Nat.sub_self]
    rfl

/-- **One step**: what the element declares is recorded under the next index, and its children are
pending in front of the others. -/
theorem step (h : Halfway d root done (way :: todo) (p :: rest) seen b)
    (hread : partOf d p.node p.location = .ok (part, items)) :
    ∃ b', addTo b p.parent part.typeName part.id part.span part.bindings =
        .ok (b.elements.size, b') ∧
      Halfway d root (done ++ [way]) (childWays way 0 items.length ++ todo)
        (pendingFrom b.elements.size p.location 0 items ++ rest) (p.node :: seen) b' := by
  obtain ⟨hp, hrest⟩ := List.forall₂_cons.mp h.pending
  obtain ⟨hleft, hapart⟩ := List.pairwise_cons.mp h.apart
  obtain ⟨b', hadd, hb'⟩ := toList_addTo part (h.accepts hp.parented)
  obtain rfl := listed_of_partOf hread
  have hindex : (done ++ [way])[b.elements.size]? = some way := by
    rw [h.size_eq, List.getElem?_concat_length]
  have hahead : ∀ x ∈ done, x < way := fun x hx => h.ahead x hx way (List.mem_cons_self ..)
  refine ⟨b', hadd, {
    pending := ?pending, ordered := ?ordered, ahead := ?ahead, apart := ?apart
    covers := fun x i hx => h.covers_step hp.occurs hx, seen_eq := ?seen_eq, size_eq := ?size_eq
    recorded := fun k x hk => h.recorded_step hp hread hb' hk }⟩
  case pending =>
    rw [hp.location_eq]
    refine List.rel_append (awaits_pendingFrom hp.occurs hindex fun k => by rw [Nat.zero_add]) ?_
    exact hrest.imp fun x q hq => ⟨hq.occurs, hq.location_eq, hq.parented.mono way⟩
  case ordered =>
    refine List.pairwise_append.mpr ⟨h.ordered, List.pairwise_singleton _ _, ?_⟩
    exact fun x hx y hy => List.mem_singleton.mp hy ▸ hahead x hx
  case ahead =>
    intro x hx y hy
    -- what is read comes no later than the element, and what is pending comes after it
    have hle : x ≤ way := by
      rcases List.mem_append.mp hx with hx | hx
      · exact (hahead x hx).le
      · exact (List.mem_singleton.mp hx).le
    rcases List.mem_append.mp hy with hy | hy
    · obtain ⟨k, -, -, rfl⟩ := mem_childWays_iff.mp hy
      exact hle.trans_lt (lt_append_cons way k [])
    · exact hle.trans_lt (hleft y hy).lt
  case apart =>
    refine List.pairwise_append.mpr ⟨apart_childWays way 0 _, hapart, fun x hx y hy => ?_⟩
    obtain ⟨k, -, -, rfl⟩ := mem_childWays_iff.mp hx
    exact (hleft y hy).append [k]
  case seen_eq =>
    rw [List.map_append, h.seen_eq, List.reverse_cons, List.map_append, List.map_singleton,
      hp.occurs, List.map_singleton]
  case size_eq =>
    rw [← Array.length_toList, hb', List.length_append, length_adopt, Array.length_toList,
      h.size_eq, List.length_append]
    rfl

end Halfway

/-! ## Section 4: The whole run -/

/-- How a run that started halfway comes out: with the first fault, or with everything read. -/
def Settles (d : Document) (root : Nat) : Except ModelFault TreeBuilder → Prop
  | .error fault => FirstFault d root fault
  | .ok b => ∃ ways seen, seen.Nodup ∧ Halfway d root ways [] [] seen b

/-- **The run**: by induction on the number of steps left, which is never used up. -/
theorem readPending_halfway (hvisited : Visited d fuel seen)
    (h : Halfway d root done todo stack seen b) :
    Ends d stack seen b (readPending d fuel stack seen b) ∧
      Settles d root (readPending d fuel stack seen b) := by
  induction fuel generalizing done todo stack seen b with
  | zero =>
    obtain ⟨fuel, hfuel⟩ := hvisited.fuel_eq
    cases hfuel
  | succ fuel ih =>
    cases stack with
    | nil =>
      obtain rfl := List.forall₂_nil_right_iff.mp h.pending
      exact ⟨.done, done, seen, hvisited.nodup, h⟩
    | cons p rest =>
      obtain ⟨way, todo, hp, -, rfl⟩ := List.forall₂_cons_right_iff.mp h.pending
      by_cases hseen : p.node ∈ seen
      · -- only mappings are seen, and this one was read at an earlier way
        obtain ⟨entries, hnode⟩ := hvisited.mapping p.node hseen
        obtain ⟨earlier, hdone, hearlier⟩ := h.mem_seen_iff.mp hseen
        rw [readPending_again hnode hseen]
        refine ⟨.again hnode hseen, h.firstFault hvisited.nodup ?_⟩
        rw [hp.location_eq]
        exact .again (h.ahead earlier hdone way (List.mem_cons_self ..)) hearlier hp.occurs hnode
      · cases hread : partOf d p.node p.location with
        | error fault =>
          rw [readPending_fault hseen hread]
          refine ⟨.fault hseen hread, h.firstFault hvisited.nodup ?_⟩
          refine .own hp.occurs (fun earlier hlt hearlier => hseen ?_) (hp.location_eq ▸ hread)
          exact h.mem_seen_iff.mpr ⟨earlier, h.mem_done hearlier (h.lt_todo hlt), hearlier⟩
        | ok found =>
          obtain ⟨part, items⟩ := found
          obtain ⟨b', hadd, hnext⟩ := h.step hread
          obtain ⟨entries, hnode⟩ := map_of_partOf hread
          obtain ⟨hends, hsettles⟩ := ih (hvisited.visit hnode hseen) hnext
          rw [readPending_next hseen hread hadd]
          exact ⟨.next hseen hread hadd hends, hsettles⟩

/-- A tree read along ways: its elements are numbered as the ways are listed, which is in document
order, and each is what the mapping at the end of its way declares. -/
structure ReadAlong (d : Document) (root : Nat) (ways : List (List Nat)) (t : ElementTree) :
    Prop where
  ordered : ways.Pairwise (· < ·)
  mem_iff : ∀ way, way ∈ ways ↔ ∃ i, occurrence d root way = some i
  once : ∀ x ∈ ways, ∀ y ∈ ways, occurrence d root x = occurrence d root y → x = y
  size_eq : t.size = ways.length
  recorded : ∀ k way, ways[k]? = some way → Recorded d root ways way k t.elements.toList
  linked : Linked t.elements

/-- How the loop for a document ends: with the first fault, or with a tree read along the ways. -/
theorem buildTree_cases (d : Document) (root : Nat) :
    (∃ fault, Ends d [⟨root, none, "root"⟩] [] {} (.error fault) ∧
        buildTree d root = .error fault ∧ FirstFault d root fault) ∨
      ∃ b t ways, Ends d [⟨root, none, "root"⟩] [] {} (.ok b) ∧ b.build = .ok t ∧
        buildTree d root = .ok t ∧ ReadAlong d root ways t ∧
        ∀ way fault, ¬ FaultAt d root way fault := by
  have hvisited : Visited d (d.nodes.size + 1) [] :=
    ⟨List.nodup_nil, List.forall_mem_nil _, Nat.lt_succ_self _⟩
  obtain ⟨hends, hsettles⟩ := readPending_halfway hvisited (.start d root)
  cases hrun : readPending d (d.nodes.size + 1) [⟨root, none, "root"⟩] [] {} with
  | error fault =>
    rw [hrun] at hends hsettles
    refine Or.inl ⟨fault, hends, ?_, hsettles⟩
    rw [buildTree, hrun]
    rfl
  | ok b =>
    rw [hrun] at hends hsettles
    obtain ⟨ways, seen, hnodup, h⟩ := hsettles
    -- nothing is pending any more, so every way has been read
    have hall : ∀ {way i}, occurrence d root way = some i → way ∈ ways :=
      fun hway => h.mem_done hway (List.forall_mem_nil _)
    have hpos : 0 < b.elements.size := by
      rw [h.size_eq]
      exact List.length_pos_of_mem (hall (rfl : occurrence d root [] = some root))
    have hbuild : b.build = .ok ⟨b.elements, hpos⟩ := dif_pos hpos
    have htree : buildTree d root = .ok ⟨b.elements, hpos⟩ := by
      rw [buildTree, hrun, Outcome.ok_bind, hbuild]
      rfl
    refine Or.inr ⟨b, _, ways, hends, hbuild, htree, {
      ordered := h.ordered
      mem_iff := fun way => ⟨fun hway => ?_, fun hway => hway.elim fun _ => hall⟩
      once := fun x hx y hy => h.once hnodup hx hy
      size_eq := h.size_eq
      recorded := h.recorded
      linked := (buildTree_loaded htree).linked }, fun way fault hfault => ?_⟩
    · obtain ⟨k, hk⟩ := List.mem_iff_getElem?.mp hway
      obtain ⟨i, -, -, -, -, hi, -⟩ := h.recorded k way hk
      exact ⟨i, hi⟩
    · obtain ⟨i, hi⟩ := hfault.occurs
      exact h.not_faultAt hnodup (hall hi) hfault

/-- **Documents with anchors**: whatever nodes a document shares and whatever cycles it has, the
loop ends.  It ends with the first fault in document order, where there is one; that a mapping has
occurred before is a fault at the later occurrence.  Otherwise every element passes its own checks,
no mapping or other node occurs twice, and the tree has one element for each way; bindings and spans
may be shared. -/
theorem buildTree_anchored (d : Document) (root : Nat) :
    ((∃ fault, Ends d [⟨root, none, "root"⟩] [] {} (.error fault) ∧
        buildTree d root = .error fault) ∨
      ∃ b t, Ends d [⟨root, none, "root"⟩] [] {} (.ok b) ∧ b.build = .ok t ∧
        buildTree d root = .ok t) ∧
    (∀ fault, buildTree d root = .error fault ↔ FirstFault d root fault) ∧
    ((∃ t, buildTree d root = .ok t) ↔
      ∀ way i, occurrence d root way = some i →
        (∃ found, partOf d i (locationOf way) = .ok found) ∧
          ∀ other, occurrence d root other = some i → other = way) ∧
    ∀ t, buildTree d root = .ok t → ∃ ways, ReadAlong d root ways t := by
  rcases buildTree_cases d root with
    ⟨fault, hends, hbuild, hfirst⟩ | ⟨b, t, ways, hends, hb, hbuild, hread, hnone⟩
  · refine ⟨Or.inl ⟨fault, hends, hbuild⟩, fun other => ?_, ⟨?_, fun hall => ?_⟩, ?_⟩
    · rw [hbuild, Except.error.injEq]
      exact ⟨fun heq => heq ▸ hfirst, hfirst.unique⟩
    · rintro ⟨t, ht⟩
      cases hbuild.symm.trans ht
    · obtain ⟨way, hfault, -⟩ := hfirst
      cases hfault with
      | own hway _ hread =>
        obtain ⟨⟨found, hok⟩, -⟩ := hall way _ hway
        cases hread.symm.trans hok
      | again hlt hearlier hway _ =>
        exact absurd ((hall way _ hway).2 _ hearlier) hlt.ne
    · intro t ht
      cases hbuild.symm.trans ht
  · refine ⟨Or.inr ⟨b, t, hends, hb, hbuild⟩, fun other => ?_, ⟨fun _ way i hway => ?_, ?_⟩, ?_⟩
    · refine ⟨fun hother => ?_, fun ⟨way, hfault, _⟩ => absurd hfault (hnone way other)⟩
      cases hbuild.symm.trans hother
    · have hmem := (hread.mem_iff way).mpr ⟨i, hway⟩
      obtain ⟨k, hk⟩ := List.mem_iff_getElem?.mp hmem
      obtain ⟨i', part, items, -, -, hi', hok, -⟩ := hread.recorded k way hk
      cases hi'.symm.trans hway
      refine ⟨⟨_, hok⟩, fun other hother => ?_⟩
      exact hread.once other ((hread.mem_iff other).mpr ⟨i, hother⟩) way hmem
        (hother.trans hway.symm)
    · exact fun _ => ⟨t, hbuild⟩
    · intro t' ht'
      cases hbuild.symm.trans ht'
      exact ⟨ways, hread⟩

/-- A mapping among its own children, behind a child of its own. -/
def selfNested : Document where
  nodes := #[.scalar (.text "Item"), .scalar (.int 0), .list [1, 1],
    .map [(.text "type", 0), (.text "span", 2)],
    .map [(.text "type", 0), (.text "span", 2), (.text "children", 5)], .list [3, 4]]
  top := 4

/-- Three mappings that share their span and their list of bindings, whose span it is as well. -/
def sharedBindings : Document where
  nodes := #[.scalar (.text "Item"), .scalar (.int 0), .list [1, 1],
    .map [(.text "property", 0), (.text "expression", 0), (.text "span", 2)], .list [3],
    .map [(.text "type", 0), (.text "span", 2), (.text "bindings", 4)],
    .map [(.text "type", 0), (.text "span", 2), (.text "bindings", 4)], .list [5, 6],
    .map [(.text "type", 0), (.text "span", 2), (.text "bindings", 4), (.text "children", 7)]]
  top := 8

/-- A cycle is refused where it comes back to the mapping, and shared bindings make a tree. -/
theorem buildTree_anchored_selfNested :
    FirstFault selfNested 4 ⟨.repeated, "root.children[1]"⟩ ∧
      ∃ t ways, buildTree sharedBindings 8 = .ok t ∧ ReadAlong sharedBindings 8 ways t ∧
        ways.length = 3 ∧ ∀ way i, occurrence sharedBindings 8 way = some i →
          ∀ other, occurrence sharedBindings 8 other = some i → other = way := by
  have hcycle : buildTree selfNested 4 = .error ⟨.repeated, "root.children[1]"⟩ := by
    decide +kernel
  have hshared : (fun t => t.size) <$> buildTree sharedBindings 8 = .ok 3 := by decide +kernel
  obtain ⟨t, ht, hsize⟩ := Outcome.map_eq_ok_iff.mp hshared
  obtain ⟨-, -, hok, hread⟩ := buildTree_anchored sharedBindings 8
  obtain ⟨ways, hways⟩ := hread t ht
  exact ⟨((buildTree_anchored selfNested 4).2.1 _).mp hcycle, t, ways, ht, hways,
    hways.size_eq.symm.trans hsize, fun way i hway => (hok.mp ⟨t, ht⟩ way i hway).2⟩

end BindingAudit.Model
