import BindingAudit.Data.Document
import Mathlib.Data.List.Basic
import Mathlib.Data.List.Perm.Subperm

/-!
# Documents that share no mapping

`Document.Unshared` says that from a node no mapping is reached in two ways.  A list may still be
reached in several ways, and may even contain itself.

## Architecture

1. Ways: what is reached from a node by positions, and how ways compose.
2. Unfolding: with nothing but lists shared, the value of a node shows the node and its parts level
   by level (`Within.shows`), and only a list can stand for a collection around it
   (`Within.again`).
-/

namespace BindingAudit

/-- The indices a node refers to, in order. -/
def Node.parts : Node → List Nat
  | .list items => items
  | .tuple items => items
  | .map entries => entries.map (·.2)
  | .scalar _ => []
  | .set _ => []

namespace Document

/-- The node at the end of a way: at each node the way goes on to the part at a position. -/
def follow (d : Document) : Nat → List Nat → Option Nat
  | i, [] => some i
  | i, n :: way => (d.node i).parts[n]?.bind fun c => d.follow c way

/-- Some way leads from one node to another. -/
def Reaches (d : Document) (i j : Nat) : Prop :=
  ∃ way, d.follow i way = some j

/-- **No mapping is shared**: from a node, at most one way leads to a mapping. -/
def Unshared (d : Document) (i : Nat) : Prop :=
  ∀ w w' j entries, d.follow i w = some j → d.follow i w' = some j → d.node j = .map entries →
    w = w'

variable {d : Document} {i j c x y n m k : Nat} {w w' around : List Nat}
  {entries : List (Scalar × Nat)}

/-! ## Section 1: Ways -/

theorem follow_nil (d : Document) (i : Nat) : d.follow i [] = some i := rfl

theorem follow_cons_eq_some_iff :
    d.follow i (n :: w) = some j ↔ ∃ c, (d.node i).parts[n]? = some c ∧ d.follow c w = some j :=
  Option.bind_eq_some_iff

theorem follow_append (d : Document) (i : Nat) (w w' : List Nat) :
    d.follow i (w ++ w') = (d.follow i w).bind fun c => d.follow c w' := by
  induction w generalizing i with
  | nil => rfl
  | cons n w ih => simp only [List.cons_append, follow, ih, Option.bind_assoc]

theorem follow_trans (h : d.follow i w = some j) (h' : d.follow j w' = some c) :
    d.follow i (w ++ w') = some c := by
  rw [follow_append, h, Option.bind_some, h']

theorem follow_part (h : (d.node i).parts[n]? = some c) : d.follow i [n] = some c :=
  follow_cons_eq_some_iff.mpr ⟨c, h, rfl⟩

/-- An index outside the document denotes null, which has no parts. -/
theorem lt_size_of_part (h : (d.node i).parts[n]? = some c) : i < d.nodes.size := by
  by_contra hle
  rw [node, Array.getElem?_eq_none (Nat.le_of_not_lt hle), Option.getD_none] at h
  cases h

theorem lt_size_of_map (h : d.node i = .map entries) : i < d.nodes.size := by
  by_contra hle
  rw [node, Array.getElem?_eq_none (Nat.le_of_not_lt hle)] at h
  cases h

theorem Reaches.refl (d : Document) (i : Nat) : d.Reaches i i :=
  ⟨[], rfl⟩

theorem Reaches.trans (h : d.Reaches i j) (h' : d.Reaches j c) : d.Reaches i c := by
  obtain ⟨w, hw⟩ := h
  obtain ⟨w', hw'⟩ := h'
  exact ⟨w ++ w', follow_trans hw hw'⟩

theorem Reaches.of_part (hc : (d.node i).parts[n]? = some c) (h : d.Reaches c j) :
    d.Reaches i j := by
  obtain ⟨w, hw⟩ := h
  exact ⟨n :: w, follow_cons_eq_some_iff.mpr ⟨c, hc, hw⟩⟩

theorem Unshared.part (h : d.Unshared i) (hc : (d.node i).parts[n]? = some c) : d.Unshared c := by
  intro w w' j entries hw hw' hj
  exact List.tail_eq_of_cons_eq (h _ _ _ _ (follow_cons_eq_some_iff.mpr ⟨c, hc, hw⟩)
    (follow_cons_eq_some_iff.mpr ⟨c, hc, hw'⟩) hj)

/-- No way leads from a part of a mapping back to the mapping. -/
theorem Unshared.not_reaches_of_part (h : d.Unshared i) (hi : d.node i = .map entries)
    (hc : (d.node i).parts[n]? = some c) : ¬ d.Reaches c i := by
  rintro ⟨w, hw⟩
  have hnil := h _ _ _ _ (follow_nil d i) (follow_cons_eq_some_iff.mpr ⟨c, hc, hw⟩) hi
  cases hnil

/-- Ways to one mapping go through one part. -/
theorem Unshared.position_eq (h : d.Unshared i) (hx : (d.node i).parts[n]? = some x)
    (hy : (d.node i).parts[m]? = some y) (hj : d.node j = .map entries) (hxj : d.Reaches x j)
    (hyj : d.Reaches y j) : n = m := by
  obtain ⟨w, hw⟩ := hxj
  obtain ⟨w', hw'⟩ := hyj
  exact (List.cons.inj (h _ _ _ _ (follow_cons_eq_some_iff.mpr ⟨x, hx, hw⟩)
    (follow_cons_eq_some_iff.mpr ⟨y, hy, hw'⟩) hj)).1

/-- Nodes that no mapping is reached from in common. -/
def Apart (d : Document) (items : List Nat) : Prop :=
  items.Pairwise fun x y => ∀ j entries, d.node j = .map entries → d.Reaches x j → ¬ d.Reaches y j

theorem Unshared.apart (h : d.Unshared i) : d.Apart (d.node i).parts := by
  refine List.pairwise_iff_getElem.mpr fun n m hn hm hnm j entries hj hx hy => ?_
  have heq := h.position_eq (List.getElem?_eq_getElem hn) (List.getElem?_eq_getElem hm) hj hx hy
  omega

/-! ## Section 2: Unfolding -/

theorem length_le_of_nodup {l : List Nat} (h : l.Nodup) (hlt : ∀ j ∈ l, j < n) : l.length ≤ n := by
  have hsub : l ⊆ List.range n := fun j hj => List.mem_range.mpr (hlt j hj)
  have hlen := (List.subperm_of_subset h hsub).length_le
  rwa [List.length_range] at hlen

/-- A node as unfolding comes to it: what it shares, and how it lies in the collections around it,
which leave enough of the depth for whatever is still to come. -/
structure Within (d : Document) (k : Nat) (around : List Nat) (i : Nat) : Prop where
  unshared : d.Unshared i
  leads : ∀ j ∈ around, ∃ n w, d.follow j (n :: w) = some i
  nodup : around.Nodup
  room : d.nodes.size < k + around.length

theorem Unshared.within (h : d.Unshared i) : d.Within (d.nodes.size + 1) [] i := by
  refine ⟨h, ?_, List.nodup_nil, by simp⟩
  intro j hj
  cases hj

/-- The depth is not used up: the collections around a node are different nodes of the document. -/
theorem Within.depth_eq (h : d.Within k around i) : ∃ k', k = k' + 1 := by
  -- each of them has a part, so it lies in the document
  have hlen := length_le_of_nodup h.nodup fun j hj => by
    obtain ⟨n, w, hw⟩ := h.leads j hj
    obtain ⟨c, hc, -⟩ := follow_cons_eq_some_iff.mp hw
    exact lt_size_of_part hc
  have hroom := h.room
  exact ⟨k - 1, by omega⟩

theorem Within.part (h : d.Within (k + 1) around i) (hi : i ∉ around)
    (hc : (d.node i).parts[n]? = some c) : d.Within k (i :: around) c := by
  refine ⟨h.unshared.part hc, ?_, List.nodup_cons.mpr ⟨hi, h.nodup⟩, ?_⟩
  · intro j hj
    rcases List.mem_cons.mp hj with rfl | hj
    · exact ⟨n, [], follow_part hc⟩
    · obtain ⟨m, w, hw⟩ := h.leads j hj
      exact ⟨m, w ++ [n], follow_trans hw (follow_part hc)⟩
  · have hroom := h.room
    rw [List.length_cons]
    omega

theorem Within.of_mem (h : d.Within (k + 1) around i) (hi : i ∉ around)
    (hc : c ∈ (d.node i).parts) : d.Within k (i :: around) c := by
  obtain ⟨n, hn⟩ := List.mem_iff_getElem?.mp hc
  exact h.part hi hn

/-- A mapping is not around itself. -/
theorem Within.not_mem (h : d.Within k around i) (hi : d.node i = .map entries) :
    i ∉ around := by
  intro hmem
  -- the way of no steps and a way around both lead to it
  obtain ⟨n, w, hw⟩ := h.leads i hmem
  have hnil := h.unshared _ _ _ _ (follow_nil d i) hw hi
  cases hnil

/-- Nor is a part of it. -/
theorem Within.part_not_mem (h : d.Within k around i) (hi : d.node i = .map entries)
    (hc : c ∈ (d.node i).parts) : c ∉ i :: around := by
  obtain ⟨n, hc⟩ := List.mem_iff_getElem?.mp hc
  intro hmem
  -- otherwise a way leads from the part to the mapping
  refine h.unshared.not_reaches_of_part hi hc ?_
  rcases List.mem_cons.mp hmem with rfl | hmem
  · exact Reaches.refl d _
  · obtain ⟨m, w, hw⟩ := h.leads c hmem
    exact ⟨m :: w, hw⟩

/-- A value shows a node, and its parts are those of the node unfolded. -/
inductive Shows (d : Document) : Node → Data → Prop
  | scalar (s : Scalar) : Shows d (.scalar s) (.scalar s)
  | list {k : Nat} {around items : List Nat} (h : ∀ x ∈ items, d.Within k around x) :
      Shows d (.list items) (.list (items.map (d.unfold k around)))
  | tuple {k : Nat} {around items : List Nat} (h : ∀ x ∈ items, d.Within k around x) :
      Shows d (.tuple items) (.tuple (items.map (d.unfold k around)))
  | map {k : Nat} {around : List Nat} {entries : List (Scalar × Nat)}
      (h : ∀ e ∈ entries, d.Within k around e.2 ∧ e.2 ∉ around) :
      Shows d (.map entries) (.map (entries.map fun e => (e.1, d.unfold k around e.2)))
  | set (members : List Scalar) : Shows d (.set members) (.set members)

/-- **What unfolding shows**: a node that is not around itself shows as what it is. -/
theorem Within.shows (h : d.Within k around i) (hi : i ∉ around) :
    d.Shows (d.node i) (d.unfold k around i) := by
  obtain ⟨k, rfl⟩ := h.depth_eq
  have hparts : ∀ c ∈ (d.node i).parts, d.Within k (i :: around) c := fun c hc => h.of_mem hi hc
  rw [unfold, List.idxOf?_eq_none_iff.mpr hi]
  cases hnode : d.node i with
  | scalar s => exact .scalar s
  | list items =>
    rw [hnode] at hparts
    exact .list hparts
  | tuple items =>
    rw [hnode] at hparts
    exact .tuple hparts
  | map entries =>
    refine .map fun e he => ?_
    have hmem : e.2 ∈ (d.node i).parts := by
      rw [hnode]
      exact List.mem_map_of_mem he
    exact ⟨hparts _ hmem, h.part_not_mem hnode hmem⟩
  | set members => exact .set members

/-- A node around itself shows as a collection around it, and is a list or a tuple. -/
theorem Within.again (h : d.Within k around i) (hi : i ∈ around) :
    (∃ levels, d.unfold k around i = .again levels) ∧ (∀ s, d.node i ≠ .scalar s) ∧
      ∀ entries, d.node i ≠ .map entries := by
  obtain ⟨k, rfl⟩ := h.depth_eq
  refine ⟨?_, ?_, fun entries hnode => h.not_mem hnode hi⟩
  · cases hidx : around.idxOf? i with
    | none => exact absurd hi (List.idxOf?_eq_none_iff.mp hidx)
    | some levels =>
      rw [unfold, hidx]
      exact ⟨levels, rfl⟩
  · intro s hnode
    obtain ⟨n, w, hw⟩ := h.leads i hi
    obtain ⟨c, hc, -⟩ := follow_cons_eq_some_iff.mp hw
    rw [hnode] at hc
    cases hc

end Document

end BindingAudit
