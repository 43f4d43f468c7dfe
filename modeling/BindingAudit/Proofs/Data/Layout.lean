import BindingAudit.Proofs.Data.Sharing
import Mathlib.Data.List.Zip

/-!
# The documents of values

`Document.ofData` lays out a value with the parts of every collection in front of it.  In the
document nothing is shared (`unshared_ofData`), and it denotes the value (`data_ofData`).

## Architecture

1. The parts of a value, beside those of a node.
2. Values laid out side by side (`Forest`): each takes a stretch of indices of its own, so there is
   one way to an index, and unfolding follows the ways back to the values.
3. `store` lays values out like this.
-/

namespace BindingAudit

namespace Data

/-- The values a value consists of, in order. -/
def parts : Data → List Data
  | .list items => items
  | .tuple items => items
  | .map entries => entries.map (·.2)
  | .scalar _ => []
  | .set _ => []
  | .again _ => []

mutual

/-- Whether no place in a value stands for a collection around it. -/
def acyclic : Data → Bool
  | .scalar _ => true
  | .list items => acyclicItems items
  | .tuple items => acyclicItems items
  | .map entries => acyclicEntries entries
  | .set _ => true
  | .again _ => false

/-- Whether this holds of several values. -/
def acyclicItems : List Data → Bool
  | [] => true
  | d :: rest => acyclic d && acyclicItems rest

/-- Whether this holds of the values of a mapping. -/
def acyclicEntries : List (Scalar × Data) → Bool
  | [] => true
  | (_, d) :: rest => acyclic d && acyclicEntries rest

end

theorem acyclicEntries_eq (entries : List (Scalar × Data)) :
    acyclicEntries entries = acyclicItems (entries.map (·.2)) := by
  induction entries with
  | nil => rfl
  | cons e rest ih => rw [acyclicEntries, ih, List.map_cons, acyclicItems]

theorem acyclicItems_iff {vs : List Data} :
    acyclicItems vs = true ↔ ∀ v ∈ vs, v.acyclic = true := by
  induction vs with
  | nil => simp [acyclicItems]
  | cons v rest ih => rw [acyclicItems, Bool.and_eq_true, ih, List.forall_mem_cons]

theorem acyclicItems_parts {v : Data} (h : v.acyclic = true) : acyclicItems v.parts = true := by
  cases v with
  | scalar s => rfl
  | list items => exact h
  | tuple items => exact h
  | map entries =>
    rw [acyclic, acyclicEntries_eq] at h
    exact h
  | set members => rfl
  | again levels => cases h

theorem sizeOf_parts_le (v : Data) : sizeOf v.parts ≤ sizeOf v := by
  cases v with
  | map entries =>
    have hle : ∀ es : List (Scalar × Data), sizeOf (es.map (·.2)) ≤ sizeOf es := by
      intro es
      induction es with
      | nil => exact le_refl _
      | cons e rest ih =>
        obtain ⟨key, v⟩ := e
        simp only [List.map_cons, List.cons.sizeOf_spec, Prod.mk.sizeOf_spec]
        omega
    have hentries := hle entries
    simp only [parts, map.sizeOf_spec]
    omega
  | _ => simp [parts]

end Data

/-! ## Section 1: Nodes like values -/

/-- A node of the kind of a value, with its scalar, its keys or its members. -/
inductive Node.Alike : Node → Data → Prop
  | scalar (s : Scalar) : Alike (.scalar s) (.scalar s)
  | list (items : List Nat) (values : List Data) : Alike (.list items) (.list values)
  | tuple (items : List Nat) (values : List Data) : Alike (.tuple items) (.tuple values)
  | map {entries : List (Scalar × Nat)} {values : List (Scalar × Data)}
      (hkeys : entries.map (·.1) = values.map (·.1)) : Alike (.map entries) (.map values)
  | set (members : List Scalar) : Alike (.set members) (.set members)

namespace Document

variable {d : Document} {lo hi j n m x y k : Nat} {vs : List Data} {cs w w' around : List Nat}

/-- A node unfolds to a value if it is like it and its parts unfold to those of the value. -/
theorem unfold_of_alike {i : Nat} {v : Data} (halike : (d.node i).Alike v) (hi : i ∉ around)
    (hparts : (d.node i).parts.map (d.unfold k (i :: around)) = v.parts) :
    d.unfold (k + 1) around i = v := by
  rw [unfold, List.idxOf?_eq_none_iff.mpr hi]
  generalize d.node i = node at halike hparts
  cases halike with
  | scalar s => rfl
  | list items values => exact congrArg Data.list hparts
  | tuple items values => exact congrArg Data.tuple hparts
  | @map entries values hkeys =>
    refine congrArg Data.map ?_
    have hzip : values = (values.map (·.1)).zip (values.map (·.2)) := List.zip_of_prod rfl rfl
    rw [hzip]
    refine List.zip_of_prod ?_ ?_
    · rw [List.map_map]
      exact hkeys
    · rw [List.map_map]
      rw [Node.parts, List.map_map] at hparts
      exact hparts
  | set members => rfl

/-! ## Section 2: Values side by side -/

/-- The indices from `lo` up to, not including, `hi` hold several values, one behind the other, each
behind its parts. -/
inductive Forest (d : Document) : Nat → List Data → List Nat → Nat → Prop
  | nil {lo hi : Nat} (h : lo ≤ hi) : Forest d lo [] [] hi
  | cons {lo c hi : Nat} {v : Data} {vs : List Data} {cs : List Nat}
      (halike : (d.node c).Alike v) (hparts : Forest d lo v.parts (d.node c).parts c)
      (hrest : Forest d (c + 1) vs cs hi) : Forest d lo (v :: vs) (c :: cs) hi

theorem Forest.le (h : d.Forest lo vs cs hi) : lo ≤ hi := by
  induction h with
  | nil h => exact h
  | cons _ _ _ hparts hrest => omega

/-- What is reached from several values lies in their stretch. -/
theorem Forest.range (h : d.Forest lo vs cs hi) (hx : x ∈ cs) (hw : d.follow x w = some j) :
    lo ≤ j ∧ j < hi := by
  induction h generalizing x w with
  | nil h => cases hx
  | @cons lo c hi v vs cs halike hparts hrest ihparts ihrest =>
    have hlo := hparts.le
    have hhi := hrest.le
    rcases List.mem_cons.mp hx with rfl | hx
    · cases w with
      | nil =>
        obtain rfl := Option.some.inj hw
        omega
      | cons n w =>
        obtain ⟨y, hy, hw⟩ := follow_cons_eq_some_iff.mp hw
        have hrange := ihparts (List.mem_of_getElem? hy) hw
        omega
    · have hrange := ihrest hx hw
      omega

/-- **One way to an index**: from several values, what is reached in two ways is reached from one
of them, and the ways are one. -/
theorem Forest.way_eq (h : d.Forest lo vs cs hi) (hx : cs[n]? = some x) (hy : cs[m]? = some y)
    (hw : d.follow x w = some j) (hw' : d.follow y w' = some j) : n = m ∧ w = w' := by
  induction h generalizing n m x y w w' with
  | nil h => cases hx
  | @cons lo c hi v vs cs halike hparts hrest ihparts ihrest =>
    have hhead : ∀ {w}, d.follow c w = some j → j < c + 1 := fun hw =>
      ((Forest.cons halike hparts (.nil le_rfl)).range (List.mem_cons_self ..) hw).2
    have htail : ∀ {z w : Nat}, cs[z]? = some w → ∀ {u}, d.follow w u = some j → c + 1 ≤ j :=
      fun hz _ hu => (hrest.range (List.mem_of_getElem? hz) hu).1
    have hinner : ∀ {z u}, d.follow c (z :: u) = some j → j < c := by
      intro z u hu
      obtain ⟨p, hp, hu⟩ := follow_cons_eq_some_iff.mp hu
      exact (hparts.range (List.mem_of_getElem? hp) hu).2
    cases n with
    | zero =>
      cases m with
      | zero =>
        obtain rfl := Option.some.inj hx
        obtain rfl := Option.some.inj hy
        refine ⟨rfl, ?_⟩
        -- the node itself is reached by no step, and what lies in front of it by one or more
        cases w with
        | nil =>
          obtain rfl := Option.some.inj hw
          cases w' with
          | nil => rfl
          | cons p w' => exact absurd (hinner hw') (lt_irrefl _)
        | cons p w =>
          cases w' with
          | nil =>
            obtain rfl := Option.some.inj hw'
            exact absurd (hinner hw) (lt_irrefl _)
          | cons q w' =>
            obtain ⟨a, ha, hw⟩ := follow_cons_eq_some_iff.mp hw
            obtain ⟨b, hb, hw'⟩ := follow_cons_eq_some_iff.mp hw'
            obtain ⟨rfl, rfl⟩ := ihparts ha hb hw hw'
            rfl
      | succ m =>
        obtain rfl := Option.some.inj hx
        have hlt := hhead hw
        have hle := htail hy hw'
        omega
    | succ n =>
      cases m with
      | zero =>
        obtain rfl := Option.some.inj hy
        have hlt := hhead hw'
        have hle := htail hx hw
        omega
      | succ m =>
        obtain ⟨rfl, rfl⟩ := ihrest hx hy hw hw'
        exact ⟨rfl, rfl⟩

/-- **Unfolding gives the values back**, with a level for each index of their stretch. -/
theorem Forest.unfold_eq (h : d.Forest lo vs cs hi) (hdepth : hi ≤ lo + k)
    (haround : ∀ j ∈ around, hi ≤ j) : cs.map (d.unfold k around) = vs := by
  induction h generalizing k around with
  | nil h => rfl
  | @cons lo c hi v vs cs halike hparts hrest ihparts ihrest =>
    have hlo := hparts.le
    have hhi := hrest.le
    obtain ⟨k, rfl⟩ : ∃ k', k = k' + 1 := ⟨k - 1, by omega⟩
    have hc : c ∉ around := by
      intro hmem
      have hle := haround c hmem
      omega
    rw [List.map_cons, ihrest (by omega) haround]
    refine congrArg (· :: vs) (unfold_of_alike halike hc (ihparts (by omega) ?_))
    intro j hj
    rcases List.mem_cons.mp hj with rfl | hj
    · exact le_rfl
    · have hle := haround j hj
      omega

/-! ## Section 3: Laying values out -/

theorem storeEntries_eq (ns : Array Node) (entries : List (Scalar × Data)) :
    storeEntries ns entries = ((storeItems ns (entries.map (·.2))).1,
      (entries.map (·.1)).zip (storeItems ns (entries.map (·.2))).2) := by
  induction entries generalizing ns with
  | nil => rfl
  | cons e rest ih =>
    simp only [storeEntries, storeItems, List.map_cons, List.zip_cons_cons, ih]

theorem length_storeItems (ns : Array Node) (vs : List Data) :
    (storeItems ns vs).2.length = vs.length := by
  induction vs generalizing ns with
  | nil => rfl
  | cons v rest ih => rw [storeItems, List.length_cons, List.length_cons, ih]

/-- A value goes behind its parts. -/
theorem store_eq (ns : Array Node) {v : Data} (h : v.acyclic = true) :
    ∃ node : Node, node.Alike v ∧ node.parts = (storeItems ns v.parts).2 ∧
      store ns v = ((storeItems ns v.parts).1.push node, (storeItems ns v.parts).1.size) := by
  cases v with
  | scalar s => exact ⟨.scalar s, .scalar s, rfl, rfl⟩
  | list items => exact ⟨.list _, .list _ _, rfl, rfl⟩
  | tuple items => exact ⟨.tuple _, .tuple _ _, rfl, rfl⟩
  | map entries =>
    have hlen : (entries.map (·.1)).length = (storeItems ns (entries.map (·.2))).2.length := by
      rw [length_storeItems, List.length_map, List.length_map]
    refine ⟨.map ((entries.map (·.1)).zip (storeItems ns (entries.map (·.2))).2), .map ?_, ?_, ?_⟩
    · exact List.map_fst_zip (le_of_eq hlen)
    · exact List.map_snd_zip (ge_of_eq hlen)
    · rw [store, storeEntries_eq]
      rfl
  | set members => exact ⟨.set members, .set members, rfl, rfl⟩
  | again levels => cases h

theorem node_of_prefix {ns : List Node} {node : Node} (h : ns ++ [node] <+: d.nodes.toList) :
    d.node ns.length = node := by
  obtain ⟨rest, hrest⟩ := h
  rw [Document.node, ← Array.getElem?_toList, ← hrest]
  simp

/-- **What is laid out**: the new nodes hold the values, whatever comes behind them, and the old
ones stay. -/
theorem storeItems_forest (ns : Array Node) (vs : List Data) (h : Data.acyclicItems vs = true) :
    ns.toList <+: (storeItems ns vs).1.toList ∧
      ∀ d : Document, (storeItems ns vs).1.toList <+: d.nodes.toList →
        d.Forest ns.size vs (storeItems ns vs).2 (storeItems ns vs).1.size := by
  match vs with
  | [] => exact ⟨List.prefix_rfl, fun d _ => .nil le_rfl⟩
  | v :: rest =>
    rw [Data.acyclicItems, Bool.and_eq_true] at h
    have hlt := Data.sizeOf_parts_le v
    -- first the parts of the head, then its own node, then the other values
    obtain ⟨hold, hparts⟩ := storeItems_forest ns v.parts (Data.acyclicItems_parts h.1)
    obtain ⟨node, halike, hnode, hstore⟩ := store_eq ns h.1
    have hpush : (store ns v).1.toList = (storeItems ns v.parts).1.toList ++ [node] := by
      rw [hstore, Array.toList_push]
    obtain ⟨hhead, hrest⟩ := storeItems_forest (store ns v).1 rest h.2
    rw [hpush] at hhead
    rw [storeItems]
    refine ⟨(hold.trans (List.prefix_append _ _)).trans hhead, fun d hd => ?_⟩
    have hown := hhead.trans hd
    have hfound := node_of_prefix hown
    rw [Array.length_toList] at hfound
    have hforest := hrest d hd
    rw [hstore, Array.size_push] at hforest
    rw [hstore]
    refine .cons ?_ ?_ hforest
    · rw [hfound]
      exact halike
    · rw [hfound, hnode]
      exact hparts d ((List.prefix_append _ _).trans hown)
termination_by sizeOf vs

/-- The document of a value holds the value and nothing else. -/
theorem forest_ofData {v : Data} (h : v.acyclic = true) :
    (ofData v).Forest 0 [v] [(ofData v).top] (ofData v).nodes.size := by
  have hitems : Data.acyclicItems [v] = true := by
    rw [Data.acyclicItems, h]
    rfl
  exact (storeItems_forest #[] [v] hitems).2 (ofData v) List.prefix_rfl

/-- **Nothing is shared in the document of a value.** -/
theorem unshared_ofData {v : Data} (h : v.acyclic = true) :
    (ofData v).Unshared (ofData v).top := by
  intro w w' j entries hw hw' _
  exact ((forest_ofData h).way_eq (n := 0) (m := 0) rfl rfl hw hw').2

/-- **The document of a value denotes the value.** -/
theorem data_ofData {v : Data} (h : v.acyclic = true) :
    (ofData v).data (.node (ofData v).top) = v := by
  have hunfold : [(ofData v).top].map ((ofData v).unfold ((ofData v).nodes.size + 1) []) = [v] :=
    (forest_ofData h).unfold_eq (by omega) (List.forall_mem_nil _)
  exact List.head_eq_of_cons_eq hunfold

end Document

end BindingAudit
