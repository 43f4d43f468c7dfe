import BindingAudit.Proofs.Data.Entries
import BindingAudit.Proofs.Data.Layout
import BindingAudit.Proofs.Model.Numbering

/-!
# Reading a document agrees with reading its value

`buildTree` reads a document that may share nodes, with a stack of pending nodes and a builder.
Where no mapping is shared this comes to reading the value that the document denotes, an element
before its children (`buildTree_agrees`).

## Architecture

1. The parts of an element: where a value shows a node, reading the one is reading the other.
2. One step of the loop, as the part of an element (`readPending_of_part`).
3. The loop: after the steps for an element and its descendants the loop goes on with what was
   pending behind it (`Resumes`).
-/

namespace BindingAudit.Model

open Data (entry)

variable {d : Document} {n : Node} {v : Data} {i k : Nat} {around items : List Nat}
  {entries : List (Scalar × Nat)} {values : List (Scalar × Data)} {key location : String}

/-! ## Section 1: The parts of an element -/

/-- A field of a mapping shows as the value under its key. -/
theorem shows_field (h : d.Shows (.map entries) (.map values)) (key : String) :
    d.Shows (fieldNode d entries key) (entry values key) := by
  cases h with
  | @map k around entries h =>
    rw [entry, lookupText_map, fieldNode]
    cases hfind : lookupText entries key with
    | none => exact .scalar .null
    | some c =>
      obtain ⟨e, he, rfl⟩ := Option.map_eq_some_iff.mp hfind
      obtain ⟨hwithin, hc⟩ := h e (List.mem_of_find?_eq_some he)
      exact hwithin.shows hc

theorem int?_of_shows (h : d.Shows n v) : v.int? = int? n := by
  cases h with
  | scalar s => cases s <;> rfl
  | _ => rfl

/-- An item of a list need not show as what it is, but then neither is an integer. -/
theorem int?_of_within (h : d.Within k around i) :
    (d.unfold k around i).int? = int? (d.node i) := by
  by_cases hi : i ∈ around
  · obtain ⟨⟨levels, hv⟩, hscalar, -⟩ := h.again hi
    rw [hv]
    cases hnode : d.node i with
    | scalar s => exact absurd hnode (hscalar s)
    | _ => rfl
  · exact int?_of_shows (h.shows hi)

/-- The two parts of a span. -/
theorem pair_of_shows (h : d.Shows n v) :
    (spanParts? d n = none ∧ v.pair? = none) ∨ ∃ a b x y, spanParts? d n = some (a, b) ∧
      v.pair? = some (x, y) ∧ x.int? = int? a ∧ y.int? = int? b := by
  cases h with
  | scalar s => exact Or.inl ⟨rfl, rfl⟩
  | @list k around items h =>
    match items with
    | [a, b] =>
      exact Or.inr ⟨_, _, _, _, rfl, rfl, int?_of_within (h a (by simp)),
        int?_of_within (h b (by simp))⟩
    | [] | [_] | _ :: _ :: _ :: _ => exact Or.inl ⟨rfl, rfl⟩
  | @tuple k around items h =>
    match items with
    | [a, b] =>
      exact Or.inr ⟨_, _, _, _, rfl, rfl, int?_of_within (h a (by simp)),
        int?_of_within (h b (by simp))⟩
    | [] | [_] | _ :: _ :: _ :: _ => exact Or.inl ⟨rfl, rfl⟩
  | map h =>
    -- by name there are always two parts: what is absent is null
    have hfield := shows_field (.map h)
    exact Or.inr ⟨_, _, _, _, rfl, rfl, int?_of_shows (hfield "offset"),
      int?_of_shows (hfield "length")⟩
  | set members => exact Or.inl ⟨rfl, rfl⟩

theorem readSpan_of_shows (h : d.Shows n v) : readSpan location v = span d n location := by
  rw [readSpan, span]
  rcases pair_of_shows h with ⟨hparts, hpair⟩ | ⟨a, b, x, y, hparts, hpair, hx, hy⟩
  · rw [hparts, hpair]
    rfl
  · simp only [hparts, hpair, check_some, Outcome.ok_bind, hx, hy]
    cases int? a with
    | none => rfl
    | some offset =>
      cases int? b with
      | none => rfl
      | some length =>
        simp only [check_some, Outcome.ok_bind]
        by_cases hsign : 0 ≤ offset ∧ 0 ≤ length
        · rw [if_pos hsign, if_neg (by omega)]
          rfl
        · rw [if_neg hsign, if_pos (by omega)]
          rfl

theorem head_of_shows (h : d.Shows (.map entries) (.map values)) :
    head d entries location = do
      let typeName ← check (entry values "type").typeName? .noType location
      let id ← check (entry values "id").id? .id location
      let s ← readSpan (location ++ ".span") (entry values "span")
      return (typeName, id, s) := by
  rw [head, readSpan_of_shows (shows_field h "span")]
  have htype := shows_field h "type"
  have hid := shows_field h "id"
  generalize fieldNode d entries "type" = a, entry values "type" = x at htype ⊢
  generalize fieldNode d entries "id" = b, entry values "id" = y at hid ⊢
  cases htype with
  | scalar s =>
    cases s with
    | text typeName =>
      by_cases hne : typeName = ""
      · rw [hne]
        rfl
      · have hname : (Data.text typeName).typeName? = some typeName :=
          typeName?_eq_some_iff.mpr ⟨rfl, hne⟩
        simp only [hne, if_false, hname, check_some, Outcome.ok_bind]
        cases hid with
        | scalar t => cases t <;> rfl
        | _ => rfl
    | _ => rfl
  | _ => rfl

theorem readBinding_of_shows (h : d.Shows n v) :
    readBinding location v = binding d n location := by
  cases h with
  | map h =>
    have hfield := shows_field (.map h)
    rw [readBinding, binding]
    simp only [Data.entries?, check_some, Outcome.ok_bind]
    rw [readSpan_of_shows (hfield "span")]
    have hproperty := hfield "property"
    have hexpression := hfield "expression"
    generalize fieldNode d _ "property" = a, entry _ "property" = x at hproperty ⊢
    generalize fieldNode d _ "expression" = b, entry _ "expression" = y at hexpression ⊢
    cases hproperty with
    | scalar s =>
      cases s with
      | text property =>
        cases hexpression with
        | scalar t => cases t <;> rfl
        | _ => rfl
      | _ => rfl
    | _ => rfl
  | _ => rfl

theorem readBinding_of_within (h : d.Within k around i) :
    readBinding location (d.unfold k around i) = binding d (d.node i) location := by
  by_cases hi : i ∈ around
  · obtain ⟨⟨levels, hv⟩, -, hmap⟩ := h.again hi
    rw [hv]
    cases hnode : d.node i with
    | map entries => exact absurd hnode (hmap entries)
    | _ => rfl
  · exact readBinding_of_shows (h.shows hi)

theorem readBindings_of_within {m : Nat} (h : ∀ x ∈ items, d.Within k around x) :
    readBindings location m (items.map (d.unfold k around)) = bindingsFrom d location m items := by
  induction items generalizing m with
  | nil => rfl
  | cons x rest ih =>
    rw [List.map_cons, readBindings, bindingsFrom,
      readBinding_of_within (h x (List.mem_cons_self ..)),
      ih fun y hy => h y (List.mem_cons_of_mem _ hy)]

theorem truthy_of_shows (h : d.Shows n v) : v.truthy = n.truthy := by
  cases h with
  | scalar s => rfl
  | list h => simp [Data.truthy, Node.truthy]
  | tuple h => simp [Data.truthy, Node.truthy]
  | map h => simp [Data.truthy, Node.truthy]
  | set members => rfl

/-- The items of a list; what counts as false has none. -/
theorem items_of_shows (h : d.Shows n v) :
    (listOf? n = none ∧ v.items? = none) ∨ ∃ k around items, listOf? n = some items ∧
      v.items? = some (items.map (d.unfold k around)) ∧ (∀ x ∈ items, d.Within k around x) ∧
      (items = [] ∨ n = .list items) := by
  unfold listOf? Data.items?
  rw [truthy_of_shows h]
  by_cases ht : n.truthy = true
  · rw [if_pos ht, if_pos ht]
    cases h with
    | @list k around items h => exact Or.inr ⟨k, around, items, rfl, rfl, h, Or.inr rfl⟩
    | _ => exact Or.inl ⟨rfl, rfl⟩
  · rw [if_neg ht, if_neg ht]
    exact Or.inr ⟨0, [], [], rfl, rfl, List.forall_mem_nil _, Or.inl rfl⟩

theorem bindings_of_shows (h : d.Shows (.map entries) (.map values)) :
    bindings d entries location =
      check (entry values "bindings").items? .bindingsShape location >>=
        readBindings location 0 := by
  rw [bindings]
  rcases items_of_shows (shows_field h "bindings") with
    ⟨hlist, hitems⟩ | ⟨k, around, items, hlist, hitems, hwithin, -⟩
  · rw [hlist, hitems]
    rfl
  · simp only [hlist, hitems, check_some, Outcome.ok_bind]
    exact (readBindings_of_within hwithin).symm

/-- Reading a part is reading its head, its bindings and the list of its children. -/
theorem readPart_of_shows (h : d.Shows (.map entries) (.map values)) :
    readPart location (.map values) = do
      let (typeName, id, s) ← head d entries location
      let parts ← bindings d entries location
      let items ← check (entry values "children").items? .childrenShape location
      return (⟨typeName, id, s, parts⟩, items) := by
  rw [readPart, head_of_shows h, bindings_of_shows h]
  simp only [Data.entries?, check_some, Outcome.ok_bind, bind_assoc, pure_bind]

/-! ## Section 2: One step of the loop -/

/-- A node shows as a mapping exactly if it is one. -/
theorem mapping_of_within (h : d.Within k around i) :
    (∃ entries values, d.node i = .map entries ∧ d.unfold k around i = .map values ∧
        d.Shows (.map entries) (.map values)) ∨
      (∀ entries, d.node i ≠ .map entries) ∧ (d.unfold k around i).entries? = none := by
  by_cases hi : i ∈ around
  · obtain ⟨⟨levels, hv⟩, -, hmap⟩ := h.again hi
    rw [hv]
    exact Or.inr ⟨hmap, rfl⟩
  · have hshows := h.shows hi
    generalize d.node i = n, d.unfold k around i = v at hshows ⊢
    cases hshows with
    | map hparts => exact Or.inl ⟨_, _, rfl, rfl, .map hparts⟩
    | _ => exact Or.inr ⟨nofun, rfl⟩

/-- The children of an element: what they share, and how they lie in the document. -/
structure Offspring (d : Document) (i k : Nat) (around items : List Nat) : Prop where
  within : ∀ x ∈ items, d.Within k around x
  reached : ∀ x ∈ items, d.Reaches i x
  not_back : ∀ x ∈ items, ¬ d.Reaches x i
  apart : d.Apart items

/-- The items of a list in a field: the list is a part of the mapping, the items are parts of the
list, and the mapping is in none of its parts. -/
theorem offspring_of_field (hunshared : d.Unshared i) (hnode : d.node i = .map entries)
    (hwithin : ∀ x ∈ items, d.Within k around x) (hfield : fieldNode d entries key = .list items) :
    Offspring d i k around items := by
  unfold fieldNode at hfield
  cases hfind : lookupText entries key with
  | none =>
    rw [hfind] at hfield
    cases hfield
  | some c =>
    rw [hfind] at hfield
    obtain ⟨e, he, rfl⟩ := Option.map_eq_some_iff.mp hfind
    have hmem : e.2 ∈ (d.node i).parts := by
      rw [hnode]
      exact List.mem_map_of_mem (List.mem_of_find?_eq_some he)
    obtain ⟨n, hn⟩ := List.mem_iff_getElem?.mp hmem
    have hparts : (d.node e.2).parts = items := congrArg Node.parts hfield
    have hlist : ∀ x ∈ items, ∀ {j}, d.Reaches x j → d.Reaches e.2 j := by
      intro x hx j hj
      obtain ⟨m, hm⟩ := List.mem_iff_getElem?.mp hx
      exact hj.of_part (hparts ▸ hm)
    exact {
      within := hwithin
      reached := fun x hx => (hlist x hx (.refl d x)).of_part hn
      not_back := fun x hx hback => hunshared.not_reaches_of_part hnode hn (hlist x hx hback)
      apart := hparts ▸ (hunshared.part hn).apart }

theorem children_of_shows (location : String) (hunshared : d.Unshared i)
    (hnode : d.node i = .map entries) (h : d.Shows (.map entries) (.map values)) :
    (children d entries location = .error ⟨.childrenShape, location⟩ ∧
        (entry values "children").items? = none) ∨
      ∃ k around items, children d entries location = .ok items ∧
        (entry values "children").items? = some (items.map (d.unfold k around)) ∧
        Offspring d i k around items := by
  rw [children]
  rcases items_of_shows (shows_field h "children") with
    ⟨hlist, hitems⟩ | ⟨k, around, items, hlist, hitems, hwithin, hfield⟩
  · rw [hlist]
    exact Or.inl ⟨rfl, hitems⟩
  · rw [hlist]
    refine Or.inr ⟨k, around, items, rfl, hitems, ?_⟩
    rcases hfield with rfl | hfield
    · exact ⟨hwithin, List.forall_mem_nil _, List.forall_mem_nil _, List.Pairwise.nil⟩
    · exact offspring_of_field hunshared hnode hwithin hfield

/-- The mappings the loop has read, with steps left for all the others. -/
structure Visited (d : Document) (fuel : Nat) (seen : List Nat) : Prop where
  nodup : seen.Nodup
  mapping : ∀ j ∈ seen, ∃ entries, d.node j = .map entries
  room : d.nodes.size < fuel + seen.length

variable {fuel : Nat} {seen : List Nat} {b : TreeBuilder} {parent : Option Nat}
  {rest : List Pending}

/-- Children reach nothing that was read before their parent, nor the parent. -/
theorem Offspring.fresh (h : Offspring d i k around items)
    (hfresh : ∀ j ∈ seen, ¬ d.Reaches i j) : ∀ x ∈ items, ∀ j ∈ i :: seen, ¬ d.Reaches x j := by
  intro x hx j hj hxj
  rcases List.mem_cons.mp hj with rfl | hj
  · exact h.not_back x hx hxj
  · exact hfresh j hj ((h.reached x hx).trans hxj)

theorem Visited.fuel_eq (h : Visited d fuel seen) : ∃ fuel', fuel = fuel' + 1 := by
  have hlen := Document.length_le_of_nodup h.nodup fun j hj => by
    obtain ⟨entries, hnode⟩ := h.mapping j hj
    exact Document.lt_size_of_map hnode
  have hroom := h.room
  exact ⟨fuel - 1, by omega⟩

theorem Visited.visit (h : Visited d (fuel + 1) seen) (hnode : d.node i = .map entries)
    (hseen : i ∉ seen) : Visited d fuel (i :: seen) := by
  refine ⟨List.nodup_cons.mpr ⟨hseen, h.nodup⟩,
    List.forall_mem_cons.mpr ⟨⟨_, hnode⟩, h.mapping⟩, ?_⟩
  have hroom := h.room
  rw [List.length_cons]
  omega

theorem readPending_of_map (hnode : d.node i = .map entries) (hseen : i ∉ seen) :
    readPending d (fuel + 1) (⟨i, parent, location⟩ :: rest) seen b = (do
      let (typeName, id, s) ← head d entries location
      let parts ← bindings d entries location
      let items ← children d entries location
      match addTo b parent typeName id s parts with
      | .error _ => .error ⟨.notMapping, location⟩
      | .ok (index, b) =>
        readPending d fuel (pendingFrom index location 0 items ++ rest) (i :: seen) b) := by
  rw [readPending, hnode]
  exact if_neg hseen

/-- **One step**: where a check of an element fails, so does the loop; otherwise the loop adds what
the element declares and goes on with its children. -/
theorem readPending_step (location : String) (hwithin : d.Within k around i)
    (hvisited : Visited d (fuel + 1) seen) (hseen : i ∉ seen) :
    (∃ fault, readPart location (d.unfold k around i) = .error fault ∧
        ∀ parent rest b, readPending d (fuel + 1) (⟨i, parent, location⟩ :: rest) seen b =
          .error fault) ∨
      ∃ part k' around' items,
        readPart location (d.unfold k around i) = .ok (part, items.map (d.unfold k' around')) ∧
        Offspring d i k' around' items ∧ Visited d fuel (i :: seen) ∧
        ∀ parent rest b b' index,
          addTo b parent part.typeName part.id part.span part.bindings = .ok (index, b') →
          readPending d (fuel + 1) (⟨i, parent, location⟩ :: rest) seen b =
            readPending d fuel (pendingFrom index location 0 items ++ rest) (i :: seen) b' := by
  rcases mapping_of_within hwithin with ⟨entries, values, hnode, hvalue, hshows⟩ | ⟨hmap, hentries⟩
  · -- both sides make the same checks in the same order; adding to the builder is not one of them
    simp only [hvalue, readPart_of_shows hshows, readPending_of_map hnode hseen]
    cases head d entries location with
    | error fault => exact Or.inl ⟨fault, rfl, fun _ _ _ => rfl⟩
    | ok found =>
      obtain ⟨typeName, id, s⟩ := found
      cases bindings d entries location with
      | error fault => exact Or.inl ⟨fault, rfl, fun _ _ _ => rfl⟩
      | ok parts =>
        simp only [Outcome.ok_bind]
        rcases children_of_shows location hwithin.unshared hnode hshows with
          ⟨hchildren, hitems⟩ | ⟨k', around', items, hchildren, hitems, hoffspring⟩
        · rw [hchildren, hitems]
          exact Or.inl ⟨_, rfl, fun _ _ _ => rfl⟩
        · rw [hchildren, hitems]
          refine Or.inr ⟨_, k', around', items, rfl, hoffspring, hvisited.visit hnode hseen, ?_⟩
          intro parent rest b b' index hadd
          simp only [Outcome.ok_bind, hadd]
  · refine Or.inl ⟨⟨.notMapping, location⟩, ?_, fun parent rest b => ?_⟩
    · rw [readPart, hentries]
      rfl
    · rw [readPending]
      split
      · next entries hnode => exact absurd hnode (hmap entries)
      · rfl

/-! ## Section 3: The loop -/

/-- How a run stands to what reading a value gives: it fails with the same fault, or it goes on with
what was pending, having added what the value describes and read mappings it had not yet met. -/
def Resumes {α : Type} (d : Document) (rest : List Pending) (seen : List Nat) (met : Nat → Prop)
    (added : α → TreeBuilder → Prop) (run : Except ModelFault TreeBuilder) :
    Except ModelFault α → Prop
  | .error fault => run = .error fault
  | .ok a => ∃ fuel seen' b, run = readPending d fuel rest seen' b ∧ Visited d fuel seen' ∧
      (∀ j ∈ seen', j ∈ seen ∨ met j) ∧ added a b

/-- **Runs in sequence**: a fault ends both sides alike, and after a result the run is that of the
state it came to. -/
theorem Resumes.bind {α β : Type} {rest₁ : List Pending} {seen₁ : List Nat} {met met₁ : Nat → Prop}
    {added : α → TreeBuilder → Prop} {added' : β → TreeBuilder → Prop}
    {run : Except ModelFault TreeBuilder} {x : Except ModelFault α} {f : α → Except ModelFault β}
    (h : Resumes d rest₁ seen₁ met₁ added run x)
    (hnext : ∀ a fuel seen₂ b, Visited d fuel seen₂ → (∀ j ∈ seen₂, j ∈ seen₁ ∨ met₁ j) →
      added a b → Resumes d rest seen met added' (readPending d fuel rest₁ seen₂ b) (f a)) :
    Resumes d rest seen met added' run (x >>= f) := by
  cases x with
  | error fault => exact h
  | ok a =>
    obtain ⟨fuel, seen₂, b, rfl, hvisited, hmet, hadded⟩ := h
    exact hnext a fuel seen₂ b hvisited hmet hadded

/-- The loop reads the element that a value describes, wherever the value lies in the document. -/
def ReadsElement (d : Document) (location : String) (v : Data) : Prop :=
  ∀ k around i parent fuel rest seen b, v = d.unfold k around i → d.Within k around i →
    Visited d fuel seen → (∀ j ∈ seen, ¬ d.Reaches i j) → Accepts b parent →
    Resumes d rest seen (d.Reaches i) (Grafted b parent)
      (readPending d fuel (⟨i, parent, location⟩ :: rest) seen b) (readElement location v)

/-- The loop reads the children that values describe, from the one with number `m` on. -/
def ReadsElements (d : Document) (location : String) (m : Nat) (vs : List Data) : Prop :=
  ∀ k around items p fuel rest seen b, vs = items.map (d.unfold k around) →
    (∀ x ∈ items, d.Within k around x) → d.Apart items → Visited d fuel seen →
    (∀ x ∈ items, ∀ j ∈ seen, ¬ d.Reaches x j) → p < b.elements.size →
    Resumes d rest seen (fun j => ∃ x ∈ items, d.Reaches x j) (GraftedAll b p)
      (readPending d fuel (pendingFrom p location m items ++ rest) seen b)
      (readElements location m vs)

theorem readsElement_of_fault {fault : ModelFault} (h : readPart location v = .error fault) :
    ReadsElement d location v := by
  rintro k around i parent fuel rest seen b rfl hwithin hvisited hfresh -
  obtain ⟨fuel, rfl⟩ := hvisited.fuel_eq
  have hseen : i ∉ seen := fun hmem => hfresh i hmem (.refl d i)
  rw [readElement_of_fault h]
  rcases readPending_step location hwithin hvisited hseen with
    ⟨fault', hread, hrun⟩ | ⟨part, k', around', items, hread, -⟩
  · cases hread.symm.trans h
    exact hrun parent rest b
  · cases hread.symm.trans h

theorem readsElement_of_part {part : ElementPart} {vs : List Data}
    (h : readPart location v = .ok (part, vs)) (hchildren : ReadsElements d location 0 vs) :
    ReadsElement d location v := by
  rintro k around i parent fuel rest seen b rfl hwithin hvisited hfresh haccepts
  obtain ⟨fuel, rfl⟩ := hvisited.fuel_eq
  have hseen : i ∉ seen := fun hmem => hfresh i hmem (.refl d i)
  rw [readElement_of_part h]
  rcases readPending_step location hwithin hvisited hseen with
    ⟨fault', hread, -⟩ | ⟨part', k', around', items, hread, hoffspring, hvisited', hrun⟩
  · cases hread.symm.trans h
  · cases hread.symm.trans h
    obtain ⟨b₁, hadd, hb₁⟩ := toList_addTo part haccepts
    rw [hrun _ _ _ _ _ hadd]
    have hlt : b.elements.size < b₁.elements.size := by
      rw [← Array.length_toList, ← Array.length_toList, hb₁, List.length_append, length_adopt,
        List.length_singleton]
      omega
    -- the children go under the element just added, with whatever was pending behind them
    have hresumes := hchildren k' around' items b.elements.size fuel rest (i :: seen) b₁ rfl
      hoffspring.within hoffspring.apart hvisited' (hoffspring.fresh hfresh) hlt
    refine hresumes.bind fun terms fuel₂ seen₂ b₂ hvisited₂ hmet hgrafted => ?_
    refine ⟨fuel₂, seen₂, b₂, rfl, hvisited₂, ?_, .node hb₁ hgrafted⟩
    intro j hj
    rcases hmet j hj with hj | ⟨x, hx, hxj⟩
    · rcases List.mem_cons.mp hj with rfl | hj
      · exact Or.inr (.refl d _)
      · exact Or.inl hj
    · exact Or.inr ((hoffspring.reached x hx).trans hxj)

theorem readsElements_nil (location : String) (m : Nat) : ReadsElements d location m [] := by
  intro k around items p fuel rest seen b hvs _ _ hvisited _ _
  obtain rfl := List.map_eq_nil_iff.mp hvs.symm
  rw [readElements_nil]
  exact ⟨fuel, seen, b, rfl, hvisited, fun j hj => Or.inl hj, .nil b p⟩

theorem readsElements_cons {m : Nat} {vs : List Data}
    (hhead : ReadsElement d (itemLocation location "children" m) v)
    (htail : ReadsElements d location (m + 1) vs) : ReadsElements d location m (v :: vs) := by
  intro k around items p fuel rest seen b hvs hwithin hapart hvisited hfresh hp
  obtain ⟨x, items, rfl, rfl, rfl⟩ := List.map_eq_cons_iff.mp hvs.symm
  rw [readElements_cons, pendingFrom, List.cons_append]
  rw [List.forall_mem_cons] at hwithin hfresh
  obtain ⟨happart, hrest⟩ := List.pairwise_cons.mp hapart
  have hfirst := hhead k around x (some p) fuel (pendingFrom p location (m + 1) items ++ rest) seen
    b rfl hwithin.1 hvisited hfresh.1 (.child hp)
  refine hfirst.bind fun term fuel₁ seen₁ b₁ hvisited₁ hmet₁ hgrafted₁ => ?_
  -- what the first has met, the others do not reach
  have hfresh₁ : ∀ y ∈ items, ∀ j ∈ seen₁, ¬ d.Reaches y j := by
    intro y hy j hj
    rcases hmet₁ j hj with hold | hxj
    · exact hfresh.2 y hy j hold
    · obtain ⟨entries, hnode⟩ := hvisited₁.mapping j hj
      exact happart y hy j entries hnode hxj
  have hp₁ : p < b₁.elements.size := by
    rw [hgrafted₁.size_eq]
    omega
  have hothers := htail k around items p fuel₁ rest seen₁ b₁ rfl hwithin.2 hrest hvisited₁
    hfresh₁ hp₁
  refine hothers.bind fun terms fuel₂ seen₂ b₂ hvisited₂ hmet₂ hgrafted₂ => ?_
  refine ⟨fuel₂, seen₂, b₂, rfl, hvisited₂, ?_, .cons hp hgrafted₁ hgrafted₂⟩
  intro j hj
  rcases hmet₂ j hj with hj | ⟨y, hy, hyj⟩
  · rcases hmet₁ j hj with hj | hxj
    · exact Or.inl hj
    · exact Or.inr ⟨x, List.mem_cons_self .., hxj⟩
  · exact Or.inr ⟨y, List.mem_cons_of_mem _ hy, hyj⟩

/-- **The loop reads elements**: by induction along the reading of the value. -/
theorem readsElement (d : Document) (location : String) (v : Data) :
    ReadsElement d location v := by
  refine readElement.induct (ReadsElement d) (ReadsElements d) ?fault ?part ?nil ?cons location v
  case fault => exact fun location v fault h => readsElement_of_fault h
  case part => exact fun location v part items h _ ih => readsElement_of_part h ih
  case nil => exact fun location m => readsElements_nil location m
  case cons => exact fun location m v rest hhead htail => readsElements_cons hhead htail

/-! ## Section 4: The tree -/

/-- The loop comes to an end with the tree, or with the fault, that reading the value comes to. -/
theorem buildTree_of_unshared {root : Nat} (h : d.Unshared root) :
    (∃ fault, readElement "root" (d.data (.node root)) = .error fault ∧
        buildTree d root = .error fault) ∨
      ∃ term t, readElement "root" (d.data (.node root)) = .ok term ∧ buildTree d root = .ok t ∧
        t.elements.toList = term.number none 0 := by
  have hresumes := readsElement d "root" (d.data (.node root)) _ _ root none (d.nodes.size + 1) []
    [] {} rfl h.within ⟨List.nodup_nil, List.forall_mem_nil _, by simp⟩ (List.forall_mem_nil _)
    (.first rfl)
  cases hread : readElement "root" (d.data (.node root)) with
  | error fault =>
    rw [hread] at hresumes
    refine Or.inl ⟨fault, rfl, ?_⟩
    rw [buildTree, hresumes]
    rfl
  | ok term =>
    rw [hread] at hresumes
    obtain ⟨fuel, seen, b, hrun, -, -, hgrafted⟩ := hresumes
    have hdone : readPending d fuel [] seen b = .ok b := by cases fuel <;> rfl
    have hpos : 0 < b.elements.size := by
      rw [hgrafted.size_eq]
      exact Nat.add_pos_right _ (ElementTerm.size_pos term)
    refine Or.inr ⟨term, ⟨b.elements, hpos⟩, rfl, ?_, hgrafted⟩
    rw [buildTree, hrun, hdone, Outcome.ok_bind, TreeBuilder.build, dif_pos hpos]
    rfl

/-- What reading a model comes to, by the value of its root: the tree has the records of the element
that the value describes, or the first check that fails is reported. -/
structure Agrees (result : Except ModelFault ElementTree) (v : Data) : Prop where
  built_iff : (∃ t, result = .ok t) ↔ ∃ term, Describes v term
  numbered : ∀ t, result = .ok t →
    ∃ term, Describes v term ∧ t.elements.toList = term.number none 0
  fault_iff : ∀ fault, result = .error fault ↔ readElement "root" v = .error fault

theorem Agrees.of_fault {fault : ModelFault} (hread : readElement "root" v = .error fault) :
    Agrees (.error fault) v := by
  refine ⟨⟨?_, ?_⟩, ?_, ?_⟩
  · rintro ⟨t, ht⟩
    cases ht
  · rintro ⟨term, hterm⟩
    have hok : readElement "root" v = .ok term := readElement_eq_ok_iff.mpr hterm
    cases hread.symm.trans hok
  · intro t ht
    cases ht
  · intro fault'
    rw [hread, Except.error.injEq, Except.error.injEq]

theorem Agrees.of_term {term : ElementTerm} {t : ElementTree}
    (hread : readElement "root" v = .ok term) (ht : t.elements.toList = term.number none 0) :
    Agrees (.ok t) v := by
  have hterm := readElement_eq_ok_iff.mp hread
  refine ⟨⟨fun _ => ⟨term, hterm⟩, fun _ => ⟨t, rfl⟩⟩, ?_, ?_⟩
  · intro t' ht'
    cases ht'
    exact ⟨term, hterm, ht⟩
  · intro fault
    rw [hread]
    constructor <;> nofun

/-- **Reading a document agrees with reading its value**: whatever else a document shares, where it
shares no mapping the tree is that of the element its value describes, if it describes one, and the
fault that of the first failing check otherwise.  No value without cycles shares anything. -/
theorem buildTree_agrees :
    (∀ (d : Document) (root : Nat), d.Unshared root →
        Agrees (buildTree d root) (d.data (.node root))) ∧
      ∀ v : Data, v.acyclic = true → Agrees (treeOfData v) v := by
  have hdocument : ∀ (d : Document) (root : Nat), d.Unshared root →
      Agrees (buildTree d root) (d.data (.node root)) := by
    intro d root h
    rcases buildTree_of_unshared h with ⟨fault, hread, hbuild⟩ | ⟨term, t, hread, hbuild, ht⟩
    · rw [hbuild]
      exact .of_fault hread
    · rw [hbuild]
      exact .of_term hread ht
  refine ⟨hdocument, fun v hv => ?_⟩
  have hvalue := hdocument _ _ (Document.unshared_ofData hv)
  rw [Document.data_ofData hv] at hvalue
  exact hvalue

/-- A mapping whose span is also its note: the two share a list, which has one item twice. -/
def sharedSpan : Document where
  nodes := #[.scalar (.int 0), .list [0, 0], .scalar (.text "Item"),
    .map [(.text "type", 2), (.text "span", 1), (.text "note", 1)]]
  top := 3

theorem unshared_sharedSpan : sharedSpan.Unshared 3 := by
  -- whatever lies in front of the mapping reaches nothing but what lies there
  have hinner : ∀ w c j, c < 3 → sharedSpan.follow c w = some j → j < 3 := by
    intro w
    induction w with
    | nil =>
      intro c j hc hw
      cases hw
      exact hc
    | cons n w ih =>
      intro c j hc hw
      obtain ⟨x, hx, hw⟩ := Document.follow_cons_eq_some_iff.mp hw
      refine ih x j ?_ hw
      have hparts : ∀ c < 3, ∀ x ∈ (sharedSpan.node c).parts, x < 3 := by decide
      exact hparts c hc x (List.mem_of_getElem? hx)
  have hmap : ∀ w j entries, sharedSpan.follow 3 w = some j → sharedSpan.node j = .map entries →
      w = [] := by
    intro w j entries hw hj
    cases w with
    | nil => rfl
    | cons n w =>
      obtain ⟨x, hx, hw⟩ := Document.follow_cons_eq_some_iff.mp hw
      have hparts : ∀ x ∈ (sharedSpan.node 3).parts, x < 3 := by decide
      have hlt := hinner w x j (hparts x (List.mem_of_getElem? hx)) hw
      match j, hlt with
      | 0, _ | 1, _ | 2, _ => cases hj
  intro w w' j entries hw hw' hj
  rw [hmap w j entries hw hj, hmap w' j entries hw' hj]

/-- Two faults: one in a grandchild, one in the child behind its parent. -/
def nestedFaults : Data :=
  .record [("type", .text "Item"), ("span", .list [.int 0, .int 9]), ("children", .list [
    .record [("type", .text "Row"), ("span", .tuple [.int 1, .int 2]), ("children", .list [
      .record [("type", .text "Text"), ("span", .list [.int 1, .bool true])]])],
    .record [("type", .text "")]])]

/-- A shared list does not matter, and of two faults the one of the earlier subtree is reported. -/
theorem buildTree_agrees_sharedSpan :
    sharedSpan.Unshared 3 ∧ Agrees (buildTree sharedSpan 3) (sharedSpan.data (.node 3)) ∧
      nestedFaults.acyclic = true ∧ Agrees (treeOfData nestedFaults) nestedFaults ∧
      readElement "root" nestedFaults =
        .error ⟨.spanNumbers, "root.children[0].children[0].span"⟩ := by
  have hacyclic : nestedFaults.acyclic = true := by decide
  have hagrees := buildTree_agrees.2 nestedFaults hacyclic
  have hfault : treeOfData nestedFaults =
      .error ⟨.spanNumbers, "root.children[0].children[0].span"⟩ := by decide +kernel
  exact ⟨unshared_sharedSpan, buildTree_agrees.1 _ _ unshared_sharedSpan, hacyclic, hagrees,
    (hagrees.fault_iff _).mp hfault⟩

end BindingAudit.Model
