import BindingAudit.Proofs.Model.Traversal

/-!
# Writing a tree as a document and reading it back

`ElementTree.document` writes a tree as the root of an element model.  Reading it gives the tree
back with the elements numbered as the walk meets them (`treeOfData_document`), and where the tree
was itself read from a document, that is the tree itself.

## Architecture

1. The document form of an element, and of a tree.
2. The document form describes the element, so it can be read.
3. The records of the element are those of the tree, in the order of the walk.
-/

namespace BindingAudit

/-! ## Section 1: The document form -/

/-- A span in the document form. -/
def Span.toData (s : Span) : Data :=
  .list [.int s.offset, .int s.length]

/-- A binding in the document form. -/
def Model.BindingPart.toData (b : Model.BindingPart) : Data :=
  .record [("property", .text b.property), ("expression", .text b.expression),
    ("span", b.span.toData)]

/-- A field with a list of items, which is left out where there are none. -/
def listField (key : String) (items : List Data) : List (String × Data) :=
  if items.isEmpty then [] else [(key, .list items)]

/-- The fields of an element with these children; what it does not declare is left out. -/
def ElementPart.fields (part : ElementPart) (children : List Data) : List (String × Data) :=
  [("type", .text part.typeName), ("span", part.span.toData)] ++
    (part.id.map fun id => ("id", Data.text id)).toList ++
    listField "bindings" (part.bindings.map (·.toData)) ++ listField "children" children

namespace ElementTerm

mutual

/-- An element in the document form. -/
def toData : ElementTerm → Data
  | .node part children => .record (part.fields (toDataAll children))

/-- Several elements in the document form. -/
def toDataAll : List ElementTerm → List Data
  | [] => []
  | term :: rest => toData term :: toDataAll rest

end

theorem toDataAll_eq (terms : List ElementTerm) : toDataAll terms = terms.map toData := by
  induction terms with
  | nil => rfl
  | cons term rest ih => rw [toDataAll, ih, List.map_cons]

end ElementTerm

namespace ElementTree

/-- What the element at an index declares. -/
def part (t : ElementTree) (i : Nat) : ElementPart :=
  let e := (t.get? i).getD default
  ⟨e.typeName, e.id, e.span, e.bindings.map fun b => ⟨b.property, b.expression, b.span⟩⟩

/-- An element with its descendants down to a depth below it. -/
def term (t : ElementTree) : Nat → Nat → ElementTerm
  | 0, i => .node (t.part i) []
  | depth + 1, i => .node (t.part i) ((t.children i).map (t.term depth))

/-- **A tree in the document form**: its root with all descendants. -/
def document (t : ElementTree) : Data :=
  (t.term (t.size - 1) 0).toData

end ElementTree

/-! ## Section 2: The document form describes the element -/

/-- What an element can declare in a model: a type with a name, and no negative span. -/
structure ElementPart.Valid (part : ElementPart) : Prop where
  typeName_ne : part.typeName ≠ ""
  span : part.span.Nonneg
  bindings : ∀ b ∈ part.bindings, b.span.Nonneg

/-- An element that can stand in a model with all its descendants. -/
inductive ElementTerm.Valid : ElementTerm → Prop
  | node {part : ElementPart} {children : List ElementTerm} (hpart : part.Valid)
      (hchildren : ∀ c ∈ children, Valid c) : Valid (.node part children)

namespace Model

open Data (entry)

/-- The entries of a mapping with text keys. -/
abbrev recordEntries (fields : List (String × Data)) : List (Scalar × Data) :=
  fields.map fun f => (.text f.1, f.2)

/-- What a field with items holds, or null where it is left out. -/
def listValue (items : List Data) : Data :=
  if items.isEmpty then .null else .list items

theorem describesItems_listValue (items : List Data) :
    DescribesItems (listValue items) items := by
  cases items with
  | nil => exact .absent rfl
  | cons v rest => exact .list _

/-- The fields of an element, by their keys. -/
theorem entry_fields (part : ElementPart) (children : List Data) :
    entry (recordEntries (part.fields children)) "type" = .text part.typeName ∧
      entry (recordEntries (part.fields children)) "span" = part.span.toData ∧
      entry (recordEntries (part.fields children)) "id" = part.id.elim .null Data.text ∧
      entry (recordEntries (part.fields children)) "bindings" =
        listValue (part.bindings.map (·.toData)) ∧
      entry (recordEntries (part.fields children)) "children" = listValue children := by
  obtain ⟨typeName, id, span, bindings⟩ := part
  cases id <;> cases bindings <;> cases children <;> exact ⟨rfl, rfl, rfl, rfl, rfl⟩

theorem describesBinding_toData {b : BindingPart} (h : b.span.Nonneg) :
    DescribesBinding b.toData b :=
  .map rfl rfl (.list h)

theorem describesPart_fields {part : ElementPart} (h : part.Valid) (children : List Data) :
    DescribesPart (recordEntries (part.fields children)) part := by
  obtain ⟨htype, hspan, hid, hbindings, -⟩ := entry_fields part children
  refine ⟨htype, h.typeName_ne, ?_, ?_, part.bindings.map (·.toData), ?_, ?_⟩
  · rw [hid]
    cases part.id with
    | none => exact .absent
    | some id => exact .text id
  · rw [hspan]
    exact .list h.span
  · rw [hbindings]
    exact describesItems_listValue _
  · rw [List.forall₂_map_left_iff, List.forall₂_same]
    exact fun b hb => describesBinding_toData (h.bindings b hb)

/-- **The document form of an element describes the element.** -/
theorem describes_toData {term : ElementTerm} (h : term.Valid) : Describes term.toData term := by
  induction h with
  | @node part children hpart hchildren ih =>
    obtain ⟨-, -, -, -, hlisted⟩ := entry_fields part (ElementTerm.toDataAll children)
    refine .map (describesPart_fields hpart _) (hlisted ▸ describesItems_listValue _) ?_
    rw [ElementTerm.toDataAll_eq, List.forall₂_map_left_iff, List.forall₂_same]
    exact ih

theorem acyclic_record {fields : List (String × Data)} (h : ∀ f ∈ fields, f.2.acyclic = true) :
    (Data.record fields).acyclic = true := by
  rw [Data.record, Data.acyclic, Data.acyclicEntries_eq, Data.acyclicItems_iff, List.map_map,
    List.forall_mem_map]
  exact h

theorem acyclic_listField {key : String} {items : List Data} (h : ∀ v ∈ items, v.acyclic = true) :
    ∀ f ∈ listField key items, f.2.acyclic = true := by
  unfold listField
  split
  · exact List.forall_mem_nil _
  · rw [List.forall_mem_singleton]
    exact Data.acyclicItems_iff.mpr h

theorem acyclic_toData {term : ElementTerm} (h : term.Valid) : term.toData.acyclic = true := by
  induction h with
  | @node part children _ _ ih =>
    refine acyclic_record ?_
    rw [ElementPart.fields]
    simp only [List.forall_mem_append]
    refine ⟨⟨⟨?_, ?_⟩, acyclic_listField ?_⟩, acyclic_listField ?_⟩
    · simp [Span.toData, Data.acyclic, Data.acyclicItems]
    · cases part.id <;> simp [Data.acyclic]
    · rw [List.forall_mem_map]
      exact fun b _ => rfl
    · rw [ElementTerm.toDataAll_eq, List.forall_mem_map]
      exact ih

/-- Reading the document form of an element gives its records. -/
theorem treeOfData_toData {term : ElementTerm} (h : term.Valid) :
    ∃ t, treeOfData term.toData = .ok t ∧ t.elements.toList = term.number none 0 := by
  have hread : readElement "root" term.toData = .ok term :=
    readElement_eq_ok_iff.mpr (describes_toData h)
  have hacyclic := acyclic_toData h
  rcases buildTree_of_unshared (Document.unshared_ofData hacyclic) with
    ⟨fault, hfault, -⟩ | ⟨term', t, hterm, hbuild, ht⟩
  · rw [Document.data_ofData hacyclic, hread] at hfault
    cases hfault
  · rw [Document.data_ofData hacyclic, hread] at hterm
    cases hterm
    exact ⟨t, hbuild, ht⟩

end Model

/-! ## Section 3: The records in the order of the walk -/

namespace ElementTree

open ElementTerm (starts numberAll sizeAll)

/-- The place of an index in the walk. -/
def position (t : ElementTree) (i : Nat) : Nat :=
  t.walk.idxOf i

/-- The element at an index, with its links and its bindings renumbered. -/
def renumbered (t : ElementTree) (pos : Nat → Nat) (i : Nat) : Element :=
  let e := (t.get? i).getD default
  { e with
    parent := e.parent.map pos
    children := e.children.map pos
    bindings := e.bindings.map fun b => { b with owner := pos i } }

variable {t : ElementTree} {pos : Nat → Nat} {depth i n p : Nat} {cs : List Nat}

theorem element_part (pos : Nat → Nat) {e : Element} (he : t.get? i = some e) :
    (t.part i).element (pos i) ((t.parent? i).map pos) ((t.children i).map pos) =
      t.renumbered pos i := by
  simp only [part, parent?, children, renumbered, ElementPart.element, he, Option.getD_some,
    Option.bind_some, Option.map_some, List.map_map]
  rfl

theorem sizeAll_terms (hsize : ∀ c, (t.term depth c).size = (t.subtree (depth + 1) c).length)
    (cs : List Nat) : sizeAll (cs.map (t.term depth)) =
      (cs.flatMap (t.subtree (depth + 1))).length := by
  induction cs with
  | nil => rfl
  | cons c cs ih =>
    rw [List.map_cons, sizeAll, hsize, ih, List.flatMap_cons, List.length_append]

theorem size_term (t : ElementTree) (depth i : Nat) :
    (t.term depth i).size = (t.subtree (depth + 1) i).length := by
  induction depth generalizing i with
  | zero => simp [term, subtree, ElementTerm.size, sizeAll]
  | succ depth ih =>
    rw [term, ElementTerm.size, sizeAll_terms ih, subtree, List.length_cons]

/-- The records of siblings, where those of each are known: their stretches follow each other. -/
theorem numberAll_terms
    (hnumber : ∀ c ∈ cs, ∀ m, (t.subtree (depth + 1) c).map pos =
        List.range' m (t.subtree (depth + 1) c).length →
      (t.term depth c).number (some p) m =
        (t.subtree (depth + 1) c).map (t.renumbered pos))
    (hpos : (cs.flatMap (t.subtree (depth + 1))).map pos =
      List.range' n (cs.flatMap (t.subtree (depth + 1))).length) :
    starts n (cs.map (t.term depth)) = cs.map pos ∧
      numberAll p n (cs.map (t.term depth)) =
        (cs.flatMap (t.subtree (depth + 1))).map (t.renumbered pos) := by
  induction cs generalizing n with
  | nil => exact ⟨rfl, rfl⟩
  | cons c cs ih =>
    rw [List.flatMap_cons, List.map_append, List.length_append, ← List.range'_append_1] at hpos
    -- consecutive positions: a first stretch for the first, the rest for the others
    obtain ⟨hfirst, hothers⟩ := List.append_inj hpos (by simp)
    obtain ⟨hstarts, hnumberAll⟩ :=
      ih (fun c hc => hnumber c (List.mem_cons_of_mem _ hc)) hothers
    have hhead : pos c = n := by
      rw [subtree, List.map_cons, List.length_cons, List.range'_succ] at hfirst
      exact (List.cons.inj hfirst).1
    constructor
    · rw [List.map_cons, starts, size_term, hstarts, List.map_cons, hhead]
    · rw [List.map_cons, numberAll, size_term, hnumberAll, List.flatMap_cons, List.map_append,
        hnumber c (List.mem_cons_self ..) n hfirst]

/-- **The records of an element** are those of its subtree, in order, if the positions in the
subtree are consecutive and the depth is enough for all descendants. -/
theorem number_term (h : Linked t.elements) (hi : i < t.size) (hdepth : t.size ≤ i + depth + 1)
    (hpos : (t.subtree (depth + 1) i).map pos =
      List.range' n (t.subtree (depth + 1) i).length) :
    (t.term depth i).number ((t.parent? i).map pos) n =
      (t.subtree (depth + 1) i).map (t.renumbered pos) := by
  have hbelow : ∀ {i c}, c ∈ t.children i → t.parent? c = some i ∧ i < c ∧ c < t.size := by
    intro i c hc
    obtain ⟨f, hf, hfp⟩ := (mem_children_iff h).mp hc
    exact ⟨parent?_eq_some_iff.mpr ⟨f, hf, hfp⟩, h.parent_lt hf hfp, lt_size_of_get? hf⟩
  induction depth generalizing i n with
  | zero =>
    -- the last index has no children, since these would lie behind it
    have hnil : t.children i = [] := by
      refine List.eq_nil_iff_forall_not_mem.mpr fun c hc => ?_
      obtain ⟨-, hlt, hsize⟩ := hbelow hc
      omega
    obtain ⟨e, he⟩ := get?_eq_some_of_lt hi
    have hrecord := element_part pos he
    rw [subtree, hnil] at hpos ⊢
    rw [hnil] at hrecord
    obtain rfl : pos i = n := (List.cons.inj hpos).1
    rw [term, ElementTerm.number]
    exact congrArg (· :: []) hrecord
  | succ depth ih =>
    obtain ⟨e, he⟩ := get?_eq_some_of_lt hi
    rw [subtree, List.map_cons, List.length_cons, List.range'_succ] at hpos
    obtain ⟨rfl, hothers⟩ := List.cons.inj hpos
    have hnumber : ∀ c ∈ t.children i, ∀ m, (t.subtree (depth + 1) c).map pos =
        List.range' m (t.subtree (depth + 1) c).length →
        (t.term depth c).number (some (pos i)) m =
          (t.subtree (depth + 1) c).map (t.renumbered pos) := by
      intro c hc m hm
      obtain ⟨hparent, hlt, hsize⟩ := hbelow hc
      have hrecords := ih hsize (by omega) hm
      rw [hparent] at hrecords
      exact hrecords
    obtain ⟨hstarts, hnumberAll⟩ := numberAll_terms hnumber hothers
    rw [term, ElementTerm.number, hstarts, hnumberAll, element_part pos he, subtree, List.map_cons]

/-- What is needed of a tree to write it as a model. -/
structure Writable (t : ElementTree) : Prop where
  typeName_ne : ∀ {i : Nat} {e : Element}, t.get? i = some e → e.typeName ≠ ""
  span : ∀ {i : Nat} {e : Element}, t.get? i = some e → e.span.Nonneg
  bindings : ∀ {i : Nat} {e : Element} {b : Binding}, t.get? i = some e → b ∈ e.bindings →
    b.span.Nonneg

theorem Writable.part (hw : t.Writable) (hi : i < t.size) : (t.part i).Valid := by
  obtain ⟨e, he⟩ := get?_eq_some_of_lt hi
  have hpart : t.part i =
      ⟨e.typeName, e.id, e.span, e.bindings.map fun b => ⟨b.property, b.expression, b.span⟩⟩ := by
    rw [ElementTree.part, he]
    rfl
  rw [hpart]
  refine ⟨hw.typeName_ne he, hw.span he, ?_⟩
  rw [List.forall_mem_map]
  exact fun b hb => hw.bindings he hb

theorem Writable.term (hw : t.Writable) (h : Linked t.elements) (hi : i < t.size) (depth : Nat) :
    (t.term depth i).Valid := by
  induction depth generalizing i with
  | zero => exact .node (hw.part hi) (List.forall_mem_nil _)
  | succ depth ih =>
    refine .node (hw.part hi) ?_
    rw [List.forall_mem_map]
    intro c hc
    obtain ⟨f, hf, -⟩ := (mem_children_iff h).mp hc
    exact ih (lt_size_of_get? hf)

theorem map_position_walk (h : Linked t.elements) :
    t.walk.map t.position = List.range t.walk.length := by
  refine List.ext_getElem (by simp) fun i hi hi' => ?_
  rw [List.getElem_map, List.getElem_range, position, (walk_nodup h).idxOf_getElem]

/-- **A written tree is read with its records in the order of the walk.** -/
theorem records_of_document (h : Linked t.elements) (hw : t.Writable) :
    ∃ t', Model.treeOfData t.document = .ok t' ∧
      t'.elements.toList = t.walk.map (t.renumbered t.position) := by
  obtain ⟨t', hread, ht'⟩ := Model.treeOfData_toData (hw.term h t.nonempty (t.size - 1))
  refine ⟨t', hread, ht'.trans ?_⟩
  have hpos : 0 < t.size := t.nonempty
  have hsize : t.size - 1 + 1 = t.size := by omega
  have hwalk : t.subtree (t.size - 1 + 1) 0 = t.walk := by rw [hsize, walk]
  have hplaces : (t.subtree (t.size - 1 + 1) 0).map t.position =
      List.range' 0 (t.subtree (t.size - 1 + 1) 0).length := by
    rw [hwalk, map_position_walk h, List.range_eq_range']
  have hrecords := number_term h t.nonempty (by omega) hplaces
  rw [parent?_zero h, hwalk] at hrecords
  exact hrecords

/-- Numbers that agree with the indices change nothing. -/
theorem renumbered_eq_self (h : Linked t.elements) (hpos : ∀ {j}, j < t.size → pos j = j)
    {e : Element} (he : t.get? i = some e) : t.renumbered pos i = e := by
  have hi := lt_size_of_get? he
  have hparent : e.parent.map pos = e.parent := by
    cases hp : e.parent with
    | none => rfl
    | some p =>
      have hlt := h.parent_lt he hp
      rw [Option.map_some, hpos (by omega)]
  have hchildren : e.children.map pos = e.children := by
    refine (List.map_congr_left (g := id) fun c hc => ?_).trans (List.map_id _)
    exact hpos ((h.mem_children_iff he).mp hc).lt_size
  have hbindings : e.bindings.map (fun b => { b with owner := pos i }) = e.bindings := by
    refine (List.map_congr_left (g := id) fun b hb => ?_).trans (List.map_id _)
    rw [hpos hi, ← h.owner_eq he hb]
    rfl
  rw [renumbered, he, Option.getD_some, hparent, hchildren, hbindings]

/-- The positions in the walk through a preordered arena are the indices, so its records stay. -/
theorem map_renumbered_of_preordered (h : Linked t.elements) (hpre : Preordered t.elements) :
    t.walk.map (t.renumbered t.position) = t.elements.toList := by
  have hposition : ∀ {i}, i < t.size → t.position i = i := by
    intro i hi
    have hget := (walk_nodup h).idxOf_getElem i (by rw [length_walk h]; exact hi)
    simp only [walk_eq_range h hpre, List.getElem_range] at hget
    rw [position, walk_eq_range h hpre]
    exact hget
  rw [walk_eq_range h hpre]
  refine List.ext_getElem (by simp [size]) fun i hi hi' => ?_
  obtain ⟨e, he⟩ := get?_eq_some_of_lt (t := t) (i := i) hi'
  rw [List.getElem_map, List.getElem_range, renumbered_eq_self h hposition he]
  exact Option.some.inj (he.symm.trans (Array.getElem?_eq_getElem hi'))

end ElementTree

namespace Model

/-! ## Section 4: What is read can be written -/

theorem head_named {d : Document} {entries : List (Scalar × Nat)} {location typeName : String}
    {id : Option String} {s : Span} (h : head d entries location = .ok (typeName, id, s)) :
    typeName ≠ "" := by
  unfold head at h
  split at h
  · split at h
    · cases h
    · next hne =>
      split at h
      · obtain ⟨s', -, h⟩ := Outcome.bind_eq_ok_iff.mp h
        cases h
        exact hne
      · obtain ⟨s', -, h⟩ := Outcome.bind_eq_ok_iff.mp h
        cases h
        exact hne
      · cases h
  · cases h

theorem accepts_of_addTo {b b' : TreeBuilder} {parent : Option Nat} {typeName : String}
    {id : Option String} {s : Span} {parts : List BindingPart} {index : Nat}
    (h : addTo b parent typeName id s parts = .ok (index, b')) : Accepts b parent := by
  obtain ⟨⟨index₁, b₁⟩, hadd, -⟩ := Outcome.bind_eq_ok_iff.mp h
  rcases TreeBuilder.addElement_cases hadd with ⟨hnone, hempty, -⟩ | ⟨q, hq, hlt, -⟩
  · rw [Option.map_eq_none_iff.mp hnone]
    exact .first hempty
  · obtain ⟨p, rfl, hpq⟩ := Option.map_eq_some_iff.mp hq
    obtain rfl : p = q := Int.ofNat.inj hpq
    exact .child hlt

theorem typeNames_adopt (es : List Element) (parent : Option Nat) (added : List Nat) :
    (adopt es parent added).map (·.typeName) = es.map (·.typeName) := by
  cases parent with
  | none => rfl
  | some p =>
    refine List.ext_getElem? fun i => ?_
    rw [List.getElem?_map, List.getElem?_map, adopt, List.getElem?_modify]
    cases es[i]? with
    | none => rfl
    | some e => by_cases hp : p = i <;> simp [hp]

/-- The loop adds no element without a name. -/
theorem readPending_named {d : Document} {fuel : Nat} {stack : List Pending} {seen : List Nat}
    {b b' : TreeBuilder} (hnamed : ∀ name ∈ b.elements.toList.map (·.typeName), name ≠ "")
    (h : readPending d fuel stack seen b = .ok b') :
    ∀ name ∈ b'.elements.toList.map (·.typeName), name ≠ "" := by
  induction fuel generalizing stack seen b with
  | zero =>
    cases stack with
    | nil =>
      cases h
      exact hnamed
    | cons p rest => cases h
  | succ fuel ih =>
    cases stack with
    | nil =>
      cases h
      exact hnamed
    | cons p rest =>
      obtain ⟨entries, typeName, id, s, parts, items, index, b₁, -, -, hhead, -, -, hadd, h⟩ :=
        readPending_cons h
      refine ih ?_ h
      obtain ⟨b₂, hadd₂, hb₂⟩ := toList_addTo ⟨typeName, id, s, parts⟩ (accepts_of_addTo hadd)
      cases hadd₂.symm.trans hadd
      rw [hb₂, List.map_append, typeNames_adopt, List.forall_mem_append]
      exact ⟨hnamed, List.forall_mem_singleton.mpr (head_named hhead)⟩

theorem buildTree_writable {d : Document} {root : Nat} {t : ElementTree}
    (h : buildTree d root = .ok t) : t.Writable := by
  have hloaded := buildTree_loaded h
  obtain ⟨b, hb, ht⟩ := readPending_of_buildTree h
  have hnamed := readPending_named (List.forall_mem_nil _) hb
  rw [← ht, List.forall_mem_map] at hnamed
  refine ⟨fun {i e} he => hnamed e ?_, hloaded.span_nonneg, hloaded.binding_nonneg⟩
  exact Array.mem_toList_iff.mpr (Array.mem_of_getElem? he)

/-- **A tree that was written and is read again** has the records of the tree in the order of its
walk, with the links and the owners of bindings renumbered to match.  A tree that was itself read
from a document comes back as it is. -/
theorem treeOfData_document :
    (∀ t : ElementTree, t.Built → t.Writable →
      ∃ t', treeOfData t.document = .ok t' ∧ t'.size = t.size ∧
        ∀ i < t.size, ∃ j e, t.walk[i]? = some j ∧ t.get? j = some e ∧
          t'.get? i = some { e with
            parent := e.parent.map t.position
            children := e.children.map t.position
            bindings := e.bindings.map fun b => { b with owner := i } }) ∧
      ∀ (d : Document) (root : Nat) (t : ElementTree), buildTree d root = .ok t →
        treeOfData t.document = .ok t := by
  constructor
  · intro t hbuilt hwritable
    have h := hbuilt.linked
    obtain ⟨t', hread, ht'⟩ := ElementTree.records_of_document h hwritable
    have hlength := ElementTree.length_walk h
    refine ⟨t', hread, ?_, ?_⟩
    · rw [ElementTree.size, ← Array.length_toList, ht', List.length_map, hlength]
    · intro i hi
      have hi' : i < t.walk.length := by omega
      have hwalk : t.walk[i]? = some t.walk[i] := List.getElem?_eq_getElem hi'
      have hj : t.walk[i] < t.size := (ElementTree.mem_walk_iff h).mp (List.getElem_mem hi')
      obtain ⟨e, he⟩ := ElementTree.get?_eq_some_of_lt hj
      have hposition : t.position t.walk[i] = i := (ElementTree.walk_nodup h).idxOf_getElem i hi'
      refine ⟨t.walk[i], e, hwalk, he, ?_⟩
      rw [ElementTree.get?, ← Array.getElem?_toList, ht', List.getElem?_map, hwalk,
        Option.map_some, ElementTree.renumbered, he, hposition]
      rfl
  · intro d root t hbuild
    have hloaded := buildTree_loaded hbuild
    obtain ⟨t', hread, ht'⟩ := ElementTree.records_of_document hloaded.linked
      (buildTree_writable hbuild)
    rw [ElementTree.map_renumbered_of_preordered hloaded.linked hloaded.preordered] at ht'
    obtain ⟨es, hes⟩ := t'
    obtain ⟨es', hes'⟩ := t
    -- a tree is its records
    obtain rfl : es = es' := Array.toList_inj.mp ht'
    exact hread

end Model

/-- A tree whose last element goes under the first child, behind the second child. -/
def ElementTree.interleaved : ElementTree :=
  ⟨#[{ typeName := "Item", span := ⟨0, 40⟩, id := some "top", children := [1, 2] },
    { typeName := "Row", span := ⟨5, 15⟩, parent := some 0, children := [3] },
    { typeName := "Text", span := ⟨25, 10⟩, id := some "", parent := some 0 },
    { typeName := "Image", span := ⟨8, 9⟩, parent := some 1,
      bindings := [⟨"x", "top.y", ⟨11, 5⟩, 3⟩] }], by decide⟩

theorem ElementTree.interleaved_built : ElementTree.interleaved.Built := by
  have h := TreeBuilder.Built.empty
  have h := h.addElement
    (rfl : TreeBuilder.addElement _ "Item" ⟨0, 40⟩ (some "top") none = .ok (_, _))
  have h := h.addElement (rfl : TreeBuilder.addElement _ "Row" ⟨5, 15⟩ none (some 0) = .ok (_, _))
  have h := h.addElement
    (rfl : TreeBuilder.addElement _ "Text" ⟨25, 10⟩ (some "") (some 0) = .ok (_, _))
  have h := h.addElement (rfl : TreeBuilder.addElement _ "Image" ⟨8, 9⟩ none (some 1) = .ok (_, _))
  have h := h.addBinding (rfl : TreeBuilder.addBinding _ 3 "x" "top.y" ⟨11, 5⟩ = .ok (_, _))
  exact ⟨_, h, rfl⟩

theorem ElementTree.interleaved_writable : ElementTree.interleaved.Writable := by
  have hall : ∀ e ∈ ElementTree.interleaved.elements.toList, e.typeName ≠ "" ∧
      (0 ≤ e.span.offset ∧ 0 ≤ e.span.length) ∧
      ∀ b ∈ e.bindings, 0 ≤ b.span.offset ∧ 0 ≤ b.span.length := by decide
  have hmem : ∀ {i : Nat} {e : Element}, ElementTree.interleaved.get? i = some e →
      e ∈ ElementTree.interleaved.elements.toList :=
    fun he => Array.mem_toList_iff.mpr (Array.mem_of_getElem? he)
  exact ⟨fun he => (hall _ (hmem he)).1, fun he => (hall _ (hmem he)).2.1,
    fun he hb => (hall _ (hmem he)).2.2 _ hb⟩

/-- The walk comes to the last element before the second child, and so does the new numbering; from
then on nothing moves. -/
theorem treeOfData_document_interleaved :
    ElementTree.interleaved.Built ∧ ElementTree.interleaved.Writable ∧
      ∃ t', Model.treeOfData ElementTree.interleaved.document = .ok t' ∧ t'.size = 4 ∧
        t'.get? 2 = some
          { typeName := "Image", span := ⟨8, 9⟩, parent := some 1,
            bindings := [⟨"x", "top.y", ⟨11, 5⟩, 2⟩] } ∧
        Model.treeOfData t'.document = .ok t' := by
  obtain ⟨t', hread, hsize, hrecords⟩ := Model.treeOfData_document.1 _
    ElementTree.interleaved_built ElementTree.interleaved_writable
  obtain ⟨j, e, hj, he, hrecord⟩ := hrecords 2 (by decide)
  refine ⟨ElementTree.interleaved_built, ElementTree.interleaved_writable, t', hread, hsize, ?_,
    Model.treeOfData_document.2 _ _ _ hread⟩
  have hwalk : ElementTree.interleaved.walk[2]? = some 3 := by decide
  obtain rfl : 3 = j := Option.some.inj (hwalk.symm.trans hj)
  obtain rfl := Option.some.inj he
  rw [hrecord]
  decide

end BindingAudit
