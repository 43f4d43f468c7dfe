import BindingAudit.Proofs.Model.Reading

/-!
# The grammar of element models

Which values describe an element, and which element a value describes.  `Describes` states the
grammar; `readElement` decides it by one check after the other, an element before its children and
siblings from left to right, and names the first check that fails.

## Architecture

1. The grammar, as relations between a value and what it describes.
2. The checks, in the order in which they are made.
3. The checks decide the grammar (`readElement_eq_ok_iff`).
-/

namespace BindingAudit

/-- What an element declares besides its children. -/
structure ElementPart where
  typeName : String
  id : Option String
  span : Span
  bindings : List Model.BindingPart
deriving DecidableEq, Repr

/-- An element with its descendants, before they have a place in an arena. -/
inductive ElementTerm where
  | node (part : ElementPart) (children : List ElementTerm)

namespace Data

/-- The value of a key; a key that is absent has null. -/
def entry (entries : List (Scalar × Data)) (key : String) : Data :=
  (lookupText entries key).getD .null

/-- The integer, if the value is one. -/
def int? : Data → Option Int
  | .scalar (.int i) => some i
  | _ => none

/-- The text, if the value is one that is not empty. -/
def typeName? (v : Data) : Option String :=
  v.text?.filter (· ≠ "")

/-- The id, which null leaves out, if the value may stand for one. -/
def id? : Data → Option (Option String)
  | .scalar .null => some none
  | v => v.text?.map some

/-- The two values of a pair: those of a list or a tuple of two, or those a mapping has under the
keys of a span. -/
def pair? : Data → Option (Data × Data)
  | .list [a, b] | .tuple [a, b] => some (a, b)
  | .map entries => some (entry entries "offset", entry entries "length")
  | _ => none

/-- The items of a list; what counts as false has none. -/
def items? (v : Data) : Option (List Data) :=
  if v.truthy then
    match v with
    | .list items => some items
    | _ => none
  else some []

end Data

namespace Model

open Data (entry)

/-! ## Section 1: The grammar -/

/-- A span: two numbers that are not negative, in a row or by name. -/
inductive DescribesSpan : Data → Span → Prop
  | list {s : Span} (h : s.Nonneg) : DescribesSpan (.list [.int s.offset, .int s.length]) s
  | tuple {s : Span} (h : s.Nonneg) : DescribesSpan (.tuple [.int s.offset, .int s.length]) s
  | map {entries : List (Scalar × Data)} {s : Span} (h : s.Nonneg)
      (hoffset : entry entries "offset" = .int s.offset)
      (hlength : entry entries "length" = .int s.length) : DescribesSpan (.map entries) s

/-- An id: a text, or null where there is none. -/
inductive DescribesId : Data → Option String → Prop
  | absent : DescribesId .null none
  | text (id : String) : DescribesId (.text id) (some id)

/-- A binding: a mapping with a property, an expression and a span. -/
inductive DescribesBinding : Data → BindingPart → Prop
  | map {entries : List (Scalar × Data)} {b : BindingPart}
      (hproperty : entry entries "property" = .text b.property)
      (hexpression : entry entries "expression" = .text b.expression)
      (hspan : DescribesSpan (entry entries "span") b.span) : DescribesBinding (.map entries) b

/-- Items: those of a list, and none where the value counts as false. -/
inductive DescribesItems : Data → List Data → Prop
  | absent {v : Data} (h : v.truthy = false) : DescribesItems v []
  | list (items : List Data) : DescribesItems (.list items) items

/-- What an element declares, from the entries of its mapping. -/
structure DescribesPart (entries : List (Scalar × Data)) (part : ElementPart) : Prop where
  typeName : entry entries "type" = .text part.typeName
  typeName_ne : part.typeName ≠ ""
  id : DescribesId (entry entries "id") part.id
  span : DescribesSpan (entry entries "span") part.span
  bindings : ∃ items, DescribesItems (entry entries "bindings") items ∧
    List.Forall₂ DescribesBinding items part.bindings

/-- **The grammar of elements**: a mapping that declares an element, with items that describe the
children. -/
inductive Describes : Data → ElementTerm → Prop
  | map {entries : List (Scalar × Data)} {part : ElementPart} {items : List Data}
      {children : List ElementTerm} (hpart : DescribesPart entries part)
      (hitems : DescribesItems (entry entries "children") items)
      (hchildren : List.Forall₂ Describes items children) :
      Describes (.map entries) (.node part children)

/-! ## Section 2: The checks in order -/

/-- What a check finds, or its fault. -/
def check {α : Type} (found : Option α) (reason : ModelReason) (location : String) :
    Except ModelFault α :=
  match found with
  | some a => .ok a
  | none => .error ⟨reason, location⟩

/-- The span a value describes: its shape, then its numbers, then their signs. -/
def readSpan (location : String) (v : Data) : Except ModelFault Span := do
  let (a, b) ← check v.pair? .spanShape location
  let offset ← check a.int? .spanNumbers location
  let length ← check b.int? .spanNumbers location
  check (if 0 ≤ offset ∧ 0 ≤ length then some ⟨offset, length⟩ else none) .spanNegative location

/-- The binding a value describes. -/
def readBinding (location : String) (v : Data) : Except ModelFault BindingPart := do
  let entries ← check v.entries? .bindingShape location
  let property ← check (entry entries "property").text? .bindingTexts location
  let expression ← check (entry entries "expression").text? .bindingTexts location
  let span ← readSpan (location ++ ".span") (entry entries "span")
  return ⟨property, expression, span⟩

/-- The bindings that values describe, from the one with number `i` on. -/
def readBindings (location : String) : Nat → List Data → Except ModelFault (List BindingPart)
  | _, [] => .ok []
  | i, v :: rest => do
    let b ← readBinding (itemLocation location "bindings" i) v
    let bs ← readBindings location (i + 1) rest
    return b :: bs

/-- What an element declares, and the values of its children, which are not looked into. -/
def readPart (location : String) (v : Data) : Except ModelFault (ElementPart × List Data) := do
  let entries ← check v.entries? .notMapping location
  let typeName ← check (entry entries "type").typeName? .noType location
  let id ← check (entry entries "id").id? .id location
  let span ← readSpan (location ++ ".span") (entry entries "span")
  let listed ← check (entry entries "bindings").items? .bindingsShape location
  let bindings ← readBindings location 0 listed
  let items ← check (entry entries "children").items? .childrenShape location
  return (⟨typeName, id, span, bindings⟩, items)

@[simp] theorem check_some {α : Type} (a : α) (reason : ModelReason) (location : String) :
    check (some a) reason location = .ok a := rfl

@[simp] theorem check_none {α : Type} (reason : ModelReason) (location : String) :
    check (none : Option α) reason location = .error ⟨reason, location⟩ := rfl

theorem check_eq_ok_iff {α : Type} {found : Option α} {reason : ModelReason} {location : String}
    {a : α} : check found reason location = .ok a ↔ found = some a := by
  cases found with
  | none => simp [check]
  | some b => simp [check]

theorem entry_null_or_sizeOf_lt (entries : List (Scalar × Data)) (key : String) :
    entry entries key = .null ∨ sizeOf (entry entries key) < sizeOf entries := by
  unfold entry lookupText
  cases hfind : entries.find? fun e => e.1 == .text key with
  | none => exact Or.inl rfl
  | some e =>
    obtain ⟨k, v⟩ := e
    have hmem := List.sizeOf_lt_of_mem (List.mem_of_find?_eq_some hfind)
    refine Or.inr ?_
    simp only [Option.map_some, Option.getD_some, Prod.mk.sizeOf_spec] at hmem ⊢
    omega

theorem sizeOf_items?_lt {entries : List (Scalar × Data)} {key : String} {items : List Data}
    (h : (entry entries key).items? = some items) : sizeOf items < sizeOf (Data.map entries) := by
  have hentries : 1 ≤ sizeOf entries := by
    cases entries with
    | nil => simp
    | cons e rest =>
      rw [List.cons.sizeOf_spec]
      omega
  have hlt := entry_null_or_sizeOf_lt entries key
  rw [Data.map.sizeOf_spec]
  unfold Data.items? at h
  split at h
  · split at h
    · next items' hlist =>
      rw [hlist] at hlt
      obtain rfl : items' = items := Option.some.inj h
      simp only [reduceCtorEq, Data.list.sizeOf_spec, false_or] at hlt
      omega
    · cases h
  · obtain rfl := Option.some.inj h
    simp only [List.nil.sizeOf_spec]
    omega

theorem sizeOf_children_lt {location : String} {v : Data} {part : ElementPart}
    {items : List Data} (h : readPart location v = .ok (part, items)) :
    sizeOf items < sizeOf v := by
  -- of all that was checked only the mapping and its children matter
  simp only [readPart, Outcome.bind_eq_ok_iff, check_eq_ok_iff] at h
  obtain ⟨entries, hentries, typeName, -, id, -, span, -, listed, -, bindings, -, items', hitems,
    h⟩ := h
  cases h
  cases v with
  | map es =>
    obtain rfl : es = entries := Option.some.inj hentries
    exact sizeOf_items?_lt hitems
  | _ => cases hentries

mutual

/-- The element a value describes, or the first check that fails: those of the element itself come
before those of its children. -/
def readElement (location : String) (v : Data) : Except ModelFault ElementTerm :=
  match h : readPart location v with
  | .error fault => .error fault
  | .ok (part, items) =>
    have := sizeOf_children_lt h
    (.node part ·) <$> readElements location 0 items
termination_by sizeOf v

/-- The elements that the children of an element describe, from the one with number `i` on. -/
def readElements (location : String) (i : Nat) (items : List Data) :
    Except ModelFault (List ElementTerm) :=
  match items with
  | [] => .ok []
  | v :: rest => do
    let term ← readElement (itemLocation location "children" i) v
    let terms ← readElements location (i + 1) rest
    return term :: terms
termination_by sizeOf items

end

/-! ## Section 3: The checks decide the grammar -/

theorem int?_eq_some_iff {v : Data} {i : Int} : v.int? = some i ↔ v = .int i := by
  constructor
  · intro h
    unfold Data.int? at h
    split at h
    · cases h
      rfl
    · cases h
  · rintro rfl
    rfl

theorem entries?_eq_some_iff {v : Data} {entries : List (Scalar × Data)} :
    v.entries? = some entries ↔ v = .map entries := by
  cases v <;> simp [Data.entries?]

theorem typeName?_eq_some_iff {v : Data} {s : String} :
    v.typeName? = some s ↔ v = .text s ∧ s ≠ "" := by
  rw [Data.typeName?, Option.filter_eq_some_iff, Data.text?_eq_some_iff, decide_eq_true_iff]

theorem id?_eq_some_iff {v : Data} {id : Option String} :
    v.id? = some id ↔ DescribesId v id := by
  constructor
  · intro h
    unfold Data.id? at h
    split at h
    · cases h
      exact .absent
    · obtain ⟨s, hs, rfl⟩ := Option.map_eq_some_iff.mp h
      rw [Data.text?_eq_some_iff.mp hs]
      exact .text s
  · intro h
    cases h with
    | absent => rfl
    | text id => rfl

theorem items?_eq_some_iff {v : Data} {items : List Data} :
    v.items? = some items ↔ DescribesItems v items := by
  constructor
  · intro h
    unfold Data.items? at h
    split at h
    · split at h
      · cases h
        exact .list _
      · cases h
    · next hfalse =>
      cases h
      exact .absent (Bool.eq_false_iff.mpr hfalse)
  · intro h
    cases h with
    | absent h => exact if_neg (Bool.eq_false_iff.mp h)
    | list items =>
      -- the empty list counts as false, and has no items all the same
      cases items with
      | nil => rfl
      | cons v rest => rfl

theorem readSpan_eq_ok_iff {location : String} {v : Data} {s : Span} :
    readSpan location v = .ok s ↔ DescribesSpan v s := by
  simp only [readSpan, Outcome.bind_eq_ok_iff, check_eq_ok_iff, int?_eq_some_iff,
    Option.ite_none_right_eq_some, Option.some.injEq]
  constructor
  · rintro ⟨⟨a, b⟩, hpair, offset, rfl, length, rfl, hsign, rfl⟩
    unfold Data.pair? at hpair
    split at hpair
    · cases hpair
      exact .list (s := ⟨offset, length⟩) hsign
    · cases hpair
      exact .tuple (s := ⟨offset, length⟩) hsign
    · simp only [Option.some.injEq, Prod.mk.injEq] at hpair
      exact .map (s := ⟨offset, length⟩) hsign hpair.1 hpair.2
    · cases hpair
  · intro h
    cases h with
    | list h => exact ⟨_, rfl, _, rfl, _, rfl, h, rfl⟩
    | tuple h => exact ⟨_, rfl, _, rfl, _, rfl, h, rfl⟩
    | map h hoffset hlength => exact ⟨_, rfl, _, hoffset, _, hlength, h, rfl⟩

theorem readBinding_eq_ok_iff {location : String} {v : Data} {b : BindingPart} :
    readBinding location v = .ok b ↔ DescribesBinding v b := by
  simp only [readBinding, Outcome.bind_eq_ok_iff, check_eq_ok_iff, Data.text?_eq_some_iff,
    entries?_eq_some_iff, readSpan_eq_ok_iff]
  constructor
  · rintro ⟨entries, rfl, property, hproperty, expression, hexpression, s, hs, h⟩
    cases h
    exact .map hproperty hexpression hs
  · intro h
    cases h with
    | map hproperty hexpression hspan => exact ⟨_, rfl, _, hproperty, _, hexpression, _, hspan, rfl⟩

theorem readBindings_eq_ok_iff {location : String} {i : Nat} {items : List Data}
    {parts : List BindingPart} :
    readBindings location i items = .ok parts ↔ List.Forall₂ DescribesBinding items parts := by
  induction items generalizing i parts with
  | nil =>
    rw [List.forall₂_nil_left_iff, readBindings, Except.ok.injEq]
    exact eq_comm
  | cons v rest ih =>
    simp only [readBindings, Outcome.bind_eq_ok_iff, readBinding_eq_ok_iff, ih,
      List.forall₂_cons_left_iff]
    constructor
    · rintro ⟨b, hb, bs, hbs, h⟩
      cases h
      exact ⟨b, bs, hb, hbs, rfl⟩
    · rintro ⟨b, bs, hb, hbs, rfl⟩
      exact ⟨b, hb, bs, hbs, rfl⟩

theorem readPart_eq_ok_iff {location : String} {v : Data} {part : ElementPart}
    {items : List Data} :
    readPart location v = .ok (part, items) ↔ ∃ entries, v = .map entries ∧
      DescribesPart entries part ∧ DescribesItems (entry entries "children") items := by
  simp only [readPart, Outcome.bind_eq_ok_iff, check_eq_ok_iff, entries?_eq_some_iff,
    typeName?_eq_some_iff, id?_eq_some_iff, items?_eq_some_iff, readSpan_eq_ok_iff,
    readBindings_eq_ok_iff]
  constructor
  · rintro ⟨entries, rfl, typeName, ⟨htype, hne⟩, id, hid, s, hs, listed, hlisted, parts, hparts,
      items', hitems, h⟩
    cases h
    exact ⟨entries, rfl, ⟨htype, hne, hid, hs, listed, hlisted, hparts⟩, hitems⟩
  · rintro ⟨entries, rfl, ⟨htype, hne, hid, hs, listed, hlisted, hparts⟩, hitems⟩
    exact ⟨entries, rfl, _, ⟨htype, hne⟩, _, hid, _, hs, listed, hlisted, _, hparts, items, hitems,
      rfl⟩

/-- A value that describes an element has a part, wherever it stands. -/
theorem Describes.readPart {v : Data} {term : ElementTerm} (h : Describes v term)
    (location : String) : ∃ part items children, readPart location v = .ok (part, items) ∧
      List.Forall₂ Describes items children ∧ term = .node part children := by
  obtain ⟨hpart, hitems, hchildren⟩ := h
  exact ⟨_, _, _, readPart_eq_ok_iff.mpr ⟨_, rfl, hpart, hitems⟩, hchildren, rfl⟩

/-- What a value describes is an element with what its part declares, and with children that
describe its own. -/
theorem describes_iff_of_part {location : String} {v : Data} {part : ElementPart}
    {items : List Data} {term : ElementTerm} (h : readPart location v = .ok (part, items)) :
    Describes v term ↔
      ∃ children, List.Forall₂ Describes items children ∧ term = .node part children := by
  constructor
  · intro hterm
    obtain ⟨part', items', children, hread, hchildren, rfl⟩ := hterm.readPart location
    cases hread.symm.trans h
    exact ⟨children, hchildren, rfl⟩
  · rintro ⟨children, hchildren, rfl⟩
    obtain ⟨entries, rfl, hpart, hitems⟩ := readPart_eq_ok_iff.mp h
    exact .map hpart hitems hchildren

theorem readElement_of_fault {location : String} {v : Data} {fault : ModelFault}
    (h : readPart location v = .error fault) : readElement location v = .error fault := by
  rw [readElement]
  split
  · next h' =>
    cases h'.symm.trans h
    rfl
  · next h' => cases h'.symm.trans h

theorem readElement_of_part {location : String} {v : Data} {part : ElementPart}
    {items : List Data} (h : readPart location v = .ok (part, items)) :
    readElement location v = (.node part ·) <$> readElements location 0 items := by
  rw [readElement]
  split
  · next h' => cases h'.symm.trans h
  · next h' =>
    cases h'.symm.trans h
    rfl

theorem readElements_nil (location : String) (i : Nat) : readElements location i [] = .ok [] := by
  rw [readElements]

theorem readElements_cons (location : String) (i : Nat) (v : Data) (rest : List Data) :
    readElements location i (v :: rest) = do
      let term ← readElement (itemLocation location "children" i) v
      let terms ← readElements location (i + 1) rest
      return term :: terms := by
  rw [readElements]

/-- **The checks decide the grammar**: reading a value gives an element exactly if the value
describes it, whatever location its faults would name. -/
theorem readElement_eq_ok_iff {location : String} {v : Data} {term : ElementTerm} :
    readElement location v = .ok term ↔ Describes v term := by
  refine readElement.induct
    (fun location v => ∀ term, readElement location v = .ok term ↔ Describes v term)
    (fun location i items => ∀ terms,
      readElements location i items = .ok terms ↔ List.Forall₂ Describes items terms)
    ?fault ?part ?nil ?cons location v term
  case fault =>
    intro location v fault h term
    rw [readElement_of_fault h]
    constructor
    · intro hterm
      cases hterm
    · intro hterm
      obtain ⟨part, items, children, hread, -⟩ := hterm.readPart location
      cases hread.symm.trans h
  case part =>
    intro location v part items h _ ih term
    rw [readElement_of_part h, Outcome.map_eq_ok_iff, describes_iff_of_part h]
    constructor
    · rintro ⟨children, hchildren, rfl⟩
      exact ⟨children, (ih children).mp hchildren, rfl⟩
    · rintro ⟨children, hchildren, rfl⟩
      exact ⟨children, (ih children).mpr hchildren, rfl⟩
  case nil =>
    intro location i terms
    rw [readElements_nil, List.forall₂_nil_left_iff, Except.ok.injEq]
    exact eq_comm
  case cons =>
    intro location i v rest hhead htail terms
    simp only [readElements_cons, Outcome.bind_eq_ok_iff, hhead, htail,
      List.forall₂_cons_left_iff]
    constructor
    · rintro ⟨term, hterm, rest', hrest', h⟩
      cases h
      exact ⟨term, rest', hterm, hrest', rfl⟩
    · rintro ⟨term, rest', hterm, hrest', rfl⟩
      exact ⟨term, hterm, rest', hrest', rfl⟩

end Model

end BindingAudit
