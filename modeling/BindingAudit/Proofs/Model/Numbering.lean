import BindingAudit.Proofs.Model.Grammar

/-!
# Numbering elements

An element with its descendants takes a stretch of indices of an arena, itself first and then its
children from left to right, each with its own descendants (`ElementTerm.number`).  Adding a first
element to a builder and then its children one by one comes to that (`Grafted.node`,
`GraftedAll.cons`).
-/

namespace BindingAudit

/-- A binding of the element at an index. -/
def Model.BindingPart.toBinding (b : Model.BindingPart) (n : Nat) : Binding :=
  ⟨b.property, b.expression, b.span, n⟩

/-- What an element declares, at an index of an arena. -/
def ElementPart.element (part : ElementPart) (n : Nat) (parent : Option Nat)
    (children : List Nat) : Element where
  typeName := part.typeName
  span := part.span
  id := part.id
  parent := parent
  children := children
  bindings := part.bindings.map (·.toBinding n)

namespace ElementTerm

mutual

/-- The number of elements: one and its descendants. -/
def size : ElementTerm → Nat
  | .node _ children => sizeAll children + 1

/-- The number of several elements and their descendants. -/
def sizeAll : List ElementTerm → Nat
  | [] => 0
  | term :: rest => size term + sizeAll rest

end

theorem size_pos (term : ElementTerm) : 0 < term.size := by
  cases term with
  | node part children =>
    rw [size]
    omega

/-- The indices of siblings, the first of them `n`. -/
def starts : Nat → List ElementTerm → List Nat
  | _, [] => []
  | n, term :: rest => n :: starts (n + term.size) rest

mutual

/-- The records of an element and its descendants, from the index `n` on. -/
def number (parent : Option Nat) (n : Nat) : ElementTerm → List Element
  | .node part children =>
    part.element n parent (starts (n + 1) children) :: numberAll n (n + 1) children

/-- The records of the children of an element and their descendants, from the index `n` on. -/
def numberAll (parent n : Nat) : List ElementTerm → List Element
  | [] => []
  | term :: rest => number (some parent) n term ++ numberAll parent (n + size term) rest

end

mutual

theorem length_number (parent : Option Nat) (n : Nat) :
    ∀ term : ElementTerm, (term.number parent n).length = term.size
  | .node part children => by
    rw [number, size, List.length_cons, length_numberAll n (n + 1) children]

theorem length_numberAll (parent n : Nat) :
    ∀ terms : List ElementTerm, (numberAll parent n terms).length = sizeAll terms
  | [] => rfl
  | term :: rest => by
    rw [numberAll, sizeAll, List.length_append, length_number (some parent) n term,
      length_numberAll parent (n + size term) rest]

end

end ElementTerm

namespace Model

open ElementTerm (starts numberAll)

variable {b b₁ b₂ : TreeBuilder} {parent : Option Nat} {p : Nat} {part : ElementPart}
  {term : ElementTerm} {terms : List ElementTerm}

/-! ## Section 1: Listing children -/

/-- The elements after a parent, if there is one, has listed more children. -/
def adopt (es : List Element) (parent : Option Nat) (added : List Nat) : List Element :=
  match parent with
  | none => es
  | some p => es.modify p fun e => { e with children := e.children ++ added }

theorem length_adopt (es : List Element) (parent : Option Nat) (added : List Nat) :
    (adopt es parent added).length = es.length := by
  cases parent with
  | none => rfl
  | some p => exact List.length_modify ..

theorem adopt_nil (es : List Element) (parent : Option Nat) : adopt es parent [] = es := by
  cases parent with
  | none => rfl
  | some p =>
    simp only [adopt, List.append_nil]
    exact List.modify_id p es

theorem adopt_adopt (es : List Element) (p : Nat) (added more : List Nat) :
    adopt (adopt es (some p) added) (some p) more = adopt es (some p) (added ++ more) := by
  simp only [adopt, List.modify_modify_eq, Function.comp_def, List.append_assoc]

theorem adopt_append {es : List Element} (h : p < es.length) (es' : List Element)
    (added : List Nat) :
    adopt (es ++ es') (some p) added = adopt es (some p) added ++ es' := by
  simp only [adopt]
  refine List.ext_getElem? fun i => ?_
  rw [List.getElem?_modify]
  by_cases hi : i < es.length
  · rw [List.getElem?_append_left hi, List.getElem?_append_left (by rwa [List.length_modify]),
      List.getElem?_modify]
  · -- the parent stands in the first part
    have hne : p ≠ i := by omega
    rw [List.getElem?_append_right (by omega),
      List.getElem?_append_right (by rw [List.length_modify]; omega), List.length_modify]
    simp [hne]

theorem modify_concat (es : List Element) (e : Element) (f : Element → Element) :
    (es ++ [e]).modify es.length f = es ++ [f e] := by
  rw [List.modify_eq_take_drop, List.take_left, List.drop_left]
  rfl

/-! ## Section 2: Adding one element -/

/-- Where a builder takes an element: under one of its own, or first of all. -/
inductive Accepts (b : TreeBuilder) : Option Nat → Prop
  | first (h : b.elements = #[]) : Accepts b none
  | child {p : Nat} (h : p < b.elements.size) : Accepts b (some p)

theorem has_of_lt (h : p < b.elements.size) : b.has (p : Int) = true := by
  rw [TreeBuilder.has, Bool.and_eq_true, decide_eq_true_iff, decide_eq_true_iff]
  omega

theorem toList_addElement (typeName : String) (s : Span) (id : Option String)
    (h : Accepts b parent) :
    ∃ b', b.addElement typeName s id (parent.map Int.ofNat) = .ok (b.elements.size, b') ∧
      b'.elements.toList = adopt b.elements.toList parent [b.elements.size] ++
        [{ typeName, span := s, id, parent }] := by
  cases h with
  | first h =>
    refine ⟨⟨b.elements.push { typeName, span := s, id }⟩, ?_, ?_⟩
    · simp [TreeBuilder.addElement, h]
    · simp [adopt]
  | @child p h =>
    refine ⟨b.addChild p { typeName, span := s, id }, ?_, ?_⟩
    · simp [TreeBuilder.addElement, has_of_lt h]
    · simp [TreeBuilder.addChild, adopt]

/-- Bindings go to the element added last. -/
theorem toList_addBindings {es : List Element} {e : Element} (parts : List BindingPart)
    (hb : b.elements.toList = es ++ [e]) :
    ∃ b', (parts.foldlM (fun b part => (·.2) <$> b.addBinding es.length part.property
        part.expression part.span) b : Except ElementError TreeBuilder) = .ok b' ∧
      b'.elements.toList = es ++ [{ e with
        bindings := e.bindings ++ parts.map (·.toBinding es.length) }] := by
  induction parts generalizing b e with
  | nil => exact ⟨b, rfl, by simp [hb]⟩
  | cons part rest ih =>
    have hlt : es.length < b.elements.size := by
      rw [← Array.length_toList, hb, List.length_append, List.length_singleton]
      omega
    -- the first binding, then the others
    let b₁ : TreeBuilder := ⟨b.elements.modify es.length fun e =>
      { e with bindings := e.bindings ++ [part.toBinding es.length] }⟩
    have hadd : b.addBinding es.length part.property part.expression part.span =
        .ok (part.toBinding es.length, b₁) := by
      simp [TreeBuilder.addBinding, has_of_lt hlt, b₁, BindingPart.toBinding]
    have hb₁ : b₁.elements.toList =
        es ++ [{ e with bindings := e.bindings ++ [part.toBinding es.length] }] := by
      rw [Array.toList_modify, hb, modify_concat]
    obtain ⟨b', hrest, hb'⟩ := ih hb₁
    refine ⟨b', ?_, ?_⟩
    · rw [List.foldlM_cons, hadd]
      exact hrest
    · rw [hb', List.map_cons, List.append_assoc, List.singleton_append]

/-- **Adding one element**: it becomes the last, without children so far, and its parent lists
it. -/
theorem toList_addTo (part : ElementPart) (h : Accepts b parent) :
    ∃ b', addTo b parent part.typeName part.id part.span part.bindings =
        .ok (b.elements.size, b') ∧
      b'.elements.toList = adopt b.elements.toList parent [b.elements.size] ++
        [part.element b.elements.size parent []] := by
  obtain ⟨b₁, hadd, hb₁⟩ := toList_addElement part.typeName part.span part.id h
  obtain ⟨b₂, hbindings, hb₂⟩ := toList_addBindings part.bindings hb₁
  rw [length_adopt, Array.length_toList] at hbindings hb₂
  exact ⟨b₂, Outcome.bind_eq_ok_iff.mpr ⟨_, hadd, Outcome.bind_eq_ok_iff.mpr ⟨_, hbindings, rfl⟩⟩,
    hb₂⟩

/-! ## Section 3: Adding an element with its descendants -/

/-- A builder after an element with its descendants has been added. -/
def Grafted (b : TreeBuilder) (parent : Option Nat) (term : ElementTerm) (b' : TreeBuilder) :
    Prop :=
  b'.elements.toList = adopt b.elements.toList parent [b.elements.size] ++
    term.number parent b.elements.size

/-- A builder after siblings with their descendants have been added. -/
def GraftedAll (b : TreeBuilder) (p : Nat) (terms : List ElementTerm) (b' : TreeBuilder) : Prop :=
  b'.elements.toList = adopt b.elements.toList (some p) (starts b.elements.size terms) ++
    numberAll p b.elements.size terms

theorem Grafted.size_eq (h : Grafted b parent term b₁) :
    b₁.elements.size = b.elements.size + term.size := by
  rw [← Array.length_toList, h, List.length_append, length_adopt, ElementTerm.length_number,
    Array.length_toList]

theorem GraftedAll.nil (b : TreeBuilder) (p : Nat) : GraftedAll b p [] b := by
  rw [GraftedAll, starts, adopt_nil, numberAll, List.append_nil]

/-- Siblings are added one after the other. -/
theorem GraftedAll.cons (hp : p < b.elements.size) (h : Grafted b (some p) term b₁)
    (hrest : GraftedAll b₁ p terms b₂) : GraftedAll b p (term :: terms) b₂ := by
  have hlt : p < (adopt b.elements.toList (some p) [b.elements.size]).length := by
    rwa [length_adopt, Array.length_toList]
  -- the parent stands in front of what the first has added, so it lists the others there
  rw [GraftedAll, h.size_eq, h, adopt_append hlt, adopt_adopt] at hrest
  rw [GraftedAll, hrest, starts, numberAll, List.append_assoc]
  rfl

/-- An element is added before its children. -/
theorem Grafted.node {children : List ElementTerm}
    (h : b₁.elements.toList = adopt b.elements.toList parent [b.elements.size] ++
      [part.element b.elements.size parent []])
    (hchildren : GraftedAll b₁ b.elements.size children b₂) :
    Grafted b parent (.node part children) b₂ := by
  have hsize : b₁.elements.size = b.elements.size + 1 := by
    rw [← Array.length_toList, h, List.length_append, length_adopt, List.length_singleton,
      Array.length_toList]
  -- the children are listed by the last element so far
  have hlast := modify_concat (adopt b.elements.toList parent [b.elements.size])
    (part.element b.elements.size parent [])
    (fun e => { e with children := e.children ++ starts (b.elements.size + 1) children })
  rw [length_adopt, Array.length_toList] at hlast
  rw [GraftedAll, hsize, h, adopt, hlast, List.append_assoc] at hchildren
  rw [Grafted, hchildren, ElementTerm.number]
  rfl

end Model

end BindingAudit
