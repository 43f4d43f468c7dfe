import BindingAudit.Element.Builder
import Mathlib.Data.List.Basic
import Mathlib.Order.Basic

/-!
# The links of an arena

An arena keeps its tree twice: every element names its parent, and every element lists its
children.  `Linked` says that the two agree and that parents come first.  The builder keeps it
(`linked_addElement`, `linked_addBinding`), and the chain of parents of an element then ends at
index 0 (`topOf_eq_zero`).

## Layers

- **Look-ups**: what an index holds after an operation of the builder.
- **Invariant**: `Linked`, and that each operation keeps it.
- **Chains**: `ancestors` opens along the parent links, whatever its bound.
-/

namespace BindingAudit

/-- One index names another as its parent. -/
def ParentLink (es : Array Element) (c p : Nat) : Prop :=
  ∃ e, es[c]? = some e ∧ e.parent = some p

/-- The two kinds of links of an arena agree: only index 0 is without a parent, parents come before
their children, children are listed in increasing order and exactly where they name their parent,
and bindings name the element they stand in. -/
structure Linked (es : Array Element) : Prop where
  parent_eq_none_iff : ∀ {i : Nat} {e : Element}, es[i]? = some e → (e.parent = none ↔ i = 0)
  parent_lt : ∀ {i p : Nat} {e : Element}, es[i]? = some e → e.parent = some p → p < i
  children_increasing : ∀ {i : Nat} {e : Element}, es[i]? = some e → e.children.Pairwise (· < ·)
  mem_children_iff : ∀ {p c : Nat} {e : Element}, es[p]? = some e →
    (c ∈ e.children ↔ ParentLink es c p)
  owner_eq : ∀ {i : Nat} {e : Element} {b : Binding}, es[i]? = some e → b ∈ e.bindings →
    b.owner = i

theorem ParentLink.lt_size {es : Array Element} {c p : Nat} (h : ParentLink es c p) :
    c < es.size := by
  obtain ⟨e, he, -⟩ := h
  exact (Array.getElem?_eq_some_iff.mp he).1

/-! ## Look-ups after an operation -/

namespace TreeBuilder

theorem getElem?_addChild (b : TreeBuilder) (p : Nat) (e : Element) (i : Nat) :
    (b.addChild p e).elements[i]? =
      if i = b.elements.size then some { e with parent := some p }
      else b.elements[i]?.map fun q => { q with
        children := if i = p then q.children ++ [b.elements.size] else q.children } := by
  unfold addChild
  rw [Array.getElem?_push, Array.size_modify, Array.getElem?_modify]
  by_cases hi : i = b.elements.size
  · simp [hi]
  · by_cases hp : p = i
    · simp [hi, hp]
    · simp [hi, hp, Ne.symm hp]

theorem size_addChild (b : TreeBuilder) (p : Nat) (e : Element) :
    (b.addChild p e).elements.size = b.elements.size + 1 := by
  simp [addChild]

/-- A slot after a new child: the new one, or an old one that differs at most in its children. -/
theorem slot_addChild {b : TreeBuilder} {p : Nat} {e : Element} {i : Nat} {q : Element}
    (h : (b.addChild p e).elements[i]? = some q) :
    (i = b.elements.size ∧ q = { e with parent := some p }) ∨
      ∃ q₀, b.elements[i]? = some q₀ ∧ q = { q₀ with
        children := if i = p then q₀.children ++ [b.elements.size] else q₀.children } := by
  rw [getElem?_addChild] at h
  by_cases hi : i = b.elements.size
  · rw [if_pos hi] at h
    exact Or.inl ⟨hi, (Option.some.inj h).symm⟩
  · rw [if_neg hi, Option.map_eq_some_iff] at h
    obtain ⟨q₀, hq₀, hq⟩ := h
    exact Or.inr ⟨q₀, hq₀, hq.symm⟩

/-- The new element names its parent, and the old ones name what they did. -/
theorem parentLink_addChild_iff {b : TreeBuilder} {p : Nat} {e : Element} {c r : Nat} :
    ParentLink (b.addChild p e).elements c r ↔
      (c = b.elements.size ∧ r = p) ∨ ParentLink b.elements c r := by
  constructor
  · rintro ⟨f, hf, hfr⟩
    rcases slot_addChild hf with ⟨rfl, rfl⟩ | ⟨f₀, hf₀, rfl⟩
    · exact Or.inl ⟨rfl, (Option.some.inj hfr).symm⟩
    · exact Or.inr ⟨f₀, hf₀, hfr⟩
  · rintro (⟨rfl, rfl⟩ | hlink)
    · exact ⟨_, by rw [getElem?_addChild, if_pos rfl], rfl⟩
    · have hne : c ≠ b.elements.size := Nat.ne_of_lt hlink.lt_size
      obtain ⟨f₀, hf₀, hfr⟩ := hlink
      refine ⟨{ f₀ with
        children := if c = p then f₀.children ++ [b.elements.size] else f₀.children }, ?_, hfr⟩
      rw [getElem?_addChild, if_neg hne, hf₀]
      rfl

/-- What a successful request to add an element does. -/
theorem addElement_cases {b b' : TreeBuilder} {typeName : String} {span : Span}
    {id : Option String} {parent : Option Int} {index : Nat}
    (h : b.addElement typeName span id parent = .ok (index, b')) :
    (parent = none ∧ b.elements = #[] ∧ index = 0 ∧ b'.elements = #[{ typeName, span, id }]) ∨
      (∃ p : Nat, parent = some (p : Int) ∧ p < b.elements.size ∧ index = b.elements.size ∧
        b' = b.addChild p { typeName, span, id }) := by
  unfold addElement at h
  cases parent with
  | none =>
    left
    by_cases hempty : b.elements.isEmpty = true
    · have hnil : b.elements = #[] := Array.isEmpty_iff.mp hempty
      simp only [hempty, if_true, Except.ok.injEq, Prod.mk.injEq] at h
      obtain ⟨rfl, rfl⟩ := h
      exact ⟨rfl, hnil, rfl, by simp [hnil]⟩
    · simp [hempty] at h
  | some p =>
    right
    by_cases hhas : b.has p = true
    · simp only [hhas, if_true, Except.ok.injEq, Prod.mk.injEq] at h
      obtain ⟨rfl, rfl⟩ := h
      simp only [has, Bool.and_eq_true, decide_eq_true_eq] at hhas
      refine ⟨p.toNat, ?_, by omega, rfl, rfl⟩
      rw [Int.toNat_of_nonneg hhas.1]
    · simp [hhas] at h

/-- What a successful request to add a binding does: the binding becomes the last of one element,
and every other element stays as it is. -/
theorem addBinding_cases {b b' : TreeBuilder} {owner : Int} {property expression : String}
    {span : Span} {added : Binding}
    (h : b.addBinding owner property expression span = .ok (added, b')) :
    ∃ o : Nat, owner = (o : Int) ∧ o < b.elements.size ∧
      added = ⟨property, expression, span, o⟩ ∧
      ∀ i : Nat, b'.elements[i]? = b.elements[i]?.map fun e => { e with
        bindings := if i = o then e.bindings ++ [added] else e.bindings } := by
  unfold addBinding at h
  by_cases hhas : b.has owner = true
  · simp only [hhas, if_true, Except.ok.injEq, Prod.mk.injEq] at h
    obtain ⟨rfl, rfl⟩ := h
    simp only [has, Bool.and_eq_true, decide_eq_true_eq] at hhas
    refine ⟨owner.toNat, (Int.toNat_of_nonneg hhas.1).symm, by omega, rfl, ?_⟩
    intro i
    rw [Array.getElem?_modify]
    by_cases hi : owner.toNat = i
    · simp [hi]
    · simp [hi, Ne.symm hi]
  · simp [hhas] at h

theorem size_addBinding {b b' : TreeBuilder} {owner : Int} {property expression : String}
    {span : Span} {added : Binding}
    (h : b.addBinding owner property expression span = .ok (added, b')) :
    b'.elements.size = b.elements.size := by
  unfold addBinding at h
  split at h
  · cases h
    exact Array.size_modify
  · cases h

/-- A slot after a new binding: an old one that differs at most by the new binding. -/
theorem slot_addBinding {b b' : TreeBuilder} {owner : Int} {property expression : String}
    {span : Span} {added : Binding}
    (hadd : b.addBinding owner property expression span = .ok (added, b')) {i : Nat} {e : Element}
    (h : b'.elements[i]? = some e) :
    ∃ e₀ bindings, b.elements[i]? = some e₀ ∧ e = { e₀ with bindings } ∧
      ∀ bd ∈ bindings, bd ∈ e₀.bindings ∨ bd = ⟨property, expression, span, i⟩ := by
  obtain ⟨o, -, -, rfl, hget⟩ := addBinding_cases hadd
  rw [hget, Option.map_eq_some_iff] at h
  obtain ⟨e₀, he₀, rfl⟩ := h
  refine ⟨e₀, _, he₀, rfl, ?_⟩
  intro bd hbd
  by_cases hio : i = o
  · simpa [hio] using hbd
  · exact Or.inl (by simpa [hio] using hbd)

/-- A binding changes no link. -/
theorem parentLink_addBinding_iff {b b' : TreeBuilder} {owner : Int}
    {property expression : String} {span : Span} {added : Binding}
    (hadd : b.addBinding owner property expression span = .ok (added, b')) {c p : Nat} :
    ParentLink b'.elements c p ↔ ParentLink b.elements c p := by
  constructor
  · rintro ⟨f, hf, hfp⟩
    obtain ⟨f₀, _, hf₀, rfl, -⟩ := slot_addBinding hadd hf
    exact ⟨f₀, hf₀, hfp⟩
  · rintro ⟨f₀, hf₀, hfp⟩
    obtain ⟨o, -, -, -, hget⟩ := addBinding_cases hadd
    refine ⟨{ f₀ with
      bindings := if c = o then f₀.bindings ++ [added] else f₀.bindings }, ?_, hfp⟩
    rw [hget, hf₀]
    rfl

end TreeBuilder

/-! ## The builder keeps the links -/

theorem linked_empty : Linked #[] := by
  constructor <;> simp [ParentLink]

theorem linked_singleton (typeName : String) (span : Span) (id : Option String) :
    Linked #[{ typeName, span, id }] := by
  have honly : ∀ {i : Nat} {e : Element}, (#[({ typeName, span, id } : Element)])[i]? = some e →
      i = 0 ∧ e = { typeName, span, id } := by
    intro i e h
    cases i with
    | zero => exact ⟨rfl, by simpa using h.symm⟩
    | succ i => simp at h
  constructor
  · intro i e h
    obtain ⟨rfl, rfl⟩ := honly h
    simp
  · intro i p e h hp
    obtain ⟨rfl, rfl⟩ := honly h
    cases hp
  · intro i e h
    obtain ⟨rfl, rfl⟩ := honly h
    exact List.Pairwise.nil
  · intro p c e h
    obtain ⟨rfl, rfl⟩ := honly h
    simp only [List.not_mem_nil, false_iff]
    rintro ⟨f, hf, hparent⟩
    obtain ⟨rfl, rfl⟩ := honly hf
    cases hparent
  · intro i e b h hb
    obtain ⟨rfl, rfl⟩ := honly h
    cases hb

/-- Where a new child is listed: by its parent, behind the children that were there. -/
private theorem mem_children_addChild {b : TreeBuilder} {p : Nat} {e : Element}
    (h : Linked b.elements) (hp : p < b.elements.size) (hchildren : e.children = [])
    {r c : Nat} {q : Element} (hq : (b.addChild p e).elements[r]? = some q) :
    c ∈ q.children ↔ ParentLink (b.addChild p e).elements c r := by
  rw [TreeBuilder.parentLink_addChild_iff]
  rcases TreeBuilder.slot_addChild hq with ⟨rfl, rfl⟩ | ⟨q₀, hq₀, rfl⟩
  · -- nothing names the new element: a parent lies before its child
    simp only [hchildren, List.not_mem_nil, false_iff, not_or, not_and]
    refine ⟨fun _ => by omega, fun hlink => ?_⟩
    have hsize := hlink.lt_size
    obtain ⟨f, hf, hfr⟩ := hlink
    have hbelow := h.parent_lt hf hfr
    omega
  · by_cases hrp : r = p
    · simp only [hrp, if_true, List.mem_append, List.mem_singleton, and_true]
      rw [← hrp, h.mem_children_iff hq₀, or_comm]
    · simp only [hrp, if_false, and_false, false_or]
      exact h.mem_children_iff hq₀

/-- A new child is linked from both ends. -/
theorem linked_addChild {b : TreeBuilder} {p : Nat} {e : Element} (h : Linked b.elements)
    (hp : p < b.elements.size) (hchildren : e.children = []) (hbindings : e.bindings = []) :
    Linked (b.addChild p e).elements := by
  constructor
  · intro i q hq
    rcases TreeBuilder.slot_addChild hq with ⟨rfl, rfl⟩ | ⟨q₀, hq₀, rfl⟩
    · simp only [reduceCtorEq, false_iff]
      omega
    · have hold := h.parent_eq_none_iff hq₀
      exact hold
  · intro i r q hq hr
    rcases TreeBuilder.slot_addChild hq with ⟨rfl, rfl⟩ | ⟨q₀, hq₀, rfl⟩
    · simp only [Option.some.injEq] at hr
      omega
    · exact h.parent_lt hq₀ hr
  · intro i q hq
    rcases TreeBuilder.slot_addChild hq with ⟨rfl, rfl⟩ | ⟨q₀, hq₀, rfl⟩
    · simp [hchildren]
    · by_cases hip : i = p
      · -- the new index is larger than all there were
        simp only [hip, if_true, List.pairwise_append]
        refine ⟨h.children_increasing hq₀, List.pairwise_singleton _ _, ?_⟩
        intro c hc d hd
        rw [List.mem_singleton] at hd
        rw [hd]
        exact ((h.mem_children_iff hq₀).mp hc).lt_size
      · simp only [hip, if_false]
        exact h.children_increasing hq₀
  · intro r c q hq
    exact mem_children_addChild h hp hchildren hq
  · intro i q bd hq hbd
    rcases TreeBuilder.slot_addChild hq with ⟨rfl, rfl⟩ | ⟨q₀, hq₀, rfl⟩
    · simp [hbindings] at hbd
    · exact h.owner_eq hq₀ hbd

theorem linked_addElement {b b' : TreeBuilder} {typeName : String} {span : Span}
    {id : Option String} {parent : Option Int} {index : Nat} (h : Linked b.elements)
    (hadd : b.addElement typeName span id parent = .ok (index, b')) : Linked b'.elements := by
  rcases TreeBuilder.addElement_cases hadd with ⟨-, -, -, hb'⟩ | ⟨p, -, hp, -, rfl⟩
  · rw [hb']
    exact linked_singleton typeName span id
  · exact linked_addChild h hp rfl rfl

theorem linked_addBinding {b b' : TreeBuilder} {owner : Int} {property expression : String}
    {span : Span} {added : Binding} (h : Linked b.elements)
    (hadd : b.addBinding owner property expression span = .ok (added, b')) :
    Linked b'.elements := by
  constructor
  · intro i e he
    obtain ⟨e₀, _, he₀, rfl, -⟩ := TreeBuilder.slot_addBinding hadd he
    have hold := h.parent_eq_none_iff he₀
    exact hold
  · intro i p e he hp
    obtain ⟨e₀, _, he₀, rfl, -⟩ := TreeBuilder.slot_addBinding hadd he
    exact h.parent_lt he₀ hp
  · intro i e he
    obtain ⟨e₀, _, he₀, rfl, -⟩ := TreeBuilder.slot_addBinding hadd he
    have hold := h.children_increasing he₀
    exact hold
  · intro p c e he
    obtain ⟨e₀, _, he₀, rfl, -⟩ := TreeBuilder.slot_addBinding hadd he
    rw [TreeBuilder.parentLink_addBinding_iff hadd, ← h.mem_children_iff he₀]
  · intro i e bd he hbd
    obtain ⟨e₀, _, he₀, rfl, hbindings⟩ := TreeBuilder.slot_addBinding hadd he
    rcases hbindings bd hbd with hbd | rfl
    · exact h.owner_eq he₀ hbd
    · rfl

/-! ## Whatever is built is linked -/

/-- The builders that requests lead to from the empty one.  A refused request leaves a builder as
it is. -/
inductive TreeBuilder.Built : TreeBuilder → Prop
  | empty : Built {}
  | addElement {b b' : TreeBuilder} {typeName : String} {span : Span} {id : Option String}
      {parent : Option Int} {index : Nat} (h : Built b)
      (hadd : b.addElement typeName span id parent = .ok (index, b')) : Built b'
  | addBinding {b b' : TreeBuilder} {owner : Int} {property expression : String} {span : Span}
      {added : Binding} (h : Built b)
      (hadd : b.addBinding owner property expression span = .ok (added, b')) : Built b'

theorem TreeBuilder.Built.linked {b : TreeBuilder} (h : b.Built) : Linked b.elements := by
  induction h with
  | empty => exact linked_empty
  | addElement _ hadd ih => exact linked_addElement ih hadd
  | addBinding _ hadd ih => exact linked_addBinding ih hadd

theorem TreeBuilder.elements_of_build {b : TreeBuilder} {t : ElementTree} (h : b.build = .ok t) :
    t.elements = b.elements := by
  unfold build at h
  split at h
  · cases h
    rfl
  · cases h

/-- The trees that can be built. -/
def ElementTree.Built (t : ElementTree) : Prop :=
  ∃ b : TreeBuilder, b.Built ∧ b.build = .ok t

theorem ElementTree.Built.linked {t : ElementTree} (h : t.Built) : Linked t.elements := by
  obtain ⟨b, hb, ht⟩ := h
  rw [TreeBuilder.elements_of_build ht]
  exact hb.linked

/-! ## Chains of parents -/

namespace ElementTree

theorem get?_eq_some_of_lt {t : ElementTree} {i : Nat} (h : i < t.size) :
    ∃ e, t.get? i = some e :=
  ⟨t.elements[i], Array.getElem?_eq_getElem h⟩

theorem lt_size_of_get? {t : ElementTree} {i : Nat} {e : Element} (h : t.get? i = some e) :
    i < t.size :=
  (Array.getElem?_eq_some_iff.mp h).1

theorem parent?_eq_some_iff {t : ElementTree} {i p : Nat} :
    t.parent? i = some p ↔ ParentLink t.elements i p :=
  Option.bind_eq_some_iff

variable {t : ElementTree}

theorem parent?_lt (h : Linked t.elements) {i p : Nat} (hp : t.parent? i = some p) : p < i := by
  obtain ⟨e, he, hep⟩ := parent?_eq_some_iff.mp hp
  exact h.parent_lt he hep

/-- Every element but the first has a parent. -/
theorem exists_parent? (h : Linked t.elements) {i : Nat} (hi : i < t.size) (hpos : i ≠ 0) :
    ∃ p, t.parent? i = some p := by
  obtain ⟨e, he⟩ := get?_eq_some_of_lt hi
  cases hp : e.parent with
  | none => exact absurd ((h.parent_eq_none_iff he).mp hp) hpos
  | some p => exact ⟨p, by rw [parent?, he]; exact hp⟩

theorem parent?_zero (h : Linked t.elements) : t.parent? 0 = none := by
  obtain ⟨e, he⟩ := get?_eq_some_of_lt (t := t) t.nonempty
  rw [parent?, he]
  exact (h.parent_eq_none_iff he).mpr rfl

/-- The bound of `ancestors` cuts nothing off: any larger one gives the same chain. -/
theorem ancestorsUpTo_eq_ancestors (h : Linked t.elements) {fuel i : Nat} (hi : i ≤ fuel) :
    t.ancestorsUpTo fuel i = t.ancestors i := by
  induction fuel using Nat.strongRecOn generalizing i with
  | ind fuel ih =>
    cases fuel with
    | zero =>
      obtain rfl : i = 0 := by omega
      rfl
    | succ fuel =>
      cases hp : t.parent? i with
      | none =>
        unfold ancestors
        cases i <;> simp [ancestorsUpTo, hp]
      | some p =>
        -- both sides go on from the parent, each with a bound that is enough for it
        have hlt := parent?_lt h hp
        obtain ⟨j, rfl⟩ : ∃ j, i = j + 1 := ⟨i - 1, by omega⟩
        unfold ancestors
        rw [ancestorsUpTo, ancestorsUpTo, hp]
        show p :: t.ancestorsUpTo fuel p = p :: t.ancestorsUpTo j p
        rw [ih fuel (by omega) (by omega), ih j (by omega) (by omega)]

theorem ancestors_of_parent (h : Linked t.elements) {i p : Nat} (hp : t.parent? i = some p) :
    t.ancestors i = p :: t.ancestors p := by
  have hlt := parent?_lt h hp
  rw [← ancestorsUpTo_eq_ancestors h (Nat.le_succ i), ancestorsUpTo, hp]
  show p :: t.ancestorsUpTo i p = p :: t.ancestors p
  rw [ancestorsUpTo_eq_ancestors h (by omega)]

theorem ancestors_of_root {i : Nat} (hp : t.parent? i = none) : t.ancestors i = [] := by
  unfold ancestors
  cases i <;> simp [ancestorsUpTo, hp]

theorem topOf_of_parent (h : Linked t.elements) {i p : Nat} (hp : t.parent? i = some p) :
    t.topOf i = t.topOf p := by
  rw [topOf, ancestors_of_parent h hp, topOf, List.getLastD_cons]

/-- **Every chain of parents ends at the root.** -/
theorem topOf_eq_zero (h : Linked t.elements) {i : Nat} (hi : i < t.size) : t.topOf i = 0 := by
  induction i using Nat.strongRecOn with
  | ind i ih =>
    by_cases hzero : i = 0
    · subst hzero
      rw [topOf, ancestors_of_root (parent?_zero h)]
      rfl
    · obtain ⟨p, hp⟩ := exists_parent? h hi hzero
      have hlt := parent?_lt h hp
      rw [topOf_of_parent h hp]
      exact ih p hlt (by omega)

end ElementTree

end BindingAudit
