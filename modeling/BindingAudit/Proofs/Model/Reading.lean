import BindingAudit.Model.Basic
import BindingAudit.Proofs.Element.Preorder
import BindingAudit.Proofs.Outcome

/-!
# What reading a model establishes

`buildTree` reads a document with a stack of pending nodes while a builder collects the elements.
An arena that comes out of it is `Loaded`: its links agree, its indices follow the document, and
no span in it is negative.

## Architecture

1. The parts of an element: spans are read only if they are not negative.
2. One element: adding it under an index of the newest chain keeps an arena loaded
   (`Loaded.addTo`).
3. The loop: the pending nodes wait for parents on the newest chain (`Waiting`), each step keeps
   this (`readPending_loaded`), and so every tree that is built is loaded (`buildTree_loaded`).
-/

namespace BindingAudit

/-- Neither the offset nor the length of a span is negative. -/
def Span.Nonneg (s : Span) : Prop :=
  0 ≤ s.offset ∧ 0 ≤ s.length

/-- An arena as it is read from a document. -/
structure Loaded (es : Array Element) : Prop where
  linked : Linked es
  preordered : Preordered es
  span_nonneg : ∀ {i : Nat} {e : Element}, es[i]? = some e → e.span.Nonneg
  binding_nonneg : ∀ {i : Nat} {e : Element} {b : Binding}, es[i]? = some e → b ∈ e.bindings →
    b.span.Nonneg

namespace Model

/-! ## Section 1: The parts of an element -/

theorem span_nonneg {d : Document} {n : Node} {location : String} {s : Span}
    (h : span d n location = .ok s) : s.Nonneg := by
  unfold span at h
  split at h
  · cases h
  · split at h
    · split at h
      · cases h
      · next offset length _ _ hneg =>
        cases h
        rw [not_or, not_lt, not_lt] at hneg
        exact hneg
    · cases h

theorem head_nonneg {d : Document} {entries : List (Scalar × Nat)} {location typeName : String}
    {id : Option String} {s : Span} (h : head d entries location = .ok (typeName, id, s)) :
    s.Nonneg := by
  unfold head at h
  split at h
  · split at h
    · cases h
    · split at h
      · obtain ⟨s', hs', h⟩ := Outcome.bind_eq_ok_iff.mp h
        cases h
        exact span_nonneg hs'
      · obtain ⟨s', hs', h⟩ := Outcome.bind_eq_ok_iff.mp h
        cases h
        exact span_nonneg hs'
      · cases h
  · cases h

theorem binding_nonneg {d : Document} {n : Node} {location : String} {part : BindingPart}
    (h : binding d n location = .ok part) : part.span.Nonneg := by
  unfold binding at h
  split at h
  · split at h
    · obtain ⟨s, hs, h⟩ := Outcome.bind_eq_ok_iff.mp h
      cases h
      exact span_nonneg hs
    · cases h
  · cases h

theorem bindingsFrom_nonneg {d : Document} {location : String} {i : Nat} {items : List Nat}
    {parts : List BindingPart} (h : bindingsFrom d location i items = .ok parts) :
    ∀ part ∈ parts, part.span.Nonneg := by
  induction items generalizing i parts with
  | nil =>
    cases h
    intro part hpart
    cases hpart
  | cons n rest ih =>
    obtain ⟨b, hb, h⟩ := Outcome.bind_eq_ok_iff.mp h
    obtain ⟨bs, hbs, h⟩ := Outcome.bind_eq_ok_iff.mp h
    cases h
    intro part hpart
    rcases List.mem_cons.mp hpart with rfl | hpart
    · exact binding_nonneg hb
    · exact ih hbs part hpart

theorem bindings_nonneg {d : Document} {entries : List (Scalar × Nat)} {location : String}
    {parts : List BindingPart} (h : bindings d entries location = .ok parts) :
    ∀ part ∈ parts, part.span.Nonneg := by
  unfold bindings at h
  split at h
  · cases h
  · exact bindingsFrom_nonneg h

end Model

/-! ## Section 2: Adding one element -/

theorem Preordered.of_links {es es' : Array Element} (h : Preordered es)
    (hlinks : ∀ c p, ParentLink es' c p ↔ ParentLink es c p) : Preordered es' := by
  intro i p hp
  exact (h i p ((hlinks _ _).mp hp)).mono fun c q => (hlinks c q).mpr

/-- A binding changes neither the links nor the size. -/
theorem Loaded.addBinding {b b' : TreeBuilder} {owner : Int} {property expression : String}
    {span : Span} {added : Binding} (h : Loaded b.elements) (hspan : span.Nonneg)
    (hadd : b.addBinding owner property expression span = .ok (added, b')) :
    Loaded b'.elements ∧ b'.elements.size = b.elements.size ∧
      ∀ c p, ParentLink b'.elements c p ↔ ParentLink b.elements c p := by
  have hlinks : ∀ c p, ParentLink b'.elements c p ↔ ParentLink b.elements c p :=
    fun c p => TreeBuilder.parentLink_addBinding_iff hadd
  refine ⟨⟨linked_addBinding h.linked hadd, h.preordered.of_links hlinks, ?_, ?_⟩,
    TreeBuilder.size_addBinding hadd, hlinks⟩
  · intro i e he
    obtain ⟨e₀, _, he₀, rfl, -⟩ := TreeBuilder.slot_addBinding hadd he
    have hold := h.span_nonneg he₀
    exact hold
  · intro i e bd he hbd
    obtain ⟨e₀, _, he₀, rfl, hbindings⟩ := TreeBuilder.slot_addBinding hadd he
    rcases hbindings bd hbd with hbd | rfl
    · exact h.binding_nonneg he₀ hbd
    · exact hspan

/-- A new element under an index above the newest one keeps an arena loaded. -/
theorem Loaded.addChild {b : TreeBuilder} {p : Nat} {span : Span} (typeName : String)
    (id : Option String) (h : Loaded b.elements) (hspan : span.Nonneg)
    (hp : p < b.elements.size) (habove : Above b.elements (b.elements.size - 1) p) :
    Loaded (b.addChild p { typeName, span, id }).elements ∧
      (∀ c q, ParentLink b.elements c q →
        ParentLink (b.addChild p { typeName, span, id }).elements c q) ∧
      ParentLink (b.addChild p { typeName, span, id }).elements b.elements.size p := by
  have hgrow : ∀ c q, ParentLink b.elements c q →
      ParentLink (b.addChild p { typeName, span, id }).elements c q :=
    fun c q hlink => TreeBuilder.parentLink_addChild_iff.mpr (Or.inr hlink)
  refine ⟨⟨linked_addChild h.linked hp rfl rfl, ?_, ?_, ?_⟩, hgrow,
    TreeBuilder.parentLink_addChild_iff.mpr (Or.inl ⟨rfl, rfl⟩)⟩
  · intro i q hlink
    -- the new element goes under the chain above the newest one, the others are where they were
    rcases TreeBuilder.parentLink_addChild_iff.mp hlink with ⟨hi, rfl⟩ | hlink
    · rw [← hi, Nat.add_sub_cancel] at habove
      exact habove.mono hgrow
    · exact (h.preordered i q hlink).mono hgrow
  · intro i e he
    rcases TreeBuilder.slot_addChild he with ⟨-, rfl⟩ | ⟨e₀, he₀, rfl⟩
    · exact hspan
    · have hold := h.span_nonneg he₀
      exact hold
  · intro i e bd he hbd
    rcases TreeBuilder.slot_addChild he with ⟨-, rfl⟩ | ⟨e₀, he₀, rfl⟩
    · cases hbd
    · exact h.binding_nonneg he₀ hbd

theorem loaded_empty : Loaded #[] := by
  refine ⟨linked_empty, ?_, ?_, ?_⟩
  · rintro i p ⟨e, he, -⟩
    simp at he
  · intro i e he
    simp at he
  · intro i e b he
    simp at he

theorem loaded_singleton {typeName : String} {span : Span} {id : Option String}
    (hspan : span.Nonneg) : Loaded #[{ typeName, span, id }] := by
  refine ⟨linked_singleton typeName span id, ?_, ?_, ?_⟩
  · rintro i p ⟨e, he, -⟩
    simp at he
  · intro i e he
    cases i with
    | zero =>
      cases he
      exact hspan
    | succ i => simp at he
  · intro i e b he hb
    cases i with
    | zero =>
      cases he
      cases hb
    | succ i => simp at he

namespace Model

/-- Where an element may go: it is the first, or its parent is above the newest element. -/
def Placed (es : Array Element) (parent : Option Nat) : Prop :=
  ∀ p, parent = some p → Above es (es.size - 1) p

private theorem foldlM_addBinding_loaded {index : Nat} {parts : List BindingPart}
    {b b' : TreeBuilder} (h : Loaded b.elements) (hparts : ∀ part ∈ parts, part.span.Nonneg)
    (hadd : parts.foldlM (fun b part =>
      (·.2) <$> b.addBinding index part.property part.expression part.span) b = .ok b') :
    Loaded b'.elements ∧ b'.elements.size = b.elements.size ∧
      ∀ c p, ParentLink b'.elements c p ↔ ParentLink b.elements c p := by
  induction parts generalizing b with
  | nil =>
    cases hadd
    exact ⟨h, rfl, fun _ _ => Iff.rfl⟩
  | cons part rest ih =>
    rw [List.foldlM_cons, Outcome.bind_eq_ok_iff] at hadd
    obtain ⟨b₁, hb₁, hadd⟩ := hadd
    obtain ⟨⟨added, b₂⟩, hb₂, rfl⟩ := Outcome.map_eq_ok_iff.mp hb₁
    obtain ⟨h₁, hsize₁, hlinks₁⟩ := h.addBinding (hparts part (List.mem_cons_self ..)) hb₂
    obtain ⟨h₂, hsize₂, hlinks₂⟩ :=
      ih h₁ (fun q hq => hparts q (List.mem_cons_of_mem _ hq)) hadd
    exact ⟨h₂, hsize₂.trans hsize₁, fun c p => (hlinks₂ c p).trans (hlinks₁ c p)⟩

/-- **One element**: an element with its bindings, added where it may go, becomes the newest of a
loaded arena, and all links there were stay. -/
theorem addTo_loaded {b b' : TreeBuilder} {parent : Option Nat} {typeName : String}
    {id : Option String} {s : Span} {parts : List BindingPart} {index : Nat}
    (h : Loaded b.elements) (hplaced : Placed b.elements parent) (hs : s.Nonneg)
    (hparts : ∀ part ∈ parts, part.span.Nonneg)
    (hadd : addTo b parent typeName id s parts = .ok (index, b')) :
    Loaded b'.elements ∧ b'.elements.size = index + 1 ∧
      (∀ c p, ParentLink b.elements c p → ParentLink b'.elements c p) ∧
      ∀ p, parent = some p → ParentLink b'.elements index p := by
  obtain ⟨⟨index₁, b₁⟩, hb₁, hadd⟩ := Outcome.bind_eq_ok_iff.mp hadd
  obtain ⟨b₂, hb₂, hadd⟩ := Outcome.bind_eq_ok_iff.mp hadd
  cases hadd
  have hfirst : Loaded b₁.elements ∧ b₁.elements.size = index + 1 ∧
      (∀ c p, ParentLink b.elements c p → ParentLink b₁.elements c p) ∧
      ∀ p, parent = some p → ParentLink b₁.elements index p := by
    rcases TreeBuilder.addElement_cases hb₁ with
      ⟨hnone, hempty, rfl, hroot⟩ | ⟨q, hq, hlt, rfl, rfl⟩
    · rw [hroot, hempty]
      refine ⟨loaded_singleton hs, rfl, ?_, ?_⟩
      · rintro c p ⟨e, he, -⟩
        simp at he
      · intro p hp
        rw [hp] at hnone
        cases hnone
    · obtain ⟨p, rfl, hpq⟩ := Option.map_eq_some_iff.mp hq
      obtain rfl : p = q := Int.ofNat.inj hpq
      obtain ⟨hl, hgrow, hnew⟩ := h.addChild typeName id hs hlt (hplaced p rfl)
      refine ⟨hl, TreeBuilder.size_addChild .., hgrow, ?_⟩
      intro r hr
      cases hr
      exact hnew
  -- the bindings come after the element, and change no link
  obtain ⟨h₁, hsize₁, hgrow₁, hnew₁⟩ := hfirst
  obtain ⟨h₂, hsize₂, hlinks₂⟩ := foldlM_addBinding_loaded h₁ hparts hb₂
  exact ⟨h₂, hsize₂.trans hsize₁, fun c p hcp => (hlinks₂ c p).mpr (hgrow₁ c p hcp),
    fun p hp => (hlinks₂ _ p).mpr (hnew₁ p hp)⟩

/-! ## Section 3: The loop -/

/-- What a step of the loop does, if reading goes through. -/
theorem readPending_cons {d : Document} {fuel : Nat} {p : Pending} {rest : List Pending}
    {seen : List Nat} {b b' : TreeBuilder}
    (h : readPending d (fuel + 1) (p :: rest) seen b = .ok b') :
    ∃ entries typeName id s parts items index b₁,
      d.node p.node = .map entries ∧ p.node ∉ seen ∧
      head d entries p.location = .ok (typeName, id, s) ∧
      bindings d entries p.location = .ok parts ∧
      children d entries p.location = .ok items ∧
      addTo b p.parent typeName id s parts = .ok (index, b₁) ∧
      readPending d fuel (pendingFrom index p.location 0 items ++ rest) (p.node :: seen) b₁ =
        .ok b' := by
  rw [readPending] at h
  split at h
  · next entries hnode =>
    by_cases hseen : p.node ∈ seen
    · rw [if_pos hseen] at h
      cases h
    · rw [if_neg hseen] at h
      obtain ⟨⟨typeName, id, s⟩, hhead, h⟩ := Outcome.bind_eq_ok_iff.mp h
      obtain ⟨parts, hparts, h⟩ := Outcome.bind_eq_ok_iff.mp h
      obtain ⟨items, hitems, h⟩ := Outcome.bind_eq_ok_iff.mp h
      cases hadd : addTo b p.parent typeName id s parts with
      | error e =>
        simp only [hadd] at h
        cases h
      | ok added =>
        simp only [hadd] at h
        exact ⟨entries, typeName, id, s, parts, items, added.1, added.2, hnode, hseen, hhead,
          hparts, hitems, hadd, h⟩
  · cases h

theorem parent_of_mem_pendingFrom {parent i : Nat} {location : String} {items : List Nat}
    {p : Pending} (h : p ∈ pendingFrom parent location i items) : p.parent = some parent := by
  induction items generalizing i with
  | nil => cases h
  | cons n rest ih =>
    rw [pendingFrom, List.mem_cons] at h
    rcases h with rfl | h
    · rfl
    · exact ih h

/-- The pending nodes wait for parents on the chain above the newest element, the first for the
lowest of them. -/
structure Waiting (es : Array Element) (stack : List Pending) : Prop where
  placed : ∀ p ∈ stack, ∃ q, p.parent = some q ∧ Above es (es.size - 1) q
  nested : stack.Pairwise fun p p' =>
    ∀ q q', p.parent = some q → p'.parent = some q' → Above es q q'

/-- The children of a new element wait in front of what waited for its parent. -/
private theorem Waiting.step {es es' : Array Element} {p : Pending} {rest : List Pending}
    {index i : Nat} {location : String} {items : List Nat} (h : Waiting es (p :: rest))
    (hsize : es'.size = index + 1)
    (hgrow : ∀ c q, ParentLink es c q → ParentLink es' c q)
    (hnew : ∀ q, p.parent = some q → ParentLink es' index q) :
    Waiting es' (pendingFrom index location i items ++ rest) := by
  obtain ⟨hfirst, hnested⟩ := List.pairwise_cons.mp h.nested
  obtain ⟨q, hq, -⟩ := h.placed p (List.mem_cons_self ..)
  have hlast : es'.size - 1 = index := by omega
  -- whatever is above the parent is above the new element
  have habove : ∀ r ∈ rest, ∃ q', r.parent = some q' ∧ Above es' index q' := by
    intro r hr
    obtain ⟨q', hq', -⟩ := h.placed r (List.mem_cons_of_mem _ hr)
    exact ⟨q', hq', ((hfirst r hr q q' hq hq').mono hgrow).head (hnew q hq)⟩
  constructor
  · intro r hr
    rw [hlast]
    rcases List.mem_append.mp hr with hr | hr
    · exact ⟨index, parent_of_mem_pendingFrom hr, Relation.ReflTransGen.refl⟩
    · exact habove r hr
  · rw [List.pairwise_append]
    refine ⟨?_, ?_, ?_⟩
    · refine List.pairwise_of_forall_mem_list fun r hr r' hr' s s' hs hs' => ?_
      rw [parent_of_mem_pendingFrom hr] at hs
      rw [parent_of_mem_pendingFrom hr'] at hs'
      cases hs
      cases hs'
      exact Relation.ReflTransGen.refl
    · exact hnested.imp fun hrr s s' hs hs' => (hrr s s' hs hs').mono hgrow
    · intro r hr r' hr' s s' hs hs'
      rw [parent_of_mem_pendingFrom hr] at hs
      cases hs
      obtain ⟨q', hq', hup⟩ := habove r' hr'
      rw [hq'] at hs'
      cases hs'
      exact hup

/-- **The loop**: reading pending nodes into a loaded arena gives a loaded arena. -/
theorem readPending_loaded {d : Document} {fuel : Nat} {stack : List Pending} {seen : List Nat}
    {b b' : TreeBuilder} (hloaded : Loaded b.elements) (hwaiting : Waiting b.elements stack)
    (h : readPending d fuel stack seen b = .ok b') : Loaded b'.elements := by
  induction fuel generalizing stack seen b with
  | zero =>
    cases stack with
    | nil =>
      cases h
      exact hloaded
    | cons p rest => cases h
  | succ fuel ih =>
    cases stack with
    | nil =>
      cases h
      exact hloaded
    | cons p rest =>
      obtain ⟨entries, typeName, id, s, parts, items, index, b₁, -, -, hhead, hparts, -, hadd, h⟩ :=
        readPending_cons h
      have hplaced : Placed b.elements p.parent := by
        intro q hq
        obtain ⟨q', hq', hup⟩ := hwaiting.placed p (List.mem_cons_self ..)
        rw [hq'] at hq
        cases hq
        exact hup
      obtain ⟨hloaded₁, hsize, hgrow, hnew⟩ := addTo_loaded hloaded hplaced (head_nonneg hhead)
        (bindings_nonneg hparts) hadd
      exact ih hloaded₁ (hwaiting.step hsize hgrow hnew) h

/-- A tree that is read from a document has the elements the loop has added. -/
theorem readPending_of_buildTree {d : Document} {root : Nat} {t : ElementTree}
    (h : buildTree d root = .ok t) :
    ∃ b, readPending d (d.nodes.size + 1) [⟨root, none, "root"⟩] [] {} = .ok b ∧
      t.elements = b.elements := by
  obtain ⟨b, hb, h⟩ := Outcome.bind_eq_ok_iff.mp h
  refine ⟨b, hb, ?_⟩
  cases hbuild : b.build with
  | error e =>
    simp only [hbuild] at h
    cases h
  | ok t' =>
    simp only [hbuild] at h
    cases h
    exact TreeBuilder.elements_of_build hbuild

/-- **Every tree that is read from a document is loaded.** -/
theorem buildTree_loaded {d : Document} {root : Nat} {t : ElementTree}
    (h : buildTree d root = .ok t) : Loaded t.elements := by
  obtain ⟨b, hb, ht⟩ := readPending_of_buildTree h
  rw [ht]
  obtain ⟨entries, typeName, id, s, parts, items, index, b₁, -, -, hhead, hparts, -, hadd, hb⟩ :=
    readPending_cons hb
  -- the first node is the root; from then on its children wait for it
  obtain ⟨hloaded, hsize, -, -⟩ := addTo_loaded loaded_empty (fun _ hp => by cases hp)
    (head_nonneg hhead) (bindings_nonneg hparts) hadd
  refine readPending_loaded hloaded ?_ hb
  rw [List.append_nil]
  constructor
  · intro p hp
    refine ⟨index, parent_of_mem_pendingFrom hp, ?_⟩
    rw [hsize, Nat.add_sub_cancel]
    exact Relation.ReflTransGen.refl
  · refine List.pairwise_of_forall_mem_list fun p hp p' hp' q q' hq hq' => ?_
    rw [parent_of_mem_pendingFrom hp] at hq
    rw [parent_of_mem_pendingFrom hp'] at hq'
    cases hq
    cases hq'
    exact Relation.ReflTransGen.refl

end Model

end BindingAudit
