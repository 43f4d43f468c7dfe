import BindingAudit.Proofs.Element.Arena
import Mathlib.Data.List.Nodup

/-!
# Sequences of requests

A builder is asked for elements and bindings in any order and with any arguments, and it refuses
some of the requests.  `performAll` carries out such a sequence, answer by answer.

- **One request** (`perform_cases`): it is refused exactly if `refusal?` says so, which looks at
  nothing but the number of elements, and then the builder is as it was; otherwise it is one of the
  two operations of the builder.
- **A sequence**: the builder it leads to is built by the accepted requests alone
  (`built_performAll`), and has one element for each index that was answered
  (`size_performAll`).
-/

namespace BindingAudit

namespace TreeBuilder

/-- A request to a builder. -/
inductive Request where
  | element (typeName : String) (span : Span) (id : Option String) (parent : Option Int)
  | binding (owner : Int) (property expression : String) (span : Span)
deriving DecidableEq, Repr

/-- What an accepted request gives: the index of the new element, or the new binding. -/
inductive Answer where
  | element (index : Nat)
  | binding (added : Binding)
deriving DecidableEq, Repr

/-- Whether an answer tells of a new element. -/
def Answer.tellsElement : Except ElementError Answer → Bool
  | .ok (.element _) => true
  | _ => false

/-- Carry out a request: the answer, and the builder afterwards. -/
def perform (b : TreeBuilder) : Request → Except ElementError Answer × TreeBuilder
  | .element typeName span id parent =>
    match b.addElement typeName span id parent with
    | .ok (index, after) => (.ok (.element index), after)
    | .error refusal => (.error refusal, b)
  | .binding owner property expression span =>
    match b.addBinding owner property expression span with
    | .ok (added, after) => (.ok (.binding added), after)
    | .error refusal => (.error refusal, b)

/-- Carry out requests in turn: the answers, and the builder afterwards. -/
def performAll (b : TreeBuilder) : List Request → List (Except ElementError Answer) × TreeBuilder
  | [] => ([], b)
  | request :: rest =>
    let (answer, after) := b.perform request
    let (answers, last) := after.performAll rest
    (answer :: answers, last)

/-! ## Section 1: One request -/

/-- Why a builder with the given number of elements refuses a request: a second root, or an index
that no element has. -/
def Request.refusal? (size : Nat) : Request → Option ElementError
  | .element _ _ _ none => if size = 0 then none else some .secondRoot
  | .element _ _ _ (some p) => if 0 ≤ p ∧ p < size then none else some (.noParent p)
  | .binding owner _ _ _ => if 0 ≤ owner ∧ owner < size then none else some (.noOwner owner)

theorem has_iff {b : TreeBuilder} {i : Int} : b.has i = true ↔ 0 ≤ i ∧ i < b.elements.size := by
  simp only [has, Bool.and_eq_true, decide_eq_true_eq]

/-- **One request**: it is refused for the reason given, and the builder is as it was, or it is
carried out by the operation it names. -/
theorem perform_cases (b : TreeBuilder) (request : Request) :
    (∃ refusal, request.refusal? b.elements.size = some refusal ∧
      b.perform request = (.error refusal, b)) ∨
    (request.refusal? b.elements.size = none ∧
      ((∃ typeName span id parent index after, request = .element typeName span id parent ∧
          b.addElement typeName span id parent = .ok (index, after) ∧
          b.perform request = (.ok (.element index), after)) ∨
        ∃ owner property expression span added after,
          request = .binding owner property expression span ∧
          b.addBinding owner property expression span = .ok (added, after) ∧
          b.perform request = (.ok (.binding added), after))) := by
  cases request with
  | element typeName span id parent =>
    cases parent with
    | none =>
      by_cases hempty : b.elements.size = 0
      · have hadd : b.addElement typeName span id none =
            .ok (0, ⟨b.elements.push { typeName, span, id }⟩) := by
          simp [addElement, Array.isEmpty, hempty]
        exact Or.inr ⟨by simp [Request.refusal?, hempty],
          Or.inl ⟨_, _, _, _, _, _, rfl, hadd, by rw [perform, hadd]⟩⟩
      · have hadd : b.addElement typeName span id none = .error .secondRoot := by
          simp [addElement, Array.isEmpty, hempty]
        exact Or.inl ⟨.secondRoot, by simp [Request.refusal?, hempty], by rw [perform, hadd]⟩
    | some p =>
      by_cases hhas : b.has p = true
      · have hadd : b.addElement typeName span id (some p) =
            .ok (b.elements.size, b.addChild p.toNat { typeName, span, id }) := by
          simp [addElement, hhas]
        exact Or.inr ⟨by simp only [Request.refusal?, if_pos (has_iff.mp hhas)],
          Or.inl ⟨_, _, _, _, _, _, rfl, hadd, by rw [perform, hadd]⟩⟩
      · have hadd : b.addElement typeName span id (some p) = .error (.noParent p) := by
          simp [addElement, hhas]
        have hout := mt has_iff.mpr hhas
        exact Or.inl ⟨.noParent p, by simp only [Request.refusal?, if_neg hout],
          by rw [perform, hadd]⟩
  | binding owner property expression span =>
    by_cases hhas : b.has owner = true
    · obtain ⟨added, after, hadd⟩ : ∃ added after,
          b.addBinding owner property expression span = .ok (added, after) :=
        ⟨_, _, by rw [addBinding, if_pos hhas]⟩
      exact Or.inr ⟨by simp only [Request.refusal?, if_pos (has_iff.mp hhas)],
        Or.inr ⟨_, _, _, _, _, _, rfl, hadd, by rw [perform, hadd]⟩⟩
    · have hadd : b.addBinding owner property expression span = .error (.noOwner owner) := by
        rw [addBinding, if_neg hhas]
      have hout := mt has_iff.mpr hhas
      exact Or.inl ⟨.noOwner owner, by simp only [Request.refusal?, if_neg hout],
        by rw [perform, hadd]⟩

/-- A refused request leaves the builder as it is, and nothing else is refused. -/
theorem perform_eq_error_iff {b : TreeBuilder} {request : Request} {refusal : ElementError} :
    (b.perform request).1 = .error refusal ↔
      request.refusal? b.elements.size = some refusal := by
  rcases perform_cases b request with ⟨reason, hreason, h⟩ | ⟨hnone, h⟩
  · rw [h, hreason, Except.error.injEq, Option.some.injEq]
  · rw [hnone]
    rcases h with ⟨_, _, _, _, _, _, -, -, h⟩ | ⟨_, _, _, _, _, _, -, -, h⟩ <;> rw [h] <;> simp

theorem perform_of_refused {b : TreeBuilder} {request : Request} {refusal : ElementError}
    (h : (b.perform request).1 = .error refusal) : (b.perform request).2 = b := by
  rcases perform_cases b request with ⟨_, -, hsame⟩ | ⟨hnone, -⟩
  · rw [hsame]
  · rw [perform_eq_error_iff, hnone] at h
    cases h

/-! ## Section 2: Sequences -/

theorem built_perform {b : TreeBuilder} (h : b.Built) (request : Request) :
    (b.perform request).2.Built := by
  rcases perform_cases b request with ⟨_, -, hsame⟩ |
    ⟨-, ⟨_, _, _, _, _, _, -, hadd, heq⟩ | ⟨_, _, _, _, _, _, -, hadd, heq⟩⟩
  · rw [hsame]
    exact h
  · rw [heq]
    exact h.addElement hadd
  · rw [heq]
    exact h.addBinding hadd

/-- A sequence of requests leads to a builder that the accepted ones alone lead to. -/
theorem built_performAll {b : TreeBuilder} (h : b.Built) (requests : List Request) :
    (b.performAll requests).2.Built := by
  induction requests generalizing b with
  | nil => exact h
  | cons request rest ih => exact ih (built_perform h request)

theorem size_addElement {b after : TreeBuilder} {typeName : String} {span : Span}
    {id : Option String} {parent : Option Int} {index : Nat}
    (h : b.addElement typeName span id parent = .ok (index, after)) :
    after.elements.size = b.elements.size + 1 := by
  rcases addElement_cases h with ⟨-, hempty, -, hafter⟩ | ⟨p, -, -, -, rfl⟩
  · simp [hempty, hafter]
  · exact size_addChild b p _

/-- A request makes a builder larger exactly if its answer tells of a new element. -/
theorem size_perform (b : TreeBuilder) (request : Request) :
    (b.perform request).2.elements.size =
      b.elements.size + if Answer.tellsElement (b.perform request).1 then 1 else 0 := by
  rcases perform_cases b request with ⟨_, -, heq⟩ |
    ⟨-, ⟨_, _, _, _, _, _, -, hadd, heq⟩ | ⟨_, _, _, _, _, _, -, hadd, heq⟩⟩
  · simp [heq, Answer.tellsElement]
  · simp [heq, Answer.tellsElement, size_addElement hadd]
  · simp [heq, Answer.tellsElement, size_addBinding hadd]

/-- A builder has as many elements as answers told of. -/
theorem size_performAll (b : TreeBuilder) (requests : List Request) :
    (b.performAll requests).2.elements.size =
      b.elements.size + (b.performAll requests).1.countP Answer.tellsElement := by
  induction requests generalizing b with
  | nil => rfl
  | cons request rest ih =>
    have hrest := ih (b.perform request).2
    rw [size_perform] at hrest
    show ((b.perform request).2.performAll rest).2.elements.size = b.elements.size +
      ((b.perform request).1 :: ((b.perform request).2.performAll rest).1).countP
        Answer.tellsElement
    rw [hrest, List.countP_cons]
    omega

theorem tellsElement_iff {answer : Except ElementError Answer} :
    Answer.tellsElement answer = true ↔ ∃ index, answer = .ok (.element index) := by
  rcases answer with refusal | ⟨index⟩ | ⟨added⟩ <;> simp [Answer.tellsElement]

theorem exists_build_iff {b : TreeBuilder} : (∃ t, b.build = .ok t) ↔ 0 < b.elements.size := by
  unfold build
  split
  · next h => simp [h]
  · next h => simp [h]

end TreeBuilder

/-! ## Section 3: The arena of any sequence -/

namespace ElementTree

variable {t : ElementTree} {i : Nat}

theorem element_of_lt (h : i < t.size) : t.element i = .ok i := by
  rw [element, if_pos (by omega), Int.toNat_natCast]

theorem record_of_lt (h : i < t.size) : t.record i = .ok i := by
  have hnonneg : ¬ (i : Int) < 0 := by omega
  simp only [record, if_neg hnonneg]
  rw [if_pos (by omega), Int.toNat_natCast]

end ElementTree

/-- A child is listed once by its parent, and by no other element. -/
theorem Linked.count_children {es : Array Element} (h : Linked es) {p c : Nat} {e : Element}
    (he : es[p]? = some e) :
    (ParentLink es c p → e.children.count c = 1) ∧ (¬ ParentLink es c p → e.children.count c = 0) := by
  have hnodup : e.children.Nodup := (h.children_increasing he).imp Nat.ne_of_lt
  rw [← h.mem_children_iff he]
  exact ⟨fun hc => List.count_eq_one_of_mem hnodup hc, List.count_eq_zero_of_not_mem⟩

/-- **The arena of any sequence of requests**: whatever is asked of an empty builder, the two kinds
of links of its arena agree, and every child is listed once.  From there a further request is
refused exactly for the reasons given, which leaves the builder as it is.  A tree can be built
exactly if an element was added; it has the elements of the builder, and each of them is found
under its index. -/
theorem performAll_linked (requests : List TreeBuilder.Request) :
    let (answers, b) := ({} : TreeBuilder).performAll requests
    Linked b.elements ∧
    (∀ p c e, b.elements[p]? = some e →
      (ParentLink b.elements c p → e.children.count c = 1) ∧
        (¬ ParentLink b.elements c p → e.children.count c = 0)) ∧
    (∀ request refusal, ((b.perform request).1 = .error refusal ↔
        request.refusal? b.elements.size = some refusal) ∧
      ((b.perform request).1 = .error refusal → (b.perform request).2 = b)) ∧
    ((∃ t, b.build = .ok t) ↔ ∃ index, .ok (.element index) ∈ answers) ∧
    ∀ t, b.build = .ok t → t.elements = b.elements ∧
      ∀ i : Nat, i < t.size → t.element i = .ok i ∧ t.record i = .ok i := by
  have hlinked := (TreeBuilder.built_performAll .empty requests).linked
  have hsize := TreeBuilder.size_performAll {} requests
  refine ⟨hlinked, fun p c e he => hlinked.count_children he, fun request refusal =>
    ⟨TreeBuilder.perform_eq_error_iff, TreeBuilder.perform_of_refused⟩, ?_, ?_⟩
  · -- as many elements as answers told of: there is one exactly if an answer told of it
    rw [TreeBuilder.exists_build_iff, hsize]
    simp only [List.size_toArray, List.length_nil, Nat.zero_add, List.countP_pos_iff,
      TreeBuilder.tellsElement_iff]
    constructor
    · rintro ⟨_, hmem, index, rfl⟩
      exact ⟨index, hmem⟩
    · rintro ⟨index, hmem⟩
      exact ⟨_, hmem, index, rfl⟩
  · intro t ht
    exact ⟨TreeBuilder.elements_of_build ht,
      fun i hi => ⟨ElementTree.element_of_lt hi, ElementTree.record_of_lt hi⟩⟩

end BindingAudit
