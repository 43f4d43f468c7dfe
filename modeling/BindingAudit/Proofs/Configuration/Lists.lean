import BindingAudit.Configuration
import BindingAudit.Proofs.Data.Entries
import Mathlib.Data.List.Nodup

/-!
# Lists in a configuration

What a list in a configuration comes to: the texts that count among the items under a key
(`mem_texts_iff`), and their merger with what is known already, each text once and at its first
place (`mem_addNew_iff`, `nodup_addNew`).
-/

namespace BindingAudit

namespace Configuration

/-! ## Section 1: The list under a key -/

/-- The items of the list under a key.  A key that is absent has an empty list, and a value that is
no list has none. -/
def itemsAt? (c : Configuration) (key : String) : Option (List Data) :=
  match lookupText c key with
  | none => some []
  | some d => itemsOf? d

/-- The texts that count are the items that are texts and not empty. -/
theorem mem_texts_iff {c : Configuration} {key s : String} :
    s ∈ c.texts key ↔ s ≠ "" ∧ ∃ items, c.itemsAt? key = some items ∧ .text s ∈ items := by
  have hitem : ∀ items : List Data,
      s ∈ items.filterMap (fun d => d.text?.filter (· != "")) ↔ s ≠ "" ∧ .text s ∈ items := by
    intro items
    simp only [List.mem_filterMap, Option.filter_eq_some_iff, bne_iff_ne]
    constructor
    · rintro ⟨d, hd, htext, hs⟩
      rw [Data.text?_eq_some_iff.mp htext] at hd
      exact ⟨hs, hd⟩
    · rintro ⟨hs, hd⟩
      exact ⟨_, hd, rfl, hs⟩
  unfold texts itemsAt?
  cases lookupText c key with
  | none => simp
  | some d =>
    simp only [Option.bind_some]
    cases itemsOf? d with
    | none => simp
    | some items => simp [hitem]

/-! ## Section 2: Merging -/

section

variable {s : String} {known : List String}

theorem addNew_append (known xs ys : List String) :
    addNew known (xs ++ ys) = addNew (addNew known xs) ys := by
  induction xs generalizing known with
  | nil => rfl
  | cons x rest ih => exact ih _

theorem mem_addNew_iff {xs : List String} : s ∈ addNew known xs ↔ s ∈ known ∨ s ∈ xs := by
  induction xs generalizing known with
  | nil => simp [addNew]
  | cons x rest ih =>
    rw [addNew, ih, List.mem_cons]
    by_cases hx : x ∈ known
    · simp only [List.contains_iff_mem, hx, if_true]
      constructor
      · rintro (h | h)
        · exact Or.inl h
        · exact Or.inr (Or.inr h)
      · rintro (h | rfl | h)
        · exact Or.inl h
        · exact Or.inl hx
        · exact Or.inr h
    · simp only [List.contains_iff_mem, hx, if_false, List.mem_append, List.mem_singleton, or_assoc]

theorem nodup_addNew (h : known.Nodup) (xs : List String) : (addNew known xs).Nodup := by
  induction xs generalizing known with
  | nil => exact h
  | cons x rest ih =>
    refine ih ?_
    split
    · exact h
    · next hx =>
      rw [List.contains_iff_mem] at hx
      exact List.nodup_append.mpr ⟨h, List.nodup_singleton x,
        fun a ha b hb hab => hx (List.mem_singleton.mp hb ▸ hab ▸ ha)⟩

end

end Configuration

end BindingAudit
