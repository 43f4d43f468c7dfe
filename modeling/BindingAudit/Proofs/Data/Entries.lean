import BindingAudit.Data.Basic
import Mathlib.Data.List.Basic

/-!
# Entries with keys

What is found under a key of an ordered mapping after a value was put under a key
(`find?_put`, `lookupText_setEntry`) or all values were changed (`lookupText_map`).
-/

namespace BindingAudit

/-- Put under a key, in the place of the entry that is there or at the end, a value is what is found
under that key, and what is found under other keys stays. -/
theorem find?_put {κ α : Type} [BEq κ] [LawfulBEq κ] [DecidableEq κ] (entries : List (κ × α))
    (key k : κ) (value : α) :
    ((if entries.any fun e => e.1 == key then
          entries.map fun e => if e.1 == key then (key, value) else e
        else entries ++ [(key, value)]).find? fun e => e.1 == k).map (·.2) =
      if k = key then some value else (entries.find? fun e => e.1 == k).map (·.2) := by
  split
  case isTrue hany =>
    -- the entries keep their keys, so the one that is found is the one that was
    have hkeys : (fun e : κ × α => e.1 == k) ∘ (fun e => if e.1 == key then (key, value) else e) =
        fun e => e.1 == k := by
      funext e
      by_cases he : e.1 = key <;> simp [he]
    rw [List.find?_map, hkeys]
    cases hfind : entries.find? fun e => e.1 == k with
    | none =>
      have hne : k ≠ key := by
        rintro rfl
        rw [List.find?_eq_none] at hfind
        obtain ⟨e, he, hkey⟩ := List.any_eq_true.mp hany
        exact hfind e he hkey
      simp [hne]
    | some e =>
      have he : e.1 = k := by simpa using List.find?_some hfind
      by_cases hk : k = key <;> simp [he, hk]
  case isFalse hany =>
    -- the new entry stands behind all others, and none of these is for the key
    have hnone : (entries.find? fun e => e.1 == key) = none :=
      List.find?_eq_none.mpr fun e he hkey => hany (List.any_eq_true.mpr ⟨e, he, hkey⟩)
    rw [List.find?_append]
    by_cases hk : k = key
    · simp [hk, hnone]
    · simp [hk, Ne.symm hk]

theorem Scalar.sameKey_text (a : Scalar) (key : String) :
    a.sameKey (.text key) = (a == .text key) := by
  cases a <;> simp [sameKey, integral?]

/-- Setting the value of a text key changes what is found under that key only. -/
theorem lookupText_setEntry {α : Type} (entries : List (Scalar × α)) (key k : String) (value : α) :
    lookupText (setEntry entries (.text key) value) k =
      if k = key then some value else lookupText entries k := by
  have hspelling : (fun e : Scalar × α => if e.1 == .text key then (e.1, value) else e) =
      fun e => if e.1 == .text key then (.text key, value) else e := by
    funext e
    by_cases he : e.1 = .text key <;> simp [he]
  unfold setEntry lookupText
  simp only [Scalar.sameKey_text]
  rw [hspelling, find?_put]
  simp only [Scalar.text.injEq]

/-- Changing all values changes the one that is found. -/
theorem lookupText_map {α β : Type} (f : α → β) (entries : List (Scalar × α)) (key : String) :
    lookupText (entries.map fun e => (e.1, f e.2)) key = (lookupText entries key).map f := by
  rw [lookupText, lookupText, List.find?_map, Option.map_map, Option.map_map]
  rfl

end BindingAudit
