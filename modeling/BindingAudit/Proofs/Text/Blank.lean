import BindingAudit.Text.Blank
import BindingAudit.Text.Slice
import Mathlib.Data.List.TakeWhile

/-!
# Blanks around a text

What trimming does to a text, as far as comparing two readings of an expression needs it.
-/

namespace BindingAudit.Text

/-- A text is trimmed away exactly if it is blank. -/
theorem trim_eq_nil_iff (cs : List Char) : trim cs = [] ↔ ∀ c ∈ cs, isBlank c = true := by
  unfold trim trimEnd trimStart
  rw [List.reverse_eq_nil_iff, List.dropWhile_eq_nil_iff]
  constructor
  · intro h c hc
    -- a character is trimmed at the start, or it is left for the end
    rw [← List.takeWhile_append_dropWhile (p := isBlank) (l := cs)] at hc
    rcases List.mem_append.mp hc with hc | hc
    · exact List.mem_takeWhile_imp hc
    · exact h c (List.mem_reverse.mpr hc)
  · intro h c hc
    exact h c ((List.dropWhile_sublist isBlank).mem (List.mem_reverse.mp hc))

/-- Trimming the end stops at the last character that is not blank. -/
theorem trimEnd_append {xs ys : List Char} {c : Char} (hc : isBlank c = false) :
    trimEnd (xs ++ c :: ys) = xs ++ c :: trimEnd ys := by
  unfold trimEnd
  have hsplit : (xs ++ c :: ys).reverse = ys.reverse ++ c :: xs.reverse := by simp
  rw [hsplit, List.dropWhile_append]
  by_cases hempty : (ys.reverse.dropWhile isBlank).isEmpty = true
  · have hnil : ys.reverse.dropWhile isBlank = [] := List.isEmpty_iff.mp hempty
    simp [hnil, hc]
  · rw [if_neg hempty]
    simp

/-- Trimming the end leaves the start of a text. -/
theorem trimEnd_prefix (cs : List Char) : trimEnd cs <+: cs := by
  unfold trimEnd
  rw [← List.reverse_suffix, List.reverse_reverse]
  exact List.dropWhile_suffix isBlank

theorem trimEnd_eq_nil_iff (cs : List Char) : trimEnd cs = [] ↔ ∀ c ∈ cs, isBlank c = true := by
  unfold trimEnd
  rw [List.reverse_eq_nil_iff, List.dropWhile_eq_nil_iff]
  simp only [List.mem_reverse]

/-- Blanks in front of a character that is not blank are trimmed away. -/
theorem trimStart_append {lead : List Char} (h : ∀ c ∈ lead, isBlank c = true) {c : Char}
    {cs : List Char} (hc : isBlank c = false) : trimStart (lead ++ c :: cs) = c :: cs := by
  unfold trimStart
  rw [List.dropWhile_append_of_pos h, List.dropWhile_cons_of_neg (by simp [hc])]

/-- A text without its blanks. -/
def squeeze (cs : List Char) : List Char :=
  cs.filter fun c => !isBlank c

theorem squeeze_append (xs ys : List Char) : squeeze (xs ++ ys) = squeeze xs ++ squeeze ys :=
  List.filter_append ..

theorem squeeze_eq_nil_iff (cs : List Char) : squeeze cs = [] ↔ ∀ c ∈ cs, isBlank c = true := by
  unfold squeeze
  rw [List.filter_eq_nil_iff]
  simp

theorem squeeze_eq_self {cs : List Char} (h : ∀ c ∈ cs, isBlank c = false) : squeeze cs = cs := by
  unfold squeeze
  rw [List.filter_eq_self]
  intro c hc
  simp [h c hc]

/-- A text that starts with a character that is not blank keeps its start. -/
theorem trim_append_of_not_blank {xs : List Char} (hne : xs ≠ []) (h : ∀ c ∈ xs, isBlank c = false)
    (ys : List Char) : trim (xs ++ ys) = xs ++ trimEnd ys := by
  -- the first character stops the trimming at the start, the last one that at the end
  have hstart : trimStart (xs ++ ys) = xs ++ ys := by
    obtain ⟨c, cs, rfl⟩ := List.exists_cons_of_ne_nil hne
    exact @trimStart_append [] (by simp) c (cs ++ ys) (h c (List.mem_cons_self ..))
  obtain ⟨init, last, rfl⟩ : ∃ init last, xs = init ++ [last] :=
    ⟨_, _, (List.dropLast_concat_getLast hne).symm⟩
  have hlast : isBlank last = false := h last (by simp)
  rw [trim, hstart, List.append_assoc, List.singleton_append, trimEnd_append hlast,
    List.append_cons]

/-! ## Slices -/

/-- An offset inside a text counts the characters in front of it. -/
theorem boundary_of_le {size : Nat} {offset : Int} (h : 0 ≤ offset)
    (hsize : offset.toNat ≤ size) : boundary size offset = offset.toNat := by
  unfold boundary
  rw [if_neg (by omega), Nat.min_eq_left hsize]

/-- The slice behind the start of a text is what follows there. -/
theorem slice_append {xs ys : List Char} {start stop : Int} (hstart : start = xs.length)
    (hle : start ≤ stop) (hstop : stop ≤ ((xs ++ ys).length : Int)) :
    slice (xs ++ ys) start stop = ys.take (stop - start).toNat := by
  subst hstart
  unfold slice
  rw [boundary_of_le (by omega) (by omega), boundary_of_le (by omega) (by omega), List.drop_take,
    Int.toNat_natCast, List.drop_left]
  congr 1
  omega

/-- The slice between two lengths is what stands there. -/
theorem slice_between (xs ys zs : List Char) :
    slice (xs ++ ys ++ zs) xs.length (xs ++ ys).length = ys := by
  have hle : (xs.length : Int) ≤ (xs ++ ys).length := by
    simp only [List.length_append, Int.natCast_add]
    omega
  have hstop : ((xs ++ ys).length : Int) ≤ (xs ++ (ys ++ zs)).length := by
    simp only [List.length_append, Int.natCast_add]
    omega
  have hcount : (((xs ++ ys).length : Int) - xs.length).toNat = ys.length := by
    simp only [List.length_append, Int.natCast_add]
    omega
  rw [List.append_assoc, slice_append rfl hle hstop, hcount, List.take_left]

/-- There is nothing between an offset and itself. -/
theorem slice_self (text : List Char) (offset : Int) : slice text offset offset = [] := by
  unfold slice
  exact List.drop_eq_nil_of_le (List.length_take_le ..)

end BindingAudit.Text
