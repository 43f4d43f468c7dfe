import BindingAudit.Proofs.Text.Blank
import BindingAudit.Reference

/-!
# How a reference is spelled

`Reads` says how an expression starts with a reference: blanks, the object, blanks, a point,
blanks, the property, and then a remainder that cannot prolong the property.  Whatever
`ofExpression?` returns is read off the expression in this way (`ofExpression?_reads`), and it
returns whatever can be (`Reads.ofExpression?_eq`).

From this follows what trimming and squeezing an expression keep of the reference
(`Reads.trim_eq`, `Reads.squeeze_eq`), and that neither part of a reference holds a blank, a point
or a colon.
-/

namespace BindingAudit

/-- A letter or underscore, followed by letters, digits and underscores of ASCII. -/
def IsIdentifier (cs : List Char) : Prop :=
  ∃ c rest, cs = c :: rest ∧ Reference.startsIdentifier c = true ∧
    ∀ d ∈ rest, Text.isWordChar d = true

/-! ## Section 1: Characters of identifiers -/

private theorem toNat_of_isUpper {c : Char} (h : c.isUpper = true) :
    65 ≤ c.toNat ∧ c.toNat ≤ 90 := by
  have hrange : decide (c.val ≥ 65 ∧ c.val ≤ 90) = true := h
  exact decide_eq_true_iff.mp hrange

private theorem toNat_of_isLower {c : Char} (h : c.isLower = true) :
    97 ≤ c.toNat ∧ c.toNat ≤ 122 := by
  have hrange : (decide (c.val ≥ 97) && decide (c.val ≤ 122)) = true := h
  rw [Bool.and_eq_true, decide_eq_true_iff, decide_eq_true_iff] at hrange
  exact hrange

/-- The code of a letter, a digit or an underscore. -/
private theorem wordChar_range {c : Char} (h : Text.isWordChar c = true) :
    (48 ≤ c.toNat ∧ c.toNat ≤ 57) ∨ (65 ≤ c.toNat ∧ c.toNat ≤ 90) ∨ c.toNat = 95 ∨
      (97 ≤ c.toNat ∧ c.toNat ≤ 122) := by
  have hkinds : (((c.isUpper || c.isLower) || c.isDigit) || c == '_') = true := h
  rw [Bool.or_eq_true, Bool.or_eq_true, Bool.or_eq_true, beq_iff_eq] at hkinds
  rcases hkinds with ((hupper | hlower) | hdigit) | rfl
  · exact Or.inr (Or.inl (toNat_of_isUpper hupper))
  · exact Or.inr (Or.inr (Or.inr (toNat_of_isLower hlower)))
  · exact Or.inl (Char.isDigit_iff_toNat.mp hdigit)
  · exact Or.inr (Or.inr (Or.inl rfl))

theorem isBlank_of_isWordChar {c : Char} (h : Text.isWordChar c = true) :
    Text.isBlank c = false := by
  have hrange := wordChar_range h
  simp only [Text.isBlank, Bool.or_eq_false_iff, Bool.and_eq_false_iff, decide_eq_false_iff_not,
    beq_eq_false_iff_ne]
  omega

theorem isWordChar_of_startsIdentifier {c : Char} (h : Reference.startsIdentifier c = true) :
    Text.isWordChar c = true := by
  simp only [Reference.startsIdentifier, Bool.or_eq_true] at h
  simp only [Text.isWordChar, Char.isAlphanum, Bool.or_eq_true]
  rcases h with h | h
  · exact Or.inl (Or.inl h)
  · exact Or.inr h

namespace IsIdentifier

variable {cs : List Char}

theorem isWordChar (h : IsIdentifier cs) : ∀ c ∈ cs, Text.isWordChar c = true := by
  obtain ⟨c, rest, rfl, hc, hrest⟩ := h
  intro d hd
  rcases List.mem_cons.mp hd with rfl | hd
  · exact isWordChar_of_startsIdentifier hc
  · exact hrest d hd

theorem isBlank_eq_false (h : IsIdentifier cs) : ∀ c ∈ cs, Text.isBlank c = false :=
  fun c hc => isBlank_of_isWordChar (h.isWordChar c hc)

theorem append (h : IsIdentifier cs) {more : List Char}
    (hmore : ∀ c ∈ more, Text.isWordChar c = true) : IsIdentifier (cs ++ more) := by
  obtain ⟨c, rest, rfl, hc, hrest⟩ := h
  exact ⟨c, rest ++ more, rfl, hc, List.forall_mem_append.mpr ⟨hrest, hmore⟩⟩

/-- A character that is in no word is in no identifier. -/
theorem not_mem (h : IsIdentifier cs) {c : Char} (hc : Text.isWordChar c = false) : c ∉ cs := by
  intro hmem
  rw [h.isWordChar c hmem] at hc
  cases hc

end IsIdentifier

/-! ## Section 2: The grammar -/

namespace Reference

/-- An expression reads as a reference, with the given blanks around its parts and the given
remainder. -/
structure Reads (expression : List Char) (r : Reference)
    (lead before after remainder : List Char) : Prop where
  eq_append : expression = lead ++ (r.object.toList ++ (before ++ '.' ::
    (after ++ (r.property.toList ++ remainder))))
  lead_blank : ∀ c ∈ lead, Text.isBlank c = true
  before_blank : ∀ c ∈ before, Text.isBlank c = true
  after_blank : ∀ c ∈ after, Text.isBlank c = true
  object_identifier : IsIdentifier r.object.toList
  property_identifier : IsIdentifier r.property.toList
  /-- The property is as long as it can be. -/
  remainder_head : ∀ c ∈ remainder.head?, Text.isWordChar c = false

/-- No character of a word follows those a text starts with. -/
theorem head?_dropWhile (cs : List Char) :
    ∀ c ∈ (cs.dropWhile Text.isWordChar).head?, Text.isWordChar c = false := by
  intro c hc
  have hnot := List.head?_dropWhile_not Text.isWordChar cs
  rw [Option.mem_def] at hc
  rw [hc] at hnot
  simpa using hnot

theorem identifier?_eq_some {cs word rest : List Char} (h : identifier? cs = some (word, rest)) :
    cs = word ++ rest ∧ IsIdentifier word ∧ ∀ c ∈ rest.head?, Text.isWordChar c = false := by
  cases cs with
  | nil => cases h
  | cons c cs =>
    rw [identifier?] at h
    by_cases hc : startsIdentifier c = true
    · rw [if_pos hc] at h
      cases h
      refine ⟨?_, ⟨c, _, rfl, hc, fun d hd => List.mem_takeWhile_imp hd⟩, head?_dropWhile cs⟩
      rw [List.cons_append, List.takeWhile_append_dropWhile]
    · rw [if_neg hc] at h
      cases h

private theorem blank_of_trimStart (cs : List Char) :
    ∃ lead, cs = lead ++ Text.trimStart cs ∧ ∀ c ∈ lead, Text.isBlank c = true :=
  ⟨cs.takeWhile Text.isBlank, List.takeWhile_append_dropWhile.symm,
    fun _ hc => List.mem_takeWhile_imp hc⟩

/-- **The reference of an expression is read off its start.** -/
theorem ofExpression?_reads {expression : List Char} {r : Reference}
    (h : ofExpression? expression = some r) :
    ∃ lead before after remainder, Reads expression r lead before after remainder := by
  unfold ofExpression? at h
  split at h
  · cases h
  · next object rest₁ hobject =>
    split at h
    · next rest₂ hpoint =>
      split at h
      · cases h
      · next property remainder hproperty =>
        cases h
        -- each trimming gives the blanks of a gap, each identifier the word behind it
        obtain ⟨lead, hlead, hleadBlank⟩ := blank_of_trimStart expression
        obtain ⟨hsplit₁, hident₁, -⟩ := identifier?_eq_some hobject
        obtain ⟨before, hbefore, hbeforeBlank⟩ := blank_of_trimStart rest₁
        obtain ⟨after, hafter, hafterBlank⟩ := blank_of_trimStart rest₂
        obtain ⟨hsplit₂, hident₂, hhead⟩ := identifier?_eq_some hproperty
        refine ⟨lead, before, after, remainder, ?_, hleadBlank, hbeforeBlank, hafterBlank, ?_, ?_,
          hhead⟩
        · rw [String.toList_ofList, String.toList_ofList, ← hsplit₂, ← hafter, ← hpoint, ← hbefore,
            ← hsplit₁, ← hlead]
        · rwa [String.toList_ofList]
        · rwa [String.toList_ofList]
    · cases h

theorem identifier?_append {word rest : List Char} (hword : IsIdentifier word)
    (hrest : ∀ c ∈ rest.head?, Text.isWordChar c = false) :
    identifier? (word ++ rest) = some (word, rest) := by
  obtain ⟨c, cs, rfl, hc, hcs⟩ := hword
  -- the rest adds nothing to the word, as its first character is in none
  have hstop : rest.takeWhile Text.isWordChar = [] ∧ rest.dropWhile Text.isWordChar = rest := by
    cases rest with
    | nil => exact ⟨rfl, rfl⟩
    | cons d ds =>
      have hd := hrest d rfl
      exact ⟨List.takeWhile_cons_of_neg (by simp [hd]), List.dropWhile_cons_of_neg (by simp [hd])⟩
  rw [List.cons_append, identifier?, if_pos hc, List.takeWhile_append_of_pos hcs,
    List.dropWhile_append_of_pos hcs, hstop.1, hstop.2, List.append_nil]

private theorem trimStart_identifier {blanks word rest : List Char}
    (hblanks : ∀ c ∈ blanks, Text.isBlank c = true) (hword : IsIdentifier word) :
    Text.trimStart (blanks ++ (word ++ rest)) = word ++ rest := by
  obtain ⟨c, cs, rfl, hc, -⟩ := hword
  exact Text.trimStart_append hblanks
    (isBlank_of_isWordChar (isWordChar_of_startsIdentifier hc))

/-- What follows an object is a blank or the point, which are in no word. -/
theorem head?_before_point {before : List Char} (h : ∀ c ∈ before, Text.isBlank c = true)
    (tail : List Char) : ∀ c ∈ (before ++ '.' :: tail).head?, Text.isWordChar c = false := by
  intro c hc
  cases before with
  | nil =>
    obtain rfl : '.' = c := by simpa using hc
    decide
  | cons d ds =>
    obtain rfl : d = c := by simpa using hc
    by_contra hword
    have hblank := h d (List.mem_cons_self ..)
    rw [isBlank_of_isWordChar (by simpa using hword)] at hblank
    cases hblank

/-- A point is not blank. -/
theorem head?_point (tail : List Char) : ∀ c ∈ ('.' :: tail).head?, Text.isBlank c = false := by
  intro c hc
  obtain rfl : '.' = c := by simpa using hc
  decide

/-- An identifier starts with a character that is not blank. -/
theorem head?_identifier {word : List Char} (h : IsIdentifier word) (tail : List Char) :
    ∀ c ∈ (word ++ tail).head?, Text.isBlank c = false := by
  obtain ⟨c, cs, rfl, hc, -⟩ := h
  intro d hd
  obtain rfl : c = d := by simpa using hd
  exact isBlank_of_isWordChar (isWordChar_of_startsIdentifier hc)

/-- **An expression that reads as a reference has it**: no other reference can be read off the
same expression. -/
theorem Reads.ofExpression?_eq {expression lead before after remainder : List Char}
    {r : Reference} (h : Reads expression r lead before after remainder) :
    ofExpression? expression = some r := by
  have hobject := head?_before_point h.before_blank (after ++ (r.property.toList ++ remainder))
  have hpoint : Text.trimStart (before ++ '.' :: (after ++ (r.property.toList ++ remainder))) =
      '.' :: (after ++ (r.property.toList ++ remainder)) :=
    Text.trimStart_append h.before_blank (by decide)
  rw [h.eq_append, ofExpression?, trimStart_identifier h.lead_blank h.object_identifier,
    identifier?_append h.object_identifier hobject]
  simp only [hpoint, trimStart_identifier h.after_blank h.property_identifier,
    identifier?_append h.property_identifier h.remainder_head, String.ofList_toList]

/-- **The reference of an expression** is the one the expression reads as. -/
theorem ofExpression?_eq_some_iff {expression : List Char} {r : Reference} :
    ofExpression? expression = some r ↔
      ∃ lead before after remainder, Reads expression r lead before after remainder :=
  ⟨ofExpression?_reads, fun ⟨_, _, _, _, h⟩ => h.ofExpression?_eq⟩

/-! ## Section 3: What trimming and squeezing keep -/

namespace Reads

variable {expression lead before after remainder : List Char} {r : Reference}

/-- A trimmed expression still starts with the reference; only the remainder loses blanks. -/
theorem trim_eq (h : Reads expression r lead before after remainder) :
    Text.trim expression = r.object.toList ++ (before ++ '.' ::
      (after ++ (r.property.toList ++ Text.trimEnd remainder))) := by
  obtain ⟨c, cs, hobject, hc, -⟩ := h.object_identifier
  have hcBlank : Text.isBlank c = false :=
    isBlank_of_isWordChar (isWordChar_of_startsIdentifier hc)
  -- the object starts with a character that is not blank
  have hstart : Text.trimStart expression = r.object.toList ++ (before ++ '.' ::
      (after ++ (r.property.toList ++ remainder))) := by
    rw [h.eq_append, hobject, List.cons_append, Text.trimStart_append h.lead_blank hcBlank]
  -- the property ends with a character that is not blank
  have hne : r.property.toList ≠ [] := by
    obtain ⟨d, ds, hproperty, -, -⟩ := h.property_identifier
    rw [hproperty]
    exact List.cons_ne_nil _ _
  obtain ⟨ds, d, hproperty⟩ : ∃ ds d, r.property.toList = ds ++ [d] :=
    ⟨_, _, (List.dropLast_concat_getLast hne).symm⟩
  have hdBlank : Text.isBlank d = false := by
    apply h.property_identifier.isBlank_eq_false
    rw [hproperty]
    exact List.mem_append_right _ (List.mem_singleton_self d)
  have hend : ∀ tail, r.object.toList ++ (before ++ '.' :: (after ++ (ds ++ [d] ++ tail))) =
      (r.object.toList ++ (before ++ '.' :: (after ++ ds))) ++ d :: tail := by
    intro tail
    simp
  rw [Text.trim, hstart, hproperty, hend, Text.trimEnd_append hdBlank, ← hend]

/-- Without its blanks an expression is the reference as it is written without blanks, followed
by what the remainder leaves. -/
theorem squeeze_eq (h : Reads expression r lead before after remainder) :
    Text.squeeze expression = r.target.toList ++ Text.squeeze remainder := by
  have hpoint : Text.squeeze ['.'] = ['.'] := by decide
  have hcons : ∀ cs, Text.squeeze ('.' :: cs) = '.' :: Text.squeeze cs := fun cs => by
    rw [← List.singleton_append, Text.squeeze_append, hpoint, List.singleton_append]
  rw [h.eq_append]
  simp only [Text.squeeze_append, hcons, (Text.squeeze_eq_nil_iff _).mpr h.lead_blank,
    (Text.squeeze_eq_nil_iff _).mpr h.before_blank, (Text.squeeze_eq_nil_iff _).mpr h.after_blank,
    Text.squeeze_eq_self h.object_identifier.isBlank_eq_false,
    Text.squeeze_eq_self h.property_identifier.isBlank_eq_false, List.nil_append]
  simp [target]

/-- An expression that reads as a reference is not blank. -/
theorem exists_not_blank (h : Reads expression r lead before after remainder) :
    ∃ c ∈ expression, Text.isBlank c = false := by
  refine ⟨'.', ?_, by decide⟩
  rw [h.eq_append]
  simp

end Reads

end Reference

end BindingAudit
