import BindingAudit.Proofs.Configuration.Lists
import BindingAudit.Proofs.Rule.Verdict

/-!
# A larger vocabulary

What further items in the two lists of the configuration do to the verdicts.  Further exempt terms
only exempt what was flagged, and further native types only turn what was not native into something
flagged or exempt (`verdict_of_extends`).  Both are told exactly: a verdict changes if and only if
the property's name holds a new term, or the declaration has a new type.

## Architecture

1. One configuration `Extends` another under a key, and what that does to the texts that count.
2. Verdicts under settings that differ in one of the two vocabularies.
3. Verdicts under configurations.
-/

namespace BindingAudit

/-! ## Section 1: Further items -/

namespace Configuration

/-- A configuration is another with further items at the end of the list under a key. -/
structure Extends (c c' : Configuration) (key : String) (more : List Data) : Prop where
  others : ∀ k, k ≠ key → lookupText c' k = lookupText c k
  items : ∃ items, c.itemsAt? key = some items ∧ c'.itemsAt? key = some (items ++ more)

section

variable {c c' : Configuration} {key k : String} {more items : List Data}

/-- Every list can be extended: by setting the key to the longer list. -/
theorem extends_setEntry (h : c.itemsAt? key = some items) (more : List Data) :
    Extends c (setEntry c (.text key) (.list (items ++ more))) key more where
  others k hk := by rw [lookupText_setEntry, if_neg hk]
  items := ⟨items, h, by rw [itemsAt?, lookupText_setEntry, if_pos rfl]; rfl⟩

theorem Extends.text_eq (h : Extends c c' key more) (hk : k ≠ key) (default : String) :
    c'.text k default = c.text k default := by
  rw [text, text, h.others k hk]

theorem Extends.texts_eq (h : Extends c c' key more) (hk : k ≠ key) : c'.texts k = c.texts k := by
  rw [texts, texts, h.others k hk]

/-- The texts that count are those that did and the new ones. -/
theorem Extends.mem_texts_iff (h : Extends c c' key more) {s : String} :
    s ∈ c'.texts key ↔ s ∈ c.texts key ∨ (s ≠ "" ∧ .text s ∈ more) := by
  obtain ⟨items, hitems, hitems'⟩ := h.items
  simp only [Configuration.mem_texts_iff, hitems, hitems', Option.some.injEq, exists_eq_left',
    List.mem_append]
  rw [and_or_left]

end

end Configuration

/-! ## Section 2: Verdicts under two settings -/

namespace Settings

section

variable {s s' : Settings} {t : ElementTree} {expression : String} {i : Nat}

theorem refersToNative_congr (h : ∀ typeName, s'.isNativeType typeName = s.isNativeType typeName)
    (id : String) : t.refersToNative s' id i = t.refersToNative s id i := by
  unfold ElementTree.refersToNative
  simp only [h]

theorem isEnumAccess_congr (h : s'.exemptTerms = s.exemptTerms) (r : Reference) :
    s'.isEnumAccess expression r = s.isEnumAccess expression r := by
  rw [isEnumAccess, isEnumAccess, h]

/-- With further exempt terms an access looks like an enumeration if it did or holds a new term. -/
theorem isEnumAccess_of_terms {New : String → Prop}
    (hterms : ∀ term, term ∈ s'.exemptTerms ↔ term ∈ s.exemptTerms ∨ New term)
    (expression : String) (r : Reference) :
    s'.isEnumAccess expression r = true ↔ s.isEnumAccess expression r = true ∨
      ∃ term, New term ∧ Text.foldCase term.toList <:+: Text.foldCase r.property.toList := by
  simp only [isEnumAccess, Bool.or_eq_true, List.any_eq_true, Text.occursIn_iff, hterms,
    or_and_right, exists_or, or_assoc]

/-- With further native types an id means a native object if it did or is declared with a new
type. -/
theorem refersToNative_of_types {New : String → Prop} (hbegin : s'.nativePrefix = s.nativePrefix)
    (htypes : ∀ typeName, typeName ∈ s'.nativeTypes ↔ typeName ∈ s.nativeTypes ∨ New typeName)
    (id : String) :
    t.refersToNative s' id i = true ↔ t.refersToNative s id i = true ∨
      ∃ k e, t.declaration? id i = some k ∧ t.get? k = some e ∧ New e.typeName := by
  have hnative : ∀ typeName,
      s'.isNativeType typeName = true ↔ s.isNativeType typeName = true ∨ New typeName := by
    intro typeName
    simp only [isNativeType_iff, Native, hbegin, htypes, or_assoc]
  simp only [ElementTree.refersToNative_eq_true_iff, hnative, and_or_left, exists_or]

/-- **Further exempt terms** exempt what was flagged where the property's name holds one of them,
and change nothing else. -/
theorem verdict_of_terms (New : String → Prop) (hbegin : s'.nativePrefix = s.nativePrefix)
    (htypes : s'.nativeTypes = s.nativeTypes)
    (hterms : ∀ term, term ∈ s'.exemptTerms ↔ term ∈ s.exemptTerms ∨ New term) :
    (s'.verdict t expression i = s.verdict t expression i ∨
        s.verdict t expression i = .flagged ∧ s'.verdict t expression i = .exempt) ∧
      (s'.verdict t expression i ≠ s.verdict t expression i ↔
        s.verdict t expression i = .flagged ∧
          ∃ r, Reference.ofExpression? expression.toList = some r ∧
            ∃ term, New term ∧
              Text.foldCase term.toList <:+: Text.foldCase r.property.toList) := by
  cases hr : Reference.ofExpression? expression.toList with
  | none => simp [verdict, hr]
  | some r =>
    have hnative : t.refersToNative s' r.object i = t.refersToNative s r.object i :=
      refersToNative_congr (fun typeName => by rw [isNativeType, isNativeType, hbegin, htypes]) _
    have henum := isEnumAccess_of_terms hterms expression r
    rw [verdict_of_reference hr, verdict_of_reference hr, hnative]
    simp only [Option.some.injEq, exists_eq_left']
    -- only an access that does not look like an enumeration yet can come to do so
    cases t.refersToNative s r.object i with
    | false => simp
    | true =>
      cases hbefore : s.isEnumAccess expression r with
      | true =>
        rw [henum.mpr (Or.inl hbefore)]
        simp
      | false =>
        rw [hbefore] at henum
        cases hafter : s'.isEnumAccess expression r <;> rw [hafter] at henum <;> simpa using henum

/-- **Further native types** make native what is declared with one of them, and change nothing
else. -/
theorem verdict_of_types (New : String → Prop) (hbegin : s'.nativePrefix = s.nativePrefix)
    (htypes : ∀ typeName, typeName ∈ s'.nativeTypes ↔ typeName ∈ s.nativeTypes ∨ New typeName)
    (hterms : s'.exemptTerms = s.exemptTerms) :
    (s'.verdict t expression i = s.verdict t expression i ∨
        s.verdict t expression i = .notNative ∧
          (s'.verdict t expression i = .flagged ∨ s'.verdict t expression i = .exempt)) ∧
      (s'.verdict t expression i ≠ s.verdict t expression i ↔
        s.verdict t expression i = .notNative ∧
          ∃ r, Reference.ofExpression? expression.toList = some r ∧
            ∃ k e, t.declaration? r.object i = some k ∧ t.get? k = some e ∧ New e.typeName) := by
  cases hr : Reference.ofExpression? expression.toList with
  | none => simp [verdict, hr]
  | some r =>
    have henum : s'.isEnumAccess expression r = s.isEnumAccess expression r :=
      isEnumAccess_congr hterms r
    have hnative := refersToNative_of_types (t := t) (i := i) hbegin htypes r.object
    rw [verdict_of_reference hr, verdict_of_reference hr, henum]
    simp only [Option.some.injEq, exists_eq_left']
    -- only an object that is not native yet can come to be
    cases hbefore : t.refersToNative s r.object i with
    | true =>
      rw [hnative.mpr (Or.inl hbefore)]
      cases s.isEnumAccess expression r <;> simp
    | false =>
      rw [hbefore] at hnative
      cases hafter : t.refersToNative s' r.object i <;> rw [hafter] at hnative <;>
        cases s.isEnumAccess expression r <;> simpa using hnative

end

end Settings

/-! ## Section 3: Verdicts under two configurations -/

namespace Configuration

/-- **The vocabulary is monotone**: in any tree, further items in the list of exempt terms change a
verdict from flagged to exempt, and from nothing else to nothing else; further items in the list of
native types change it from not native to flagged or exempt only.  The items may be anything: what
counts are the texts among them that are not empty, and a verdict changes exactly if one of these
occurs in the property's name, whatever the case of both, or is the type of the declaration. -/
theorem verdict_of_extends {c c' : Configuration} {more : List Data} (t : ElementTree)
    (expression : String) (i : Nat) :
    (Extends c c' "enum_exemption_terms" more →
      (c'.settings.verdict t expression i = c.settings.verdict t expression i ∨
        c.settings.verdict t expression i = .flagged ∧
          c'.settings.verdict t expression i = .exempt) ∧
      (c'.settings.verdict t expression i ≠ c.settings.verdict t expression i ↔
        c.settings.verdict t expression i = .flagged ∧
          ∃ r, Reference.ofExpression? expression.toList = some r ∧
            ∃ term, (term ≠ "" ∧ .text term ∈ more) ∧
              Text.foldCase term.toList <:+: Text.foldCase r.property.toList)) ∧
    (Extends c c' "native_base_types" more →
      (c'.settings.verdict t expression i = c.settings.verdict t expression i ∨
        c.settings.verdict t expression i = .notNative ∧
          (c'.settings.verdict t expression i = .flagged ∨
            c'.settings.verdict t expression i = .exempt)) ∧
      (c'.settings.verdict t expression i ≠ c.settings.verdict t expression i ↔
        c.settings.verdict t expression i = .notNative ∧
          ∃ r, Reference.ofExpression? expression.toList = some r ∧
            ∃ k e, t.declaration? r.object i = some k ∧ t.get? k = some e ∧
              e.typeName ≠ "" ∧ .text e.typeName ∈ more)) := by
  have hbegin : ∀ {key : String}, key ≠ "native_type_prefix" → Extends c c' key more →
      c'.settings.nativePrefix = c.settings.nativePrefix := fun hkey h => h.text_eq hkey.symm _
  constructor
  · intro h
    refine Settings.verdict_of_terms (fun term => term ≠ "" ∧ .text term ∈ more)
      (hbegin (by decide) h) (congrArg (addNew _) (h.texts_eq (by decide))) fun term => ?_
    rw [settings, settings, mem_addNew_iff, mem_addNew_iff, h.mem_texts_iff, or_assoc]
  · intro h
    refine Settings.verdict_of_types (fun typeName => typeName ≠ "" ∧ .text typeName ∈ more)
      (hbegin (by decide) h) (fun typeName => ?_) (congrArg (addNew _) (h.texts_eq (by decide)))
    rw [settings, settings, mem_addNew_iff, mem_addNew_iff, h.mem_texts_iff, or_assoc]

/-- A configuration with a list of exempt terms. -/
def oneTerm : Configuration :=
  [(.text "alias_prefix", .int 3), (.text "enum_exemption_terms", .tuple [.text "Kind", .null])]

/-- Items of several kinds, among them a part of a property's name in another case and a type. -/
def fiveItems : List Data :=
  [.int 5, .text "", .text "STE", .text "Label", .text "State"]

/-- With a part of its name as an exempt term an access is exempt, and with its type listed the
label that hides the timer is native. -/
theorem verdict_of_fiveItems :
    (∃ c, Extends oneTerm c "enum_exemption_terms" fiveItems ∧
      oneTerm.settings.verdict .fourNamesakes "t.step" 3 = .flagged ∧
      c.settings.verdict .fourNamesakes "t.step" 3 = .exempt) ∧
    ∃ c, Extends oneTerm c "native_base_types" fiveItems ∧
      oneTerm.settings.verdict .fourNamesakes "t.step" 5 = .notNative ∧
      c.settings.verdict .fourNamesakes "t.step" 5 = .flagged := by
  have hitems : oneTerm.itemsAt? "enum_exemption_terms" = some [.text "Kind", .null] := rfl
  have hnone : oneTerm.itemsAt? "native_base_types" = some [] := rfl
  have hterms := extends_setEntry hitems fiveItems
  have htypes := extends_setEntry hnone fiveItems
  have hflagged : oneTerm.settings.verdict .fourNamesakes "t.step" 3 = .flagged := by
    decide +kernel
  have hnot : oneTerm.settings.verdict .fourNamesakes "t.step" 5 = .notNative := by
    decide +kernel
  have hr : Reference.ofExpression? "t.step".toList = some ⟨"t", "step"⟩ := by decide +kernel
  constructor
  · refine ⟨_, hterms, hflagged, ?_⟩
    obtain ⟨hchange, hiff⟩ := (verdict_of_extends .fourNamesakes "t.step" 3).1 hterms
    have hne := hiff.mpr ⟨hflagged, _, hr, "STE", ⟨by decide, by simp [fiveItems]⟩,
      by decide +kernel⟩
    exact (hchange.resolve_left hne).2
  · refine ⟨_, htypes, hnot, ?_⟩
    obtain ⟨hchange, hiff⟩ := (verdict_of_extends .fourNamesakes "t.step" 5).2 htypes
    have hne := hiff.mpr ⟨hnot, _, hr, 4,
      { typeName := "Label", span := ⟨25, 5⟩, id := some "t", parent := some 3 },
      by decide +kernel, rfl, by decide, by simp [fiveItems]⟩
    exact (hchange.resolve_left hne).2.resolve_right (by decide +kernel)

end Configuration

end BindingAudit
