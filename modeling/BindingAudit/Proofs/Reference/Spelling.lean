import BindingAudit.Proofs.Reference.Grammar

/-!
# The pieces of an expression

`Spelling` cuts an expression into the pieces around the point of a reference, and `Spelling.Valid`
says which characters each piece may have.  The characters are listed here one by one or by their
ranges, apart from the tests that reading uses; `isBlank_iff`, `startsIdentifier_iff` and
`isWordChar_iff` say that the two agree.

A valid spelling is what `Reference.Reads` says of an expression (`Spelling.valid_iff_reads`).  An
expression has at most one (`Spelling.Valid.unique`): every piece is as long as it can be, so the
pieces come off the expression one after the other without a choice.
-/

namespace BindingAudit

/-! ## Section 1: Characters -/

/-- The codes of the blank characters. -/
def Text.blankCodes : List Nat :=
  [0x09, 0x0A, 0x0B, 0x0C, 0x0D, 0x1C, 0x1D, 0x1E, 0x1F, 0x20, 0x85, 0xA0, 0x1680, 0x2000, 0x2001,
    0x2002, 0x2003, 0x2004, 0x2005, 0x2006, 0x2007, 0x2008, 0x2009, 0x200A, 0x2028, 0x2029, 0x202F,
    0x205F, 0x3000]

/-- A letter of ASCII, or the underscore. -/
def IsLetter (c : Char) : Prop :=
  ('A' ≤ c ∧ c ≤ 'Z') ∨ ('a' ≤ c ∧ c ≤ 'z') ∨ c = '_'

/-- A letter of ASCII, the underscore, or a digit of ASCII. -/
def IsLetterOrDigit (c : Char) : Prop :=
  IsLetter c ∨ ('0' ≤ c ∧ c ≤ '9')

instance : DecidablePred IsLetter := fun c =>
  inferInstanceAs (Decidable (('A' ≤ c ∧ c ≤ 'Z') ∨ ('a' ≤ c ∧ c ≤ 'z') ∨ c = '_'))

instance : DecidablePred IsLetterOrDigit := fun c =>
  inferInstanceAs (Decidable (IsLetter c ∨ ('0' ≤ c ∧ c ≤ '9')))

theorem Text.isBlank_iff {c : Char} : Text.isBlank c = true ↔ c.toNat ∈ Text.blankCodes := by
  simp only [Text.isBlank, Text.blankCodes, Bool.or_eq_true, Bool.and_eq_true, decide_eq_true_eq,
    beq_iff_eq, List.mem_cons, List.not_mem_nil, or_false]
  omega

theorem Reference.startsIdentifier_iff {c : Char} :
    Reference.startsIdentifier c = true ↔ IsLetter c := by
  have hupper : c.isUpper = true ↔ 'A' ≤ c ∧ c ≤ 'Z' := decide_eq_true_iff
  have hlower : c.isLower = true ↔ 'a' ≤ c ∧ c ≤ 'z' := by
    have hrange : c.isLower = (decide ('a' ≤ c) && decide (c ≤ 'z')) := rfl
    rw [hrange, Bool.and_eq_true, decide_eq_true_iff, decide_eq_true_iff]
  have hkinds : Reference.startsIdentifier c = (c.isUpper || c.isLower || c == '_') := rfl
  rw [hkinds, Bool.or_eq_true, Bool.or_eq_true, hupper, hlower, beq_iff_eq, or_assoc, IsLetter]

theorem Text.isWordChar_iff {c : Char} : Text.isWordChar c = true ↔ IsLetterOrDigit c := by
  have hdigit : c.isDigit = true ↔ '0' ≤ c ∧ c ≤ '9' := by
    have hrange : c.isDigit = (decide ('0' ≤ c) && decide (c ≤ '9')) := rfl
    rw [hrange, Bool.and_eq_true, decide_eq_true_iff, decide_eq_true_iff]
  have hkinds : Text.isWordChar c = (c.isAlpha || c.isDigit || c == '_') := rfl
  have hfirst : Reference.startsIdentifier c = (c.isAlpha || c == '_') := rfl
  rw [IsLetterOrDigit, ← Reference.startsIdentifier_iff, ← hdigit, hkinds, hfirst]
  simp only [Bool.or_eq_true]
  exact or_right_comm

/-- An identifier, told by its characters. -/
theorem isIdentifier_iff {cs : List Char} :
    IsIdentifier cs ↔ ∃ c rest, cs = c :: rest ∧ IsLetter c ∧ ∀ d ∈ rest, IsLetterOrDigit d := by
  simp only [IsIdentifier, Reference.startsIdentifier_iff, Text.isWordChar_iff]

/-! ## Section 2: Cutting an expression -/

/-- The pieces of an expression that starts with a reference; the point stands between the blanks
`before` and `after` it. -/
structure Spelling where
  lead : List Char
  object : List Char
  before : List Char
  after : List Char
  property : List Char
  rest : List Char
deriving DecidableEq

namespace Spelling

/-- The expression that is cut. -/
def text (s : Spelling) : List Char :=
  s.lead ++ s.object ++ s.before ++ ['.'] ++ s.after ++ s.property ++ s.rest

/-- The reference that is spelled. -/
def reference (s : Spelling) : Reference :=
  ⟨String.ofList s.object, String.ofList s.property⟩

/-- What the pieces may hold. -/
structure Valid (s : Spelling) : Prop where
  lead_blank : ∀ c ∈ s.lead, c.toNat ∈ Text.blankCodes
  object_identifier :
    ∃ c rest, s.object = c :: rest ∧ IsLetter c ∧ ∀ d ∈ rest, IsLetterOrDigit d
  before_blank : ∀ c ∈ s.before, c.toNat ∈ Text.blankCodes
  after_blank : ∀ c ∈ s.after, c.toNat ∈ Text.blankCodes
  property_identifier :
    ∃ c rest, s.property = c :: rest ∧ IsLetter c ∧ ∀ d ∈ rest, IsLetterOrDigit d
  /-- Nothing follows, or something that cannot prolong the property. -/
  rest_stops : s.rest = [] ∨ ∃ c tail, s.rest = c :: tail ∧ ¬ IsLetterOrDigit c

private theorem stops_iff {cs : List Char} :
    (cs = [] ∨ ∃ c tail, cs = c :: tail ∧ ¬ IsLetterOrDigit c) ↔
      ∀ c ∈ cs.head?, Text.isWordChar c = false := by
  cases cs with
  | nil => simp
  | cons c tail => simp [← Text.isWordChar_iff]

/-- **A valid spelling is a reading**: of its text, with its reference and its blanks. -/
theorem valid_iff_reads {s : Spelling} :
    s.Valid ↔ Reference.Reads s.text s.reference s.lead s.before s.after s.rest := by
  have htext : s.text = s.lead ++ (s.reference.object.toList ++ (s.before ++ '.' ::
      (s.after ++ (s.reference.property.toList ++ s.rest)))) := by
    simp [text, reference]
  constructor
  · rintro ⟨hlead, hobject, hbefore, hafter, hproperty, hrest⟩
    refine ⟨htext, fun c hc => Text.isBlank_iff.mpr (hlead c hc),
      fun c hc => Text.isBlank_iff.mpr (hbefore c hc),
      fun c hc => Text.isBlank_iff.mpr (hafter c hc), ?_, ?_, stops_iff.mp hrest⟩
    · simpa [reference] using isIdentifier_iff.mpr hobject
    · simpa [reference] using isIdentifier_iff.mpr hproperty
  · rintro ⟨-, hlead, hbefore, hafter, hobject, hproperty, hrest⟩
    refine ⟨fun c hc => Text.isBlank_iff.mp (hlead c hc), ?_,
      fun c hc => Text.isBlank_iff.mp (hbefore c hc),
      fun c hc => Text.isBlank_iff.mp (hafter c hc), ?_, stops_iff.mpr hrest⟩
    · simpa [reference] using isIdentifier_iff.mp hobject
    · simpa [reference] using isIdentifier_iff.mp hproperty

/-- **What an expression spells** is the reference it is read as. -/
theorem exists_valid_iff {expression : List Char} {r : Reference} :
    (∃ s : Spelling, s.Valid ∧ s.text = expression ∧ s.reference = r) ↔
      Reference.ofExpression? expression = some r := by
  constructor
  · rintro ⟨s, hs, rfl, rfl⟩
    exact (valid_iff_reads.mp hs).ofExpression?_eq
  · intro h
    obtain ⟨lead, before, after, rest, hreads⟩ := Reference.ofExpression?_reads h
    let s : Spelling := ⟨lead, r.object.toList, before, after, r.property.toList, rest⟩
    have hreference : s.reference = r := by simp [s, reference]
    have htext : s.text = expression := by
      rw [hreads.eq_append]
      simp [s, text]
    exact ⟨s, valid_iff_reads.mpr (by rw [htext, hreference]; exact hreads), htext, hreference⟩

/-- An expression that cannot be spelled has no reference. -/
theorem ofExpression?_eq_none_iff {expression : List Char} :
    Reference.ofExpression? expression = none ↔ ∀ s : Spelling, s.Valid → s.text ≠ expression := by
  constructor
  · intro hnone s hs htext
    rw [exists_valid_iff.mp ⟨s, hs, htext, rfl⟩] at hnone
    cases hnone
  · intro hall
    rw [Option.eq_none_iff_forall_ne_some]
    intro r hr
    obtain ⟨s, hs, htext, -⟩ := exists_valid_iff.mpr hr
    exact hall s hs htext

end Spelling

/-! ## Section 3: No choice -/

/-- A piece that is as long as its class of characters allows comes off a text in one way. -/
private theorem append_inj_of_class {holds : Char → Bool} {piece piece' tail tail' : List Char}
    (hpiece : ∀ c ∈ piece, holds c = true) (htail : ∀ c ∈ tail.head?, holds c = false)
    (hpiece' : ∀ c ∈ piece', holds c = true) (htail' : ∀ c ∈ tail'.head?, holds c = false)
    (h : piece ++ tail = piece' ++ tail') : piece = piece' ∧ tail = tail' := by
  -- both pieces are all that the text has of the class at its start
  have hall : ∀ {piece tail : List Char}, (∀ c ∈ piece, holds c = true) →
      (∀ c ∈ tail.head?, holds c = false) → (piece ++ tail).takeWhile holds = piece := by
    intro piece tail hpiece htail
    rw [List.takeWhile_append_of_pos hpiece]
    cases tail with
    | nil => exact List.append_nil _
    | cons c tail =>
      rw [List.takeWhile_cons_of_neg (by simp [htail c rfl]), List.append_nil]
  have heq : piece = piece' := by
    rw [← hall hpiece htail, h, hall hpiece' htail']
  exact ⟨heq, List.append_cancel_left (heq ▸ h)⟩

/-- **A reading is the only one**: the pieces come off the expression one after the other, each up
to the first character it cannot hold. -/
theorem Reference.Reads.unique {expression lead before after rest lead' before' after' rest' :
    List Char} {r r' : Reference} (h : Reads expression r lead before after rest)
    (h' : Reads expression r' lead' before' after' rest') :
    r = r' ∧ lead = lead' ∧ before = before' ∧ after = after' ∧ rest = rest' := by
  have htext := h.eq_append.symm.trans h'.eq_append
  obtain ⟨rfl, hbehindLead⟩ := append_inj_of_class h.lead_blank
    (head?_identifier h.object_identifier _) h'.lead_blank
    (head?_identifier h'.object_identifier _) htext
  obtain ⟨hobject, hbehindObject⟩ := append_inj_of_class h.object_identifier.isWordChar
    (head?_before_point h.before_blank _) h'.object_identifier.isWordChar
    (head?_before_point h'.before_blank _) hbehindLead
  obtain ⟨rfl, hfromPoint⟩ := append_inj_of_class h.before_blank (head?_point _)
    h'.before_blank (head?_point _) hbehindObject
  obtain ⟨rfl, hfromProperty⟩ := append_inj_of_class h.after_blank
    (head?_identifier h.property_identifier _) h'.after_blank
    (head?_identifier h'.property_identifier _) (List.cons.inj hfromPoint).2
  obtain ⟨hproperty, rfl⟩ := append_inj_of_class h.property_identifier.isWordChar
    h.remainder_head h'.property_identifier.isWordChar h'.remainder_head hfromProperty
  obtain ⟨object, property⟩ := r
  obtain ⟨object', property'⟩ := r'
  obtain rfl : object = object' := String.toList_inj.mp hobject
  obtain rfl : property = property' := String.toList_inj.mp hproperty
  exact ⟨rfl, rfl, rfl, rfl, rfl⟩

/-- **An expression is spelled in one way.** -/
theorem Spelling.Valid.unique {s s' : Spelling} (hs : s.Valid) (hs' : s'.Valid)
    (h : s.text = s'.text) : s = s' := by
  have hread := valid_iff_reads.mp hs
  rw [h] at hread
  obtain ⟨hreference, hlead, hbefore, hafter, hrest⟩ := hread.unique (valid_iff_reads.mp hs')
  obtain ⟨lead, object, before, after, property, rest⟩ := s
  obtain ⟨lead', object', before', after', property', rest'⟩ := s'
  simp only [reference, Reference.mk.injEq, String.ofList_inj] at hreference
  obtain ⟨rfl, rfl⟩ := hreference
  simp only at hlead hbefore hafter hrest
  subst hlead hbefore hafter hrest
  rfl

end BindingAudit
