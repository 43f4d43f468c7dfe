import BindingAudit.Console.Pattern
import BindingAudit.Proofs.Reference.Spelling

/-!
# References as a pattern

A reference can also be told by a pattern with five repetitions, each of which takes as much as it
can and gives some of it back if what follows does not fit (`Pattern.reference`).  The pattern finds
what `Reference.ofExpression?` reads: giving back never leads to another match, and where the first
way through the pattern fails, all do.

## Architecture

1. One repetition: it comes through with the longest piece that goes on to fit
   (`fit_star_of_longest`), and with whatever piece it comes through, that piece is of its class
   (`exists_piece_of_fit_star`).
2. An identifier is a letter and a repetition, so both facts pass on to it.
3. The whole pattern: it fits a spelled expression and marks the two parts (`match?_text`,
   `groups_behind`), and it fits no other (`exists_valid_of_match?`).
4. The grammar: what is read, what is spelled and what the pattern finds are the same.
-/

namespace BindingAudit

namespace Pattern

/-- Blanks, as many as there are. -/
def blanks : Pattern :=
  star (.one fun c => Text.blankCodes.contains c.toNat)

/-- An identifier. -/
def identifier : Pattern :=
  .seq (.one fun c => decide (IsLetter c)) (star (.one fun c => decide (IsLetterOrDigit c)))

/-- The reference an expression starts with. -/
def reference : Pattern :=
  all [blanks, .marked "object" identifier, blanks, .one (· == '.'), blanks,
    .marked "property" identifier]

/-- The stretches of a text that are marked at a place, from the left, each by its name. -/
def groups (cs : List Char) (p : Place) : List (String × String) :=
  p.marks.reverse.map fun m => (m.style, String.ofList (Text.slice cs m.start m.stop))

theorem blanks_eq : blanks = star (.one Text.isBlank) := by
  have hclass : (fun c : Char => Text.blankCodes.contains c.toNat) = Text.isBlank := by
    funext c
    rw [Bool.eq_iff_iff, List.contains_iff_mem, Text.isBlank_iff]
  rw [blanks, hclass]

theorem identifier_eq :
    identifier = .seq (.one Reference.startsIdentifier) (star (.one Text.isWordChar)) := by
  have hfirst : (fun c : Char => decide (IsLetter c)) = Reference.startsIdentifier := by
    funext c
    rw [Bool.eq_iff_iff, decide_eq_true_iff, Reference.startsIdentifier_iff]
  have hothers : (fun c : Char => decide (IsLetterOrDigit c)) = Text.isWordChar := by
    funext c
    rw [Bool.eq_iff_iff, decide_eq_true_iff, Text.isWordChar_iff]
  rw [identifier, hfirst, hothers]

/-! ## Section 1: One repetition -/

/-- The place behind a piece of text, in front of the rest. -/
def Place.past (p : Place) (piece rest : List Char) : Place :=
  { p with before := piece.reverse ++ p.before, rest, index := p.index + piece.length }

theorem Place.past_nil (p : Place) : p.past [] p.rest = p := rfl

theorem Place.past_cons (p : Place) (c : Char) (piece rest : List Char) :
    (p.after c (piece ++ rest)).past piece rest = p.past (c :: piece) rest := by
  simp [past, after, Nat.add_assoc, Nat.add_comm 1]

variable {holds : Char → Bool} {go : Place → Option Place} {p q : Place} {piece rest : List Char}

theorem fit_one : (one holds).fit go p =
    match p.rest with
    | [] => none
    | c :: rest => if holds c then go (p.after c rest) else none :=
  rfl

theorem fit_seq (first second : Pattern) :
    (seq first second).fit go p = first.fit (second.fit go) p := rfl

/-- Copies of one character, as many as there are characters left at the most. -/
theorem fit_star : (star (.one holds)).fit go p =
    fitMany (one holds).fit true go 0 p.rest.length p := rfl

theorem fit_one_cons {c : Char} (hp : p.rest = c :: rest) (hc : holds c = true) :
    (one holds).fit go p = go (p.after c rest) := by
  rw [fit_one, hp]
  exact if_pos hc

theorem fit_one_of_neg {c : Char} (hp : p.rest = c :: rest) (hc : holds c = false) :
    (one holds).fit go p = none := by
  rw [fit_one, hp]
  exact if_neg (by simp [hc])

theorem exists_of_fit_one (h : (one holds).fit go p = some q) :
    ∃ c rest, p.rest = c :: rest ∧ holds c = true ∧ go (p.after c rest) = some q := by
  rw [fit_one] at h
  split at h
  · cases h
  · next c rest hp =>
    split at h
    · next hc => exact ⟨c, rest, hp, hc, h⟩
    · cases h

theorem fit_star_nil (hp : p.rest = []) : (star (.one holds)).fit go p = go p := by
  rw [fit_star, hp]
  exact if_pos rfl

/-- One more copy is tried first. -/
theorem fit_star_cons {c : Char} (hp : p.rest = c :: rest) :
    (star (.one holds)).fit go p =
      if holds c then ((star (.one holds)).fit go (p.after c rest)).or (go p) else go p := by
  have hbound : (star (.one holds)).fit go p =
      fitMany (one holds).fit true go 0 (rest.length + 1) p := by
    rw [fit_star, hp, List.length_cons]
  have hmany : (star (.one holds)).fit go p =
      ((one holds).fit (fitMany (one holds).fit true go 0 rest.length) p).or (go p) := by
    rw [hbound, fitMany, if_pos rfl]
    cases (one holds).fit (fitMany (one holds).fit true go 0 rest.length) p <;> rfl
  rw [hmany]
  by_cases hc : holds c = true
  · rw [if_pos hc, fit_one_cons hp hc]
    rfl
  · rw [if_neg hc, fit_one_of_neg hp (by simpa using hc), Option.none_or]

/-- **A repetition takes the longest piece** if what follows fits behind it. -/
theorem fit_star_of_longest (hp : p.rest = piece ++ rest) (hpiece : ∀ c ∈ piece, holds c = true)
    (hrest : ∀ c ∈ rest.head?, holds c = false) (hgo : go (p.past piece rest) = some q) :
    (star (.one holds)).fit go p = some q := by
  induction piece generalizing p with
  | nil =>
    obtain rfl : p.rest = rest := hp
    rw [Place.past_nil] at hgo
    cases hcases : p.rest with
    | nil => rw [fit_star_nil hcases, hgo]
    | cons c tail =>
      have hc := hrest c (by rw [hcases]; rfl)
      rw [fit_star_cons hcases, if_neg (by simp [hc]), hgo]
  | cons c piece ih =>
    rw [List.cons_append] at hp
    rw [← Place.past_cons] at hgo
    have hmore : (star (.one holds)).fit go (p.after c (piece ++ rest)) = some q := ih rfl
      (fun d hd => hpiece d (List.mem_cons_of_mem _ hd)) hgo
    rw [fit_star_cons hp, if_pos (hpiece c (List.mem_cons_self ..)), hmore, Option.some_or]

/-- Whatever a repetition gives back, what it keeps is of its class. -/
theorem exists_piece_of_fit_star (h : (star (.one holds)).fit go p = some q) :
    ∃ piece rest, p.rest = piece ++ rest ∧ (∀ c ∈ piece, holds c = true) ∧
      go (p.past piece rest) = some q := by
  induction hcases : p.rest generalizing p with
  | nil =>
    rw [fit_star_nil hcases] at h
    refine ⟨[], p.rest, by rw [hcases]; rfl, List.forall_mem_nil _, h⟩
  | cons c tail ih =>
    rw [fit_star_cons hcases] at h
    by_cases hc : holds c = true
    · rw [if_pos hc, Option.or_eq_some_iff] at h
      rcases h with hmore | ⟨-, hnone⟩
      · obtain ⟨piece, rest, htail, hpiece, hgo⟩ := ih hmore rfl
        obtain rfl : tail = piece ++ rest := htail
        rw [Place.past_cons] at hgo
        exact ⟨c :: piece, rest, rfl, List.forall_mem_cons.mpr ⟨hc, hpiece⟩, hgo⟩
      · exact ⟨[], p.rest, by rw [hcases]; rfl, List.forall_mem_nil _, hnone⟩
    · rw [if_neg hc] at h
      exact ⟨[], p.rest, by rw [hcases]; rfl, List.forall_mem_nil _, h⟩

/-! ## Section 2: Blanks and identifiers -/

theorem fit_blanks_of_longest (hp : p.rest = piece ++ rest)
    (hpiece : ∀ c ∈ piece, Text.isBlank c = true)
    (hrest : ∀ c ∈ rest.head?, Text.isBlank c = false) (hgo : go (p.past piece rest) = some q) :
    blanks.fit go p = some q := by
  rw [blanks_eq]
  exact fit_star_of_longest hp hpiece hrest hgo

theorem exists_blanks_of_fit (h : blanks.fit go p = some q) :
    ∃ piece rest, p.rest = piece ++ rest ∧ (∀ c ∈ piece, Text.isBlank c = true) ∧
      go (p.past piece rest) = some q := by
  rw [blanks_eq] at h
  exact exists_piece_of_fit_star h

/-- A place where a stretch ends that began at `start`. -/
def Place.mark (p : Place) (start : Nat) (style : String) : Place :=
  { p with marks := ⟨start, p.index, style⟩ :: p.marks }

variable {style : String}

theorem fit_marked (body : Pattern) :
    (marked style body).fit go p = body.fit (fun q => go (q.mark p.index style)) p := rfl

/-- An identifier is marked whole if what follows fits behind it. -/
theorem fit_identifier_of_longest (hp : p.rest = piece ++ rest) (hpiece : IsIdentifier piece)
    (hrest : ∀ c ∈ rest.head?, Text.isWordChar c = false)
    (hgo : go ((p.past piece rest).mark p.index style) = some q) :
    (marked style identifier).fit go p = some q := by
  obtain ⟨c, others, rfl, hc, hothers⟩ := hpiece
  rw [← Place.past_cons] at hgo
  rw [fit_marked, identifier_eq, fit_seq, fit_one_cons hp hc]
  exact fit_star_of_longest rfl hothers hrest hgo

/-- What is marked is an identifier, though it may be cut short. -/
theorem exists_identifier_of_fit (h : (marked style identifier).fit go p = some q) :
    ∃ piece rest, p.rest = piece ++ rest ∧ IsIdentifier piece ∧
      go ((p.past piece rest).mark p.index style) = some q := by
  rw [fit_marked, identifier_eq, fit_seq] at h
  obtain ⟨c, tail, hp, hc, hothers⟩ := exists_of_fit_one h
  obtain ⟨others, rest, htail, hword, hgo⟩ := exists_piece_of_fit_star hothers
  obtain rfl : tail = others ++ rest := htail
  rw [Place.past_cons] at hgo
  exact ⟨c :: others, rest, hp, ⟨c, others, rfl, hc, hword⟩, hgo⟩

/-! ## Section 3: The whole pattern -/

/-- The parts of the pattern, each going on with those behind it. -/
private theorem match?_reference (p : Place) :
    reference.match? p = blanks.fit ((marked "object" identifier).fit (blanks.fit
      ((one (· == '.')).fit (blanks.fit ((marked "property" identifier).fit some))))) p :=
  rfl

/-- The place behind the property of a spelled expression, with both parts marked. -/
def Place.behind (s : Spelling) : Place where
  before := (s.lead ++ s.object ++ s.before ++ ['.'] ++ s.after ++ s.property).reverse
  rest := s.rest
  index := (s.lead ++ s.object ++ s.before ++ ['.'] ++ s.after ++ s.property).length
  marks :=
    [⟨(s.lead ++ s.object ++ s.before ++ ['.'] ++ s.after).length,
      (s.lead ++ s.object ++ s.before ++ ['.'] ++ s.after ++ s.property).length, "property"⟩,
     ⟨s.lead.length, (s.lead ++ s.object).length, "object"⟩]

/-- What is marked in a spelled expression are the two parts of its reference. -/
theorem groups_behind (s : Spelling) :
    groups s.text (.behind s) =
      [("object", s.reference.object), ("property", s.reference.property)] := by
  have hobject : Text.slice s.text s.lead.length (s.lead ++ s.object).length = s.object := by
    have htext : s.text =
        s.lead ++ s.object ++ (s.before ++ ['.'] ++ s.after ++ s.property ++ s.rest) := by
      simp only [Spelling.text, List.append_assoc]
    rw [htext, Text.slice_between]
  have hproperty : Text.slice s.text (s.lead ++ s.object ++ s.before ++ ['.'] ++ s.after).length
      (s.lead ++ s.object ++ s.before ++ ['.'] ++ s.after ++ s.property).length = s.property :=
    Text.slice_between ..
  simp only [groups, Place.behind, List.reverse_cons, List.reverse_nil, List.nil_append,
    List.cons_append, List.map_cons, List.map_nil, hobject, hproperty, Spelling.reference]

/-- **The pattern fits a spelled expression**, up to the end of the property. -/
theorem match?_text {s : Spelling} (hs : s.Valid) :
    reference.match? (.start s.text) = some (.behind s) := by
  have h := Spelling.valid_iff_reads.mp hs
  rw [match?_reference]
  refine fit_blanks_of_longest h.eq_append h.lead_blank
    (Reference.head?_identifier h.object_identifier _) ?_
  refine fit_identifier_of_longest rfl h.object_identifier
    (Reference.head?_before_point h.before_blank _) ?_
  refine fit_blanks_of_longest rfl h.before_blank (Reference.head?_point _) ?_
  rw [fit_one_cons rfl rfl]
  refine fit_blanks_of_longest rfl h.after_blank
    (Reference.head?_identifier h.property_identifier _) ?_
  refine fit_identifier_of_longest rfl h.property_identifier h.remainder_head ?_
  -- the text before the place is the same by now, and the indices count the same pieces
  simp only [Place.behind, Place.past, Place.mark, Place.after, Place.start, Spelling.reference,
    String.toList_ofList, List.append_nil, List.append_assoc, List.cons_append, List.nil_append,
    List.reverse_append, List.reverse_cons, List.length_append, List.length_cons, Nat.zero_add,
    Nat.add_assoc, Option.some.injEq, Place.mk.injEq, List.cons.injEq, Stretch.mk.injEq,
    Nat.add_left_cancel_iff, and_true, true_and]
  omega

/-- **The pattern fits no other expression**: where the longest pieces do not fit, giving some of
them back does not help. -/
theorem exists_valid_of_match? {cs : List Char} {q : Place}
    (h : reference.match? (.start cs) = some q) : ∃ s : Spelling, s.Valid ∧ s.text = cs := by
  rw [match?_reference] at h
  obtain ⟨lead, tail₁, hstart, hlead, h⟩ := exists_blanks_of_fit h
  obtain ⟨object, tail₂, hobject, hobjectId, h⟩ := exists_identifier_of_fit h
  obtain ⟨before, tail₃, hbefore, hbeforeBlank, h⟩ := exists_blanks_of_fit h
  obtain ⟨c, tail₄, hpoint, hc, h⟩ := exists_of_fit_one h
  obtain ⟨after, tail₅, hafter, hafterBlank, h⟩ := exists_blanks_of_fit h
  obtain ⟨property, tail₆, hproperty, hpropertyId, -⟩ := exists_identifier_of_fit h
  obtain rfl : cs = lead ++ tail₁ := hstart
  obtain rfl : tail₁ = object ++ tail₂ := hobject
  obtain rfl : tail₂ = before ++ tail₃ := hbefore
  obtain rfl : tail₃ = c :: tail₄ := hpoint
  obtain rfl : tail₄ = after ++ tail₅ := hafter
  obtain rfl : tail₅ = property ++ tail₆ := hproperty
  obtain rfl : c = '.' := beq_iff_eq.mp hc
  -- the property that is found may be cut short, so all that prolongs it is added
  let r : Reference :=
    ⟨String.ofList object, String.ofList (property ++ tail₆.takeWhile Text.isWordChar)⟩
  have hreads : Reference.Reads
      (lead ++ (object ++ (before ++ '.' :: (after ++ (property ++ tail₆))))) r lead before after
      (tail₆.dropWhile Text.isWordChar) := by
    refine ⟨?_, hlead, hbeforeBlank, hafterBlank, ?_, ?_, ?_⟩
    · simp [r, List.takeWhile_append_dropWhile]
    · rwa [String.toList_ofList]
    · rw [String.toList_ofList]
      exact hpropertyId.append fun d hd => List.mem_takeWhile_imp hd
    · exact Reference.head?_dropWhile tail₆
  obtain ⟨s, hs, htext, -⟩ := Spelling.exists_valid_iff.mpr hreads.ofExpression?_eq
  exact ⟨s, hs, htext⟩

/-- **The pattern finds the reference of an expression**, and none where there is none. -/
theorem map_groups_match? (cs : List Char) :
    (reference.match? (.start cs)).map (groups cs) =
      (Reference.ofExpression? cs).map
        fun r => [("object", r.object), ("property", r.property)] := by
  cases hread : Reference.ofExpression? cs with
  | some r =>
    obtain ⟨s, hs, rfl, rfl⟩ := Spelling.exists_valid_iff.mpr hread
    rw [match?_text hs, Option.map_some, Option.map_some, groups_behind]
  | none =>
    cases hmatch : reference.match? (.start cs) with
    | none => rfl
    | some q =>
      obtain ⟨s, hs, htext⟩ := exists_valid_of_match? hmatch
      exact absurd htext (Spelling.ofExpression?_eq_none_iff.mp hread s hs)

end Pattern

/-! ## Section 4: The grammar of references -/

/-- **An expression has the reference it spells, and it spells one at most.**  It has none only if
it cannot be cut into a valid spelling.  Read as a pattern with repetitions that give back, the
grammar tells the same. -/
theorem ofExpression?_spelled (expression : String) :
    (∀ object property : String,
      Reference.ofExpression? expression.toList = some ⟨object, property⟩ ↔
        ∃ s : Spelling, s.Valid ∧ s.text = expression.toList ∧
          s.object = object.toList ∧ s.property = property.toList) ∧
    (∀ s s' : Spelling, s.Valid → s'.Valid →
      s.text = expression.toList → s'.text = expression.toList → s = s') ∧
    (Reference.ofExpression? expression.toList = none ↔
      ∀ s : Spelling, s.Valid → s.text ≠ expression.toList) ∧
    (Pattern.reference.match? (.start expression.toList)).map
        (Pattern.groups expression.toList) =
      (Reference.ofExpression? expression.toList).map
        fun r => [("object", r.object), ("property", r.property)] := by
  refine ⟨fun object property => ?_, ?_, Spelling.ofExpression?_eq_none_iff,
    Pattern.map_groups_match? _⟩
  · rw [← Spelling.exists_valid_iff]
    refine exists_congr fun s => and_congr_right fun _ => and_congr_right fun _ => ?_
    rw [Spelling.reference, Reference.mk.injEq, ← String.toList_inj, ← String.toList_inj,
      String.toList_ofList, String.toList_ofList]
  · intro s s' hs hs' htext htext'
    exact hs.unique hs' (htext.trans htext'.symm)

/-- A no-break space is blank, and a letter outside ASCII ends the property, but starts none. -/
theorem timer_spelled :
    (∃ s : Spelling, s.Valid ∧ s.text = "\u00a0timer\u2003. a\u00e9".toList ∧
      s.object = "timer".toList ∧ s.property = "a".toList) ∧
    ∀ s : Spelling, s.Valid → s.text ≠ "timer.\u00e9".toList := by
  obtain ⟨hread, -, -, -⟩ := ofExpression?_spelled "\u00a0timer\u2003. a\u00e9"
  obtain ⟨-, -, hnone, -⟩ := ofExpression?_spelled "timer.\u00e9"
  exact ⟨(hread "timer" "a").mp (by decide), hnone.mp (by decide)⟩

end BindingAudit
