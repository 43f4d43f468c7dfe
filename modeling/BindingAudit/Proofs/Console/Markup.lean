import BindingAudit.Console.Markup
import BindingAudit.Proofs.Outcome
import Mathlib.Data.List.Induction
import Mathlib.Data.List.Infix
import Mathlib.Data.List.TakeWhile

/-!
# What marked-up text reads

Marked-up text is read from the left as characters and tags.  Here the two functions on it are
compared with that reading, and so with each other: an escaped text reads as itself
(`render_escape`), and a text that is not escaped reads as itself exactly if it holds no tag
(`render_literal_iff`).

## Architecture

1. Tags, and the one a text starts with (`tagAt?_eq_some_iff`).
2. The reading of a text, as a relation without fuel (`Reads`).
3. Escaping guards every tag of the reading by an odd number of backslashes (`Reads.guard`).
4. Rendering shows the characters between the tags, and the tags that are guarded.
5. Both for `Plain` texts, in which nothing but tags is taken for more than text.
-/

namespace BindingAudit.Markup

open Text (isBlank)

/-! ## Section 1: Tags -/

section

variable {cs rest content : List Char} {c : Char} {f : Found} {k : Nat}

/-- The text between the brackets of a tag. -/
def IsTag (content : List Char) : Prop :=
  ∃ c more, content = c :: more ∧ startsTag c = true ∧ ∀ d ∈ more, d ≠ ']' ∧ d ≠ '['

/-- A text holds a tag, whatever stands in front of it. -/
def HoldsTag (cs : List Char) : Prop :=
  ∃ front content back, cs = front ++ '[' :: (content ++ ']' :: back) ∧ IsTag content

theorem not_holdsTag_of_not_mem (h : '[' ∉ cs) : ¬ HoldsTag cs := by
  rintro ⟨front, content, back, rfl, -⟩
  exact h (List.mem_append_right _ (List.mem_cons_self ..))

theorem drop_length_takeWhile {α : Type} (p : α → Bool) (l : List α) :
    l.drop (l.takeWhile p).length = l.dropWhile p :=
  (congrArg (List.drop _) List.takeWhile_append_dropWhile.symm).trans List.drop_left

/-- A tag behind backslashes at the start of a text is found. -/
theorem tagAt?_of_isTag (k : Nat) (h : IsTag content) (rest : List Char) :
    tagAt? (List.replicate k '\\' ++ '[' :: (content ++ ']' :: rest)) =
      some ⟨k, content, rest⟩ := by
  obtain ⟨c, more, rfl, hstart, hmore⟩ := h
  have hslashes : (List.replicate k '\\' ++ '[' :: c :: (more ++ ']' :: rest)).takeWhile
      (· == '\\') = List.replicate k '\\' := by
    rw [List.takeWhile_append_of_pos (by simp), List.takeWhile_cons_of_neg (by decide),
      List.append_nil]
  have hcontent : (more ++ ']' :: rest).takeWhile (fun d => d != ']' && d != '[') = more := by
    rw [List.takeWhile_append_of_pos (by simpa using hmore), List.takeWhile_cons_of_neg (by simp),
      List.append_nil]
  have hdrop : (List.replicate k '\\' ++ '[' :: c :: (more ++ ']' :: rest)).drop k =
      '[' :: c :: (more ++ ']' :: rest) := List.drop_left' List.length_replicate
  simp only [tagAt?, List.cons_append, hslashes, List.length_replicate, hdrop, hstart, if_true,
    hcontent, List.drop_left]

/-- What is found is a tag behind backslashes at the start of the text. -/
theorem tagAt?_eq_some_iff : tagAt? cs = some f ↔
    cs = List.replicate f.escapes '\\' ++ '[' :: (f.content ++ ']' :: f.rest) ∧
      IsTag f.content := by
  constructor
  · intro h
    simp only [tagAt?, drop_length_takeWhile] at h
    have hslashes : cs.takeWhile (· == '\\') =
        List.replicate (cs.takeWhile (· == '\\')).length '\\' :=
      List.eq_replicate_iff.mpr ⟨rfl, fun c hc => by simpa using List.mem_takeWhile_imp hc⟩
    have hcs : cs = cs.takeWhile (· == '\\') ++ cs.dropWhile (· == '\\') :=
      List.takeWhile_append_dropWhile.symm
    split at h
    · next c more hdrop =>
      have hmore : more = more.takeWhile (fun d => d != ']' && d != '[') ++
          more.dropWhile (fun d => d != ']' && d != '[') := List.takeWhile_append_dropWhile.symm
      split at h
      · next hstart =>
        split at h
        · next rest hrest =>
          cases h
          refine ⟨?_, c, _, rfl, hstart, fun d hd => by simpa using List.mem_takeWhile_imp hd⟩
          rw [← hslashes, List.cons_append, ← hrest, ← hmore, ← hdrop, ← hcs]
        · cases h
      · cases h
    · cases h
  · rintro ⟨rfl, h⟩
    exact tagAt?_of_isTag f.escapes h f.rest

/-- Only a backslash or an opening bracket can be the start of a tag. -/
theorem tagAt?_cons_of_ne (hslash : c ≠ '\\') (hbracket : c ≠ '[') : tagAt? (c :: cs) = none := by
  refine Option.eq_none_iff_forall_ne_some.mpr fun f hf => ?_
  have hcs := (tagAt?_eq_some_iff.mp hf).1
  cases hk : f.escapes with
  | zero =>
    rw [hk] at hcs
    exact hbracket (List.cons.inj hcs).1
  | succ k =>
    rw [hk, List.replicate_succ] at hcs
    exact hslash (List.cons.inj hcs).1

/-- A backslash in front changes nothing in whether a tag is found. -/
theorem tagAt?_backslash : tagAt? ('\\' :: cs) = none ↔ tagAt? cs = none := by
  simp only [Option.eq_none_iff_forall_ne_some, ne_eq, tagAt?_eq_some_iff, not_and]
  constructor
  · rintro h f rfl hcontent
    exact h ⟨f.escapes + 1, f.content, f.rest⟩ rfl hcontent
  · rintro h ⟨k, content, rest⟩ hcs hcontent
    cases k with
    | zero => exact absurd (List.cons.inj hcs).1 (by decide)
    | succ k => exact h ⟨k, content, rest⟩ (List.cons.inj hcs).2 hcontent

/-- A text holds a tag if one is found somewhere in it. -/
theorem holdsTag_iff_any_tails :
    HoldsTag cs ↔ (cs.tails.any fun rest => (tagAt? rest).isSome) = true := by
  simp only [List.any_eq_true, List.mem_tails, Option.isSome_iff_exists, tagAt?_eq_some_iff]
  constructor
  · rintro ⟨front, content, back, rfl, htag⟩
    exact ⟨_, List.suffix_append .., ⟨0, content, back⟩, rfl, htag⟩
  · rintro ⟨_, ⟨front, rfl⟩, f, rfl, htag⟩
    exact ⟨front ++ List.replicate f.escapes '\\', f.content, f.rest, by simp, htag⟩

instance : Decidable (HoldsTag cs) :=
  decidable_of_iff _ holdsTag_iff_any_tails.symm

/-- The first bracket of a text is a closing one. -/
def Closes (cs : List Char) : Prop :=
  ∃ content rest, cs = content ++ ']' :: rest ∧ ∀ d ∈ content, d ≠ ']' ∧ d ≠ '['

/-- An opening bracket starts a tag if a character that can follow does so, and the next bracket is
a closing one. -/
theorem tagAt?_bracket_ne_none : tagAt? ('[' :: cs) ≠ none ↔
    ∃ d more, cs = d :: more ∧ startsTag d = true ∧ Closes more := by
  rw [Option.ne_none_iff_exists']
  simp only [tagAt?_eq_some_iff]
  constructor
  · rintro ⟨⟨k, content, rest⟩, hcs, d, more, rfl, hstart, hmore⟩
    cases k with
    | zero => exact ⟨d, _, (List.cons.inj hcs).2, hstart, more, rest, rfl, hmore⟩
    | succ k => exact absurd (List.cons.inj hcs).1 (by decide)
  · rintro ⟨d, _, rfl, hstart, content, rest, rfl, hcontent⟩
    exact ⟨⟨0, d :: content, rest⟩, rfl, d, content, rfl, hstart, hcontent⟩

theorem not_closes_bracket : ¬ Closes ('[' :: cs) := by
  rintro ⟨content, rest, hcs, hcontent⟩
  cases content with
  | nil => exact absurd (List.cons.inj hcs).1 (by decide)
  | cons d more => exact (hcontent d (List.mem_cons_self ..)).2 (List.cons.inj hcs).1.symm

/-- A character in front leaves which bracket is the first, unless it is one. -/
theorem closes_cons_iff (hc : c ≠ ']') (hc' : c ≠ '[') : Closes (c :: cs) ↔ Closes cs := by
  constructor
  · rintro ⟨content, rest, hcs, hcontent⟩
    cases content with
    | nil => exact absurd (List.cons.inj hcs).1 hc
    | cons d more =>
      exact ⟨more, rest, (List.cons.inj hcs).2, fun d hd => hcontent d (List.mem_cons_of_mem _ hd)⟩
  · rintro ⟨content, rest, rfl, hcontent⟩
    refine ⟨c :: content, rest, rfl, fun d hd => ?_⟩
    rcases List.mem_cons.mp hd with rfl | hd
    · exact ⟨hc, hc'⟩
    · exact hcontent d hd

theorem closes_closing (cs : List Char) : Closes (']' :: cs) :=
  ⟨[], cs, rfl, by simp⟩

theorem not_closes_tag (k : Nat) (cs : List Char) :
    ¬ Closes (List.replicate k '\\' ++ '[' :: cs) := by
  induction k with
  | zero => exact not_closes_bracket
  | succ k ih =>
    rw [List.replicate_succ, List.cons_append, closes_cons_iff (by decide) (by decide)]
    exact ih

end

/-! ## Section 2: The reading of a text -/

/-- A part of a marked-up text: a character, or a tag with the number of backslashes in front. -/
inductive Item where
  | char (c : Char)
  | tag (escapes : Nat) (content : List Char)

namespace Item

/-- An item as it is written. -/
def source : Item → List Char
  | .char c => [c]
  | .tag k content => List.replicate k '\\' ++ '[' :: (content ++ [']'])

/-- What an item shows: half of the backslashes, and the tag if their number is odd. -/
def literal : Item → List Char
  | .char c => [c]
  | .tag k content =>
    List.replicate (k / 2) '\\' ++ if k % 2 = 1 then '[' :: (content ++ [']']) else []

/-- Change the number of backslashes in front of a tag. -/
def withEscapes (g : Nat → Nat) : Item → Item
  | .char c => .char c
  | .tag k content => .tag (g k) content

/-- Guard a tag: its backslashes are doubled, and one more is put in front. -/
def guard : Item → Item :=
  withEscapes fun k => 2 * k + 1

/-- An item that is text, not a tag that counts. -/
def Shows : Item → Prop
  | .char _ => True
  | .tag k _ => k % 2 = 1

@[simp] theorem source_char (c : Char) : (char c).source = [c] := rfl

@[simp] theorem source_tag (k : Nat) (content : List Char) :
    (tag k content).source = List.replicate k '\\' ++ '[' :: (content ++ [']']) := rfl

@[simp] theorem guard_char (c : Char) : (char c).guard = char c := rfl

@[simp] theorem guard_tag (k : Nat) (content : List Char) :
    (tag k content).guard = tag (2 * k + 1) content := rfl

theorem withEscapes_id : withEscapes id = id := by
  funext i
  cases i <;> rfl

theorem shows_guard (i : Item) : i.guard.Shows := by
  cases i with
  | char c => trivial
  | tag k content => exact Nat.mul_add_mod 2 k 1

/-- A guarded item shows what was written. -/
theorem literal_guard (i : Item) : i.guard.literal = i.source := by
  cases i with
  | char c => rfl
  | tag k content =>
    have hhalf : (2 * k + 1) / 2 = k := by omega
    have hodd : (2 * k + 1) % 2 = 1 := by omega
    simp [literal, hhalf, hodd]

theorem length_literal_tag_lt (k : Nat) (content : List Char) :
    (tag k content).literal.length < (tag k content).source.length := by
  simp only [literal, source_tag, List.length_append, List.length_replicate, List.length_cons]
  split
  · simp only [List.length_cons, List.length_append]
    omega
  · rw [List.length_nil]
    omega

theorem length_literal_le (items : List Item) :
    (items.flatMap literal).length ≤ (items.flatMap source).length := by
  induction items with
  | nil => exact Nat.le_refl _
  | cons i items ih =>
    simp only [List.flatMap_cons, List.length_append]
    cases i with
    | char c => exact Nat.add_le_add (Nat.le_refl _) ih
    | tag k content => exact Nat.add_le_add (length_literal_tag_lt k content).le ih

end Item

open Item (source literal withEscapes)

/-- A text is read from the left: where no tag is found, the next character stands for itself. -/
inductive Reads : List Char → List Item → Prop where
  /-- Nothing is left. -/
  | nil : Reads [] []
  /-- No tag starts here. -/
  | char {c : Char} {cs : List Char} {items : List Item} (h : tagAt? (c :: cs) = none)
      (hrest : Reads cs items) : Reads (c :: cs) (.char c :: items)
  /-- A tag starts here, with the backslashes in front of it. -/
  | tag {k : Nat} {content rest : List Char} {items : List Item} (h : IsTag content)
      (hrest : Reads rest items) :
      Reads (List.replicate k '\\' ++ '[' :: (content ++ ']' :: rest)) (.tag k content :: items)

section

variable {cs content : List Char} {items : List Item} {k : Nat}

theorem exists_reads (cs : List Char) : ∃ items, Reads cs items := by
  -- a tag takes several characters, so the induction is on the number of those that are left
  induction hn : cs.length using Nat.strong_induction_on generalizing cs with
  | _ n ih =>
    subst hn
    cases h : tagAt? cs with
    | some f =>
      obtain ⟨hcs, htag⟩ := tagAt?_eq_some_iff.mp h
      have hlength : f.rest.length < cs.length := by
        rw [hcs]
        simp only [List.length_append, List.length_cons]
        omega
      obtain ⟨items, hitems⟩ := ih _ hlength _ rfl
      refine ⟨.tag f.escapes f.content :: items, ?_⟩
      rw [hcs]
      exact .tag htag hitems
    | none =>
      cases cs with
      | nil => exact ⟨[], .nil⟩
      | cons c cs =>
        obtain ⟨items, hitems⟩ := ih cs.length (Nat.lt_succ_self _) _ rfl
        exact ⟨_, .char h hitems⟩

/-- The items, as they are written, are the text. -/
theorem Reads.flatMap_source (h : Reads cs items) : items.flatMap source = cs := by
  induction h with
  | nil => rfl
  | char _ _ ih => rw [List.flatMap_cons, ih]; rfl
  | tag _ _ ih => rw [List.flatMap_cons, ih]; simp

theorem Reads.isTag (h : Reads cs items) (hmem : .tag k content ∈ items) : IsTag content := by
  induction h with
  | nil => cases hmem
  | char _ _ ih => exact ih ((List.mem_cons.mp hmem).resolve_left nofun)
  | tag htag _ ih =>
    rcases List.mem_cons.mp hmem with heq | hmem
    · cases heq
      exact htag
    · exact ih hmem

/-- A text that reads as characters only holds no tag. -/
theorem Reads.not_holdsTag (h : Reads cs items) (hchars : ∀ i ∈ items, ∃ c, i = .char c) :
    ¬ HoldsTag cs := by
  rintro ⟨front, content, back, hcs, htag⟩
  induction h generalizing front with
  | nil => simp at hcs
  | @char c rest _ hnone _ ih =>
    cases front with
    | nil =>
      -- the tag would have been found here
      rw [hcs] at hnone
      exact Option.some_ne_none _ ((tagAt?_of_isTag 0 htag back).symm.trans hnone)
    | cons d front =>
      exact ih (fun i hi => hchars i (List.mem_cons_of_mem _ hi)) front (List.cons.inj hcs).2
  | tag =>
    obtain ⟨c, hc⟩ := hchars _ (List.mem_cons_self ..)
    cases hc

/-- A text without tags reads as its characters. -/
theorem Reads.exists_char (h : Reads cs items) (hcs : ¬ HoldsTag cs) :
    ∀ i ∈ items, ∃ c, i = .char c := by
  rintro (c | ⟨k, content⟩) hi
  · exact ⟨c, rfl⟩
  · obtain ⟨before, after, rfl⟩ := List.append_of_mem hi
    refine absurd ⟨before.flatMap source ++ List.replicate k '\\', content,
      after.flatMap source, ?_, h.isTag hi⟩ hcs
    rw [← h.flatMap_source]
    simp

end

/-! ## Section 3: Escaping -/

section

variable {cs content : List Char} {items : List Item} {fuel : Nat}

/-- Escaping keeps which bracket is the first. -/
theorem Reads.closes_guard (h : Reads cs items) :
    Closes ((items.map Item.guard).flatMap source) ↔ Closes cs := by
  induction h with
  | nil => rfl
  | @char c cs items _ _ ih =>
    rw [List.map_cons, List.flatMap_cons]
    change Closes (c :: (items.map Item.guard).flatMap source) ↔ Closes (c :: cs)
    by_cases hc : c = ']'
    · subst hc
      exact iff_of_true (closes_closing _) (closes_closing _)
    · by_cases hc' : c = '['
      · subst hc'
        exact iff_of_false not_closes_bracket not_closes_bracket
      · rw [closes_cons_iff hc hc', closes_cons_iff hc hc', ih]
  | @tag k content rest items _ _ ih =>
    refine iff_of_false ?_ (not_closes_tag k _)
    rw [List.map_cons, List.flatMap_cons, Item.guard_tag, Item.source_tag, List.append_assoc]
    exact not_closes_tag _ _

/-- Escaping starts no tag where there was none. -/
theorem Reads.tagAt?_guard (h : Reads cs items) (hnone : tagAt? cs = none) :
    tagAt? ((items.map Item.guard).flatMap source) = none := by
  induction h with
  | nil => rfl
  | @char c cs items _ hrest ih =>
    rw [List.map_cons, List.flatMap_cons]
    change tagAt? (c :: (items.map Item.guard).flatMap source) = none
    by_cases hslash : c = '\\'
    · subst hslash
      rw [tagAt?_backslash] at hnone ⊢
      exact ih hnone
    · by_cases hbracket : c = '['
      · subst hbracket
        -- the character behind the bracket and the next bracket are the same as before
        by_contra hsome
        obtain ⟨d, more, hmore, hstart, hcloses⟩ := tagAt?_bracket_ne_none.mp hsome
        refine absurd hnone (tagAt?_bracket_ne_none.mpr ?_)
        cases hrest with
        | nil => cases hmore
        | char _ hrest =>
          obtain ⟨rfl, rfl⟩ := List.cons.inj hmore
          exact ⟨_, _, rfl, hstart, hrest.closes_guard.mp hcloses⟩
        | tag =>
          rw [← (List.cons.inj hmore).1] at hstart
          exact absurd hstart (by decide)
      · exact tagAt?_cons_of_ne hslash hbracket
  | tag htag =>
    rw [tagAt?_of_isTag _ htag] at hnone
    cases hnone

/-- **An escaped text** reads as the same items, with every tag guarded. -/
theorem Reads.guard (h : Reads cs items) :
    Reads ((items.map Item.guard).flatMap source) (items.map Item.guard) := by
  induction h with
  | nil => exact .nil
  | char hnone hrest ih => exact .char ((Reads.char hnone hrest).tagAt?_guard hnone) ih
  | @tag k content _ _ htag _ ih =>
    rw [List.map_cons, List.flatMap_cons, Item.guard_tag, Item.source_tag, List.append_assoc,
      List.cons_append, List.append_assoc, List.singleton_append]
    exact .tag htag ih

theorem escapeTags_tag (htag : IsTag content) (fuel k : Nat) (rest : List Char) :
    escapeTags (fuel + 1) (List.replicate k '\\' ++ '[' :: (content ++ ']' :: rest)) =
      List.replicate (2 * k + 1) '\\' ++ '[' :: (content ++ [']']) ++ escapeTags fuel rest := by
  have hsome := tagAt?_of_isTag k htag rest
  obtain ⟨c, cs, hcs⟩ :
      ∃ c cs, List.replicate k '\\' ++ '[' :: (content ++ ']' :: rest) = c :: cs :=
    List.exists_cons_of_ne_nil (by simp)
  rw [hcs] at hsome ⊢
  rw [escapeTags, hsome]
  rfl

/-- A step over a tag takes at least one character. -/
theorem length_lt_of_tag {rest : List Char}
    (h : (List.replicate k '\\' ++ '[' :: (content ++ ']' :: rest)).length < fuel + 1) :
    rest.length < fuel := by
  simp only [List.length_append, List.length_cons, List.length_replicate] at h
  omega

theorem escapeTags_eq (h : Reads cs items) (hfuel : cs.length < fuel) :
    escapeTags fuel cs = (items.map Item.guard).flatMap source := by
  induction h generalizing fuel with
  | nil => cases fuel <;> rfl
  | char hnone _ ih =>
    obtain ⟨fuel, rfl⟩ : ∃ n, fuel = n + 1 := ⟨fuel - 1, by omega⟩
    rw [List.length_cons] at hfuel
    rw [escapeTags, hnone]
    exact congrArg _ (ih (by omega))
  | tag htag _ ih =>
    obtain ⟨fuel, rfl⟩ : ∃ n, fuel = n + 1 := ⟨fuel - 1, by omega⟩
    rw [escapeTags_tag htag, ih (length_lt_of_tag hfuel), List.map_cons, List.flatMap_cons,
      Item.guard_tag, Item.source_tag]

end

/-! ## Section 4: Rendering -/

/-- What a piece adds to the text that is shown. -/
def Piece.plain : Piece → List Char
  | .text cs => plainText cs
  | .tag _ _ => []

/-- The runs of text of a reading, in order.  A tag that is guarded is a run of its own, as are the
backslashes in front of it.  `pending` is the text read so far, in reverse. -/
def runs (pending : List Char) : List Item → List (List Char)
  | [] => [pending.reverse]
  | .char c :: rest => runs (c :: pending) rest
  | .tag k content :: rest =>
    pending.reverse :: List.replicate (k / 2) '\\'
      :: (if k % 2 = 1 then '[' :: (content ++ [']']) else []) :: runs [] rest

section

variable {cs text content : List Char} {items : List Item} {fuel : Nat} {ps : List Piece}
  {s : String} {t : StyledText}

theorem flatten_runs (pending : List Char) (items : List Item) :
    (runs pending items).flatten = pending.reverse ++ items.flatMap Item.literal := by
  induction items generalizing pending with
  | nil => simp [runs]
  | cons i items ih =>
    cases i with
    | char c => simp [runs, ih, Item.literal]
    | tag k content => simp [runs, ih, Item.literal]

theorem plainText_nil : plainText [] = [] := rfl

theorem flatMap_pendingPiece (pending : List Char) :
    (pendingPiece pending).flatMap Piece.plain = plainText pending.reverse := by
  cases pending with
  | nil => rfl
  | cons c pending => simp [pendingPiece, Piece.plain]

theorem pieces_tag (htag : IsTag content) (fuel position k : Nat) (pending rest : List Char) :
    pieces (fuel + 1) position pending (List.replicate k '\\' ++ '[' :: (content ++ ']' :: rest)) =
      pendingPiece pending
        ++ (if k < 2 then [] else [.text (List.replicate (k / 2) '\\')])
        ++ [if k % 2 = 1 then .text ('[' :: (content ++ [']'])) else .tag (position + k) content]
        ++ pieces fuel (position + k + ('[' :: (content ++ [']'])).length) [] rest := by
  have hsome := tagAt?_of_isTag k htag rest
  obtain ⟨c, cs, hcs⟩ :
      ∃ c cs, List.replicate k '\\' ++ '[' :: (content ++ ']' :: rest) = c :: cs :=
    List.exists_cons_of_ne_nil (by simp)
  rw [hcs] at hsome ⊢
  rw [pieces, hsome]
  rfl

/-- The pieces of a text show the runs of its reading. -/
theorem Reads.flatMap_pieces (h : Reads cs items) (hfuel : cs.length < fuel) (position : Nat)
    (pending : List Char) : (pieces fuel position pending cs).flatMap Piece.plain =
      (runs pending items).flatMap plainText := by
  induction h generalizing fuel position pending with
  | nil =>
    obtain ⟨fuel, rfl⟩ : ∃ n, fuel = n + 1 := ⟨fuel - 1, by omega⟩
    simp [pieces, runs, flatMap_pendingPiece]
  | char hnone _ ih =>
    obtain ⟨fuel, rfl⟩ : ∃ n, fuel = n + 1 := ⟨fuel - 1, by omega⟩
    rw [List.length_cons] at hfuel
    rw [pieces, hnone, runs]
    exact ih (by omega) ..
  | @tag k content rest items htag _ ih =>
    obtain ⟨fuel, rfl⟩ : ∃ n, fuel = n + 1 := ⟨fuel - 1, by omega⟩
    -- a single backslash makes no piece, and half of it is none
    have hslashes : (if k < 2 then [] else [Piece.text (List.replicate (k / 2) '\\')]).flatMap
        Piece.plain = plainText (List.replicate (k / 2) '\\') := by
      split
      · next hk => rw [Nat.div_eq_of_lt hk, List.replicate_zero, plainText_nil, List.flatMap_nil]
      · simp [Piece.plain]
    simp only [pieces_tag htag, List.flatMap_append, flatMap_pendingPiece, hslashes,
      ih (length_lt_of_tag hfuel), runs, List.flatMap_cons, List.append_assoc]
    split
    · rfl
    · rfl

theorem isText_pendingPiece (pending : List Char) :
    ∀ p ∈ pendingPiece pending, ∃ run, p = .text run := by
  intro p hp
  rw [pendingPiece] at hp
  split at hp
  · cases hp
  · exact ⟨_, List.mem_singleton.mp hp⟩

/-- A text in which every tag is guarded has no other pieces than text. -/
theorem Reads.isText_pieces (h : Reads cs items) (hfuel : cs.length < fuel)
    (hshows : ∀ i ∈ items, i.Shows) (position : Nat) (pending : List Char) :
    ∀ p ∈ pieces fuel position pending cs, ∃ run, p = .text run := by
  induction h generalizing fuel position pending with
  | nil =>
    obtain ⟨fuel, rfl⟩ : ∃ n, fuel = n + 1 := ⟨fuel - 1, by omega⟩
    exact isText_pendingPiece pending
  | char hnone _ ih =>
    obtain ⟨fuel, rfl⟩ : ∃ n, fuel = n + 1 := ⟨fuel - 1, by omega⟩
    rw [pieces, hnone]
    exact ih (Nat.lt_of_succ_lt_succ hfuel) (fun i hi => hshows i (List.mem_cons_of_mem _ hi)) _ _
  | @tag k content rest items htag _ ih =>
    obtain ⟨fuel, rfl⟩ : ∃ n, fuel = n + 1 := ⟨fuel - 1, by omega⟩
    have hodd : k % 2 = 1 := hshows _ (List.mem_cons_self ..)
    simp only [pieces_tag htag, hodd, if_true, List.mem_append, List.mem_singleton]
    rintro p (((hp | hp) | rfl) | hp)
    · exact isText_pendingPiece pending p hp
    · split at hp
      · cases hp
      · exact ⟨_, List.mem_singleton.mp hp⟩
    · exact ⟨_, rfl⟩
    · exact ih (length_lt_of_tag hfuel) (fun i hi => hshows i (List.mem_cons_of_mem _ hi)) _ _ p hp

/-- Whatever its tags do to the looks, the text that is shown is that of the pieces. -/
theorem text_of_renderPieces {opened : List OpenTag} {closed : List Stretch}
    (h : renderPieces ps opened text closed = .ok t) :
    t.text = text ++ ps.flatMap Piece.plain := by
  induction ps generalizing opened text closed with
  | nil =>
    cases h
    exact (List.append_nil _).symm
  | cons p rest ih =>
    rw [List.flatMap_cons]
    cases p with
    | text cs =>
      rw [ih h, List.append_assoc]
      rfl
    | tag position content =>
      -- a tag opens or closes a style, and leaves the text
      unfold renderPieces at h
      split at h
      · simp only [Outcome.bind_eq_ok_iff] at h
        obtain ⟨_, _, _, _, h⟩ := h
        exact ih h
      · simp only [Outcome.bind_eq_ok_iff] at h
        obtain ⟨_, _, h⟩ := h
        exact ih h

/-- Pieces of text only are shown, in no style. -/
theorem renderPieces_of_isText (h : ∀ p ∈ ps, ∃ run, p = .text run) :
    renderPieces ps [] text [] = .ok ⟨text ++ ps.flatMap Piece.plain, []⟩ := by
  induction ps generalizing text with
  | nil => simp [renderPieces]
  | cons p rest ih =>
    obtain ⟨run, rfl⟩ := h p (List.mem_cons_self ..)
    rw [renderPieces, ih fun p hp => h p (List.mem_cons_of_mem _ hp), List.flatMap_cons,
      List.append_assoc]
    rfl

theorem Reads.text_of_render (h : Reads s.toList items) (hrender : render s = .ok t) :
    t.text = (runs [] items).flatMap plainText := by
  rw [text_of_renderPieces hrender, h.flatMap_pieces (Nat.lt_succ_self _), List.nil_append]

theorem Reads.render_of_shows (h : Reads s.toList items) (hshows : ∀ i ∈ items, i.Shows) :
    render s = .ok ⟨(runs [] items).flatMap plainText, []⟩ := by
  rw [render, renderPieces_of_isText (h.isText_pieces (Nat.lt_succ_self _) hshows 0 []),
    h.flatMap_pieces (Nat.lt_succ_self _), List.nil_append]

end

/-! ## Section 5: Plain texts -/

/-- A text in which no name between colons stands for an emoji. -/
def NoCode (cs : List Char) : Prop :=
  ∀ front code back, cs = front ++ ':' :: (code ++ ':' :: back) →
    (∀ d ∈ code, d ≠ ':' ∧ isBlank d = false) → Text.Emoji.expand code = ':' :: code ++ [':']

/-- A text without a backslash in front of an opening bracket. -/
def NoEscape (cs : List Char) : Prop :=
  ∀ front back, cs ≠ front ++ '\\' :: '[' :: back

/-- A text in which nothing but tags is taken for more than text: it holds no control character
that is dropped, no emoji code, and no backslash in front of a bracket that starts no tag. -/
structure Plain (cs : List Char) : Prop where
  noControl : ∀ c ∈ cs, isControl c = false
  noCode : NoCode cs
  bracket : ∀ front back, cs = front ++ '\\' :: '[' :: back → tagAt? ('[' :: back) ≠ none

section

variable {cs xs ys content pending run : List Char} {items : List Item} {s : String} {k : Nat}

theorem NoCode.replaceUpTo (h : NoCode cs) (fuel : Nat) :
    Text.Emoji.replaceUpTo fuel cs = cs := by
  induction fuel generalizing cs with
  | zero => rfl
  | succ fuel ih =>
    cases cs with
    | nil => rfl
    | cons c cs =>
      have htail : Text.Emoji.replaceUpTo fuel cs = cs := ih fun front code back hcs =>
        h (c :: front) code back (by rw [hcs]; rfl)
      rw [Text.Emoji.replaceUpTo, htail]
      split
      · next hc =>
        obtain rfl := eq_of_beq hc
        simp only [drop_length_takeWhile]
        split
        · next rest hrest =>
          -- the code that is found stands in the text
          have hcs : cs = cs.takeWhile (fun d => d != ':' && !isBlank d) ++ ':' :: rest := by
            rw [← hrest, List.takeWhile_append_dropWhile]
          have hcode : ∀ d ∈ cs.takeWhile (fun d => d != ':' && !isBlank d),
              d ≠ ':' ∧ isBlank d = false :=
            fun d hd => by simpa using List.mem_takeWhile_imp hd
          have hrest' : NoCode rest := fun front code back hback =>
            h (':' :: (cs.takeWhile (fun d => d != ':' && !isBlank d) ++ ':' :: front)) code back
              (by
                rw [List.cons_append, List.append_assoc, List.cons_append, ← hback]
                exact congrArg _ hcs)
          rw [ih hrest', h [] _ rest (congrArg _ hcs) hcode]
          conv_rhs => rw [hcs]
          simp
        · rfl
      · rfl

theorem NoEscape.unescapeBrackets (h : NoEscape cs) : unescapeBrackets cs = cs := by
  induction cs using unescapeBrackets.induct with
  | case1 rest => exact absurd rfl (h [] rest)
  | case2 c rest hne ih =>
    have hrest : NoEscape rest := fun front back hback => h (c :: front) back (by rw [hback]; rfl)
    rw [Markup.unescapeBrackets, ih hrest]
    exact hne
  | case3 => rfl

theorem plainText_eq_self (hcontrol : ∀ c ∈ cs, isControl c = false) (hcode : NoCode cs)
    (hescape : NoEscape cs) : plainText cs = cs := by
  rw [plainText, hescape.unescapeBrackets, Text.Emoji.replace, hcode.replaceUpTo]
  exact List.filter_eq_self.mpr fun c hc => by simp [hcontrol c hc]

theorem NoCode.of_infix (h : NoCode cs) (hpart : run <:+: cs) : NoCode run := by
  obtain ⟨before, after, rfl⟩ := hpart
  exact fun front code back hrun => h (before ++ front) code (back ++ after) (by simp [hrun])

theorem Plain.of_suffix (h : Plain cs) (hrest : run <:+ cs) : Plain run where
  noControl c hc := h.noControl c (hrest.subset hc)
  noCode := h.noCode.of_infix hrest.isInfix
  bracket front back hrun := by
    obtain ⟨before, rfl⟩ := hrest
    exact h.bracket (before ++ front) back (by simp [hrun])

/-- Any part of a plain text shows as itself if it holds no backslash in front of a bracket. -/
theorem Plain.plainText_eq_self (h : Plain cs) (hpart : run <:+: cs) (hescape : NoEscape run) :
    plainText run = run :=
  Markup.plainText_eq_self (fun c hc => h.noControl c (hpart.subset hc))
    (h.noCode.of_infix hpart) hescape

/-- A backslash and a bracket that are both read as text would be an escape that starts no tag. -/
theorem Plain.noEscape_concat {c : Char} (h : Plain (xs ++ c :: cs)) (hescape : NoEscape xs)
    (hnone : tagAt? (c :: cs) = none) : NoEscape (xs ++ [c]) := by
  intro front back heq
  rcases List.eq_nil_or_concat back with rfl | ⟨back, d, rfl⟩
  · have hlast : xs ++ [c] = (front ++ ['\\']) ++ ['['] := by simpa using heq
    obtain ⟨hfront, hc⟩ := List.append_inj' hlast rfl
    obtain rfl : c = '[' := by simpa using hc
    exact h.bracket front cs (by simp [hfront]) hnone
  · have hback : xs ++ [c] = (front ++ '\\' :: '[' :: back) ++ [d] := by simpa using heq
    exact hescape front back (List.append_inj' hback rfl).1

theorem noEscape_nil : NoEscape [] :=
  fun front back => by simp

theorem noEscape_replicate (k : Nat) : NoEscape (List.replicate k '\\') := by
  intro front back h
  have hmem : '[' ∈ List.replicate k '\\' := by
    rw [h]
    simp
  exact absurd (List.eq_of_mem_replicate hmem) (by decide)

theorem plainText_replicate (k : Nat) :
    plainText (List.replicate k '\\') = List.replicate k '\\' := by
  refine Markup.plainText_eq_self (fun c hc => ?_) (fun front code back h => ?_)
    (noEscape_replicate k)
  · rw [List.eq_of_mem_replicate hc]
    rfl
  · have hmem : ':' ∈ List.replicate k '\\' := by
      rw [h]
      simp
    exact absurd (List.eq_of_mem_replicate hmem) (by decide)

theorem IsTag.not_mem (h : IsTag content) : '[' ∉ content := by
  obtain ⟨c, more, rfl, hstart, hmore⟩ := h
  intro hmem
  rcases List.mem_cons.mp hmem with rfl | hmem
  · exact absurd hstart (by decide)
  · exact (hmore _ hmem).2 rfl

theorem IsTag.noEscape (h : IsTag content) : NoEscape ('[' :: (content ++ [']'])) := by
  rintro (_ | ⟨c, front⟩) back heq
  · exact absurd (List.cons.inj heq).1 (by decide)
  · have hmem : '[' ∈ content ++ [']'] := by
      rw [(List.cons.inj heq).2]
      simp
    rcases List.mem_append.mp hmem with hmem | hmem
    · exact h.not_mem hmem
    · exact absurd (List.mem_singleton.mp hmem) (by decide)

/-- The runs of a plain text show as themselves, however many backslashes are put in front of its
tags. -/
theorem Reads.plainText_of_mem_runs (h : Reads cs items) (hplain : Plain (pending.reverse ++ cs))
    (hescape : NoEscape pending.reverse) (g : Nat → Nat)
    (hrun : run ∈ runs pending (items.map (withEscapes g))) : plainText run = run := by
  induction h generalizing pending with
  | nil =>
    rw [List.mem_singleton.mp hrun]
    exact hplain.plainText_eq_self (List.prefix_append ..).isInfix hescape
  | @char c cs items hnone _ ih =>
    have hreverse : (c :: pending).reverse = pending.reverse ++ [c] := List.reverse_cons
    have hmore : Plain ((c :: pending).reverse ++ cs) := by
      rw [hreverse, List.append_assoc]
      exact hplain
    exact ih hmore (hreverse ▸ hplain.noEscape_concat hescape hnone) hrun
  | @tag k content rest items htag _ ih =>
    simp only [List.map_cons, withEscapes, runs, List.mem_cons] at hrun
    rcases hrun with rfl | rfl | rfl | hrun
    · exact hplain.plainText_eq_self (List.prefix_append ..).isInfix hescape
    · exact plainText_replicate _
    · split
      · exact hplain.plainText_eq_self
          ⟨pending.reverse ++ List.replicate k '\\', rest, by simp⟩ htag.noEscape
      · exact plainText_nil
    · -- behind a tag a new run begins, with the rest of the text
      have hrest : rest <:+ pending.reverse ++
          (List.replicate k '\\' ++ '[' :: (content ++ ']' :: rest)) :=
        ⟨pending.reverse ++ List.replicate k '\\' ++ '[' :: (content ++ [']']), by simp⟩
      have hplainRest : Plain (([] : List Char).reverse ++ rest) := hplain.of_suffix hrest
      exact ih hplainRest noEscape_nil hrun

/-- What a plain text shows, with any number of backslashes in front of its tags. -/
theorem Reads.flatMap_runs (h : Reads cs items) (hplain : Plain cs) (g : Nat → Nat) :
    (runs [] (items.map (withEscapes g))).flatMap plainText =
      (items.map (withEscapes g)).flatMap Item.literal := by
  have hplainAll : Plain (([] : List Char).reverse ++ cs) := hplain
  have hself : (runs [] (items.map (withEscapes g))).map plainText =
      runs [] (items.map (withEscapes g)) :=
    (List.map_congr_left fun run hrun =>
      h.plainText_of_mem_runs hplainAll noEscape_nil g hrun).trans (List.map_id _)
  rw [List.flatMap_def, hself, flatten_runs, List.reverse_nil, List.nil_append]

/-- A text ends in a backslash with none before it. -/
def EndsSingle (cs : List Char) : Prop :=
  ∃ front, cs = front ++ ['\\'] ∧ front.getLast? ≠ some '\\'

theorem endsSingle_iff : EndsSingle cs ↔ (cs.reverse.takeWhile (· == '\\')).length = 1 := by
  constructor
  · rintro ⟨front, rfl, hlast⟩
    rcases List.eq_nil_or_concat front with rfl | ⟨front, c, rfl⟩
    · rfl
    · have hc : c ≠ '\\' := by simpa using hlast
      simp [hc]
  · intro h
    rcases List.eq_nil_or_concat cs with rfl | ⟨front, c, rfl⟩
    · cases h
    · by_cases hc : c = '\\'
      · subst hc
        refine ⟨front, List.concat_eq_append, fun hlast => ?_⟩
        obtain ⟨front, rfl⟩ := List.getLast?_eq_some_iff.mp hlast
        simp at h
      · simp [hc] at h

instance : Decidable (EndsSingle cs) :=
  decidable_of_iff _ endsSingle_iff.symm

/-- Guarding tags leaves the backslashes at the end of a text. -/
theorem takeWhile_reverse_guard (items : List Item) :
    ((items.map Item.guard).flatMap source).reverse.takeWhile (· == '\\') =
      (items.flatMap source).reverse.takeWhile (· == '\\') := by
  induction items using List.reverseRecOn with
  | nil => rfl
  | append_singleton items i ih =>
    cases i with
    | char c =>
      by_cases hc : c = '\\'
      · simpa [hc] using ih
      · simp [hc]
    | tag k content => simp

theorem Reads.toList_escape (h : Reads s.toList items) (hend : ¬ EndsSingle s.toList) :
    (escape s).toList = (items.map Item.guard).flatMap source := by
  have hlast : ((((items.map Item.guard).flatMap source).reverse.takeWhile
      (· == '\\')).length == 1) = false := by
    rw [takeWhile_reverse_guard, h.flatMap_source]
    exact beq_eq_false_iff_ne.mpr fun hlength => hend (endsSingle_iff.mpr hlength)
  simp only [escape, escapeTags_eq h (Nat.lt_succ_self _), hlast, String.toList_ofList]
  rfl

/-- **An escaped text** is shown as itself. -/
theorem render_escape (hplain : Plain s.toList) (hend : ¬ EndsSingle s.toList) :
    render (escape s) = .ok ⟨s.toList, []⟩ := by
  obtain ⟨items, h⟩ := exists_reads s.toList
  -- the escaped text is read as the guarded items, and each of them shows what was written
  have hguard : Reads (escape s).toList (items.map Item.guard) := by
    rw [h.toList_escape hend]
    exact h.guard
  have hshows : ∀ i ∈ items.map Item.guard, i.Shows := by
    intro i hi
    obtain ⟨j, _, rfl⟩ := List.mem_map.mp hi
    exact j.shows_guard
  have hliteral : (items.map Item.guard).flatMap Item.literal = s.toList := by
    rw [List.flatMap_map, ← h.flatMap_source]
    exact List.flatMap_congr fun i _ => i.literal_guard
  rw [hguard.render_of_shows hshows]
  exact congrArg (fun text => Except.ok (⟨text, []⟩ : StyledText))
    ((h.flatMap_runs hplain _).trans hliteral)

/-- A text without tags is shown as itself. -/
theorem render_of_not_holdsTag (hplain : Plain s.toList) (htag : ¬ HoldsTag s.toList) :
    render s = .ok ⟨s.toList, []⟩ := by
  obtain ⟨items, h⟩ := exists_reads s.toList
  have hchars := h.exists_char htag
  have hshows : ∀ i ∈ items, i.Shows := by
    intro i hi
    obtain ⟨c, rfl⟩ := hchars i hi
    trivial
  have hliteral : items.flatMap Item.literal = s.toList := by
    conv_rhs => rw [← h.flatMap_source]
    refine List.flatMap_congr fun i hi => ?_
    obtain ⟨c, rfl⟩ := hchars i hi
    rfl
  have hruns := h.flatMap_runs hplain id
  rw [Item.withEscapes_id, List.map_id, hliteral] at hruns
  rw [h.render_of_shows hshows, hruns]

/-- **A text that is not escaped** is shown as itself exactly if it holds no tag. -/
theorem render_literal_iff (hplain : Plain s.toList) :
    (∃ t, render s = .ok t ∧ t.text = s.toList) ↔ ¬ HoldsTag s.toList := by
  constructor
  · rintro ⟨t, hrender, htext⟩
    obtain ⟨items, h⟩ := exists_reads s.toList
    -- nothing is put in front of the tags here, so the text shows what its items show
    have hruns := h.flatMap_runs hplain id
    rw [Item.withEscapes_id, List.map_id] at hruns
    rw [h.text_of_render hrender, hruns] at htext
    refine h.not_holdsTag ?_
    rintro (c | ⟨k, content⟩) hi
    · exact ⟨c, rfl⟩
    · -- a tag makes what is shown shorter than the text
      obtain ⟨before, after, rfl⟩ := List.append_of_mem hi
      have hlength := congrArg List.length (htext.trans h.flatMap_source.symm)
      simp only [List.flatMap_append, List.flatMap_cons, List.length_append] at hlength
      have hbefore := Item.length_literal_le before
      have hafter := Item.length_literal_le after
      have htag := Item.length_literal_tag_lt k content
      omega
  · intro htag
    exact ⟨_, render_of_not_holdsTag hplain htag, rfl⟩

end

end BindingAudit.Markup
