import BindingAudit.Console.StyledText
import BindingAudit.Proofs.Outcome
import BindingAudit.Proofs.Text.Width

/-!
# Laying out text in no style

A text without styles can be laid out in any width (`Unstyled.exists_segments`), and one that is a
single line, no wider than the layout, stays one: at most blanks at its end give way to padding
(`wrap_eq_singleton`, `exists_blanks_trimExcess`).

## Architecture

1. Every step of the layout keeps a text without styles so.
2. A line that is not too wide is not broken: its words, with the blanks between them, take no more
   cells apart than together.
3. The segments of such a line hold its text.
-/

namespace BindingAudit.StyledText

open Text (displayWidth isBlank)

variable {t : StyledText} {c : Char} {cs : List Char}

/-! ## Section 1: Texts without styles -/

/-- A text no part of which has a style. -/
def Unstyled (t : StyledText) : Prop :=
  t.stretches = []

theorem Unstyled.part (h : t.Unstyled) (start stop : Nat) : (t.part start stop).Unstyled := by
  rw [Unstyled, StyledText.part, show t.stretches = [] from h]
  rfl

theorem Unstyled.dropLast (h : t.Unstyled) (count : Nat) : (t.dropLast count).Unstyled := by
  rw [StyledText.dropLast]
  split
  · exact h
  · rw [Unstyled, show t.stretches = [] from h]
    rfl

theorem Unstyled.divide (h : t.Unstyled) (offsets : List Nat) :
    ∀ u ∈ t.divide offsets, u.Unstyled := by
  have hparts : ∀ start, ∀ u ∈ t.partsFrom start offsets, u.Unstyled := by
    induction offsets with
    | nil =>
      intro start u hu
      rw [List.mem_singleton.mp hu]
      exact h.part ..
    | cons stop rest ih =>
      intro start u hu
      rcases List.mem_cons.mp hu with rfl | hu
      · exact h.part ..
      · exact ih stop u hu
  intro u hu
  rw [StyledText.divide] at hu
  split at hu
  · rw [List.mem_singleton.mp hu]
    exact h
  · exact hparts 0 u hu

theorem Unstyled.lines (h : t.Unstyled) : ∀ u ∈ t.lines, u.Unstyled := by
  intro u hu
  obtain ⟨v, hv, rfl⟩ := List.mem_map.mp hu
  rw [withoutFeed]
  split
  · exact (h.divide _ v hv).dropLast 1
  · exact h.divide _ v hv

theorem Unstyled.extend (h : t.Unstyled) (spaces : Nat) : (t.extend spaces).Unstyled := by
  rw [Unstyled, StyledText.extend, show t.stretches = [] from h]
  rfl

theorem unstyled_fillTabs {parts : List StyledText} (h : ∀ u ∈ parts, u.Unstyled)
    (column : Nat) : ∀ u ∈ fillTabs column parts, u.Unstyled := by
  induction parts generalizing column with
  | nil => nofun
  | cons t rest ih =>
    have ht : t.Unstyled := h t (List.mem_cons_self ..)
    have hrest := ih fun u hu => h u (List.mem_cons_of_mem _ hu)
    rw [fillTabs]
    split
    · have hspaced : Unstyled ⟨t.text.dropLast ++ [' '], t.stretches⟩ := ht
      exact List.forall_mem_cons.mpr ⟨hspaced.extend _, hrest _⟩
    · exact List.forall_mem_cons.mpr ⟨ht, hrest _⟩

theorem unstyled_join {parts : List StyledText} (h : ∀ u ∈ parts, u.Unstyled) :
    (join parts).Unstyled := by
  induction parts with
  | nil => rfl
  | cons t rest ih =>
    have ht : t.stretches = [] := h t (List.mem_cons_self ..)
    have hrest : (join rest).stretches = [] := ih fun u hu => h u (List.mem_cons_of_mem _ hu)
    rw [Unstyled, join, ht, hrest]
    rfl

theorem Unstyled.expandTabs (h : t.Unstyled) : t.expandTabs.Unstyled := by
  rw [StyledText.expandTabs]
  split
  · exact h
  · exact unstyled_join (unstyled_fillTabs (h.divide _) 0)

theorem Unstyled.fit (h : t.Unstyled) (layout : Layout) : (t.fit layout).Unstyled := by
  rw [StyledText.fit]
  split
  · rw [Unstyled, show t.stretches = [] from h]
    rfl
  · split
    · exact h
    · exact h

theorem Unstyled.wrap (h : t.Unstyled) (layout : Layout) : ∀ u ∈ t.wrap layout, u.Unstyled := by
  intro u hu
  obtain ⟨line, hline, hu⟩ := List.mem_flatMap.mp hu
  obtain ⟨piece, hpiece, rfl⟩ := List.mem_map.mp hu
  exact (((h.lines line hline).expandTabs.divide _ piece hpiece).dropLast _).fit layout

/-- Without styles there is none that cannot be read. -/
theorem Unstyled.segments_eq (h : t.Unstyled) :
    t.segments = .ok (t.segmentsBetween [] t.boundaries) := by
  rw [segments, show t.stretches = [] from h]
  rfl

/-! ## Section 2: A line that is not too wide -/

theorem offsetsAfter_eq_nil (h : c ∉ cs) (i : Nat) : offsetsAfter c i cs = [] := by
  induction cs generalizing i with
  | nil => rfl
  | cons d cs ih =>
    have hd : d ≠ c := fun hd => h (hd ▸ List.mem_cons_self ..)
    rw [offsetsAfter, ih fun hmem => h (List.mem_cons_of_mem _ hmem), if_neg hd]

theorem lines_eq_singleton (h : '\n' ∉ t.text) : t.lines = [t] := by
  have hlast : (t.text.getLast? == some '\n') = false :=
    beq_eq_false_iff_ne.mpr fun hlast => h (List.mem_of_getLast? hlast)
  rw [lines, offsetsAfter_eq_nil h]
  simp [divide, withoutFeed, hlast]

theorem expandTabs_eq_self (h : '\t' ∉ t.text) : t.expandTabs = t := by
  simp [expandTabs, offsetsAfter_eq_nil h]

theorem mem_dropLast_cons {α : Type} {a b : α} {l : List α} (h : a ∈ (b :: l).dropLast) :
    a = b ∨ a ∈ l.dropLast := by
  cases l with
  | nil => cases h
  | cons c l => exact List.mem_cons.mp h

/-- A word that is followed by another ends in a blank. -/
theorem blank_of_mem_spacedWords (begun : Bool) (current cs : List Char) :
    ∀ word ∈ (spacedWords begun current cs).dropLast, word.getLast?.any isBlank = true := by
  induction cs generalizing begun current with
  | nil =>
    rw [spacedWords]
    split <;> nofun
  | cons c rest ih =>
    rw [spacedWords]
    split
    · next hsplit =>
      intro word hword
      simp only [Bool.and_eq_true] at hsplit
      rcases mem_dropLast_cons hword with rfl | hword
      · rw [List.getLast?_reverse]
        exact hsplit.2
      · exact ih true [c] word hword
    · exact ih _ _

theorem flatten_spacedWords_begun (current cs : List Char) :
    (spacedWords true current cs).flatten = current.reverse ++ cs := by
  induction cs generalizing current with
  | nil => simp [spacedWords]
  | cons c rest ih =>
    rw [spacedWords]
    split
    · rw [List.flatten_cons, ih, List.reverse_singleton, List.singleton_append]
    · rw [Bool.true_or, ih, List.reverse_cons, List.append_assoc, List.singleton_append]

/-- The words of a line are the line, unless it holds blanks only. -/
theorem spacedWords_eq_nil_or (current cs : List Char) :
    spacedWords false current cs = [] ∨
      (spacedWords false current cs).flatten = current.reverse ++ cs := by
  induction cs generalizing current with
  | nil => exact .inl rfl
  | cons c rest ih =>
    have hstep : spacedWords false current (c :: rest) =
        spacedWords (!isBlank c) (c :: current) rest := rfl
    rw [hstep]
    cases isBlank c with
    | true =>
      rcases ih (c :: current) with hnil | hflatten
      · exact .inl hnil
      · exact .inr (by rw [Bool.not_true, hflatten]; simp)
    | false => exact .inr (by rw [Bool.not_false, flatten_spacedWords_begun]; simp)

theorem breaksFrom_cons {width used : Nat} {word : List Char}
    (h : used + displayWidth (Text.trimEnd word) ≤ width) (overflow : Overflow) (start : Nat)
    (rest : List (List Char)) : breaksFrom width overflow start used (word :: rest) =
      breaksFrom width overflow (start + word.length) (used + displayWidth word) rest := by
  cases overflow with
  | fold => rw [breaksFrom, if_pos h]
  | ellipsis => rw [breaksFrom, if_pos h]

/-- Words that fit in a line together are not broken. -/
theorem breaksFrom_eq_nil {width used : Nat} {words : List (List Char)}
    (hblank : ∀ word ∈ words.dropLast, word.getLast?.any isBlank = true)
    (hfits : used + displayWidth words.flatten ≤ width) (overflow : Overflow) (start : Nat) :
    breaksFrom width overflow start used words = [] := by
  induction words generalizing start used with
  | nil => rfl
  | cons word rest ih =>
    have htogether : displayWidth word + displayWidth rest.flatten ≤
        displayWidth (word :: rest).flatten := by
      cases rest with
      | nil => simp [displayWidth]
      | cons next rest =>
        -- the blank at the end of the word is no joiner
        have hlast := hblank word (List.mem_cons_self ..)
        exact Text.add_displayWidth_le _ fun hjoiner =>
          absurd (hjoiner ▸ hlast : (some Text.joiner).any isBlank = true) (by decide)
    have hword : used + displayWidth (Text.trimEnd word) ≤ width := by
      have htrim := Text.displayWidth_trimEnd_le word
      omega
    rw [breaksFrom_cons hword]
    refine ih (fun w hw => hblank w ?_) (by omega) _
    cases rest with
    | nil => cases hw
    | cons next rest => exact List.mem_cons_of_mem _ hw

/-- **A single line** no wider than the layout stays one. -/
theorem wrap_eq_singleton (layout : Layout) (hfeed : '\n' ∉ t.text) (htab : '\t' ∉ t.text)
    (hwidth : displayWidth t.text ≤ layout.width) :
    t.wrap layout = [(t.trimExcess layout.width).fit layout] := by
  have hbreaks :
      breaksFrom layout.width layout.overflow 0 0 (spacedWords false [] t.text) = [] := by
    rcases spacedWords_eq_nil_or [] t.text with hnil | hflatten
    · rw [hnil]
      rfl
    · refine breaksFrom_eq_nil (blank_of_mem_spacedWords _ _ _) ?_ _ _
      rw [hflatten, Nat.zero_add]
      exact hwidth
  rw [wrap, lines_eq_singleton hfeed]
  simp [wrapLine, expandTabs_eq_self htab, hbreaks, divide]

/-- What is dropped at the end of a line is blank. -/
theorem exists_blanks_trimExcess (width : Nat) (t : StyledText) :
    ∃ blanks, t.text = (t.trimExcess width).text ++ blanks ∧ ∀ b ∈ blanks, isBlank b = true := by
  have hdropLast : ∀ count, (t.dropLast count).text = t.text.take (t.text.length - count) := by
    intro count
    rw [dropLast]
    split
    · next hcount => rw [hcount, Nat.sub_zero, List.take_length]
    · rfl
  have hrun (count : Nat) (hcount : count ≤ (t.text.reverse.takeWhile isBlank).length) :
      ∀ b ∈ t.text.drop (t.text.length - count), isBlank b = true := by
    -- read from the end, these characters are part of the run of blanks there
    intro b hb
    rw [← List.mem_reverse, ← List.take_reverse,
      ← List.takeWhile_append_dropWhile (p := isBlank) (l := t.text.reverse),
      List.take_append_of_le_length hcount] at hb
    exact List.mem_takeWhile_imp (List.mem_of_mem_take hb)
  refine ⟨_, ?_, hrun _ (Nat.min_le_left _ (t.text.length - width))⟩
  rw [trimExcess, hdropLast, List.take_append_drop]

/-! ## Section 3: Segments -/

/-- The segments of a text without styles hold it. -/
theorem Unstyled.exists_segments (h : t.Unstyled) :
    ∃ line, t.segments = .ok line ∧ line.flatMap Segment.text = t.text ∧
      Segment.totalWidth line = displayWidth t.text := by
  refine ⟨_, h.segments_eq, ?_⟩
  have hboundaries : t.boundaries = insertOffset 0 [t.text.length] := by
    rw [boundaries, show t.stretches = [] from h]
    rfl
  rw [hboundaries]
  rcases Nat.eq_zero_or_pos t.text.length with hzero | hpos
  · rw [List.length_eq_zero_iff.mp hzero]
    exact ⟨rfl, rfl⟩
  · simp [insertOffset, hpos, hpos.ne, segmentsBetween, Segment.totalWidth, Segment.width]

end BindingAudit.StyledText

namespace BindingAudit.Segment

open Text (displayWidth)

/-- The segments of a line that is not too wide are padded. -/
theorem exists_flatMap_adjust {width : Nat} {line : List Segment}
    (h : totalWidth line ≤ width) : ∃ n, (adjust width line).flatMap Segment.text =
      line.flatMap Segment.text ++ List.replicate n ' ' := by
  rw [adjust]
  split
  · rw [crop, if_neg (Nat.not_lt.mpr h)]
    exact ⟨0, (List.append_nil _).symm⟩
  · exact ⟨width - totalWidth line, by simp⟩

end BindingAudit.Segment
