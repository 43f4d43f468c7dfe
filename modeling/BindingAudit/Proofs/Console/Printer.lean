import BindingAudit.Proofs.Console.Markup
import BindingAudit.Proofs.Console.Table

/-!
# Printers that print what they are given

What a summary shows depends on the printer it goes to.  `Printer.Faithful` says what is asked of
one: an escaped text is rendered as itself, and so is a text without tags, while a tag is taken for
a style; a table of cells in no style is printed, with one line for each row if it fits.  The printer
of a console is of this kind, whatever its width is (`Printer.faithful_console`).

## Architecture

1. Ordinary texts, in which only tags are taken for more than text.
2. The laws of a faithful printer, stated for ordinary texts.
3. A console keeps them, by the lemmas about markup and tables.
-/

namespace BindingAudit

open Markup (HoldsTag)

/-! ## Section 1: Ordinary texts -/

/-- A text without control characters and line breaks, in which no name between colons stands for
an emoji, and no backslash stands in front of a bracket that starts no tag. -/
structure Ordinary (s : String) : Prop where
  noControl : ∀ c ∈ s.toList, 0x20 ≤ c.toNat ∧ (c.toNat < 0x7F ∨ 0xA0 ≤ c.toNat)
  noBreak : ∀ c ∈ s.toList, c.toNat ≠ 0x2028 ∧ c.toNat ≠ 0x2029
  noCode : Markup.NoCode s.toList
  bracket : ∀ front back, s.toList = front ++ '\\' :: '[' :: back →
    Markup.tagAt? ('[' :: back) ≠ none

/-- The cell that shows a text as it is. -/
def literalCell (s : String) : StyledText where
  text := s.toList

namespace Ordinary

variable {s : String}

theorem plain (h : Ordinary s) : Markup.Plain s.toList where
  noControl c hc := by
    have hrange := (h.noControl c hc).1
    simp only [Markup.isControl, Bool.or_eq_false_iff, beq_eq_false_iff_ne]
    omega
  noCode := h.noCode
  bracket := h.bracket

theorem single (h : Ordinary s) : Table.Single (literalCell s) where
  unstyled := rfl
  noEnd c hc := by
    have hrange := h.noControl c hc
    have hbreak := h.noBreak c hc
    simp only [Table.endsLine, Bool.or_eq_false_iff, Bool.and_eq_false_iff, decide_eq_false_iff_not,
      beq_eq_false_iff_ne]
    omega
  noTab hmem := absurd (h.noControl '\t' hmem).1 (by decide)

/-- A line feed in front leaves a text plain. -/
theorem plain_feed (h : Ordinary s) : Markup.Plain ("\n" ++ s).toList where
  noControl c hc := by
    rw [String.toList_append] at hc
    rcases List.mem_cons.mp hc with rfl | hc
    · rfl
    · exact h.plain.noControl c hc
  noCode front code back hcs := by
    rw [String.toList_append] at hcs
    cases front with
    | nil => cases hcs
    | cons c front => exact h.noCode front code back (List.cons.inj hcs).2
  bracket front back hcs := by
    rw [String.toList_append] at hcs
    cases front with
    | nil => cases hcs
    | cons c front => exact h.bracket front back (List.cons.inj hcs).2

end Ordinary

theorem not_holdsTag_feed {s : String} (h : ¬ HoldsTag s.toList) :
    ¬ HoldsTag ("\n" ++ s).toList := by
  rintro ⟨front, content, back, hcs, htag⟩
  rw [String.toList_append] at hcs
  cases front with
  | nil => cases hcs
  | cons c front => exact h ⟨front, content, back, (List.cons.inj hcs).2, htag⟩

/-- A text in which too little stands for a code or an escape, tested character by character. -/
def evident (s : String) : Bool :=
  (s.toList.all fun c =>
    decide ((0x20 ≤ c.toNat ∧ (c.toNat < 0x7F ∨ 0xA0 ≤ c.toNat)) ∧
      c.toNat ≠ 0x2028 ∧ c.toNat ≠ 0x2029)) &&
    decide (s.toList.count ':' ≤ 1) && !s.toList.contains '\\'

theorem evident_iff {s : String} : evident s = true ↔
    (∀ c ∈ s.toList, (0x20 ≤ c.toNat ∧ (c.toNat < 0x7F ∨ 0xA0 ≤ c.toNat)) ∧
      c.toNat ≠ 0x2028 ∧ c.toNat ≠ 0x2029) ∧ s.toList.count ':' ≤ 1 ∧ '\\' ∉ s.toList := by
  simp only [evident, Bool.and_eq_true, List.all_eq_true, decide_eq_true_eq, Bool.not_eq_true',
    List.contains_eq_mem, decide_eq_false_iff_not, and_assoc]

theorem Ordinary.of_evident {s : String} (h : evident s = true) : Ordinary s := by
  obtain ⟨hchars, hcolon, hslash⟩ := evident_iff.mp h
  refine ⟨fun c hc => (hchars c hc).1, fun c hc => (hchars c hc).2, ?_, ?_⟩
  · intro front code back hcs
    rw [hcs] at hcolon
    simp only [List.count_append, List.count_cons_self] at hcolon
    omega
  · intro front back hcs
    rw [hcs] at hslash
    simp at hslash

/-- A text of ASCII characters of which none can be part of a code, an escape or a tag. -/
def bland (s : String) : Bool :=
  s.toList.all fun c => decide (0x20 ≤ c.toNat ∧ c.toNat < 0x7F ∧ c ≠ ':' ∧ c ≠ '\\' ∧ c ≠ '[')

theorem bland_iff {s : String} : bland s = true ↔ ∀ c ∈ s.toList,
    0x20 ≤ c.toNat ∧ c.toNat < 0x7F ∧ c ≠ ':' ∧ c ≠ '\\' ∧ c ≠ '[' := by
  simp only [bland, List.all_eq_true, decide_eq_true_eq]

theorem bland_append {s t : String} (hs : bland s = true) (ht : bland t = true) :
    bland (s ++ t) = true := by
  rw [bland, String.toList_append, List.all_append, Bool.and_eq_true]
  exact ⟨hs, ht⟩

theorem Ordinary.of_bland {s : String} (h : bland s = true) : Ordinary s := by
  have hchars := bland_iff.mp h
  refine .of_evident (evident_iff.mpr ⟨fun c hc => ?_, ?_, fun hc => (hchars _ hc).2.2.2.1 rfl⟩)
  · have hrange := hchars c hc
    omega
  · rw [List.count_eq_zero.mpr fun hc => (hchars _ hc).2.2.1 rfl]
    exact Nat.zero_le 1

theorem not_holdsTag_of_bland {s : String} (h : bland s = true) : ¬ HoldsTag s.toList :=
  Markup.not_holdsTag_of_not_mem fun hc => (bland_iff.mp h _ hc).2.2.2.2 rfl

/-! ## Section 2: Faithful printers -/

namespace Printer

/-- What is asked of a printer. -/
structure Faithful (p : Printer) : Prop where
  /-- An escaped text is rendered as itself. -/
  render_escape {s : String} : Ordinary s → ¬ Markup.EndsSingle s.toList →
    p.render (p.escape s) = .ok (literalCell s)
  /-- A text without tags is rendered as itself. -/
  render_plain {s : String} : Ordinary s → ¬ HoldsTag s.toList → p.render s = .ok (literalCell s)
  /-- A tag is taken out of the text, which then reads otherwise. -/
  render_tag {s : String} {t : StyledText} : Ordinary s → HoldsTag s.toList → p.render s = .ok t →
    t.text ≠ s.toList
  /-- A text without tags is printed below an empty line. -/
  print_plain {s : String} : Ordinary s → ¬ HoldsTag s.toList →
    ∃ text, p.print ("\n" ++ s) = .ok text
  /-- A table of cells in no style is printed. -/
  draw_unstyled {t : Table} : (∀ row ∈ t.rows, ∀ cell ∈ row, cell.Unstyled) →
    ∃ text, p.draw t = .ok text
  /-- If such a table fits in the width, each row is a line that shows its cells. -/
  draw_fitting {t : Table} : t.Fits p.width → (∀ cell ∈ t.headingCells, Table.Single cell) →
    (∀ row ∈ t.rows, row.length = t.headings.length ∧ ∀ cell ∈ row, Table.Single cell) →
    ∃ above lines below, p.draw t = .ok (above ++ String.join lines ++ below) ∧
      List.Forall₂ (Table.PrintsRow "│") t.rows lines

/-- A text that is not escaped reads as itself exactly if it holds no tag. -/
theorem Faithful.text_eq_iff {p : Printer} (hp : p.Faithful) {s : String} {t : StyledText}
    (h : Ordinary s) (ht : p.render s = .ok t) : t.text = s.toList ↔ ¬ HoldsTag s.toList := by
  constructor
  · exact fun htext htag => hp.render_tag h htag ht htext
  · intro htag
    cases ht.symm.trans (hp.render_plain h htag)
    rfl

/-! ## Section 3: Consoles -/

@[simp] theorem escape_console (width : Nat) : (console width).escape = Markup.escape := rfl

@[simp] theorem render_console (width : Nat) : (console width).render = Markup.render := rfl

theorem exists_send {t : StyledText} (h : t.Unstyled) (width : Nat) (colors : Bool) :
    ∃ text, Terminal.send width colors t = .ok text := by
  obtain ⟨lines, hlines⟩ := Outcome.exists_mapM (f := StyledText.segments)
    (l := t.wrap (Terminal.layout width)) fun u hu => ⟨_, (h.wrap _ u hu).segments_eq⟩
  exact ⟨_, by rw [Terminal.send, hlines]; rfl⟩

theorem draw_console {t : Table} {width : Nat} {text : String} (h : t.draw width = .ok text) :
    (console width).draw t = .ok text := by
  simp only [console, h]

theorem print_console {s text : String} {t : StyledText} {width : Nat}
    (hrender : Markup.render s = .ok t) (hsend : Terminal.send width false t = .ok text) :
    (console width).print s = .ok text := by
  simp only [console, hrender, Outcome.ok_bind, hsend]
  rfl

/-- **A console is faithful**, whatever its width is. -/
theorem faithful_console (width : Nat) : (console width).Faithful where
  render_escape h hend := by
    rw [render_console, escape_console]
    exact Markup.render_escape h.plain hend
  render_plain h htag := by
    rw [render_console]
    exact Markup.render_of_not_holdsTag h.plain htag
  render_tag h htag ht htext := by
    rw [render_console] at ht
    exact (Markup.render_literal_iff h.plain).mp ⟨_, ht, htext⟩ htag
  print_plain h htag := by
    have hrender := Markup.render_of_not_holdsTag h.plain_feed (not_holdsTag_feed htag)
    obtain ⟨text, hsend⟩ := exists_send (t := ⟨_, []⟩) rfl width false
    exact ⟨text, print_console hrender hsend⟩
  draw_unstyled h := by
    obtain ⟨text, hdraw⟩ := Table.exists_draw h width
    exact ⟨text, draw_console hdraw⟩
  draw_fitting hfits hheadings hrows := by
    obtain ⟨above, lines, below, hdraw, hlines⟩ := Table.draw_of_fits hfits hheadings hrows
    exact ⟨above, lines, below, draw_console hdraw, hlines⟩

end Printer

end BindingAudit
