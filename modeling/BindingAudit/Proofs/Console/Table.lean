import BindingAudit.Console.Table
import BindingAudit.Proofs.Console.Layout
import Mathlib.Data.List.Forall2

/-!
# What is drawn of a table

A table of cells without styles can be drawn, on a console of any width (`exists_draw`).  If it fits
on the console and its cells are single lines, every row of it is one line, in which the cells stand
in order and read as they are (`draw_of_fits`).

## Architecture

1. A cell in a column that is wide enough is one line that shows it.
2. So is a row of such cells.
3. Every column is as wide as its widest cell, unless the table does not fit.
4. The table, line by line.
-/

namespace BindingAudit.Table

open StyledText (Unstyled)
open Text (displayWidth isBlank)

variable {t : Table} {cell : StyledText} {cells : List StyledText} {width console : Nat}
  {widths : List Nat} {upright : String}

/-! ## Section 1: Cells -/

/-- A cell in no style that is a single line. -/
structure Single (cell : StyledText) : Prop where
  unstyled : cell.Unstyled
  noEnd : ∀ c ∈ cell.text, endsLine c = false
  noTab : '\t' ∉ cell.text

/-- A cell is printed with a space on both sides, and in the place of blanks at its end there may
be others. -/
def PrintsCell (cell : StyledText) (printed : String) : Prop :=
  ∃ shown blanks spaces, cell.text = shown ++ blanks ∧ (∀ b ∈ blanks, isBlank b = true) ∧
    printed = " " ++ String.ofList (shown ++ List.replicate spaces ' ') ++ " "

theorem exists_cellLines (h : cell.Unstyled) (width : Nat) :
    ∃ lines, cellLines width cell = .ok lines := by
  obtain ⟨lines, hlines⟩ := Outcome.exists_mapM (f := StyledText.segments)
    (l := cell.wrap ⟨width - padding, .ellipsis, true⟩) fun u hu =>
      ⟨_, (h.wrap _ u hu).segments_eq⟩
  exact ⟨_, by rw [cellLines, hlines]; rfl⟩

/-- The column of a cell is wide enough for it. -/
theorem cellLines_of_le (h : Single cell) (hwidth : displayWidth cell.text + padding ≤ width) :
    ∃ printed, cellLines width cell = .ok [printed] ∧ PrintsCell cell printed := by
  have hfeed : '\n' ∉ cell.text := fun hmem =>
    absurd (h.noEnd '\n' hmem) (by decide)
  have hinner : displayWidth cell.text ≤ width - padding := by omega
  have hwrap := StyledText.wrap_eq_singleton ⟨width - padding, .ellipsis, true⟩ hfeed h.noTab hinner
  obtain ⟨blanks, htext, hblanks⟩ := cell.exists_blanks_trimExcess (width - padding)
  generalize hshown : cell.trimExcess (width - padding) = shown at hwrap htext
  have hle : displayWidth shown.text ≤ width - padding :=
    Nat.le_trans (htext ▸ Text.displayWidth_le_append ..) hinner
  -- what is left of the cell is padded once in the layout and perhaps once more as segments
  have hfit : (shown.fit ⟨width - padding, .ellipsis, true⟩).text =
      shown.text ++ List.replicate (width - padding - displayWidth shown.text) ' ' := by
    rw [StyledText.fit, if_neg (Nat.not_lt.mpr hle)]
    rfl
  have hunstyled : (shown.fit ⟨width - padding, .ellipsis, true⟩).Unstyled :=
    h.unstyled.wrap ⟨width - padding, .ellipsis, true⟩ _ (hwrap ▸ List.mem_singleton_self _)
  obtain ⟨line, hline, hflat, htotal⟩ := hunstyled.exists_segments
  have htotalLe : Segment.totalWidth line ≤ width - padding := by
    have hpadded := Text.displayWidth_append_spaces_le shown.text
      (width - padding - displayWidth shown.text)
    rw [htotal, hfit]
    omega
  obtain ⟨more, hmore⟩ := Segment.exists_flatMap_adjust htotalLe
  refine ⟨_, ?_, shown.text, blanks, width - padding - displayWidth shown.text + more, htext,
    hblanks, rfl⟩
  rw [List.replicate_add, ← List.append_assoc, ← hfit, ← hflat, ← hmore, cellLines, hwrap,
    List.mapM_cons, hline]
  rfl

/-! ## Section 2: Rows -/

/-- A row is printed as one line, with its cells in order between upright strokes. -/
def PrintsRow (upright : String) (cells : List StyledText) (line : String) : Prop :=
  ∃ parts, List.Forall₂ PrintsCell cells parts ∧
    line = upright ++ String.intercalate upright parts ++ upright ++ "\n"

theorem exists_row (h : ∀ cell ∈ cells, cell.Unstyled) (widths : List Nat) (upright : String) :
    ∃ text, row widths upright cells = .ok text := by
  obtain ⟨columns, hcolumns⟩ := Outcome.exists_mapM
    (f := fun column : Nat × StyledText => cellLines column.1 column.2) (l := widths.zip cells)
    fun column hcolumn => exists_cellLines (h column.2 (List.of_mem_zip hcolumn).2) column.1
  exact ⟨_, by rw [row, hcolumns]; rfl⟩

theorem mapM_cellLines (h : List.Forall₂ (fun cell width =>
    Single cell ∧ displayWidth cell.text + padding ≤ width) cells widths) :
    ∃ parts, (widths.zip cells).mapM (fun column => cellLines column.1 column.2) =
        .ok (parts.map fun part => [part]) ∧
      List.Forall₂ PrintsCell cells parts := by
  induction h with
  | nil => exact ⟨[], rfl, .nil⟩
  | cons hcell _ ih =>
    obtain ⟨printed, hprinted, hprints⟩ := cellLines_of_le hcell.1 hcell.2
    obtain ⟨parts, hparts, hrest⟩ := ih
    refine ⟨printed :: parts, ?_, .cons hprints hrest⟩
    rw [List.zip_cons_cons, List.mapM_cons, hprinted, hparts]
    rfl

/-- The columns are wide enough for the cells of a row. -/
theorem row_of_le (h : List.Forall₂ (fun cell width =>
    Single cell ∧ displayWidth cell.text + padding ≤ width) cells widths) (upright : String) :
    ∃ line, row widths upright cells = .ok line ∧ PrintsRow upright cells line := by
  obtain ⟨parts, hparts, hprints⟩ := mapM_cellLines h
  have hheight : ((parts.map fun part => [part]).map List.length).foldl max 1 = 1 := by
    rw [List.map_map, List.foldl_map]
    exact List.foldl_fixed' (fun _ => rfl) parts
  have hlength : parts.length ≤ widths.length :=
    (h.length_eq.symm.trans hprints.length_eq).ge
  have hline : List.zipWith (fun width lines => lines.getD 0 (Text.fill ' ' width)) widths
      (parts.map fun part => [part]) = parts := by
    rw [List.zipWith_map_right, ← List.map_uncurry_zip_eq_zipWith]
    exact List.map_snd_zip hlength
  refine ⟨_, ?_, parts, hprints, rfl⟩
  simp only [row, hparts, Outcome.ok_bind, hheight, List.range_one, List.map_singleton, hline]
  rw [String.join_cons, String.join_nil, String.append_empty]
  rfl

/-! ## Section 3: Widths -/

theorem widest_eq (line : List Char) {cs : List Char} (h : ∀ c ∈ cs, endsLine c = false) :
    widest line cs = displayWidth (line.reverse ++ cs) := by
  induction cs generalizing line with
  | nil => rw [widest, List.append_nil]
  | cons c cs ih =>
    have hc := h c (List.mem_cons_self ..)
    rw [widest, hc, if_neg Bool.false_ne_true, ih _ fun d hd => h d (List.mem_cons_of_mem _ hd),
      List.reverse_cons, List.append_assoc, List.singleton_append]

/-- The cells each column asks for, without the blanks on both sides. -/
def asked (t : Table) : List Nat :=
  t.rows.foldl
    (fun widths row => List.zipWith max widths (row.map fun cell => widest [] cell.text))
    (t.headings.map fun h => widest [] h.toList)

/-- The columns, as wide as they ask for, and the strokes between them fit on a console. -/
def Fits (t : Table) (console : Nat) : Prop :=
  (t.asked.map (· + padding)).foldr (· + ·) 0 + (t.headings.length + 1) ≤ console

instance : Decidable (t.Fits console) :=
  inferInstanceAs (Decidable (_ ≤ _))

theorem le_total_of_mem {n : Nat} (h : n ∈ widths) : n ≤ widths.foldr (· + ·) 0 := by
  induction widths with
  | nil => cases h
  | cons w rest ih =>
    rw [List.foldr_cons]
    rcases List.mem_cons.mp h with rfl | h
    · exact Nat.le_add_right ..
    · exact Nat.le_trans (ih h) (Nat.le_add_left ..)

theorem collapse_of_le {room : Nat} (h : widths.foldr (· + ·) 0 ≤ room) (fuel : Nat) :
    collapse room fuel widths = widths := by
  cases fuel with
  | zero => rfl
  | succ fuel => rw [collapse, if_pos (Nat.sub_eq_zero_of_le h)]

theorem Fits.widths_eq (h : t.Fits console) : t.widths console = t.asked.map (· + padding) := by
  have htotal : (t.asked.map (· + padding)).foldr (· + ·) 0 ≤ t.room console :=
    Nat.le_sub_of_add_le h
  have hdesired : t.desiredWidths console = t.asked.map (· + padding) := by
    -- no column alone is wider than all of them together
    refine List.map_congr_left fun n hn => Nat.min_eq_left ?_
    exact Nat.le_trans (le_total_of_mem (List.mem_map_of_mem (f := (· + padding)) hn)) htotal
  rw [Table.widths, hdesired]
  exact collapse_of_le htotal _

theorem forall₂_mono {α : Type} {R : α → Nat → Prop} (hmono : ∀ a m n, R a m → m ≤ n → R a n)
    {as : List α} {ms ns : List Nat} (h : List.Forall₂ R as ms)
    (hle : List.Forall₂ (· ≤ ·) ms ns) : List.Forall₂ R as ns := by
  induction h generalizing ns with
  | nil =>
    cases hle
    exact .nil
  | cons ha _ ih =>
    cases hle with
    | cons hmn hrest => exact .cons (hmono _ _ _ ha hmn) (ih hrest)

theorem forall₂_le_zipWith_max {α : Type} (f : α → Nat) {row : List α} {widths : List Nat}
    (h : row.length = widths.length) :
    List.Forall₂ (· ≤ ·) widths (List.zipWith max widths (row.map f)) ∧
      List.Forall₂ (fun a w => f a ≤ w) row (List.zipWith max widths (row.map f)) := by
  induction row generalizing widths with
  | nil =>
    rw [List.length_eq_zero_iff.mp h.symm]
    exact ⟨.nil, .nil⟩
  | cons a row ih =>
    cases widths with
    | nil => cases h
    | cons w widths =>
      obtain ⟨hwidths, hrow⟩ := ih (Nat.succ.inj h)
      exact ⟨.cons (Nat.le_max_left ..) hwidths, .cons (Nat.le_max_right ..) hrow⟩

/-- Columns get wider with every row, and end up wide enough for each. -/
theorem forall₂_le_foldl_max {α : Type} (f : α → Nat) {rows : List (List α)} {widths : List Nat}
    (h : ∀ row ∈ rows, row.length = widths.length) :
    List.Forall₂ (· ≤ ·) widths
        (rows.foldl (fun ws row => List.zipWith max ws (row.map f)) widths) ∧
      ∀ row ∈ rows, List.Forall₂ (fun a w => f a ≤ w) row
        (rows.foldl (fun ws row => List.zipWith max ws (row.map f)) widths) := by
  induction rows generalizing widths with
  | nil => exact ⟨List.forall₂_refl _, nofun⟩
  | cons row rows ih =>
    obtain ⟨hwidths, hrow⟩ := forall₂_le_zipWith_max f (h row (List.mem_cons_self ..))
    have hlength : ∀ r ∈ rows, r.length = (List.zipWith max widths (row.map f)).length :=
      fun r hr => (h r (List.mem_cons_of_mem _ hr)).trans hwidths.length_eq
    obtain ⟨hmore, hrows⟩ := ih hlength
    -- the columns that are wide enough for this row get wider with the rows behind it
    refine ⟨forall₂_mono (R := (· ≤ ·)) (fun _ _ _ => Nat.le_trans) hwidths hmore, fun r hr => ?_⟩
    rcases List.mem_cons.mp hr with rfl | hr
    · exact forall₂_mono (R := fun a w => f a ≤ w) (fun _ _ _ => Nat.le_trans) hrow hmore
    · exact hrows r hr

/-! ## Section 4: The table -/

/-- The cells of the headings. -/
def headingCells (t : Table) : List StyledText :=
  t.headings.map fun h => { text := h.toList }

/-- What stands above the rows of a drawing: the title, the headings, and a rule above and below
them. -/
def head (t : Table) (console : Nat) (headings : String) : String :=
  titleLines ((t.widths console).foldr (· + ·) 0 + (t.widths console).length + 1) t.title
    ++ rule (t.widths console) "┏" '━' "┳" "┓" ++ headings
    ++ rule (t.widths console) "┡" '━' "╇" "┩"

theorem draw_eq (t : Table) (console : Nat) : t.draw console = (do
    let headings ← row (t.widths console) "┃" t.headingCells
    let lines ← t.rows.mapM (row (t.widths console) "│")
    return t.head console headings ++ String.join lines
      ++ rule (t.widths console) "└" '─' "┴" "┘") :=
  rfl

/-- A table without styles can be drawn. -/
theorem exists_draw (h : ∀ row ∈ t.rows, ∀ cell ∈ row, cell.Unstyled) (console : Nat) :
    ∃ text, t.draw console = .ok text := by
  have hheadings : ∀ cell ∈ t.headingCells, cell.Unstyled := by
    intro cell hcell
    obtain ⟨_, _, rfl⟩ := List.mem_map.mp hcell
    rfl
  obtain ⟨headings, hheadings⟩ := exists_row hheadings (t.widths console) "┃"
  obtain ⟨rows, hrows⟩ := Outcome.exists_mapM fun row hrow =>
    exists_row (h row hrow) (t.widths console) "│"
  exact ⟨_, by rw [draw_eq, hheadings, hrows]; rfl⟩

/-- The columns of a table that fits are wide enough for the cells they are asked for. -/
theorem Fits.forall₂_widths (h : t.Fits console) (hsingle : ∀ cell ∈ cells, Single cell)
    (hasked : List.Forall₂ (fun cell n => widest [] cell.text ≤ n) cells t.asked) :
    List.Forall₂ (fun cell width => Single cell ∧ displayWidth cell.text + padding ≤ width) cells
      (t.widths console) := by
  rw [h.widths_eq, List.forall₂_map_right_iff]
  refine ((List.forall₂_and_left ..).mpr ⟨hsingle, hasked⟩).imp ?_
  rintro cell n ⟨hcell, hle⟩
  rw [widest_eq [] hcell.noEnd] at hle
  exact ⟨hcell, Nat.add_le_add_right hle _⟩

/-- **A table that fits** is drawn with one line for each row. -/
theorem draw_of_fits (hfits : t.Fits console) (hheadings : ∀ cell ∈ t.headingCells, Single cell)
    (hrows : ∀ row ∈ t.rows, row.length = t.headings.length ∧ ∀ cell ∈ row, Single cell) :
    ∃ above lines below, t.draw console = .ok (above ++ String.join lines ++ below) ∧
      List.Forall₂ (PrintsRow "│") t.rows lines := by
  have hlength : ∀ row ∈ t.rows,
      row.length = (t.headings.map fun h => widest [] h.toList).length := by
    intro row hrow
    rw [List.length_map]
    exact (hrows row hrow).1
  obtain ⟨hhead, hbody⟩ := forall₂_le_foldl_max (fun cell => widest [] cell.text) hlength
  have hasked : List.Forall₂ (fun cell n => widest [] cell.text ≤ n) t.headingCells t.asked :=
    List.forall₂_map_left_iff.mpr (List.forall₂_map_left_iff.mp hhead)
  obtain ⟨headings, hheadings, -⟩ := row_of_le (hfits.forall₂_widths hheadings hasked) "┃"
  obtain ⟨lines, hlines, hlinesPrint⟩ := Outcome.exists_mapM_forall₂ fun row hrow =>
    row_of_le (hfits.forall₂_widths (hrows row hrow).2 (hbody row hrow)) "│"
  refine ⟨t.head console headings, lines, rule (t.widths console) "└" '─' "┴" "┘", ?_, hlinesPrint⟩
  rw [draw_eq, hheadings, hlines]
  simp only [Outcome.ok_bind, String.append_assoc]
  rfl

end BindingAudit.Table
