import BindingAudit.Proofs.Console.Printer
import BindingAudit.Rule.Basic
import BindingAudit.Summary

/-!
# What the table of a summary shows

The table of the findings shows the path of each document as it is, since paths are escaped.  The
wordings of the findings are not: a wording reads as itself exactly if it holds no tag, and one that
cannot be rendered leaves the reader without the table.  All this holds with any printer that is
faithful, so on a console of any width (`readable_shows`).

## Architecture

1. Places are shown in ordinary texts without tags.
2. The cells of a finding.
3. The table of the findings is that of the rendered wordings (`tableOf_eq`).
4. What is printed, with literal rows for wordings without tags.
-/

namespace BindingAudit

open Markup (HoldsTag)

/-! ## Section 1: Positions -/

namespace Position

theorem range_of_mem_repr {n : Nat} {c : Char} (h : c ∈ n.repr.toList) :
    0x30 ≤ c.toNat ∧ c.toNat ≤ 0x39 := by
  rw [Nat.toList_repr] at h
  have hdigit := Nat.isDigit_of_mem_toDigits (by decide) (by decide) h
  simp only [Char.isDigit, Bool.and_eq_true, decide_eq_true_eq, ge_iff_le] at hdigit
  exact hdigit

/-- A number is written with digits, and a hyphen if it is negative. -/
theorem range_of_mem_toString {i : Int} {c : Char} (h : c ∈ (toString i).toList) :
    c.toNat = 0x2D ∨ 0x30 ≤ c.toNat ∧ c.toNat ≤ 0x39 := by
  cases i with
  | ofNat n => exact .inr (range_of_mem_repr h)
  | negSucc n =>
    have hshown : (toString (Int.negSucc n)).toList = '-' :: (n + 1).repr.toList := by
      rw [Int.toString_eq_repr, Int.repr, String.toList_append]
      rfl
    rw [hshown] at h
    rcases List.mem_cons.mp h with rfl | h
    · exact .inl rfl
    · exact .inr (range_of_mem_repr h)

/-- The characters a place is shown with. -/
theorem range_of_mem_placeShown {text : Option (List Char)} {offset : Int} {c : Char}
    (h : c ∈ (placeShown text offset).toList) :
    c.toNat = 0x2D ∨ 0x30 ≤ c.toNat ∧ c.toNat ≤ 0x3A ∨ c.toNat = 0x40 := by
  rw [placeShown] at h
  split at h
  · rw [shown, String.toList_append, String.toList_append] at h
    simp only [List.mem_append] at h
    rcases h with (h | h) | h
    · have hrange := range_of_mem_repr h
      omega
    · rw [List.mem_singleton.mp h]
      decide
    · have hrange := range_of_mem_toString h
      omega
  · rw [String.toList_append] at h
    rcases List.mem_append.mp h with h | h
    · rw [List.mem_singleton.mp h]
      decide
    · have hrange := range_of_mem_toString h
      omega

theorem bland_repr (n : Nat) : bland n.repr = true := by
  refine bland_iff.mpr fun c hc => ?_
  have hrange := range_of_mem_repr hc
  refine ⟨by omega, by omega, ?_, ?_, ?_⟩ <;> rintro rfl <;> exact absurd hrange (by decide)

theorem count_colon_toString (i : Int) : (toString i).toList.count ':' = 0 :=
  List.count_eq_zero.mpr fun h => absurd (range_of_mem_toString h) (by decide)

theorem count_colon_placeShown (text : Option (List Char)) (offset : Int) :
    (placeShown text offset).toList.count ':' ≤ 1 := by
  rw [placeShown]
  split
  · next p _ =>
    have hline : (toString p.line).toList.count ':' = 0 := count_colon_toString p.line
    rw [shown, String.toList_append, String.toList_append, List.count_append, List.count_append,
      hline, count_colon_toString]
    decide
  · rw [String.toList_append, List.count_append, count_colon_toString]
    decide

theorem ordinary_placeShown (text : Option (List Char)) (offset : Int) :
    Ordinary (placeShown text offset) := by
  refine .of_evident (evident_iff.mpr
    ⟨fun c hc => ?_, count_colon_placeShown text offset, fun h => ?_⟩)
  · have hrange := range_of_mem_placeShown hc
    omega
  · exact absurd (range_of_mem_placeShown h) (by decide)

theorem not_holdsTag_placeShown (text : Option (List Char)) (offset : Int) :
    ¬ HoldsTag (placeShown text offset).toList :=
  Markup.not_holdsTag_of_not_mem fun hmem => absurd (range_of_mem_placeShown hmem) (by decide)

end Position

/-! ## Section 2: The cells of a finding -/

namespace Summary

variable {p : Printer} {w : Workspace} {reports : List Report} {r : Report} {d : Diagnostic}

/-- What a reader is to be told of a finding: the hint of its fix, else its message. -/
def wording (d : Diagnostic) : String :=
  match d.fix with
  | some f => f.hint
  | none => d.message.text?.getD ""

/-- A finding of a report that consists of ordinary texts.  A path that ends in a single backslash
is left out, since escaping doubles that one. -/
structure Presentable (r : Report) (d : Diagnostic) : Prop where
  subject : Ordinary r.subject
  subjectEnd : ¬ Markup.EndsSingle r.subject.toList
  tag : Ordinary d.tag.shown
  tagFree : ¬ HoldsTag d.tag.shown.toList
  textual : d.fix = none → ∃ s, d.message = .text s
  worded : Ordinary (wording d)
  digits : exceedsDigits d.location.offset = false

/-- The place of a finding as it is shown. -/
def placeOf (w : Workspace) (r : Report) (d : Diagnostic) : String :=
  Position.placeShown (w.sourceText? r.source) d.location.offset

/-- The texts of a finding, the path still to be rendered. -/
def rowTexts (p : Printer) (w : Workspace) (r : Report) (d : Diagnostic) : Row :=
  ⟨p.escape r.subject, placeOf w r d, d.tag.shown, fixCell d, wording d⟩

/-- The cells of a finding, with the rendered wording. -/
def cells (w : Workspace) (f : Report × Diagnostic) (message : StyledText) : List StyledText :=
  [literalCell f.1.subject, literalCell (placeOf w f.1 f.2), literalCell f.2.tag.shown,
    literalCell (fixCell f.2), message]

theorem Presentable.messageCell_eq (h : Presentable r d) : messageCell d = .ok (wording d) := by
  rw [messageCell, Summary.wording]
  cases hfix : d.fix with
  | some f => rfl
  | none =>
    obtain ⟨s, hs⟩ := h.textual hfix
    rw [hs]
    rfl

/-- The path of the source is the one that is shown, or empty. -/
theorem Presentable.hasNull_source (h : Presentable r d) : r.source.any hasNull = false := by
  have hsubject := h.subject.noControl
  rw [Report.subject] at hsubject
  cases hsource : r.source with
  | none => rfl
  | some path =>
    -- an empty path holds no null character, and any other is the subject
    simp only [hsource] at hsubject
    split at hsubject
    · next hempty =>
      rw [String.isEmpty_iff.mp hempty]
      rfl
    · simp only [Option.any_some, hasNull, List.contains_eq_mem, decide_eq_false_iff_not]
      exact fun hmem => absurd (hsubject _ hmem).1 (by decide)

theorem Presentable.rowOf_eq (h : Presentable r d) (p : Printer) :
    rowOf p w r d = .ok (rowTexts p w r d) := by
  have hplace : w.placeIn r.source d.location.offset = .ok (placeOf w r d) := by
    rw [Workspace.placeIn, h.hasNull_source, h.digits]
    rfl
  rw [rowOf, hplace, h.messageCell_eq]
  rfl

/-! ## Section 3: The table -/

/-- The table of findings whose wordings were rendered. -/
def tableWith (w : Workspace) (reports : List Report) (messages : List StyledText) : Table where
  title := "[QML-ALIAS] C++ Object Binding Audit"
  headings := ["File", "Position", "Rule ID", "Fix?", "Message"]
  rows := List.zipWith (cells w) (findings reports) messages

theorem ordinary_fixCell (d : Diagnostic) : Ordinary (fixCell d) := by
  rw [fixCell]
  split
  · exact .of_evident (by decide +kernel)
  · exact .of_evident (by decide +kernel)

theorem not_holdsTag_fixCell (d : Diagnostic) : ¬ HoldsTag (fixCell d).toList := by
  rw [fixCell]
  split
  · decide
  · decide

/-- The rows of four literal columns and one of rendered cells. -/
theorem rowsOf_eq {α : Type} (a b c d : α → StyledText) (l : List α)
    (messages : List StyledText) :
    Printer.rowsOf [l.map a, l.map b, l.map c, l.map d, messages] =
      List.zipWith (fun x message => [a x, b x, c x, d x, message]) l messages := by
  simp only [Printer.rowsOf]
  induction l generalizing messages with
  | nil => rfl
  | cons x l ih =>
    cases messages with
    | nil => rfl
    | cons message messages => exact congrArg _ (ih messages)

/-- **The table** of findings of ordinary texts has the literal columns and the rendered wordings;
there is none if a wording cannot be rendered. -/
theorem tableOf_eq (hp : p.Faithful) (h : ∀ f ∈ findings reports, Presentable f.1 f.2) :
    tableOf p w reports = printed ((tableWith w reports) <$>
      (findings reports).mapM fun f => p.render (wording f.2)) := by
  obtain ⟨texts, htexts⟩ : ∃ texts, texts = (findings reports).map fun f => rowTexts p w f.1 f.2 :=
    ⟨_, rfl⟩
  have hrows : (findings reports).mapM (fun f => rowOf p w f.1 f.2) = .ok texts := by
    rw [htexts]
    exact Outcome.mapM_eq_map fun f hf => (h f hf).rowOf_eq p
  -- every column but the last can be rendered and shows its texts
  have hfile : (texts.map Row.file).mapM p.render =
      .ok ((findings reports).map fun f => literalCell f.1.subject) := by
    rw [htexts, List.map_map]
    exact Outcome.mapM_map_eq fun f hf => hp.render_escape (h f hf).subject (h f hf).subjectEnd
  have hposition : (texts.map Row.position).mapM p.render =
      .ok ((findings reports).map fun f => literalCell (placeOf w f.1 f.2)) := by
    rw [htexts, List.map_map]
    exact Outcome.mapM_map_eq fun f _ =>
      hp.render_plain (Position.ordinary_placeShown _ _) (Position.not_holdsTag_placeShown _ _)
  have hrule : (texts.map Row.rule).mapM p.render =
      .ok ((findings reports).map fun f => literalCell f.2.tag.shown) := by
    rw [htexts, List.map_map]
    exact Outcome.mapM_map_eq fun f hf => hp.render_plain (h f hf).tag (h f hf).tagFree
  have hfix : (texts.map Row.fix).mapM p.render =
      .ok ((findings reports).map fun f => literalCell (fixCell f.2)) := by
    rw [htexts, List.map_map]
    exact Outcome.mapM_map_eq fun f _ =>
      hp.render_plain (ordinary_fixCell f.2) (not_holdsTag_fixCell f.2)
  have hmessage : (texts.map Row.message).mapM p.render =
      (findings reports).mapM fun f => p.render (wording f.2) := by
    rw [htexts, List.map_map, List.mapM_map]
    rfl
  simp only [tableOf, hrows, Outcome.ok_bind, Printer.tableOf, List.mapM_cons, List.mapM_nil, hfile,
    hposition, hrule, hfix, hmessage]
  cases (findings reports).mapM fun f => p.render (wording f.2) with
  | error e => rfl
  | ok messages =>
    have hcells := rowsOf_eq (fun f => literalCell f.1.subject)
      (fun f => literalCell (placeOf w f.1 f.2)) (fun f => literalCell f.2.tag.shown)
      (fun f => literalCell (fixCell f.2)) (findings reports) messages
    exact congrArg (fun rows => Except.ok (Table.mk _ _ rows)) hcells

/-! ## Section 4: What is printed -/

/-- The cells of a finding, all of them as they are. -/
def literalRow (w : Workspace) (f : Report × Diagnostic) : List StyledText :=
  cells w f (literalCell (wording f.2))

/-- The table of findings that are shown as they are. -/
def literalTable (w : Workspace) (reports : List Report) : Table :=
  tableWith w reports ((findings reports).map fun f => literalCell (wording f.2))

/-- A row reads as the path and the wording of a finding, in whatever style. -/
def Literal (f : Report × Diagnostic) (row : List StyledText) : Prop :=
  ∃ file position rule fix message, row = [file, position, rule, fix, message] ∧
    file.text = f.1.subject.toList ∧ message.text = (wording f.2).toList

theorem total_eq_length (reports : List Report) : total reports = (findings reports).length := by
  rw [total, findings, List.length_flatMap]
  simp [List.sum]

theorem readable_eq (hsome : findings reports ≠ []) : readable p w reports = (do
    let t ← tableOf p w reports
    return (← printed (p.draw t)) ++ (← printed (p.print (footer reports)))) := by
  have htotal : total reports ≠ 0 := by
    rw [total_eq_length]
    exact fun hzero => hsome (List.length_eq_zero_iff.mp hzero)
  rw [readable, if_neg htotal]

/-- The line under the table can be printed. -/
theorem exists_footer (hp : p.Faithful) (reports : List Report) :
    ∃ text, p.print (footer reports) = .ok text := by
  have hline : bland (toString (total reports) ++ " diagnostic(s) in " ++ toString reports.length
      ++ " document(s).") = true :=
    bland_append (bland_append (bland_append (Position.bland_repr _) (by decide +kernel))
      (Position.bland_repr _))
      (by decide +kernel)
  exact hp.print_plain (.of_bland hline) (not_holdsTag_of_bland hline)

theorem rows_literalTable (w : Workspace) (reports : List Report) :
    (literalTable w reports).rows = (findings reports).map (literalRow w) := by
  rw [literalTable, tableWith, List.zipWith_map_right, List.zipWith_self]
  rfl

/-- Without tags in the wordings the table is the literal one. -/
theorem tableOf_of_not_holdsTag (hp : p.Faithful) (h : ∀ f ∈ findings reports, Presentable f.1 f.2)
    (htag : ∀ f ∈ findings reports, ¬ HoldsTag (wording f.2).toList) :
    tableOf p w reports = .ok (literalTable w reports) := by
  have hmessages : (findings reports).mapM (fun f => p.render (wording f.2)) =
      .ok ((findings reports).map fun f => literalCell (wording f.2)) :=
    Outcome.mapM_eq_map fun f hf => hp.render_plain (h f hf).worded (htag f hf)
  rw [tableOf_eq hp h, hmessages]
  rfl

theorem Presentable.single_literalRow {f : Report × Diagnostic} (h : Presentable f.1 f.2) :
    ∀ cell ∈ literalRow w f, Table.Single cell := by
  intro cell hcell
  simp only [literalRow, cells, List.mem_cons, List.not_mem_nil, or_false] at hcell
  rcases hcell with rfl | rfl | rfl | rfl | rfl
  · exact h.subject.single
  · exact (Position.ordinary_placeShown _ _).single
  · exact h.tag.single
  · exact (ordinary_fixCell f.2).single
  · exact h.worded.single

/-- A rendered wording makes a literal row exactly if it holds no tag. -/
theorem Presentable.literal_cells_iff {f : Report × Diagnostic} (h : Presentable f.1 f.2)
    (hp : p.Faithful) {message : StyledText} (hmessage : p.render (wording f.2) = .ok message) :
    Literal f (cells w f message) ↔ ¬ HoldsTag (wording f.2).toList := by
  rw [← hp.text_eq_iff h.worded hmessage]
  constructor
  · rintro ⟨_, _, _, _, _, hcells, -, htext⟩
    cases hcells
    exact htext
  · exact fun htext => ⟨_, _, _, _, _, rfl, rfl, htext⟩

/-- The rows of a table that can be rendered are literal but for those with a tag. -/
theorem forall₂_literal_iff (hp : p.Faithful) (h : ∀ f ∈ findings reports, Presentable f.1 f.2)
    {t : Table} (ht : tableOf p w reports = .ok t) :
    List.Forall₂ (fun f row => Literal f row ↔ ¬ HoldsTag (wording f.2).toList)
      (findings reports) t.rows := by
  rw [tableOf_eq hp h] at ht
  cases hmessages : (findings reports).mapM fun f => p.render (wording f.2) with
  | error e =>
    rw [hmessages] at ht
    cases ht
  | ok messages =>
    rw [hmessages] at ht
    cases ht
    -- each finding with what its wording was rendered to, in order
    have hall := (List.forall₂_and_left ..).mpr ⟨h, Outcome.forall₂_of_mapM hmessages⟩
    rw [tableWith]
    generalize findings reports = found at hall
    clear hmessages h
    induction hall with
    | nil => exact .nil
    | cons hhead _ ih => exact .cons (hhead.1.literal_cells_iff hp hhead.2) ih

/-- A wording that cannot be rendered leaves no table. -/
theorem exists_readable_error (hp : p.Faithful) (hsome : findings reports ≠ [])
    (h : ∀ f ∈ findings reports, Presentable f.1 f.2)
    (hlost : ∃ f ∈ findings reports, ∀ message, p.render (wording f.2) ≠ .ok message) :
    ∃ e, readable p w reports = .error (.markup e) := by
  obtain ⟨f, hf, hlost⟩ := hlost
  cases hmessages : (findings reports).mapM fun f => p.render (wording f.2) with
  | error e =>
    refine ⟨e, ?_⟩
    rw [readable_eq hsome, tableOf_eq hp h, hmessages]
    rfl
  | ok messages =>
    obtain ⟨message, hmessage⟩ := Outcome.exists_of_mem hmessages hf
    exact absurd hmessage (hlost message)

/-- The literal table is printed, with one line for each finding if it fits. -/
theorem draw_literalTable (hp : p.Faithful) (h : ∀ f ∈ findings reports, Presentable f.1 f.2) :
    (∃ text, p.draw (literalTable w reports) = .ok text) ∧
      ((literalTable w reports).Fits p.width → ∃ above lines below,
        p.draw (literalTable w reports) = .ok (above ++ String.join lines ++ below) ∧
          List.Forall₂ (fun f line => Table.PrintsRow "│" (literalRow w f) line)
            (findings reports) lines) := by
  have hrow : ∀ row ∈ (literalTable w reports).rows,
      row.length = 5 ∧ ∀ cell ∈ row, Table.Single cell := by
    intro row hrow
    rw [rows_literalTable] at hrow
    obtain ⟨f, hf, rfl⟩ := List.mem_map.mp hrow
    exact ⟨rfl, (h f hf).single_literalRow⟩
  have hheadings : ∀ cell ∈ (literalTable w reports).headingCells, Table.Single cell := by
    intro cell hcell
    obtain ⟨s, hs, rfl⟩ := List.mem_map.mp hcell
    have hbland : ∀ h ∈ (literalTable w reports).headings, evident h = true := by
      change ∀ h ∈ ["File", "Position", "Rule ID", "Fix?", "Message"], evident h = true
      decide +kernel
    exact (Ordinary.of_evident (hbland s hs)).single
  refine ⟨hp.draw_unstyled fun row hmem cell hcell => ((hrow row hmem).2 cell hcell).unstyled,
    fun hfits => ?_⟩
  obtain ⟨above, lines, below, hdraw, hlines⟩ := hp.draw_fitting hfits hheadings hrow
  rw [rows_literalTable, List.forall₂_map_left_iff] at hlines
  exact ⟨above, lines, below, hdraw, hlines⟩

/-- **What a reader is shown** of findings of ordinary texts, with any faithful printer.

If no wording holds a tag, the table is printed, and every cell of it reads as it is: in a width
that is enough for it there is one line for each finding, in order.  In any table there is one row
for each finding, and it reads as the path and the wording exactly if the wording holds no tag.  A
wording that cannot be rendered leaves the reader without a table. -/
theorem readable_shows (hp : p.Faithful) (hsome : findings reports ≠ [])
    (h : ∀ f ∈ findings reports, Presentable f.1 f.2) :
    ((∀ f ∈ findings reports, ¬ HoldsTag (wording f.2).toList) →
      tableOf p w reports = .ok (literalTable w reports) ∧
      (∃ text, readable p w reports = .ok text) ∧
      ((literalTable w reports).Fits p.width → ∃ above lines below,
        readable p w reports = .ok (above ++ String.join lines ++ below) ∧
          List.Forall₂ (fun f line => Table.PrintsRow "│" (literalRow w f) line)
            (findings reports) lines)) ∧
    (∀ t, tableOf p w reports = .ok t →
      List.Forall₂ (fun f row => Literal f row ↔ ¬ HoldsTag (wording f.2).toList)
        (findings reports) t.rows) ∧
    ((∃ f ∈ findings reports, ∀ message, p.render (wording f.2) ≠ .ok message) →
      ∃ e, readable p w reports = .error (.markup e)) := by
  refine ⟨fun htag => ?_, fun t ht => forall₂_literal_iff hp h ht,
    exists_readable_error hp hsome h⟩
  have htable := tableOf_of_not_holdsTag (w := w) hp h htag
  obtain ⟨below', hfooter⟩ := exists_footer hp reports
  have hprint : ∀ text, p.draw (literalTable w reports) = .ok text →
      readable p w reports = .ok (text ++ below') := by
    intro text htext
    rw [readable_eq hsome, htable, Outcome.ok_bind, htext, hfooter]
    rfl
  obtain ⟨⟨text, htext⟩, hprinted⟩ := draw_literalTable (w := w) hp h
  refine ⟨htable, ⟨_, hprint text htext⟩, fun hfits => ?_⟩
  obtain ⟨above, lines, below, hdraw, hlines⟩ := hprinted hfits
  exact ⟨above, lines, below ++ below', by rw [hprint _ hdraw, String.append_assoc], hlines⟩

/-- A report of one finding. -/
def reportOf (model message : String) (fix : Option Fix) : Report where
  model
  source := none
  diagnostics := [{ message := .text message, tag := Rule.tag, location := ⟨0, 1⟩, fix }]

/-- Findings whose texts hold brackets; those in the paths are tags, and escaped. -/
def bracketed : List Report := [
  reportOf "[b]/A.json" "Use [0]" none,
  { reportOf "B.json" "[/]" (some ⟨.null, Rule.tag, [], "Use [A]"⟩) with
    source := some "[/]/B.qml" }]

theorem presentable_bracketed : ∀ f ∈ findings bracketed, Presentable f.1 f.2 := by
  intro f hf
  rcases hf with _ | ⟨_, _ | ⟨_, ⟨⟩⟩⟩
  all_goals exact {
    subject := .of_evident (by decide +kernel)
    subjectEnd := by decide
    tag := .of_evident (by decide +kernel)
    tagFree := by decide
    textual := fun _ => ⟨_, rfl⟩
    worded := .of_evident (by decide +kernel)
    digits := by decide +kernel }

/-- They are shown in the usual width. -/
theorem readable_bracketed :
    (Printer.console 80).Faithful ∧ findings bracketed ≠ [] ∧
      (∀ f ∈ findings bracketed, Presentable f.1 f.2) ∧
      (∀ f ∈ findings bracketed, ¬ HoldsTag (wording f.2).toList) ∧
      (literalTable { base := "/w" } bracketed).Fits 80 ∧
      ∃ above lines below, readable (.console 80) { base := "/w" } bracketed =
          .ok (above ++ String.join lines ++ below) ∧
        List.Forall₂ (fun f line => Table.PrintsRow "│" (literalRow { base := "/w" } f) line)
          (findings bracketed) lines := by
  have hsome : findings bracketed ≠ [] := by decide
  have htag : ∀ f ∈ findings bracketed, ¬ HoldsTag (wording f.2).toList := by decide
  have hfits : (literalTable { base := "/w" } bracketed).Fits 80 := by decide +kernel
  obtain ⟨-, -, hprinted⟩ :=
    (readable_shows (Printer.faithful_console 80) hsome presentable_bracketed).1 htag
  exact ⟨Printer.faithful_console 80, hsome, presentable_bracketed, htag, hfits, hprinted hfits⟩

/-- **Wordings are not escaped.**  A closing tag in a message leaves the reader without the table,
and an index in brackets that is the letter of a style is lost from a message. -/
theorem readable_unescaped :
    Ordinary "[/]" ∧ Ordinary "Use list[i] here" ∧
      readable (.console 80) { base := "/w" } [reportOf "a.qml.yaml" "[/]" none] =
        .error (.markup (.nothingToClose 0)) ∧
      (fun t => t.rows.map (List.map fun cell => String.ofList cell.text)) <$>
          tableOf (.console 80) { base := "/w" } [reportOf "a.qml.yaml" "Use list[i] here" none] =
        .ok [["a.qml.yaml", "@0", "D03(cpp-binding-anti-pattern)", "⚠️ Manual",
          "Use list here"]] :=
  ⟨.of_evident (by decide +kernel), .of_evident (by decide +kernel), by decide +kernel,
    by decide +kernel⟩

end Summary

end BindingAudit
