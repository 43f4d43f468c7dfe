import BindingAudit.Audit
import BindingAudit.Proofs.Outcome
import BindingAudit.Summary

/-!
# What a summary can print

The summary for programs is a JSON document.  Of the values it consists of only an integer has no
JSON text, and only if it has too many digits (`Json.Printable.exists_write`).  So the summary is
printed if the messages are texts, as those of a rule with a text for a message are
(`Audit.textual_findings`), and the places can be put in words (`Summary.exists_json`).
-/

namespace BindingAudit

/-! ## Section 1: JSON -/

namespace Json

/-- Values of the kinds a report consists of, with integers that can be shown. -/
inductive Printable : Data → Prop
  | null : Printable .null
  | int {i : Int} (h : exceedsDigits i = false) : Printable (.int i)
  | text (s : String) : Printable (.text s)
  | list {items : List Data} (h : ∀ d ∈ items, Printable d) : Printable (.list items)
  | record {fields : List (String × Data)} (h : ∀ f ∈ fields, Printable f.2) :
      Printable (.record fields)

variable {l : Layout} {depth : Nat}

theorem writeItems_eq_mapM (items : List Data) :
    writeItems l depth items = items.mapM (write l depth) := by
  induction items with
  | nil => rw [writeItems, List.mapM_nil]; rfl
  | cons d rest ih => rw [writeItems, List.mapM_cons, ih]

theorem exists_writeEntries {fields : List (String × Data)}
    (h : ∀ f ∈ fields, ∃ text, write l depth f.2 = .ok text) :
    ∃ texts, writeEntries l depth (fields.map fun f => (.text f.1, f.2)) = .ok texts := by
  induction fields with
  | nil => exact ⟨[], by rw [List.map_nil, writeEntries]⟩
  | cons f rest ih =>
    rw [List.forall_mem_cons] at h
    obtain ⟨text, htext⟩ := h.1
    obtain ⟨texts, htexts⟩ := ih h.2
    rw [List.map_cons, writeEntries, htext, htexts]
    exact ⟨_, rfl⟩

/-- **Printable values have a JSON text**, in every layout and at every depth. -/
theorem Printable.exists_write {d : Data} (h : Printable d) (l : Layout) (depth : Nat) :
    ∃ text, write l depth d = .ok text := by
  -- the depth is general, for the members of a collection stand one deeper
  induction h generalizing depth with
  | null => exact ⟨_, by rw [write, scalar]⟩
  | int h => exact ⟨_, by rw [write, scalar, h, if_neg Bool.false_ne_true]⟩
  | text s => exact ⟨_, by rw [write, scalar]⟩
  | list _ ih =>
    obtain ⟨texts, htexts⟩ := Outcome.exists_mapM fun d hd => ih d hd (depth + 1)
    rw [write, writeItems_eq_mapM, htexts]
    exact ⟨_, rfl⟩
  | record _ ih =>
    obtain ⟨texts, htexts⟩ := exists_writeEntries fun f hf => ih f hf (depth + 1)
    rw [Data.record, write, htexts]
    exact ⟨_, rfl⟩

end Json

/-! ## Section 2: Messages -/

/-- The messages of a finding are texts. -/
def Diagnostic.Textual (d : Diagnostic) : Prop :=
  (∃ s, d.message = .text s) ∧ ∀ f, d.fix = some f → ∃ s, f.message = .text s

/-- A finding and its fix have the message of the rule. -/
theorem Rule.textual_diagnose {rule : Rule} {t : ElementTree} {i : Nat} {b : Binding}
    {d : Diagnostic} {s : String} (hmessage : rule.message = .text s)
    (h : rule.diagnose t i b = .ok (some d)) : d.Textual := by
  unfold diagnose at h
  split at h
  · cases h
  · split at h
    · obtain ⟨fix, hfix, h⟩ := Outcome.bind_eq_ok_iff.mp h
      cases h
      refine ⟨⟨s, hmessage⟩, ?_⟩
      rintro f rfl
      unfold Rule.fix at hfix
      split at hfix
      · cases hfix
      · obtain ⟨hint, -, hfix⟩ := Outcome.bind_eq_ok_iff.mp hfix
        cases hfix
        exact ⟨s, hmessage⟩
    · cases h

theorem Audit.textual_findings {rules : List Rule} {t : ElementTree} {found : List Diagnostic}
    (hmessage : ∀ rule ∈ rules, ∃ s, rule.message = .text s)
    (h : findings rules t = .ok found) : ∀ d ∈ found, d.Textual := by
  obtain ⟨parts, hparts, rfl⟩ := Outcome.map_eq_ok_iff.mp h
  intro d hd
  -- a finding is from a binding that a rule of the list was asked about
  obtain ⟨part, hpart, hd⟩ := List.mem_flatten.mp hd
  obtain ⟨v, hv, hinspect⟩ := Outcome.exists_of_mem_mapM hparts hpart
  obtain ⟨b, -, hdiagnose⟩ := Outcome.exists_of_mem_filterMapM hinspect hd
  simp only [visits, List.mem_flatMap, List.mem_map] at hv
  obtain ⟨i, -, rule, hrule, rfl⟩ := hv
  obtain ⟨s, hs⟩ := hmessage rule hrule
  exact Rule.textual_diagnose hs hdiagnose

/-! ## Section 3: Reports -/

/-- The numbers of a span can be put in words. -/
def Span.Showable (s : Span) : Prop :=
  exceedsDigits s.offset = false ∧ exceedsDigits s.length = false

/-- The places that a report tells can be put in words. -/
structure Report.Showable (r : Report) : Prop where
  locations : ∀ d ∈ r.diagnostics, d.location.Showable
  edits : ∀ f ∈ r.fixes, ∀ e ∈ f.edits, e.span.Showable

open Json (Printable)

theorem Edit.printable {e : Edit} (h : e.span.Showable) : Printable e.toData := by
  refine .record fun f hf => ?_
  rcases List.mem_append.mp hf with hf | hf
  · simp only [List.mem_cons, List.not_mem_nil, or_false] at hf
    rcases hf with rfl | rfl | rfl | rfl
    · exact .text _
    · exact .int h.1
    · exact .int h.2
    · exact .text _
  · obtain ⟨x, -, rfl⟩ := Option.map_eq_some_iff.mp (Option.mem_toList.mp hf)
    exact .text x

theorem Fix.printable {f : Fix} {s : String} (hmessage : f.message = .text s)
    (h : ∀ e ∈ f.edits, e.span.Showable) : Printable f.toData := by
  refine .record fun field hfield => ?_
  simp only [List.mem_cons, List.not_mem_nil, or_false] at hfield
  rcases hfield with rfl | rfl | rfl | rfl
  · exact hmessage ▸ .text s
  · exact .text _
  · exact .text _
  · refine .list fun d hd => ?_
    obtain ⟨e, he, rfl⟩ := List.mem_map.mp hd
    exact Edit.printable (h e he)

theorem Diagnostic.printable {d : Diagnostic} (hmessage : d.Textual)
    (hlocation : d.location.Showable)
    (hfix : ∀ f, d.fix = some f → ∀ e ∈ f.edits, e.span.Showable) : Printable d.toData := by
  obtain ⟨⟨s, hs⟩, hmessages⟩ := hmessage
  refine .record fun field hfield => ?_
  simp only [List.mem_cons, List.not_mem_nil, or_false] at hfield
  rcases hfield with rfl | rfl | rfl | rfl | rfl
  · exact .text _
  · exact .text _
  · exact hs ▸ .text s
  · refine .record fun number hnumber => ?_
    rcases List.mem_pair.mp hnumber with rfl | rfl
    · exact .int hlocation.1
    · exact .int hlocation.2
  · cases hf : d.fix with
    | none => exact .null
    | some f =>
      obtain ⟨s, hs⟩ := hmessages f hf
      exact Fix.printable hs (hfix f hf)

theorem Report.printable {r : Report} (hmessages : ∀ d ∈ r.diagnostics, d.Textual)
    (h : r.Showable) : Printable r.toData := by
  refine .record fun field hfield => ?_
  simp only [List.mem_cons, List.not_mem_nil, or_false] at hfield
  rcases hfield with rfl | rfl | rfl
  · exact .text _
  · cases r.source with
    | none => exact .null
    | some path => exact .text path
  · refine .list fun data hdata => ?_
    obtain ⟨d, hd, rfl⟩ := List.mem_map.mp hdata
    refine Diagnostic.printable (hmessages d hd) (h.locations d hd) fun f hf => ?_
    exact h.edits f (List.mem_filterMap.mpr ⟨d, hd, hf⟩)

/-- **A summary for programs** is printed if its messages are texts and the places and the number of
findings can be put in words. -/
theorem Summary.exists_json {reports : List Report}
    (hmessages : ∀ r ∈ reports, ∀ d ∈ r.diagnostics, d.Textual)
    (hplaces : ∀ r ∈ reports, r.Showable) (htotal : exceedsDigits (total reports) = false) :
    ∃ text, json reports = .ok text := by
  have hprintable : Printable (toData reports) := by
    refine .record fun field hfield => ?_
    rcases List.mem_pair.mp hfield with rfl | rfl
    · refine .list fun data hdata => ?_
      obtain ⟨r, hr, rfl⟩ := List.mem_map.mp hdata
      exact Report.printable (hmessages r hr) (hplaces r hr)
    · exact .int htotal
  obtain ⟨text, htext⟩ := hprintable.exists_write .indented 0
  refine ⟨text ++ "\n", ?_⟩
  rw [json, Json.print, htext]

end BindingAudit
