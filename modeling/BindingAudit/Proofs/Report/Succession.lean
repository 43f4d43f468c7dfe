import BindingAudit.Proofs.Edit.Succession
import BindingAudit.Proofs.Report.Repair
import BindingAudit.Proofs.Rule.Applicability

/-!
# Two reports on one source

Two models can describe one source.  Their reports are made before any of them is applied, and both
count their places in the text as it was then; but the second is applied to the text that the first
one left.

Either the edits of the second report or the writing of their text is refused, and the source is as
the first one left it; or its edits are made in that text.  The outcome is that of both reports
merged into one where the edits of the second are `Undisturbed` by those of the first.  It need not
be so otherwise: a replacement is checked against the text, but a declaration goes wherever its
offset falls, be it into the middle of a name (`repair_moved_declaration`).
-/

namespace BindingAudit

/-! ## Section 1: The edits of merged reports -/

namespace Report

/-- Dropping repeated insertions loses no edit but those seen before. -/
theorem mem_dropRepeated {seen edits : List Edit} {e : Edit} :
    e ∈ dropRepeated seen edits ↔ e ∈ edits ∧ ¬ (e.kind = .insertion ∧ e ∈ seen) := by
  fun_induction dropRepeated seen edits with
  | case1 => simp
  | case2 seen f rest hkind hseen ih =>
    rw [ih, List.mem_cons]
    grind
  | case3 seen f rest hkind hseen ih =>
    rw [List.mem_cons, ih, List.mem_cons, List.mem_cons]
    grind
  | case4 seen f rest hkind ih =>
    rw [List.mem_cons, ih, List.mem_cons]
    grind

/-- All that counts of what was seen is which of the edits are among it. -/
theorem dropRepeated_congr {seen seen' edits : List Edit} (h : ∀ e ∈ edits, e ∈ seen' ↔ e ∈ seen) :
    dropRepeated seen' edits = dropRepeated seen edits := by
  fun_induction dropRepeated seen edits generalizing seen' with
  | case1 => rfl
  | case2 seen e rest hkind hseen ih =>
    rw [dropRepeated, if_pos hkind, if_pos ((h e (List.mem_cons_self ..)).mpr hseen)]
    exact ih fun f hf => h f (List.mem_cons_of_mem _ hf)
  | case3 seen e rest hkind hseen ih =>
    have hseen' : e ∉ seen' := fun he => hseen ((h e (List.mem_cons_self ..)).mp he)
    rw [dropRepeated, if_pos hkind, if_neg hseen']
    rw [ih fun f hf => by simp [h f (List.mem_cons_of_mem _ hf)]]
  | case4 seen e rest hkind ih =>
    rw [dropRepeated, if_neg hkind, ih fun f hf => h f (List.mem_cons_of_mem _ hf)]

/-- Two lists without a common edit keep theirs when they are joined. -/
theorem dropRepeated_append {seen edits others : List Edit} (h : ∀ e ∈ others, e ∉ edits) :
    dropRepeated seen (edits ++ others) = dropRepeated seen edits ++ dropRepeated seen others := by
  fun_induction dropRepeated seen edits with
  | case1 => rfl
  | case2 seen e rest hkind hseen ih =>
    rw [List.cons_append, dropRepeated, if_pos hkind, if_pos hseen,
      ih fun f hf hfr => h f hf (List.mem_cons_of_mem _ hfr)]
  | case3 seen e rest hkind hseen ih =>
    -- that `e` has been seen makes no difference to the others, as it is none of them
    have hothers : dropRepeated (e :: seen) others = dropRepeated seen others := by
      refine dropRepeated_congr fun f hf => ?_
      have hne : f ≠ e := fun heq => h f hf (heq ▸ List.mem_cons_self ..)
      simp [hne]
    rw [List.cons_append, dropRepeated, if_pos hkind, if_neg hseen,
      ih fun f hf hfr => h f hf (List.mem_cons_of_mem _ hfr), hothers, List.cons_append]
  | case4 seen e rest hkind ih =>
    rw [List.cons_append, dropRepeated, if_neg hkind,
      ih fun f hf hfr => h f hf (List.mem_cons_of_mem _ hfr), List.cons_append]

example : dropRepeated [] [.insertion 5 "1", .insertion 7 "1", .insertion 5 "1"] =
    [.insertion 5 "1", .insertion 7 "1"] := by decide +kernel

/-- **The edits of merged reports** without a common edit are those of the one and then those of the
other. -/
theorem edits_append {model model₁ model₂ : String} {source source₁ source₂ : Option String}
    {found₁ found₂ : List Diagnostic}
    (h : ∀ e ∈ edits ⟨model₂, source₂, found₂⟩, e ∉ edits ⟨model₁, source₁, found₁⟩) :
    edits ⟨model, source, found₁ ++ found₂⟩ =
      edits ⟨model₁, source₁, found₁⟩ ++ edits ⟨model₂, source₂, found₂⟩ := by
  simp only [edits, mem_dropRepeated, List.not_mem_nil, and_false, not_false_eq_true,
    and_true] at h
  simp only [edits, fixes, List.filterMap_append, List.flatMap_append]
  exact dropRepeated_append h

end Report

/-! ## Section 2: Two repairs of one source -/

/-- **A second report on a source**: read two models of one source, run rules on their trees, and
suppose that the report on the first is applied.  Then the source holds the text with the edits of
this report.  Either the second report is refused, with a fault that can be put in words unless a
place of its edits cannot, and nothing is written; or its edits can be applied to the text that the
first one left, and the source ends up with the outcome unless the system refuses to write it.  If
the edits of the second were not disturbed by those of the first, the outcome is the original text
with the edits of both reports merged. -/
theorem repair_second_report {d₁ d₂ : Document} {root₁ root₂ : Nat} {t₁ t₂ : ElementTree}
    {rule₁ rule₂ : Rule} {found₁ found₂ : List Diagnostic} {a₁ a₂ : Audit}
    {model₁ model₂ path text : String} {w : Workspace} {first : Repair}
    (ht₁ : Model.buildTree d₁ root₁ = .ok t₁) (ht₂ : Model.buildTree d₂ root₂ = .ok t₂)
    (hrun₁ : (({} : Audit).register rule₁).run t₁ = .ok (found₁, a₁))
    (hrun₂ : (({} : Audit).register rule₂).run t₂ = .ok (found₂, a₂))
    (hread : w.readText path = .ok text)
    (hfirst : Repair.run w ⟨model₁, some path, found₁⟩ false = .ok first) :
    ∃ middle, Edit.apply text (Report.edits ⟨model₁, some path, found₁⟩) = .ok middle ∧
      first.workspace.readText path = .ok middle ∧
      ((∃ fault, Repair.run first.workspace ⟨model₂, some path, found₂⟩ false =
          .error (.edit fault) ∧
        (fault.exceeds = true → ∃ e ∈ Report.edits ⟨model₂, some path, found₂⟩,
          exceedsDigits e.span.offset = true ∨ exceedsDigits e.span.length = true)) ∨
      ∃ final, Edit.apply middle (Report.edits ⟨model₂, some path, found₂⟩) = .ok final ∧
        (Edit.Undisturbed (Report.edits ⟨model₁, some path, found₁⟩)
            (Report.edits ⟨model₂, some path, found₂⟩) →
          Edit.apply text (Report.edits ⟨model₁, some path, found₁ ++ found₂⟩) = .ok final) ∧
        ((∃ error, first.workspace.writeText path final = .error error ∧
            Repair.run first.workspace ⟨model₂, some path, found₂⟩ false =
              .error (.access error)) ∨
          ∃ second, Repair.run first.workspace ⟨model₂, some path, found₂⟩ false = .ok second ∧
            second.workspace.readText path = .ok final)) := by
  have hl₁ := Model.buildTree_loaded ht₁
  have hl₂ := Model.buildTree_loaded ht₂
  rcases Repair.run_of_readText (r := ⟨model₁, some path, found₁⟩) rfl hread with
    ⟨fault, -, hfault⟩ | ⟨middle, happly₁, ⟨error, -, herror⟩ | ⟨done, hdone, hmiddle⟩⟩
  · rw [hfault] at hfirst
    cases hfirst
  · rw [herror] at hfirst
    cases hfirst
  · obtain rfl : done = first := Except.ok.inj (hdone.symm.trans hfirst)
    refine ⟨middle, happly₁, hmiddle, ?_⟩
    rcases Repair.run_of_readText (r := ⟨model₂, some path, found₂⟩) rfl hmiddle with
      ⟨fault, happly₂, hfault⟩ | ⟨final, happly₂, hsecond⟩
    · exact Or.inl ⟨fault, hfault,
        Edit.exists_long_of_exceeds (Edit.apply_eq_error_iff.mp happly₂)⟩
    · refine Or.inr ⟨final, happly₂, fun hundisturbed => ?_, hsecond⟩
      have happ₁ := (Edit.applyToChars_eq_ok_iff.mp (Edit.apply_eq_ok_iff.mp happly₁)).1
      have happ₂ := (Edit.applyToChars_eq_ok_iff.mp (Edit.apply_eq_ok_iff.mp happly₂)).1
      rw [Report.edits_append hundisturbed.fresh]
      exact Edit.apply_append_of_undisturbed (Rule.proper_edits hl₁ hrun₁ happ₁)
        (Rule.proper_edits hl₂ hrun₂ happ₂) happly₁ happly₂ hundisturbed

/-- The model of a timer `t` that reads from itself. -/
def Document.selfReading (root : Span) (expression : String) (binding : Span) : Document :=
  .ofData (.record [("type", .text "I"), ("span", .list [.int root.offset, .int root.length]),
    ("children", .list [.record [("type", .text "Q"), ("id", .text "t"),
      ("span", .list [.int root.offset, .int root.length]), ("bindings", .list [
        .record [("property", .text "x"), ("expression", .text expression),
          ("span", .list [.int binding.offset, .int binding.length])]])]])])

/-- The tree of that model. -/
def ElementTree.selfReading (root : Span) (expression : String) (binding : Span) : ElementTree :=
  ⟨#[{ typeName := "I", span := root, children := [1] },
    { typeName := "Q", span := root, id := some "t", parent := some 0,
      bindings := [⟨"x", expression, binding, 1⟩] }], Nat.zero_lt_two⟩

/-- A workspace with one source. -/
def Workspace.ofSource (text : String) : Workspace where
  base := "/w"
  stored := [(["A"], .file (Text.Utf8.encode text.toList))]

/-- Two models of two roots in one source, and the one behind is dealt with first: its edits do not
disturb those of the other. -/
theorem repair_second_report_in_front :
    ∃ t₁ t₂ found₁ a₁ found₂ a₂ first second final,
      Model.buildTree (.selfReading ⟨8, 8⟩ "t.b" ⟨12, 3⟩)
        (Document.selfReading ⟨8, 8⟩ "t.b" ⟨12, 3⟩).top = .ok t₁ ∧
      Model.buildTree (.selfReading ⟨0, 8⟩ "t.a" ⟨4, 3⟩)
        (Document.selfReading ⟨0, 8⟩ "t.a" ⟨4, 3⟩).top = .ok t₂ ∧
      (({} : Audit).register .standard).run t₁ = .ok (found₁, a₁) ∧
      (({} : Audit).register .standard).run t₂ = .ok (found₂, a₂) ∧
      Repair.run (.ofSource "I(Q t.a)J(Q t.b)") ⟨"", some "A", found₁⟩ false = .ok first ∧
      Repair.run first.workspace ⟨"", some "A", found₂⟩ false = .ok second ∧
      second.workspace.readText "A" = .ok final ∧
      Edit.apply "I(Q t.a)J(Q t.b)" (Report.edits ⟨"", some "A", found₁ ++ found₂⟩) = .ok final ∧
      final = "I(Q als_t_a\n    property alias als_t_a: t.a)" ++
        "J(Q als_t_b\n    property alias als_t_b: t.b)" := by
  have ht₁ : Model.buildTree (.selfReading ⟨8, 8⟩ "t.b" ⟨12, 3⟩)
      (Document.selfReading ⟨8, 8⟩ "t.b" ⟨12, 3⟩).top =
        .ok (.selfReading ⟨8, 8⟩ "t.b" ⟨12, 3⟩) := by decide +kernel
  have ht₂ : Model.buildTree (.selfReading ⟨0, 8⟩ "t.a" ⟨4, 3⟩)
      (Document.selfReading ⟨0, 8⟩ "t.a" ⟨4, 3⟩).top =
        .ok (.selfReading ⟨0, 8⟩ "t.a" ⟨4, 3⟩) := by decide +kernel
  have hread : (Workspace.ofSource "I(Q t.a)J(Q t.b)").readText "A" = .ok "I(Q t.a)J(Q t.b)" := by
    decide +kernel
  have hall : ((({} : Audit).register .standard).run (.selfReading ⟨8, 8⟩ "t.b" ⟨12, 3⟩) >>=
      fun p₁ => (fun p₂ => (decide (Edit.Undisturbed (Report.edits ⟨"", some "A", p₁.1⟩)
          (Report.edits ⟨"", some "A", p₂.1⟩)),
        (fun second => second.workspace.readText "A") <$>
          (Repair.run (.ofSource "I(Q t.a)J(Q t.b)") ⟨"", some "A", p₁.1⟩ false >>= fun first =>
            Repair.run first.workspace ⟨"", some "A", p₂.1⟩ false))) <$>
      (({} : Audit).register .standard).run (.selfReading ⟨0, 8⟩ "t.a" ⟨4, 3⟩)) =
        .ok (true, .ok (.ok ("I(Q als_t_a\n    property alias als_t_a: t.a)" ++
          "J(Q als_t_b\n    property alias als_t_b: t.b)"))) := by decide +kernel
  obtain ⟨⟨found₁, a₁⟩, hrun₁, hall⟩ := Outcome.bind_eq_ok_iff.mp hall
  obtain ⟨⟨found₂, a₂⟩, hrun₂, hall⟩ := Outcome.map_eq_ok_iff.mp hall
  obtain ⟨hundisturbed, hrepairs⟩ := Prod.mk.inj hall
  obtain ⟨second, hrepairs, hfinal⟩ := Outcome.map_eq_ok_iff.mp hrepairs
  obtain ⟨first, hfirst, hsecond⟩ := Outcome.bind_eq_ok_iff.mp hrepairs
  obtain ⟨middle, -, -, ⟨fault, hfault, -⟩ | ⟨final, -, hmerged,
      ⟨error, -, herror⟩ | ⟨second', hsecond', hfinal'⟩⟩⟩ :=
    @repair_second_report _ _ _ _ _ _ _ _ _ _ _ _ "" "" _ _ _ _ ht₁ ht₂ hrun₁ hrun₂ hread hfirst
  · rw [hfault] at hsecond
    cases hsecond
  · rw [herror] at hsecond
    cases hsecond
  · obtain rfl : second = second' := Except.ok.inj (hsecond.symm.trans hsecond')
    exact ⟨_, _, found₁, a₁, found₂, a₂, first, second, final, ht₁, ht₂, hrun₁, hrun₂, hfirst,
      hsecond, hfinal', hmerged (of_decide_eq_true hundisturbed),
      (Except.ok.inj (hfinal.symm.trans hfinal')).symm⟩

/-- Two models of one root, and the read in front is dealt with last: its replacement is in place,
but its declaration goes into the middle of the other alias. -/
theorem repair_moved_declaration :
    ∃ t₁ t₂ found₁ a₁ found₂ a₂ first second final merged,
      Model.buildTree (.selfReading ⟨0, 12⟩ "t.b" ⟨8, 3⟩)
        (Document.selfReading ⟨0, 12⟩ "t.b" ⟨8, 3⟩).top = .ok t₁ ∧
      Model.buildTree (.selfReading ⟨0, 12⟩ "t.a" ⟨4, 3⟩)
        (Document.selfReading ⟨0, 12⟩ "t.a" ⟨4, 3⟩).top = .ok t₂ ∧
      (({} : Audit).register .standard).run t₁ = .ok (found₁, a₁) ∧
      (({} : Audit).register .standard).run t₂ = .ok (found₂, a₂) ∧
      Repair.run (.ofSource "I(Q t.a t.b)") ⟨"", some "A", found₁⟩ false = .ok first ∧
      Repair.run first.workspace ⟨"", some "A", found₂⟩ false = .ok second ∧
      second.workspace.readText "A" = .ok final ∧
      Edit.apply "I(Q t.a t.b)" (Report.edits ⟨"", some "A", found₁ ++ found₂⟩) = .ok merged ∧
      final ≠ merged ∧
      final = "I(Q als_t_a als\n    property alias als_t_a: t.a" ++
        "_t_b\n    property alias als_t_b: t.b)" := by
  have ht₁ : Model.buildTree (.selfReading ⟨0, 12⟩ "t.b" ⟨8, 3⟩)
      (Document.selfReading ⟨0, 12⟩ "t.b" ⟨8, 3⟩).top =
        .ok (.selfReading ⟨0, 12⟩ "t.b" ⟨8, 3⟩) := by decide +kernel
  have ht₂ : Model.buildTree (.selfReading ⟨0, 12⟩ "t.a" ⟨4, 3⟩)
      (Document.selfReading ⟨0, 12⟩ "t.a" ⟨4, 3⟩).top =
        .ok (.selfReading ⟨0, 12⟩ "t.a" ⟨4, 3⟩) := by decide +kernel
  have hall : ((({} : Audit).register .standard).run (.selfReading ⟨0, 12⟩ "t.b" ⟨8, 3⟩) >>=
      fun p₁ => (fun p₂ => (Edit.apply "I(Q t.a t.b)" (Report.edits ⟨"", some "A", p₁.1 ++ p₂.1⟩),
        (fun second => second.workspace.readText "A") <$>
          (Repair.run (.ofSource "I(Q t.a t.b)") ⟨"", some "A", p₁.1⟩ false >>= fun first =>
            Repair.run first.workspace ⟨"", some "A", p₂.1⟩ false))) <$>
      (({} : Audit).register .standard).run (.selfReading ⟨0, 12⟩ "t.a" ⟨4, 3⟩)) =
        .ok (.ok ("I(Q als_t_a als_t_b\n    property alias als_t_b: t.b" ++
            "\n    property alias als_t_a: t.a)"),
          .ok (.ok ("I(Q als_t_a als\n    property alias als_t_a: t.a" ++
            "_t_b\n    property alias als_t_b: t.b)"))) := by decide +kernel
  obtain ⟨⟨found₁, a₁⟩, hrun₁, hall⟩ := Outcome.bind_eq_ok_iff.mp hall
  obtain ⟨⟨found₂, a₂⟩, hrun₂, hall⟩ := Outcome.map_eq_ok_iff.mp hall
  obtain ⟨hmerged, hrepairs⟩ := Prod.mk.inj hall
  obtain ⟨second, hrepairs, hfinal⟩ := Outcome.map_eq_ok_iff.mp hrepairs
  obtain ⟨first, hfirst, hsecond⟩ := Outcome.bind_eq_ok_iff.mp hrepairs
  exact ⟨_, _, found₁, a₁, found₂, a₂, first, second, _, _, ht₁, ht₂, hrun₁, hrun₂, hfirst, hsecond,
    hfinal, hmerged, by decide +kernel, rfl⟩

end BindingAudit
