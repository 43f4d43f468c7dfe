import BindingAudit.Proofs.Report.Repair
import BindingAudit.Proofs.Rule.Applicability

/-!
# Applying a report twice

A report refers to the text before its fixes.  Applied to the text after them it fails: the
replacement that comes first in the text has nothing changed in front of it, so where it expects the
expression of its binding the changed text starts with the alias.

## Architecture

1. A window on the changed text (`Reference.Reads.trim_window_ne`): as long as the alias is made of
   word characters, no stretch of text that starts with it reads like the expression, however long
   the stretch and whatever follows the alias.
2. The first replacement (`Rule.exists_first_replaced`): the changed text starts with the original
   up to a fixable site, and goes on with the alias of that site.
3. From the text to the file: a second repair fails, and the file is as the first one left it.
-/

namespace BindingAudit

/-! ## Section 1: A window on an alias -/

namespace Reference.Reads

/-- A stretch of text that starts with a word longer than the object of a reference does not read
like an expression with that reference: the word goes on where the object has come to its end. -/
theorem trim_window_ne {expression lead before after remainder : List Char} {r : Reference}
    (h : Reads expression r lead before after remainder) {word : List Char}
    (hword : ∀ c ∈ word, Text.isWordChar c = true) (hlen : r.object.toList.length < word.length)
    (following : List Char) {size : Nat} (hsize : 0 < size) :
    Text.trim ((word ++ following).take size) ≠ Text.trim expression := by
  intro heq
  -- the part of the word in the window is not touched by trimming
  have hpart : ∀ c ∈ word.take size, Text.isWordChar c = true :=
    fun c hc => hword c (List.mem_of_mem_take hc)
  have hne : word.take size ≠ [] := by
    intro hnil
    have := congrArg List.length hnil
    rw [List.length_take, List.length_nil] at this
    omega
  rw [List.take_append, Text.trim_append_of_not_blank hne
    fun c hc => isBlank_of_isWordChar (hpart c hc), h.trim_eq] at heq
  -- behind the object the expression has a blank or a point, which is in no word
  obtain ⟨c, cs, hc, hcWord⟩ : ∃ c cs, before ++ '.' :: (after ++ (r.property.toList ++
      Text.trimEnd remainder)) = c :: cs ∧ Text.isWordChar c = false := by
    cases before with
    | nil => exact ⟨'.', _, rfl, by decide⟩
    | cons c cs =>
      refine ⟨c, _, rfl, ?_⟩
      by_contra hcWord
      have hblank := h.before_blank c (List.mem_cons_self ..)
      rw [isBlank_of_isWordChar (by simpa using hcWord)] at hblank
      cases hblank
  rw [hc] at heq
  -- a window that ends within the object ends within the word as well, so nothing follows
  have hshort : (word.take size).length ≤ r.object.toList.length →
      Text.trimEnd (following.take (size - word.length)) = [] := by
    intro hle
    rw [List.length_take] at hle
    rw [show size - word.length = 0 by omega, List.take_zero]
    rfl
  rcases List.append_eq_append_iff.mp heq with ⟨m, hobject, hrest⟩ | ⟨m, htake, hrest⟩
  · have hnil := hshort (by rw [hobject, List.length_append]; omega)
    simp [hrest] at hnil
  · cases m with
    | nil =>
      have hnil := hshort (by simp [htake])
      simp [hnil] at hrest
    | cons d m =>
      have hd : d = c := by simpa using (List.cons.inj hrest).1.symm
      have hdWord := hpart d (by simp [htake])
      rw [hd, hcWord] at hdWord
      cases hdWord

end Reference.Reads

/-! ## Section 2: The first replacement -/

namespace Rule

variable {rule : Rule} {t : ElementTree} {found : List Diagnostic} {a : Audit}
  {model : String} {source : Option String}

/-- An alias is made of word characters if its prefix is. -/
theorem isWordChar_aliasName (halias : ∀ c ∈ rule.settings.aliasPrefix.toList,
    Text.isWordChar c = true) {x : Site} (hx : x ∈ rule.fixable t) :
    ∀ c ∈ (rule.aliasName x.reference).toList, Text.isWordChar c = true := by
  obtain ⟨_, _, _, _, hreads⟩ := reads_of_mem_fixable hx
  have hunderscore : Text.isWordChar '_' = true := by decide
  intro c hc
  simp only [toList_aliasName, List.mem_append, List.mem_cons] at hc
  rcases hc with hc | rfl | hc | rfl | hc
  · exact halias c hc
  · exact hunderscore
  · exact hreads.object_identifier.isWordChar c hc
  · exact hunderscore
  · exact hreads.property_identifier.isWordChar c hc

theorem length_object_lt_aliasName (rule : Rule) (r : Reference) :
    r.object.toList.length < (rule.aliasName r).toList.length := by
  simp only [toList_aliasName, List.length_append, List.length_cons]
  omega

/-- **The first replacement**: if all fixable sites end in front of the declarations, the changed
text starts with the original up to one of them, and goes on with its alias. -/
theorem exists_first_replaced (hl : Loaded t.elements)
    (h : (({} : Audit).register rule).run t = .ok (found, a)) (hne : rule.fixable t ≠ [])
    (hclose : ∀ x ∈ rule.fixable t, x.binding.span.stop ≤ insertionPoint t.root.span)
    {text result : List Char} (happly :
      Edit.applyToChars text (Report.edits ⟨model, source, found⟩) = .ok result) :
    ∃ x ∈ rule.fixable t, ∃ start following : List Char,
      result = start ++ ((rule.aliasName x.reference).toList ++ following) ∧
        x.binding.span.offset = start.length ∧ x.binding.span.offset < x.binding.span.stop := by
  obtain ⟨happ, hresult⟩ := Edit.applyToChars_eq_ok_iff.mp happly
  have hspans := (spans_of_applicable hl h happ).1
  rw [(Edit.foldl_inOrder happ (proper_edits hl h happ)).1, Edit.render] at hresult
  obtain ⟨x₀, hx₀⟩ := List.exists_mem_of_ne_nil _ hne
  have hmem : Edit.replacement x₀.binding.span (rule.aliasName x₀.reference)
      (some x₀.binding.expression) ∈ Edit.leftToRight (Report.edits ⟨model, source, found⟩) :=
    Edit.mem_leftToRight.mpr ((Report.mem_edits_iff hl.linked h).mpr (Or.inr ⟨x₀, hx₀, rfl⟩))
  have hsorted := Edit.leftToRight_pairwise (Report.edits ⟨model, source, found⟩)
  have hback : ∀ e ∈ Edit.leftToRight (Report.edits ⟨model, source, found⟩),
      e ∈ Report.edits ⟨model, source, found⟩ := fun e he => Edit.mem_leftToRight.mp he
  -- the edit a reader meets first is a replacement, as all insertions are behind all sites
  cases hfirst : Edit.leftToRight (Report.edits ⟨model, source, found⟩) with
  | nil => simp [hfirst] at hmem
  | cons e rest =>
    rw [hfirst] at hmem hsorted hback hresult
    rcases (Report.mem_edits_iff hl.linked h).mp (hback e (List.mem_cons_self ..)) with
      ⟨r, -, rfl⟩ | ⟨x, hx, rfl⟩
    · exfalso
      have hleads := (List.pairwise_cons.mp hsorted).1 _ ((List.mem_cons.mp hmem).resolve_left
        (fun heq => by cases congrArg Edit.kind heq))
      have hspan := hspans x₀ hx₀
      have hbehind := hclose x₀ hx₀
      simp only [Edit.Leads, Edit.insertion, Edit.replacement] at hleads
      omega
    · have hspan := hspans x hx
      refine ⟨x, hx, text.take x.binding.span.offset.toNat,
        Edit.renderFrom text x.binding.span.stop.toNat rest, ?_, ?_, hspan.2.1⟩
      · rw [hresult, Edit.renderFrom, List.drop_zero, List.append_assoc]
        rfl
      · rw [List.length_take]
        omega

/-- **A second time** the first replacement does not find what it expects. -/
theorem not_applicable_of_applied (hl : Loaded t.elements)
    (h : (({} : Audit).register rule).run t = .ok (found, a)) (hne : rule.fixable t ≠ [])
    (halias : ∀ c ∈ rule.settings.aliasPrefix.toList, Text.isWordChar c = true)
    (hclose : ∀ x ∈ rule.fixable t, x.binding.span.stop ≤ insertionPoint t.root.span)
    {text result : List Char} (happly :
      Edit.applyToChars text (Report.edits ⟨model, source, found⟩) = .ok result) :
    ¬ Edit.Applicable result (Report.edits ⟨model, source, found⟩) := by
  intro happ
  obtain ⟨x, hx, start, following, rfl, hstart, hlt⟩ :=
    exists_first_replaced hl h hne hclose happly
  obtain ⟨-, hstop, hfit, -⟩ := (applicable_edits_iff hl h hne).mp happ
  obtain ⟨_, _, _, _, hreads⟩ := reads_of_mem_fixable hx
  -- what is checked is a window that starts with the alias
  have hwindow := hfit x hx
  rw [Text.slice_append hstart hlt.le (hstop x hx)] at hwindow
  exact hreads.trim_window_ne (isWordChar_aliasName halias hx)
    (length_object_lt_aliasName rule x.reference) following (by omega) hwindow

/-- No number in an edit of a run is greater than the size of a text the edits apply to. -/
theorem natAbs_le_of_applicable (hl : Loaded t.elements)
    (h : (({} : Audit).register rule).run t = .ok (found, a)) {text : List Char}
    (happ : Edit.Applicable text (Report.edits ⟨model, source, found⟩)) :
    ∀ e ∈ Report.edits ⟨model, source, found⟩,
      e.span.offset.natAbs ≤ text.length ∧ e.span.length.natAbs ≤ text.length := by
  intro e he
  have hinside := happ.inside e he
  have hle := (proper_edits hl h happ e he).offset_le_stop
  unfold Span.stop at hinside hle
  omega

end Rule

/-! ## Section 3: From the text to the file -/

/-- **A fixed source is not fixed again**: read a model, run the rule on its tree, and suppose there
is a finding with a fix and all of these end in front of the last character of the root.  Let the
prefix of aliases consist of word characters.  Then the edits of the report cannot be applied to a
text they have been applied to; the fault can be put in words, unless the text was longer than any
number that can.  A second repair from the report fails with such a fault, be it a trial or not,
and the source still holds what the first one wrote. -/
theorem apply_edits_again_fails {d : Document} {root : Nat} {t : ElementTree} {rule : Rule}
    {found : List Diagnostic} {a : Audit} {model : String} (ht : Model.buildTree d root = .ok t)
    (hrun : (({} : Audit).register rule).run t = .ok (found, a))
    (hfix : ∃ x ∈ found, x.fixable = true)
    (halias : ∀ c ∈ rule.settings.aliasPrefix.toList, Text.isWordChar c = true)
    (hclose : ∀ x ∈ found, x.fixable = true →
      x.location.stop ≤ t.root.span.offset + t.root.span.length - 1) :
    (∀ source text new, Edit.apply text (Report.edits ⟨model, source, found⟩) = .ok new →
      ∃ fault, Edit.apply new (Report.edits ⟨model, source, found⟩) = .error fault ∧
        (fault.exceeds = true → digitBound ≤ text.toList.length)) ∧
    ∀ path w first, Repair.run w ⟨model, some path, found⟩ false = .ok first →
      ∃ text new fault, w.readText path = .ok text ∧ first.outcome.newText = some new ∧
        first.workspace.readText path = .ok new ∧
        (fault.exceeds = true → digitBound ≤ text.toList.length) ∧
        ∀ trial, Repair.run first.workspace ⟨model, some path, found⟩ trial =
          .error (.edit fault) := by
  have hl := Model.buildTree_loaded ht
  have hne : rule.fixable t ≠ [] := (Rule.fixable_ne_nil_iff hl.linked hrun).mpr hfix
  have hclose' : ∀ x ∈ rule.fixable t, x.binding.span.stop ≤ Rule.insertionPoint t.root.span := by
    intro x hx
    -- the site is that of a finding with a fix
    have hmem := List.mem_map_of_mem (f := fun x : Site => x.binding.span) hx
    rw [← Report.locations_of_run hl.linked hrun, List.mem_filterMap] at hmem
    obtain ⟨d, hd, hlocation⟩ := hmem
    obtain ⟨f, hf, hlocation⟩ := Option.map_eq_some_iff.mp hlocation
    rw [← hlocation]
    exact hclose d hd (by rw [Diagnostic.fixable, hf]; rfl)
  have hagain : ∀ source text new, Edit.apply text (Report.edits ⟨model, source, found⟩) = .ok new →
      ∃ fault, Edit.apply new (Report.edits ⟨model, source, found⟩) = .error fault ∧
        (fault.exceeds = true → digitBound ≤ text.toList.length) := by
    intro source text new happly
    have hchars := Edit.apply_eq_ok_iff.mp happly
    obtain ⟨fault, hfault⟩ := Edit.exists_error_iff.mpr
      (Rule.not_applicable_of_applied hl hrun hne halias hclose' hchars)
    refine ⟨fault, hfault, fun hlong => ?_⟩
    obtain ⟨e, he, hlong⟩ :=
      Edit.exists_long_of_exceeds (Edit.apply_eq_error_iff.mp hfault) hlong
    have hle := Rule.natAbs_le_of_applicable hl hrun (Edit.applyToChars_eq_ok_iff.mp hchars).1 e he
    simp only [exceedsDigits, decide_eq_true_eq] at hlong
    omega
  refine ⟨hagain, ?_⟩
  intro path w first hfirst
  have hfixes : (Report.mk model (some path) found).fixes ≠ [] := by
    obtain ⟨d, hd, hdfix⟩ := hfix
    obtain ⟨f, hf⟩ := Option.isSome_iff_exists.mp hdfix
    exact List.ne_nil_of_mem (List.mem_filterMap.mpr ⟨d, hd, hf⟩)
  obtain ⟨text, new, hread, happly, hwrite, hnew⟩ := Repair.run_eq_ok hfixes rfl hfirst
  obtain ⟨fault, hfault, hlong⟩ := hagain _ _ _ happly
  have hstored := Workspace.readText_of_writeText hread hwrite
  exact ⟨text, new, fault, hread, hnew, hstored, hlong,
    Repair.run_eq_error hfixes rfl hstored hfault⟩

/-- Three reads fixed on file: the first repair writes the source, and another one is refused. -/
theorem repair_threeReads_again_fails :
    Model.buildTree (Document.ofData Model.threeReads) (Document.ofData Model.threeReads).top =
        .ok .threeReads ∧
      ∃ found a first, (({} : Audit).register .standard).run .threeReads = .ok (found, a) ∧
        (∃ d ∈ found, d.fixable = true) ∧
        (∀ c ∈ Rule.standard.settings.aliasPrefix.toList, Text.isWordChar c = true) ∧
        (∀ d ∈ found, d.fixable = true → d.location.stop ≤ 25) ∧
        Repair.run { base := "/w", stored := [(["Main.qml"], .file
            (Text.Utf8.encode "I(Q()J(x:t.a,y:t.b,z:t.a))".toList))] }
          ⟨"", some "Main.qml", found⟩ false = .ok first ∧
        ∃ new fault, first.outcome.newText = some new ∧
          first.workspace.readText "Main.qml" = .ok new ∧
          ∀ trial, Repair.run first.workspace ⟨"", some "Main.qml", found⟩ trial =
            .error (.edit fault) := by
  have htree : Model.buildTree (Document.ofData Model.threeReads)
      (Document.ofData Model.threeReads).top = .ok .threeReads := by decide +kernel
  have hall : (fun p => (p.1.any Diagnostic.fixable,
        p.1.all (fun d => !d.fixable || decide (d.location.stop ≤ 25)),
        (Repair.run { base := "/w", stored := [(["Main.qml"], .file
            (Text.Utf8.encode "I(Q()J(x:t.a,y:t.b,z:t.a))".toList))] }
          ⟨"", some "Main.qml", p.1⟩ false).isOk)) <$>
      (({} : Audit).register .standard).run .threeReads = .ok (true, true, true) := by
    decide +kernel
  obtain ⟨⟨found, a⟩, hrun, hall⟩ := Outcome.map_eq_ok_iff.mp hall
  simp only [Prod.mk.injEq] at hall
  obtain ⟨hany, hall, hok⟩ := hall
  have hfix := List.any_eq_true.mp hany
  have hclose : ∀ d ∈ found, d.fixable = true → d.location.stop ≤ 25 := by
    intro d hd hdfix
    have hd := List.all_eq_true.mp hall d hd
    simpa [hdfix] using hd
  have halias : ∀ c ∈ Rule.standard.settings.aliasPrefix.toList, Text.isWordChar c = true :=
    List.all_eq_true.mp (by decide +kernel)
  cases hfirst : Repair.run { base := "/w", stored := [(["Main.qml"], .file
      (Text.Utf8.encode "I(Q()J(x:t.a,y:t.b,z:t.a))".toList))] }
      ⟨"", some "Main.qml", found⟩ false with
  | error fault =>
    rw [hfirst] at hok
    cases hok
  | ok first =>
    obtain ⟨-, hrepair⟩ := @apply_edits_again_fails _ _ _ _ _ _ "" htree hrun hfix halias hclose
    obtain ⟨-, new, fault, -, hnew, hread, -, hagain⟩ := hrepair _ _ _ hfirst
    exact ⟨htree, found, a, first, hrun, hfix, halias, hclose, hfirst, new, fault, hnew, hread,
      hagain⟩

end BindingAudit
