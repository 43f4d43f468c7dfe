import BindingAudit.Proofs.Rule.Rewrite
import BindingAudit.Repair

/-!
# When the fixes of a run can be applied

The checks on edits know nothing of where the edits come from.  For the report of one run they come
down to four conditions on the tree and the text (`Rule.applicable_edits_iff`): the place of the
declarations lies in the text, so does each fixable binding, each reads as in the model, and no two
of them compete.

That no declaration falls inside a replaced span needs no condition: a fix is only made where the
end of the root is outside its own binding, and all declarations of a run go to that one place.
-/

namespace BindingAudit

/-- Two spans have a character in common. -/
def Span.Meets (s t : Span) : Prop :=
  ∃ k : Int, (s.offset ≤ k ∧ k < s.stop) ∧ t.offset ≤ k ∧ k < t.stop

theorem Span.overlaps_of_meets {s t : Span} (h : s.Meets t) : s.overlaps t = true := by
  obtain ⟨k, ⟨hs, hs'⟩, ht, ht'⟩ := h
  simp only [overlaps, Bool.and_eq_true, decide_eq_true_eq]
  omega

/-- Spans that hold a character each and overlap have one in common: the first of the one that
starts later. -/
theorem Span.meets_of_overlaps {s t : Span} (hs : s.offset < s.stop) (ht : t.offset < t.stop)
    (h : s.overlaps t = true) : s.Meets t := by
  simp only [overlaps, Bool.and_eq_true, decide_eq_true_eq] at h
  exact ⟨max s.offset t.offset, by omega, by omega⟩

namespace Edit

/-! ## Section 1: The first fault -/

/-- An edit is an insertion or a replacement. -/
theorem forall_mem_iff {edits : List Edit} {P : Edit → Prop} :
    (∀ e ∈ edits, P e) ↔ (∀ e ∈ insertions edits, P e) ∧ ∀ e ∈ replacements edits, P e := by
  constructor
  · intro h
    exact ⟨fun e he => h e (List.mem_of_mem_filter he), fun e he => h e (List.mem_of_mem_filter he)⟩
  · rintro ⟨hins, hrep⟩ e he
    cases hkind : e.kind with
    | insertion => exact hins e (List.mem_filter.mpr ⟨he, by simp [hkind]⟩)
    | replacement => exact hrep e (List.mem_filter.mpr ⟨he, by simp [hkind]⟩)

/-- What the first fault can be: something wrong with one edit, two replacements that compete, or an
insertion inside a replaced span. -/
theorem firstFault?_cases {text : List Char} {edits : List Edit} {fault : EditError}
    (h : firstFault? text edits = some fault) :
    (∃ e ∈ edits, fault = .outside e.span.offset e.span.length text.length ∨
      fault = .drifted e.span.offset (e.expected.getD "")) ∨
    (∃ first second, fault = .overlap first second) ∨ insideReplaced? edits = some fault := by
  unfold firstFault? at h
  rw [Option.or_eq_some_iff, Option.or_eq_some_iff] at h
  rcases h with h | ⟨-, h | ⟨-, h⟩⟩
  · obtain ⟨e, he, hfault⟩ := List.exists_of_findSome?_eq_some h
    refine Or.inl ⟨e, he, ?_⟩
    unfold fault? at hfault
    split at hfault
    · exact Or.inl (Option.some.inj hfault).symm
    · split at hfault
      · cases hfault
      · exact Or.inr (Option.some.inj hfault).symm
  · refine Or.inr (Or.inl ?_)
    generalize replacements edits = l at h
    fun_induction overlap? l with
    | case1 => cases h
    | case2 e rest f hf => exact ⟨_, _, (Option.some.inj h).symm⟩
    | case3 e rest hnone ih => exact ih h
  · exact Or.inr (Or.inr h)

/-- A fault with a number too long to be shown comes from an edit with such a number. -/
theorem exists_long_of_exceeds {text : List Char} {edits : List Edit} {fault : EditError}
    (h : firstFault? text edits = some fault) (hlong : fault.exceeds = true) :
    ∃ e ∈ edits, exceedsDigits e.span.offset = true ∨ exceedsDigits e.span.length = true := by
  rcases firstFault?_cases h with ⟨e, he, rfl | rfl⟩ | ⟨_, _, rfl⟩ | hinside
  · exact ⟨e, he, by simpa [EditError.exceeds] using hlong⟩
  · cases hlong
  · cases hlong
  · obtain ⟨i, -, rfl⟩ := Option.map_eq_some_iff.mp hinside
    cases hlong

end Edit

namespace Rule

variable {rule : Rule} {t : ElementTree} {found : List Diagnostic} {a : Audit}
  {model : String} {source : Option String}

/-! ## Section 2: The checks on the edits of a run -/

/-- A run makes fixes exactly if the tree has fixable sites. -/
theorem fixable_ne_nil_iff (hl : Linked t.elements)
    (h : (({} : Audit).register rule).run t = .ok (found, a)) :
    rule.fixable t ≠ [] ↔ ∃ d ∈ found, d.fixable = true := by
  rw [ne_eq, ← List.map_eq_nil_iff (f := fun x : Site =>
    (x.binding.span, rule.fixEdits t.root.span x.binding x.reference)), ← Report.fixes_of_run hl h,
    List.filterMap_eq_nil_iff]
  simp [Diagnostic.fixable, Option.isSome_iff_ne_none]

/-- A fix is made only where the root is not empty. -/
theorem rootLength_pos_of_mem_fixable {x : Site} (hx : x ∈ rule.fixable t) :
    0 < t.root.span.length := by
  have hroom := (mem_fixable_iff.mp hx).2
  unfold noFix? at hroom
  split at hroom
  · cases hroom
  · omega

/-- The place of the declarations is not negative where a fix is made. -/
theorem insertionPoint_nonneg (hl : Loaded t.elements) {x : Site} (hx : x ∈ rule.fixable t) :
    0 ≤ insertionPoint t.root.span := by
  have hlength := rootLength_pos_of_mem_fixable hx
  have hroot : t.elements[0]? = some t.root := Array.getElem?_eq_getElem t.nonempty
  have hoffset := (hl.span_nonneg hroot).1
  unfold insertionPoint
  omega

/-- A fix is made only where the end of the root is outside the binding. -/
theorem not_enclosesPoint_of_mem_fixable {x : Site} (hx : x ∈ rule.fixable t) :
    x.binding.span.enclosesPoint (insertionPoint t.root.span) = false := by
  have hroom := (mem_fixable_iff.mp hx).2
  unfold noFix? at hroom
  split at hroom
  · cases hroom
  · split at hroom
    · cases hroom
    · next h => simpa using h

/-- No insertion of a run falls inside a replaced span: all of them are at one place, and every
fixable site was made sure to leave it outside. -/
theorem insideReplaced?_edits (hl : Loaded t.elements)
    (h : (({} : Audit).register rule).run t = .ok (found, a)) :
    Edit.insideReplaced? (Report.edits ⟨model, source, found⟩) = none := by
  rw [Edit.insideReplaced?_eq_none_iff, Report.insertions_edits hl.linked h,
    Report.replacements_edits hl.linked h]
  intro i hi r hr
  obtain ⟨_, -, rfl⟩ := List.mem_map.mp hi
  obtain ⟨x, hx, rfl⟩ := List.mem_map.mp hr
  exact not_enclosesPoint_of_mem_fixable hx

/-- **The checks on the edits of a run** come down to the place of the declarations and the
fixable sites. -/
theorem applicable_edits_iff (hl : Loaded t.elements)
    (h : (({} : Audit).register rule).run t = .ok (found, a)) (hne : rule.fixable t ≠ [])
    {text : List Char} :
    Edit.Applicable text (Report.edits ⟨model, source, found⟩) ↔
      insertionPoint t.root.span ≤ (text.length : Int) ∧
      (∀ x ∈ rule.fixable t, x.binding.span.stop ≤ (text.length : Int)) ∧
      (∀ x ∈ rule.fixable t, Text.trim (Text.slice text x.binding.span.offset x.binding.span.stop) =
        Text.trim x.binding.expression.toList) ∧
      (rule.fixable t).Pairwise fun x y => ¬ (x.binding.span.Meets y.binding.span ∨
        x.binding.span = y.binding.span) := by
  constructor
  · intro happ
    refine ⟨(insertionPoint_of_applicable hl h happ hne).2, ?_, ?_, ?_⟩
    · exact fun x hx => ((spans_of_applicable hl h happ).1 x hx).2.2
    · intro x hx
      have hfits := (Edit.forall_mem_iff.mp happ.fitting).2
      rw [Report.replacements_edits hl.linked h] at hfits
      simpa [Edit.fits, Edit.replacement] using hfits _ (List.mem_map_of_mem hx)
    · have hapart := happ.apart
      rw [Report.replacements_edits hl.linked h, List.pairwise_map] at hapart
      refine hapart.imp fun {x y} hxy hmeets => ?_
      simp only [Edit.competes, Edit.replacement, Bool.or_eq_false_iff, beq_eq_false_iff_ne] at hxy
      rcases hmeets with hmeets | heq
      · rw [Span.overlaps_of_meets hmeets] at hxy
        cases hxy.1
      · exact hxy.2 heq
  · rintro ⟨hpoint, hstop, hfit, hapart⟩
    have hnonneg : 0 ≤ insertionPoint t.root.span := by
      obtain ⟨x, hx⟩ := List.exists_mem_of_ne_nil _ hne
      exact insertionPoint_nonneg hl hx
    have hfits : ∀ x ∈ rule.fixable t, Edit.fits text (Edit.replacement x.binding.span
        (rule.aliasName x.reference) (some x.binding.expression)) = true := by
      intro x hx
      simpa [Edit.fits, Edit.replacement] using hfit x hx
    -- a span that reads as a reference is not empty, so spans that overlap have a character
    have hproper : ∀ x ∈ rule.fixable t, x.binding.span.offset < x.binding.span.stop :=
      fun x hx => ((shaped_of_mem_fixable hl hx).proper (hfits x hx)).of_replacement rfl
    refine ⟨?_, ?_, ?_, Edit.insideReplaced?_eq_none_iff.mp (insideReplaced?_edits hl h)⟩
    · rw [Edit.forall_mem_iff, Report.insertions_edits hl.linked h,
        Report.replacements_edits hl.linked h, List.forall_mem_map, List.forall_mem_map]
      refine ⟨fun r _ => ?_, fun x hx => ⟨(nonneg_of_mem_fixable hl hx).1, hstop x hx⟩⟩
      simpa [Edit.insertion, Span.stop] using ⟨hnonneg, hpoint⟩
    · rw [Edit.forall_mem_iff, Report.insertions_edits hl.linked h,
        Report.replacements_edits hl.linked h, List.forall_mem_map, List.forall_mem_map]
      exact ⟨fun r _ => rfl, hfits⟩
    · rw [Report.replacements_edits hl.linked h, List.pairwise_map]
      refine hapart.imp_of_mem fun {x y} hx hy hxy => ?_
      simp only [Edit.competes, Edit.replacement, Bool.or_eq_false_iff, beq_eq_false_iff_ne]
      rw [not_or] at hxy
      refine ⟨?_, hxy.2⟩
      by_contra hoverlap
      exact hxy.1 (Span.meets_of_overlaps (hproper x hx) (hproper y hy) (by simpa using hoverlap))

/-- The numbers that the edits of a run name are the place of the declarations and the offsets and
lengths of the fixable sites. -/
theorem long_of_exceeds (hl : Linked t.elements)
    (h : (({} : Audit).register rule).run t = .ok (found, a)) {text : List Char}
    {fault : EditError}
    (hfault : Edit.firstFault? text (Report.edits ⟨model, source, found⟩) = some fault)
    (hlong : fault.exceeds = true) :
    exceedsDigits (insertionPoint t.root.span) = true ∨ ∃ x ∈ rule.fixable t,
      exceedsDigits x.binding.span.offset = true ∨ exceedsDigits x.binding.span.length = true := by
  obtain ⟨e, he, hlong⟩ := Edit.exists_long_of_exceeds hfault hlong
  revert e
  rw [Edit.forall_mem_iff, Report.insertions_edits hl h, Report.replacements_edits hl h,
    List.forall_mem_map, List.forall_mem_map]
  constructor
  · rintro r - (hlong | hzero)
    · exact Or.inl hlong
    · have hshort : exceedsDigits 0 = false := by decide +kernel
      rw [show (Edit.insertion _ _).span.length = 0 from rfl, hshort] at hzero
      cases hzero
  · intro x hx hlong
    exact Or.inr ⟨x, hx, hlong⟩

end Rule

/-! ## Section 3: From the model to the checks -/

/-- A relation holds of some two members, the one before the other, unless it fails for all. -/
private theorem not_pairwise_not_iff {α : Type} {R : α → α → Prop} {l : List α} :
    ¬ l.Pairwise (fun x y => ¬ R x y) ↔
      ∃ (i j : Nat) (x y : α), i < j ∧ l[i]? = some x ∧ l[j]? = some y ∧ R x y := by
  rw [List.pairwise_iff_getElem]
  constructor
  · intro h
    push Not at h
    obtain ⟨i, j, hi, hj, hij, hR⟩ := h
    exact ⟨i, j, l[i], l[j], hij, List.getElem?_eq_getElem hi, List.getElem?_eq_getElem hj, hR⟩
  · rintro ⟨i, j, x, y, hij, hx, hy, hR⟩ h
    obtain ⟨hi, rfl⟩ := List.getElem?_eq_some_iff.mp hx
    obtain ⟨hj, rfl⟩ := List.getElem?_eq_some_iff.mp hy
    exact h i j hi hj hij hR

/-- **When a report cannot be applied**: read a model, run the rule on its tree, and suppose there
is a finding with a fix.  Applying the edits of the report to a text fails exactly if the place of
the declarations or a fixable site lies beyond the end of the text, or a site does not read as in
the model, or two sites have a character in common or the same span.  An insertion is never found
inside a replaced span.  The fault can be put in words unless it names a number with too many
digits, which is then the place of the declarations or the offset or length of a site. -/
theorem apply_edits_fails_iff {d : Document} {root : Nat} {t : ElementTree} {rule : Rule}
    {found : List Diagnostic} {a : Audit} {model : String} {source : Option String} {text : String}
    (ht : Model.buildTree d root = .ok t)
    (hrun : (({} : Audit).register rule).run t = .ok (found, a))
    (hfix : ∃ x ∈ found, x.fixable = true) :
    found.filterMap (fun d => d.fix.map fun _ => d.location) =
      (rule.fixable t).map (·.binding.span) ∧
    ((∃ fault, Edit.apply text (Report.edits ⟨model, source, found⟩) = .error fault) ↔
      (text.toList.length : Int) < t.root.span.offset + t.root.span.length - 1 ∨
      (∃ x ∈ rule.fixable t, (text.toList.length : Int) < x.binding.span.stop) ∨
      (∃ x ∈ rule.fixable t,
        Text.trim (Text.slice text.toList x.binding.span.offset x.binding.span.stop) ≠
          Text.trim x.binding.expression.toList) ∨
      ∃ (i j : Nat) (x y : Site), i < j ∧ (rule.fixable t)[i]? = some x ∧
        (rule.fixable t)[j]? = some y ∧
        (x.binding.span.Meets y.binding.span ∨ x.binding.span = y.binding.span)) ∧
    ∀ fault, Edit.apply text (Report.edits ⟨model, source, found⟩) = .error fault →
      (∀ offset, fault ≠ .insideReplaced offset) ∧
      (fault.exceeds = true →
        exceedsDigits (t.root.span.offset + t.root.span.length - 1) = true ∨
        ∃ x ∈ rule.fixable t, exceedsDigits x.binding.span.offset = true ∨
          exceedsDigits x.binding.span.length = true) := by
  have hl := Model.buildTree_loaded ht
  have hne : rule.fixable t ≠ [] := (Rule.fixable_ne_nil_iff hl.linked hrun).mpr hfix
  refine ⟨Report.locations_of_run hl.linked hrun, ?_, ?_⟩
  · rw [Edit.exists_error_iff, Rule.applicable_edits_iff hl hrun hne]
    rw [← not_pairwise_not_iff]
    -- each condition fails exactly if one of its instances does
    simp only [not_and_or, not_forall, not_le, exists_prop, Rule.insertionPoint, ne_eq]
  · intro fault hfault
    rw [Edit.apply_eq_error_iff] at hfault
    refine ⟨?_, Rule.long_of_exceeds hl.linked hrun hfault⟩
    rintro offset rfl
    rcases Edit.firstFault?_cases hfault with ⟨e, -, h | h⟩ | ⟨_, _, h⟩ | h
    · cases h
    · cases h
    · cases h
    · rw [Rule.insideReplaced?_edits hl hrun] at h
      cases h

/-- The last of three reads has changed since the model was made: the report is refused as a
whole. -/
theorem apply_edits_fails_of_drift :
    Model.buildTree (Document.ofData Model.threeReads) (Document.ofData Model.threeReads).top =
        .ok .threeReads ∧
      ∃ found a, (({} : Audit).register .standard).run .threeReads = .ok (found, a) ∧
        (∃ d ∈ found, d.fixable = true) ∧
        ∃ fault, Edit.apply "I(Q()J(x:t.a,y:t.b,z:t.c))" (Report.edits ⟨"", none, found⟩) =
          .error fault ∧ ∀ offset, fault ≠ .insideReplaced offset := by
  have htree : Model.buildTree (Document.ofData Model.threeReads)
      (Document.ofData Model.threeReads).top = .ok .threeReads := by decide +kernel
  have hany : (fun p => p.1.any Diagnostic.fixable) <$>
      (({} : Audit).register .standard).run .threeReads = .ok true := by decide +kernel
  obtain ⟨⟨found, a⟩, hrun, hany⟩ := Outcome.map_eq_ok_iff.mp hany
  have hfix := List.any_eq_true.mp hany
  obtain ⟨-, hfails, hkind⟩ := @apply_edits_fails_iff _ _ _ _ _ _ "" none
    "I(Q()J(x:t.a,y:t.b,z:t.c))" htree hrun hfix
  obtain ⟨fault, hfault⟩ := hfails.mpr (Or.inr (Or.inr (Or.inl (by decide +kernel))))
  exact ⟨htree, found, a, hrun, hfix, fault, hfault, (hkind fault hfault).1⟩

/-- A model whose root stands at an offset of more than 4300 digits, around a timer and an item that
reads from it. -/
def Model.farRoot : Data :=
  .record [("type", .text "Item"), ("span", .list [.int (Nat.pow 2 14288), .int 1]),
    ("children", .list [
      .record [("type", .text "QTimer"), ("id", .text "t"), ("span", .list [.int 0, .int 1])],
      .record [("type", .text "Item"), ("span", .list [.int 0, .int 3]), ("bindings", .list [
        .record [("property", .text "x"), ("expression", .text "t.a"),
          ("span", .list [.int 0, .int 3])]])]])]

/-- The tree of that model. -/
def ElementTree.farRoot : ElementTree :=
  ⟨#[{ typeName := "Item", span := ⟨Nat.pow 2 14288, 1⟩, children := [1, 2] },
    { typeName := "QTimer", span := ⟨0, 1⟩, id := some "t", parent := some 0 },
    { typeName := "Item", span := ⟨0, 3⟩, parent := some 0,
      bindings := [⟨"x", "t.a", ⟨0, 3⟩, 2⟩] }], by decide⟩

/-- The place of the declaration lies far outside the text, and the fault that says so cannot be
put in words. -/
theorem farRoot_fault_exceeds :
    Model.buildTree (Document.ofData Model.farRoot) (Document.ofData Model.farRoot).top =
        .ok .farRoot ∧
      ∃ found a, (({} : Audit).register .standard).run .farRoot = .ok (found, a) ∧
        (∃ d ∈ found, d.fixable = true) ∧
        ("t.a".toList.length : Int) <
          ElementTree.farRoot.root.span.offset + ElementTree.farRoot.root.span.length - 1 ∧
        ∃ fault, Edit.apply "t.a" (Report.edits ⟨"", none, found⟩) = .error fault ∧
          fault.exceeds = true ∧
          (RepairError.edit fault).message = DigitError.showing.message := by
  have htree : Model.buildTree (Document.ofData Model.farRoot)
      (Document.ofData Model.farRoot).top = .ok .farRoot := by decide +kernel
  have hall : (fun p => (p.1.any Diagnostic.fixable,
        Edit.apply "t.a" (Report.edits ⟨"", none, p.1⟩))) <$>
      (({} : Audit).register .standard).run .farRoot =
        .ok (true, .error (.outside (Nat.pow 2 14288) 0 3)) := by decide +kernel
  obtain ⟨⟨found, a⟩, hrun, hall⟩ := Outcome.map_eq_ok_iff.mp hall
  obtain ⟨hany, happly⟩ := Prod.mk.inj hall
  have hlong : EditError.exceeds (.outside (Nat.pow 2 14288) 0 3) = true := by decide +kernel
  refine ⟨htree, found, a, hrun, List.any_eq_true.mp hany, by decide +kernel, _, happly, hlong, ?_⟩
  rw [RepairError.message, if_pos hlong]

end BindingAudit
