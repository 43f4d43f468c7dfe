import BindingAudit.Proofs.Element.Preorder
import BindingAudit.Proofs.Rule.Alias

/-!
# The edits of a report

The edits of a report are those of its fixes, less the insertions made before.  Seen through their
two kinds: all replacements stay, and of the insertions the distinct ones, in the order of their
first occurrence.

For the report of one run this means one replacement for each site with room for a declaration
(`Rule.fixable`) and one insertion for each reference among them (`Rule.declared`).
-/

namespace BindingAudit

/-! ## Section 1: Distinct values in order -/

/-- Distinct values stay distinct under a function that tells them apart. -/
private theorem eraseDups_map {α β : Type} [DecidableEq α] [DecidableEq β] {f : α → β}
    {l : List α} (h : ∀ a ∈ l, ∀ b ∈ l, f a = f b → a = b) :
    (l.map f).eraseDups = l.eraseDups.map f := by
  match l with
  | [] => rfl
  | a :: l =>
    -- what equals the head is dropped on both sides alike
    have hfilter : (l.map f).filter (fun b => !b == f a) = (l.filter fun b => !b == a).map f := by
      rw [List.filter_map]
      congr 1
      apply List.filter_congr
      intro b hb
      by_cases hba : b = a
      · simp [hba]
      · have hne : f b ≠ f a := fun heq =>
          hba (h b (List.mem_cons_of_mem _ hb) a (List.mem_cons_self ..) heq)
        simp [hba, hne]
    rw [List.map_cons, List.eraseDups_cons, List.eraseDups_cons, List.map_cons, hfilter,
      eraseDups_map]
    intro b hb c hc
    exact h b (List.mem_cons_of_mem _ (List.mem_of_mem_filter hb)) c
      (List.mem_cons_of_mem _ (List.mem_of_mem_filter hc))
termination_by l.length
decreasing_by exact Nat.lt_succ_of_le (List.length_filter_le _ _)

private theorem nodup_eraseDups {α : Type} [DecidableEq α] (l : List α) : l.eraseDups.Nodup := by
  match l with
  | [] => exact List.nodup_nil
  | a :: l =>
    rw [List.eraseDups_cons, List.nodup_cons]
    refine ⟨?_, nodup_eraseDups _⟩
    rw [List.mem_eraseDups, List.mem_filter]
    simp
termination_by l.length
decreasing_by exact Nat.lt_succ_of_le (List.length_filter_le _ _)

/-! ## Section 2: Dropping repeated insertions -/

namespace Edit

theorem replacements_cons_of_ne {e : Edit} (h : e.kind ≠ .replacement) (rest : List Edit) :
    replacements (e :: rest) = replacements rest :=
  List.filter_cons_of_neg (by simpa using h)

theorem insertions_cons_of_eq {e : Edit} (h : e.kind = .insertion) (rest : List Edit) :
    insertions (e :: rest) = e :: insertions rest :=
  List.filter_cons_of_pos (by simpa using h)

theorem insertions_cons_of_ne {e : Edit} (h : e.kind ≠ .insertion) (rest : List Edit) :
    insertions (e :: rest) = insertions rest :=
  List.filter_cons_of_neg (by simpa using h)

end Edit

namespace Report

theorem replacements_dropRepeated (seen edits : List Edit) :
    Edit.replacements (dropRepeated seen edits) = Edit.replacements edits := by
  fun_induction dropRepeated seen edits with
  | case1 => rfl
  | case2 seen e rest hkind hseen ih =>
    rw [ih, Edit.replacements_cons_of_ne (by simp [hkind])]
  | case3 seen e rest hkind hseen ih =>
    rw [Edit.replacements_cons_of_ne (by simp [hkind]), ih,
      Edit.replacements_cons_of_ne (by simp [hkind])]
  | case4 seen e rest hkind ih =>
    unfold Edit.replacements at *
    rw [List.filter_cons, List.filter_cons, ih]

/-- The insertions that are kept are the distinct ones among those not seen. -/
theorem insertions_dropRepeated (seen edits : List Edit) :
    Edit.insertions (dropRepeated seen edits) =
      ((Edit.insertions edits).filter fun e => !decide (e ∈ seen)).eraseDups := by
  fun_induction dropRepeated seen edits with
  | case1 => rfl
  | case2 seen e rest hkind hseen ih =>
    rw [ih, Edit.insertions_cons_of_eq hkind, List.filter_cons_of_neg (by simp [hseen])]
  | case3 seen e rest hkind hseen ih =>
    -- the values equal to `e` are dropped by the one side at once, by the other as seen
    have hfilter : ((Edit.insertions rest).filter fun f => !decide (f ∈ e :: seen)) =
        ((Edit.insertions rest).filter fun f => !decide (f ∈ seen)).filter fun f => !f == e := by
      rw [List.filter_filter]
      apply List.filter_congr
      intro f _
      simp only [List.mem_cons, Bool.decide_or, Bool.not_or]
      rfl
    rw [Edit.insertions_cons_of_eq hkind, ih, Edit.insertions_cons_of_eq hkind,
      List.filter_cons_of_pos (by simp [hseen]), List.eraseDups_cons, hfilter]
  | case4 seen e rest hkind ih =>
    rw [Edit.insertions_cons_of_ne hkind, ih, Edit.insertions_cons_of_ne hkind]

end Report

/-! ## Section 3: The edits of one run -/

namespace Rule

/-- The flagged bindings of a tree with room for a declaration at the end of its root. -/
def fixable (rule : Rule) (t : ElementTree) : List Site :=
  (rule.settings.sites t).filter fun x => noFix? t.root.span x.binding.span = none

/-- The references to declare, each once and in the order of its first occurrence. -/
def declared (rule : Rule) (t : ElementTree) : List Reference :=
  ((rule.fixable t).map (·.reference)).eraseDups

variable {rule : Rule} {t : ElementTree}

theorem mem_fixable_iff {x : Site} :
    x ∈ rule.fixable t ↔ x ∈ rule.settings.sites t ∧ noFix? t.root.span x.binding.span = none := by
  rw [fixable, List.mem_filter, decide_eq_true_iff]

theorem nodup_declared (rule : Rule) (t : ElementTree) : (rule.declared t).Nodup :=
  nodup_eraseDups _

theorem mem_declared_iff {r : Reference} :
    r ∈ rule.declared t ↔ ∃ x ∈ rule.fixable t, x.reference = r := by
  rw [declared, List.mem_eraseDups, List.mem_map]

/-- The reference of a site is read off the binding's expression. -/
theorem reads_of_mem_fixable {x : Site} (h : x ∈ rule.fixable t) :
    ∃ lead before after remainder,
      Reference.Reads x.binding.expression.toList x.reference lead before after remainder := by
  obtain ⟨-, -, hx⟩ := Settings.mem_sites_iff.mp (mem_fixable_iff.mp h).1
  exact Reference.ofExpression?_reads (Settings.site?_eq_some_iff.mp hx).1

/-- All sites of a linked tree have the edits for its root. -/
theorem siteEdits_eq (hl : Linked t.elements) {x : Site} (hx : x ∈ rule.settings.sites t) :
    rule.siteEdits t x = if noFix? t.root.span x.binding.span = none then
      some (rule.fixEdits t.root.span x.binding x.reference) else none := by
  have hlt : x.element < t.size :=
    (ElementTree.mem_walk_iff hl).mp (Settings.mem_sites_iff.mp hx).1
  rw [siteEdits, rootSpan_eq hl hlt]

end Rule

namespace Report

variable {rule : Rule} {t : ElementTree} {found : List Diagnostic} {a : Audit}
  {model : String} {source : Option String}

/-- The fixable findings of a run are at the fixable sites, and have their edits. -/
theorem fixes_of_run (hl : Linked t.elements)
    (h : (({} : Audit).register rule).run t = .ok (found, a)) :
    found.filterMap (fun d => d.fix.map fun f => (d.location, f.edits)) =
      (rule.fixable t).map fun x =>
        (x.binding.span, rule.fixEdits t.root.span x.binding x.reference) := by
  obtain ⟨found', hfound, h⟩ := Outcome.bind_eq_ok_iff.mp h
  cases h
  have houtline := Audit.outline_findings hfound
  -- location and edits are all that the outline keeps
  have hleft : found.filterMap (fun d => d.fix.map fun f => (d.location, f.edits)) =
      (found.map Rule.outline).filterMap fun o => o.2.map fun edits => (o.1, edits) := by
    rw [List.filterMap_map]
    apply List.filterMap_congr
    intro d _
    simp only [Rule.outline, Function.comp_apply, Option.map_map]
    rfl
  rw [hleft, houtline, List.filterMap_map, Rule.fixable, ← List.filterMap_eq_map,
    List.filterMap_filter]
  apply List.filterMap_congr
  intro x hx
  simp only [Function.comp_apply, Rule.siteEdits_eq hl hx, decide_eq_true_eq]
  split <;> rfl

/-- The findings of a run with a fix are at the fixable sites. -/
theorem locations_of_run (hl : Linked t.elements)
    (h : (({} : Audit).register rule).run t = .ok (found, a)) :
    found.filterMap (fun d => d.fix.map fun _ => d.location) =
      (rule.fixable t).map (·.binding.span) := by
  have hlocations := congrArg (List.map Prod.fst) (fixes_of_run hl h)
  rw [List.map_filterMap, List.map_map] at hlocations
  simp only [Option.map_map] at hlocations
  exact hlocations

/-- The edits of all fixes of a run, before any is dropped. -/
private theorem flatMap_fixes (hl : Linked t.elements)
    (h : (({} : Audit).register rule).run t = .ok (found, a)) :
    (fixes ⟨model, source, found⟩).flatMap (·.edits) =
      (rule.fixable t).flatMap fun x => rule.fixEdits t.root.span x.binding x.reference := by
  have hedits : (fixes ⟨model, source, found⟩).map (·.edits) =
      (found.filterMap fun d => d.fix.map fun f => (d.location, f.edits)).map (·.2) := by
    rw [fixes, List.map_filterMap, List.map_filterMap]
    apply List.filterMap_congr
    intro d _
    rw [Option.map_map]
    rfl
  rw [List.flatMap_def, hedits, fixes_of_run hl h, List.map_map, List.flatMap_def]
  rfl

/-- **Each fixable site is replaced**, in document order. -/
theorem replacements_edits (hl : Linked t.elements)
    (h : (({} : Audit).register rule).run t = .ok (found, a)) :
    Edit.replacements (edits ⟨model, source, found⟩) = (rule.fixable t).map fun x =>
      Edit.replacement x.binding.span (rule.aliasName x.reference) (some x.binding.expression) := by
  rw [edits, replacements_dropRepeated, flatMap_fixes hl h, Edit.replacements, List.filter_flatMap,
    List.map_eq_flatMap]
  rfl

/-- **Each reference is declared once**, in the order of first occurrence: the declarations of two
references are told apart by their text. -/
theorem insertions_edits (hl : Linked t.elements)
    (h : (({} : Audit).register rule).run t = .ok (found, a)) :
    Edit.insertions (edits ⟨model, source, found⟩) = (rule.declared t).map fun r =>
      Edit.insertion (Rule.insertionPoint t.root.span) (rule.declaration r) := by
  have hinsertions : Edit.insertions ((rule.fixable t).flatMap fun x =>
      rule.fixEdits t.root.span x.binding x.reference) =
      ((rule.fixable t).map (·.reference)).map fun r =>
        Edit.insertion (Rule.insertionPoint t.root.span) (rule.declaration r) := by
    rw [Edit.insertions, List.filter_flatMap, List.map_map, List.map_eq_flatMap]
    rfl
  -- equal insertions have equal declarations, hence equal references
  have hinj : ∀ r ∈ (rule.fixable t).map (·.reference), ∀ s ∈ (rule.fixable t).map (·.reference),
      Edit.insertion (Rule.insertionPoint t.root.span) (rule.declaration r) =
        Edit.insertion (Rule.insertionPoint t.root.span) (rule.declaration s) → r = s := by
    intro r hr s _ heq
    obtain ⟨x, hx, rfl⟩ := List.mem_map.mp hr
    obtain ⟨_, _, _, _, hreads⟩ := Rule.reads_of_mem_fixable hx
    exact (Rule.declaration_eq_iff hreads.object_identifier hreads.property_identifier).mp
      (congrArg Edit.text heq)
  rw [edits, insertions_dropRepeated, flatMap_fixes hl h, hinsertions, Rule.declared,
    ← eraseDups_map hinj]
  simp

/-- The edits of a run are its declarations and its replacements. -/
theorem mem_edits_iff (hl : Linked t.elements)
    (h : (({} : Audit).register rule).run t = .ok (found, a)) {e : Edit} :
    e ∈ edits ⟨model, source, found⟩ ↔
      (∃ r ∈ rule.declared t,
        e = Edit.insertion (Rule.insertionPoint t.root.span) (rule.declaration r)) ∨
      ∃ x ∈ rule.fixable t, e = Edit.replacement x.binding.span (rule.aliasName x.reference)
        (some x.binding.expression) := by
  have hkinds : e ∈ edits ⟨model, source, found⟩ ↔
      e ∈ Edit.insertions (edits ⟨model, source, found⟩) ∨
        e ∈ Edit.replacements (edits ⟨model, source, found⟩) := by
    rw [Edit.insertions, Edit.replacements, List.mem_filter, List.mem_filter, ← and_or_left]
    cases e.kind <;> simp
  rw [hkinds, insertions_edits hl h, replacements_edits hl h, List.mem_map, List.mem_map]
  simp only [eq_comm]

end Report

end BindingAudit
