import BindingAudit.Proofs.Edit.Substitution
import BindingAudit.Proofs.Model.Reading
import BindingAudit.Proofs.Report.Edits

/-!
# The text after all fixes

Read a model, run the rule on its tree, and apply the edits of the report to a text.
`Rule.rewritten` says offset by offset what the text is then: in front of the root's last character
stands the block of declarations, each fixable binding is bound to its alias, and every other
character is where it was.  Section 3 puts the stages together.
-/

namespace BindingAudit

/-! ## Section 1: The text offset by offset -/

/-- The cell of an offset, told by the two kinds of edits. -/
theorem Edit.cell_eq (text : List Char) (edits : List Edit) (k : Nat) :
    cell text edits k =
      ((insertions edits).filter fun e => e.span.offset == (k : Int)).flatMap (·.text.toList) ++
        (((replacements edits).filter fun e => e.span.offset == (k : Int)).flatMap
            (·.text.toList) ++
          if (replacements edits).any fun e => e.span.offset ≤ (k : Int) && (k : Int) < e.span.stop
          then [] else text[k]?.toList) := by
  have hins : edits.filter (insertsAt k) =
      (insertions edits).filter fun e => e.span.offset == (k : Int) := by
    rw [insertions, List.filter_filter]
    exact List.filter_congr fun e _ => Bool.and_comm ..
  have hrep : edits.filter (replacesAt k) =
      (replacements edits).filter fun e => e.span.offset == (k : Int) := by
    rw [replacements, List.filter_filter]
    exact List.filter_congr fun e _ => Bool.and_comm ..
  have hcov : edits.any (covers k) =
      (replacements edits).any fun e => e.span.offset ≤ (k : Int) && (k : Int) < e.span.stop := by
    rw [replacements, List.any_filter]
    congr 1
    funext e
    exact Bool.and_assoc ..
  rw [cell, hins, hrep, hcov]

namespace Rule

/-- The declarations to add, one line for each reference. -/
def block (rule : Rule) (t : ElementTree) : List Char :=
  (rule.declared t).flatMap fun r =>
    ("\n" ++ rule.settings.aliasIndent ++ rule.settings.aliasKeyword ++ " " ++ rule.aliasName r
      ++ ": " ++ r.object ++ "." ++ r.property).toList

/-- What an offset of a text contributes to the text after all fixes: the block in front of the
root's last character, the alias of a fixable binding that starts there, and the character itself
unless such a binding covers it. -/
def rewritten (rule : Rule) (t : ElementTree) (text : List Char) (k : Nat) : List Char :=
  (if (k : Int) = t.root.span.offset + t.root.span.length - 1 then rule.block t else []) ++
    (((rule.fixable t).filter fun x => x.binding.span.offset == (k : Int)).flatMap
        (fun x => (rule.aliasName x.reference).toList) ++
      if (rule.fixable t).any fun x =>
        x.binding.span.offset ≤ (k : Int) && (k : Int) < x.binding.span.stop
      then [] else text[k]?.toList)

variable {rule : Rule} {t : ElementTree} {found : List Diagnostic} {a : Audit}
  {model : String} {source : Option String}

/-- The insertions at an offset add up to the block, or to nothing. -/
private theorem insertions_at (rule : Rule) (t : ElementTree) (k : Nat) :
    (((rule.declared t).map fun r => Edit.insertion (insertionPoint t.root.span)
        (rule.declaration r)).filter fun e => e.span.offset == (k : Int)).flatMap
        (·.text.toList) =
      if (k : Int) = t.root.span.offset + t.root.span.length - 1 then rule.block t else [] := by
  by_cases hk : (k : Int) = t.root.span.offset + t.root.span.length - 1
  -- all insertions are at one offset, so they are taken together or not at all
  · rw [if_pos hk, List.filter_eq_self.mpr, List.flatMap_map, block]
    · congr 1
      funext r
      simp [Edit.insertion, declaration, Reference.target]
    · intro e he
      obtain ⟨r, -, rfl⟩ := List.mem_map.mp he
      simp [Edit.insertion, insertionPoint, hk]
  · rw [if_neg hk, List.filter_eq_nil_iff.mpr, List.flatMap_nil]
    intro e he
    obtain ⟨r, -, rfl⟩ := List.mem_map.mp he
    simp only [Edit.insertion, insertionPoint, beq_iff_eq]
    exact fun heq => hk heq.symm

/-- The cells of the edits of a run are the rewritten text. -/
theorem cell_edits (hl : Linked t.elements)
    (h : (({} : Audit).register rule).run t = .ok (found, a)) (text : List Char) :
    Edit.cell text (Report.edits ⟨model, source, found⟩) = rule.rewritten t text := by
  funext k
  rw [Edit.cell_eq, Report.insertions_edits hl h, Report.replacements_edits hl h, insertions_at,
    rewritten, List.filter_map, List.flatMap_map, List.any_map]
  rfl

/-! ## Section 2: What the checks say about the sites -/

theorem nonneg_of_mem_fixable (hl : Loaded t.elements) {x : Site} (hx : x ∈ rule.fixable t) :
    x.binding.span.Nonneg := by
  obtain ⟨-, hb, -⟩ := Settings.mem_sites_iff.mp (mem_fixable_iff.mp hx).1
  unfold ElementTree.bindings at hb
  cases he : t.get? x.element with
  | none =>
    rw [he] at hb
    cases hb
  | some e =>
    rw [he] at hb
    exact hl.binding_nonneg he hb

/-- The replacement at a fixable site expects a text that is not blank. -/
theorem shaped_of_mem_fixable (hl : Loaded t.elements) {x : Site} (hx : x ∈ rule.fixable t) :
    (Edit.replacement x.binding.span (rule.aliasName x.reference)
      (some x.binding.expression)).Shaped := by
  have hnonneg := nonneg_of_mem_fixable hl hx
  obtain ⟨_, _, _, _, hreads⟩ := reads_of_mem_fixable hx
  exact ⟨hnonneg.1, hnonneg.2, Or.inr ⟨_, rfl, hreads.exists_not_blank⟩⟩

/-- The edits of a run on a loaded tree have spans that suit their kinds. -/
theorem proper_edits (hl : Loaded t.elements)
    (h : (({} : Audit).register rule).run t = .ok (found, a)) {text : List Char}
    (happ : Edit.Applicable text (Report.edits ⟨model, source, found⟩)) :
    ∀ e ∈ Report.edits ⟨model, source, found⟩, e.Proper := by
  intro e he
  rcases (Report.mem_edits_iff hl.linked h).mp he with ⟨r, -, rfl⟩ | ⟨x, hx, rfl⟩
  · simp [Edit.Proper, Edit.insertion, Span.stop]
  -- what the replacement expects is found, so there is something to be found
  · exact (shaped_of_mem_fixable hl hx).proper (happ.fitting _ he)

/-- The fixable bindings lie in the text, hold at least a character each, and do not overlap. -/
theorem spans_of_applicable (hl : Loaded t.elements)
    (h : (({} : Audit).register rule).run t = .ok (found, a)) {text : List Char}
    (happ : Edit.Applicable text (Report.edits ⟨model, source, found⟩)) :
    (∀ x ∈ rule.fixable t, 0 ≤ x.binding.span.offset ∧
      x.binding.span.offset < x.binding.span.stop ∧
      x.binding.span.stop ≤ (text.length : Int)) ∧
    (rule.fixable t).Pairwise fun x y =>
      x.binding.span.stop ≤ y.binding.span.offset ∨
        y.binding.span.stop ≤ x.binding.span.offset := by
  constructor
  · intro x hx
    have hedit : Edit.replacement x.binding.span (rule.aliasName x.reference)
        (some x.binding.expression) ∈ Report.edits ⟨model, source, found⟩ :=
      (Report.mem_edits_iff hl.linked h).mpr (Or.inr ⟨x, hx, rfl⟩)
    have hin := happ.inside _ hedit
    exact ⟨hin.1, (proper_edits hl h happ _ hedit).of_replacement rfl, hin.2⟩
  · have hapart := happ.apart
    rw [Report.replacements_edits hl.linked h, List.pairwise_map] at hapart
    exact hapart.imp fun hxy => Edit.clear_of_competes hxy

/-- The block goes inside the text, if there is anything to declare. -/
theorem insertionPoint_of_applicable (hl : Loaded t.elements)
    (h : (({} : Audit).register rule).run t = .ok (found, a)) {text : List Char}
    (happ : Edit.Applicable text (Report.edits ⟨model, source, found⟩))
    (hne : rule.fixable t ≠ []) :
    0 ≤ insertionPoint t.root.span ∧ insertionPoint t.root.span ≤ (text.length : Int) := by
  obtain ⟨x, hx⟩ := List.exists_mem_of_ne_nil _ hne
  have hmem : Edit.insertion (insertionPoint t.root.span) (rule.declaration x.reference) ∈
      Report.edits ⟨model, source, found⟩ :=
    (Report.mem_edits_iff hl.linked h).mpr
      (Or.inl ⟨x.reference, mem_declared_iff.mpr ⟨x, hx, rfl⟩, rfl⟩)
  have hin := happ.inside _ hmem
  simpa [Edit.insertion, Span.stop] using hin

end Rule

/-! ## Section 3: From the model to the text -/

/-- **The whole rewrite**: read a model, run the rule on its tree and apply the edits of the report
to a text.  The sites are met in document order, and the findings with a fix are those at fixable
sites; these lie in the text, apart from each other, and so does the place of the block.  Each
reference among them is declared once.  The outcome is the text with the block in its place, each
fixable binding replaced by its alias, and everything else as it was. -/
theorem apply_edits_of_run {d : Document} {root : Nat} {t : ElementTree} {rule : Rule}
    {found : List Diagnostic} {a : Audit} {model : String} {source : Option String}
    {text result : String} (ht : Model.buildTree d root = .ok t)
    (hrun : (({} : Audit).register rule).run t = .ok (found, a))
    (happly : Edit.apply text (Report.edits ⟨model, source, found⟩) = .ok result) :
    t.walk = List.range t.size ∧
    found.filterMap (fun d => d.fix.map fun _ => d.location) =
      (rule.fixable t).map (·.binding.span) ∧
    (∀ x ∈ rule.fixable t, 0 ≤ x.binding.span.offset ∧
      x.binding.span.offset < x.binding.span.stop ∧
      x.binding.span.stop ≤ (text.toList.length : Int)) ∧
    ((rule.fixable t).Pairwise fun x y =>
      x.binding.span.stop ≤ y.binding.span.offset ∨
        y.binding.span.stop ≤ x.binding.span.offset) ∧
    (rule.fixable t ≠ [] → 0 ≤ t.root.span.offset + t.root.span.length - 1 ∧
      t.root.span.offset + t.root.span.length - 1 ≤ (text.toList.length : Int)) ∧
    ((rule.declared t).Nodup ∧
      ∀ r, r ∈ rule.declared t ↔ ∃ x ∈ rule.fixable t, x.reference = r) ∧
    result.toList =
      (List.range (text.toList.length + 1)).flatMap (rule.rewritten t text.toList) := by
  have hl := Model.buildTree_loaded ht
  -- the edits were applied, so they passed the checks
  obtain ⟨happ, hresult⟩ :=
    Edit.applyToChars_eq_ok_iff.mp (Edit.apply_eq_ok_iff.mp happly)
  obtain ⟨hspans, hdisjoint⟩ := Rule.spans_of_applicable hl hrun happ
  obtain ⟨hrender, hcells⟩ := Edit.foldl_inOrder happ (Rule.proper_edits hl hrun happ)
  refine ⟨ElementTree.walk_eq_range hl.linked hl.preordered, Report.locations_of_run hl.linked hrun,
    hspans, hdisjoint, Rule.insertionPoint_of_applicable hl hrun happ,
    ⟨Rule.nodup_declared rule t, fun r => Rule.mem_declared_iff⟩, ?_⟩
  rw [hresult, hrender, hcells, Rule.cell_edits hl.linked hrun]

/-- The model of `I(Q()J(x:t.a,y:t.b,z:t.a))`, where the timer `Q` has the id `t`. -/
def Model.threeReads : Data :=
  .record [("type", .text "Item"), ("span", .list [.int 0, .int 26]), ("children", .list [
    .record [("type", .text "QTimer"), ("id", .text "t"), ("span", .list [.int 2, .int 3])],
    .record [("type", .text "Item"), ("span", .list [.int 5, .int 20]), ("bindings", .list [
      .record [("property", .text "x"), ("expression", .text "t.a"),
        ("span", .list [.int 9, .int 3])],
      .record [("property", .text "y"), ("expression", .text "t.b"),
        ("span", .list [.int 15, .int 3])],
      .record [("property", .text "z"), ("expression", .text "t.a"),
        ("span", .list [.int 21, .int 3])]])]])]

/-- The tree of that model. -/
def ElementTree.threeReads : ElementTree :=
  ⟨#[{ typeName := "Item", span := ⟨0, 26⟩, children := [1, 2] },
    { typeName := "QTimer", span := ⟨2, 3⟩, id := some "t", parent := some 0 },
    { typeName := "Item", span := ⟨5, 20⟩, parent := some 0, bindings :=
      [⟨"x", "t.a", ⟨9, 3⟩, 2⟩, ⟨"y", "t.b", ⟨15, 3⟩, 2⟩, ⟨"z", "t.a", ⟨21, 3⟩, 2⟩] }], by decide⟩

/-- Three reads of two properties: two declarations in front of the last bracket, and three
replacements. -/
theorem apply_edits_of_threeReads :
    Model.buildTree (Document.ofData Model.threeReads) (Document.ofData Model.threeReads).top =
        .ok .threeReads ∧
      ∃ found a, (({} : Audit).register .standard).run .threeReads = .ok (found, a) ∧
        Edit.apply "I(Q()J(x:t.a,y:t.b,z:t.a))" (Report.edits ⟨"", none, found⟩) =
          .ok ("I(Q()J(x:als_t_a,y:als_t_b,z:als_t_a)\n    property alias als_t_a: t.a" ++
            "\n    property alias als_t_b: t.b)") ∧
        ("I(Q()J(x:als_t_a,y:als_t_b,z:als_t_a)\n    property alias als_t_a: t.a" ++
            "\n    property alias als_t_b: t.b)").toList =
          (List.range 27).flatMap
            (Rule.standard.rewritten .threeReads "I(Q()J(x:t.a,y:t.b,z:t.a))".toList) := by
  have htree : Model.buildTree (Document.ofData Model.threeReads)
      (Document.ofData Model.threeReads).top = .ok .threeReads := by decide +kernel
  have hall : (fun p => Edit.apply "I(Q()J(x:t.a,y:t.b,z:t.a))" (Report.edits ⟨"", none, p.1⟩)) <$>
      (({} : Audit).register .standard).run .threeReads =
        .ok (.ok ("I(Q()J(x:als_t_a,y:als_t_b,z:als_t_a)\n    property alias als_t_a: t.a" ++
          "\n    property alias als_t_b: t.b)")) := by decide +kernel
  obtain ⟨⟨found, a⟩, hrun, happly⟩ := Outcome.map_eq_ok_iff.mp hall
  obtain ⟨-, -, -, -, -, -, hresult⟩ := apply_edits_of_run htree hrun happly
  exact ⟨htree, found, a, hrun, happly, hresult⟩

end BindingAudit
