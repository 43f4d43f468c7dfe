import BindingAudit.Proofs.Rule.Reapplication

/-!
# Where the declarations end up

The place of the declarations is computed from the span of the root alone, and the checks only ask
whether that place is in the text.  So a root whose span ends one character beyond the text passes,
and its declarations come after everything else.  `repair_places_declarations` tells the two cases
apart: a root that ends in the text has its declarations in front of its last character, and a root
that does not ends one character beyond the text and has them at the end of it.
-/

namespace BindingAudit

namespace Rule

/-! ## Section 1: The text around the block -/

/-- What an offset contributes apart from the block: the alias of a fixable binding that starts
there, and the character itself unless such a binding covers it. -/
def reboundAt (rule : Rule) (t : ElementTree) (text : List Char) (k : Nat) : List Char :=
  ((rule.fixable t).filter fun x => x.binding.span.offset == (k : Int)).flatMap
      (fun x => (rule.aliasName x.reference).toList) ++
    if (rule.fixable t).any fun x =>
      x.binding.span.offset ≤ (k : Int) && (k : Int) < x.binding.span.stop
    then [] else text[k]?.toList

/-- A stretch of the text with each fixable binding bound to its alias, and nothing declared. -/
def rebound (rule : Rule) (t : ElementTree) (text : List Char) (start stop : Nat) : List Char :=
  (List.range' start (stop - start)).flatMap (rule.reboundAt t text)

variable {rule : Rule} {t : ElementTree} {text : List Char} {p : Nat}

theorem rewritten_eq (rule : Rule) (t : ElementTree) (text : List Char) (k : Nat) :
    rule.rewritten t text k =
      (if (k : Int) = insertionPoint t.root.span then rule.block t else []) ++
        rule.reboundAt t text k :=
  rfl

theorem rewritten_of_ne {k : Nat} (hp : (p : Int) = insertionPoint t.root.span) (hk : k ≠ p) :
    rule.rewritten t text k = rule.reboundAt t text k := by
  rw [rewritten_eq, if_neg (by omega), List.nil_append]

/-- The block stands at its place, between the two stretches of the text that it parts. -/
theorem flatMap_rewritten (hp : (p : Int) = insertionPoint t.root.span) (hsize : p ≤ text.length) :
    (List.range (text.length + 1)).flatMap (rule.rewritten t text) =
      rule.rebound t text 0 p ++ (rule.block t ++ rule.rebound t text p (text.length + 1)) := by
  have hfront : (List.range' 0 (p - 0)).flatMap (rule.rewritten t text) =
      rule.rebound t text 0 p := by
    refine List.flatMap_congr fun k hk => rewritten_of_ne hp ?_
    rw [List.mem_range'_1] at hk
    omega
  have hback : (List.range' (p + 1) (text.length - p)).flatMap (rule.rewritten t text) =
      (List.range' (p + 1) (text.length - p)).flatMap (rule.reboundAt t text) := by
    refine List.flatMap_congr fun k hk => rewritten_of_ne hp ?_
    rw [List.mem_range'_1] at hk
    omega
  have hcons : List.range' p (text.length + 1 - p) =
      p :: List.range' (p + 1) (text.length - p) := by
    rw [Nat.succ_sub hsize, List.range'_succ]
  have hparts : List.range (text.length + 1) =
      List.range' 0 (p - 0) ++ p :: List.range' (p + 1) (text.length - p) := by
    rw [← hcons, List.range_eq_range']
    exact Edit.range'_split (Nat.zero_le p) (Nat.le_succ_of_le hsize)
  rw [hparts, List.flatMap_append, hfront, List.flatMap_cons, hback, rewritten_eq, if_pos hp,
    List.append_assoc]
  congr 2
  rw [rebound, hcons, List.flatMap_cons]

/-- There is nothing behind the last character. -/
theorem reboundAt_length (hspans : ∀ x ∈ rule.fixable t,
    x.binding.span.offset < x.binding.span.stop ∧ x.binding.span.stop ≤ (text.length : Int)) :
    rule.reboundAt t text text.length = [] := by
  have hstart : (rule.fixable t).filter
      (fun x => x.binding.span.offset == (text.length : Int)) = [] := by
    refine List.filter_eq_nil_iff.mpr fun x hx => ?_
    have := hspans x hx
    simp only [beq_iff_eq]
    omega
  rw [reboundAt, hstart, List.flatMap_nil, List.nil_append, List.getElem?_eq_none (Nat.le_refl _)]
  exact ite_self _

theorem rebound_succ (hsize : p ≤ text.length) (hspans : ∀ x ∈ rule.fixable t,
    x.binding.span.offset < x.binding.span.stop ∧ x.binding.span.stop ≤ (text.length : Int)) :
    rule.rebound t text p (text.length + 1) = rule.rebound t text p text.length := by
  rw [rebound, Edit.range'_split hsize (Nat.le_succ _), List.flatMap_append, rebound]
  simp [reboundAt_length hspans]

/-- **What comes behind the block** is the character that stood at its place, or the alias of a
fixable binding that starts there: no fixable binding has the place inside. -/
theorem rebound_cons (rule : Rule) (hp : (p : Int) = insertionPoint t.root.span) {c : Char}
    (hc : text[p]? = some c) :
    (∃ following, rule.rebound t text p text.length = c :: following) ∨
      ∃ x ∈ rule.fixable t, x.binding.span.offset = (p : Int) ∧ ∃ following,
        rule.rebound t text p text.length = (rule.aliasName x.reference).toList ++ following := by
  obtain ⟨hlt, -⟩ := List.getElem?_eq_some_iff.mp hc
  obtain ⟨following, hfollowing⟩ : ∃ following, rule.rebound t text p text.length =
      rule.reboundAt t text p ++ following := by
    obtain ⟨n, hn⟩ : ∃ n, text.length - p = n + 1 := ⟨text.length - p - 1, by omega⟩
    exact ⟨_, by rw [rebound, hn, List.range'_succ, List.flatMap_cons]⟩
  rw [hfollowing, reboundAt]
  cases hstart : (rule.fixable t).filter fun x => x.binding.span.offset == (p : Int) with
  | cons x rest =>
    have hx : x ∈ (rule.fixable t).filter fun x => x.binding.span.offset == (p : Int) := by
      rw [hstart]
      exact List.mem_cons_self ..
    obtain ⟨hmem, hoffset⟩ := List.mem_filter.mp hx
    refine Or.inr ⟨x, hmem, beq_iff_eq.mp hoffset, ?_⟩
    rw [List.flatMap_cons, List.append_assoc, List.append_assoc]
    exact ⟨_, rfl⟩
  | nil =>
    -- a binding that covers the place starts there, as the place is not inside
    have hcovered : ((rule.fixable t).any fun x =>
        x.binding.span.offset ≤ (p : Int) && (p : Int) < x.binding.span.stop) = false := by
      rw [List.any_eq_false]
      intro x hx hcover
      have hinside := not_enclosesPoint_of_mem_fixable hx
      have hother := List.filter_eq_nil_iff.mp hstart x hx
      simp only [Span.enclosesPoint, Bool.and_eq_true, Bool.and_eq_false_iff, decide_eq_true_eq,
        decide_eq_false_iff_not, beq_iff_eq] at hcover hinside hother
      omega
    rw [hcovered, hc]
    exact Or.inl ⟨following, rfl⟩

theorem rebound_self (rule : Rule) (t : ElementTree) (text : List Char) (k : Nat) :
    rule.rebound t text k k = [] := by
  rw [rebound, Nat.sub_self]
  rfl

/-- Something comes behind the block if its place is in front of a character. -/
theorem rebound_ne_nil (hp : (p : Int) = insertionPoint t.root.span) (hlt : p < text.length) :
    rule.rebound t text p text.length ≠ [] := by
  intro hnil
  rcases rebound_cons rule hp (List.getElem?_eq_getElem hlt) with
    ⟨following, h⟩ | ⟨x, -, -, following, h⟩
  · rw [h] at hnil
    cases hnil
  · rw [h] at hnil
    have halias := length_object_lt_aliasName rule x.reference
    rw [(List.append_eq_nil_iff.mp hnil).1] at halias
    exact Nat.not_lt_zero _ halias

/-- There is a declaration if there is anything to fix. -/
theorem block_ne_nil (hne : rule.fixable t ≠ []) : rule.block t ≠ [] := by
  obtain ⟨x, hx⟩ := List.exists_mem_of_ne_nil _ hne
  intro hnil
  have hline := List.flatMap_eq_nil_iff.mp hnil x.reference (mem_declared_iff.mpr ⟨x, hx, rfl⟩)
  simp at hline

end Rule

/-! ## Section 2: The two cases -/

/-- **Where the declarations end up**: read a model, run the rule on its tree, and suppose there is
a finding with a fix and the report is applied to its source, on trial or not.  Then the root is not
empty and ends at most one character beyond the text.  The new text is the old one with the fixable
bindings bound to their aliases, and with the declarations in one place.

* If the root ends in the text, that place is in front of the root's last character, which still
  follows, unless a fixable binding starts there: then the alias follows that is put for it.
* If the root does not end in the text, it ends one character beyond, and the declarations are the
  end of the new text. -/
theorem repair_places_declarations {d : Document} {root : Nat} {t : ElementTree} {rule : Rule}
    {found : List Diagnostic} {a : Audit} {model path : String} {w : Workspace} {trial : Bool}
    {first : Repair} (ht : Model.buildTree d root = .ok t)
    (hrun : (({} : Audit).register rule).run t = .ok (found, a))
    (hfix : ∃ x ∈ found, x.fixable = true)
    (hrepair : Repair.run w ⟨model, some path, found⟩ trial = .ok first) :
    ∃ (text new : String) (p : Nat), w.readText path = .ok text ∧
      first.outcome.newText = some new ∧
      0 ≤ t.root.span.offset ∧ 0 < t.root.span.length ∧
      t.root.span.offset + t.root.span.length = p + 1 ∧ p ≤ text.toList.length ∧
      rule.block t ≠ [] ∧
      new.toList = rule.rebound t text.toList 0 p ++
        (rule.block t ++ rule.rebound t text.toList p text.toList.length) ∧
      (t.root.span.offset + t.root.span.length ≤ text.toList.length →
        rule.rebound t text.toList p text.toList.length ≠ [] ∧
        ∃ c, text.toList[p]? = some c ∧
          ((∃ following, rule.rebound t text.toList p text.toList.length = c :: following) ∨
            ∃ x ∈ rule.fixable t, x.binding.span.offset = (p : Int) ∧ ∃ following,
              rule.rebound t text.toList p text.toList.length =
                (rule.aliasName x.reference).toList ++ following)) ∧
      (¬ t.root.span.offset + t.root.span.length ≤ text.toList.length →
        t.root.span.offset + t.root.span.length = text.toList.length + 1 ∧
          new.toList = rule.rebound t text.toList 0 text.toList.length ++ rule.block t) := by
  have hl := Model.buildTree_loaded ht
  have hne : rule.fixable t ≠ [] := (Rule.fixable_ne_nil_iff hl.linked hrun).mpr hfix
  obtain ⟨new, hnew, -, houtcome⟩ := Repair.newText_of_run
    (r := ⟨model, some path, found⟩) (Report.fixes_ne_nil_iff.mpr hfix) rfl hrepair
  obtain ⟨text, hread, happly⟩ := Repair.newText_eq_ok_iff.mp hnew
  obtain ⟨happ, hresult⟩ := Edit.applyToChars_eq_ok_iff.mp (Edit.apply_eq_ok_iff.mp happly)
  -- the root is not empty, and the place in front of its last character is in the text
  obtain ⟨hnonneg, hle⟩ := Rule.insertionPoint_of_applicable hl hrun happ hne
  have hspans := (Rule.spans_of_applicable hl hrun happ).1
  obtain ⟨x, hx⟩ := List.exists_mem_of_ne_nil _ hne
  have hlength := Rule.rootLength_pos_of_mem_fixable hx
  have hoffset : 0 ≤ t.root.span.offset :=
    (hl.span_nonneg (Array.getElem?_eq_getElem t.nonempty : t.elements[0]? = some t.root)).1
  obtain ⟨p, hp⟩ := Int.eq_ofNat_of_zero_le hnonneg
  have hend : t.root.span.offset + t.root.span.length = p + 1 := by
    rw [← hp, Rule.insertionPoint]
    omega
  have hsize : p ≤ text.toList.length := by omega
  have htext : new.toList = rule.rebound t text.toList 0 p ++
      (rule.block t ++ rule.rebound t text.toList p text.toList.length) := by
    obtain ⟨hrender, hcells⟩ := Edit.foldl_inOrder happ (Rule.proper_edits hl hrun happ)
    rw [hresult, hrender, hcells, Rule.cell_edits hl.linked hrun,
      Rule.flatMap_rewritten hp.symm hsize, Rule.rebound_succ hsize fun x hx => (hspans x hx).2]
  refine ⟨text, new, p, hread, houtcome, hoffset, hlength, hend, hsize, Rule.block_ne_nil hne,
    htext, fun hinside => ?_, fun hbeyond => ?_⟩
  · have hlt : p < text.toList.length := by omega
    have hlast := List.getElem?_eq_getElem hlt
    exact ⟨Rule.rebound_ne_nil hp.symm hlt, _, hlast, Rule.rebound_cons rule hp.symm hlast⟩
  · obtain rfl : p = text.toList.length := by omega
    refine ⟨hend, ?_⟩
    rw [htext, Rule.rebound_self, List.append_nil]

/-- A model of `I(Q()J(t.a))`, where the timer `Q` has the id `t`, with a root of the given
length. -/
def Model.oneRead (length : Int) : Data :=
  .record [("type", .text "Item"), ("span", .list [.int 0, .int length]), ("children", .list [
    .record [("type", .text "QTimer"), ("id", .text "t"), ("span", .list [.int 2, .int 3])],
    .record [("type", .text "Item"), ("span", .list [.int 5, .int 6]), ("bindings", .list [
      .record [("property", .text "x"), ("expression", .text "t.a"),
        ("span", .list [.int 7, .int 3])]])]])]

/-- The tree of that model. -/
def ElementTree.oneRead (length : Int) : ElementTree :=
  ⟨#[{ typeName := "Item", span := ⟨0, length⟩, children := [1, 2] },
    { typeName := "QTimer", span := ⟨2, 3⟩, id := some "t", parent := some 0 },
    { typeName := "Item", span := ⟨5, 6⟩, parent := some 0, bindings :=
      [⟨"x", "t.a", ⟨7, 3⟩, 2⟩] }], Nat.zero_lt_succ _⟩

/-- The source of that model. -/
def Workspace.oneRead : Workspace where
  base := "/w"
  stored := [(["Main.qml"], .file (Text.Utf8.encode "I(Q()J(t.a))".toList))]

/-- A root that ends with the text has the declaration in front of its last bracket. -/
theorem repair_oneRead_places_declarations :
    Model.buildTree (Document.ofData (Model.oneRead 12)) (Document.ofData (Model.oneRead 12)).top =
        .ok (.oneRead 12) ∧
      ∃ found a first, (({} : Audit).register .standard).run (.oneRead 12) = .ok (found, a) ∧
        (∃ d ∈ found, d.fixable = true) ∧
        Repair.run .oneRead ⟨"", some "Main.qml", found⟩ false = .ok first ∧
        first.outcome.newText = some "I(Q()J(als_t_a)\n    property alias als_t_a: t.a)" ∧
        ∃ (text new : String) (p : Nat), Workspace.oneRead.readText "Main.qml" = .ok text ∧
          first.outcome.newText = some new ∧ (12 : Int) = p + 1 ∧ p ≤ text.toList.length ∧
          new.toList = Rule.standard.rebound (.oneRead 12) text.toList 0 p ++
            (Rule.standard.block (.oneRead 12) ++
              Rule.standard.rebound (.oneRead 12) text.toList p text.toList.length) := by
  have htree : Model.buildTree (Document.ofData (Model.oneRead 12))
      (Document.ofData (Model.oneRead 12)).top = .ok (.oneRead 12) := by decide +kernel
  have hall : (fun p => (p.1.any Diagnostic.fixable,
      (·.outcome.newText) <$> Repair.run .oneRead ⟨"", some "Main.qml", p.1⟩ false)) <$>
        (({} : Audit).register .standard).run (.oneRead 12) =
      .ok (true, .ok (some "I(Q()J(als_t_a)\n    property alias als_t_a: t.a)")) := by
    decide +kernel
  obtain ⟨⟨found, a⟩, hrun, hall⟩ := Outcome.map_eq_ok_iff.mp hall
  obtain ⟨hany, hrepair⟩ := Prod.mk.inj hall
  obtain ⟨first, hrepair, hnew⟩ := Outcome.map_eq_ok_iff.mp hrepair
  have hfix := List.any_eq_true.mp hany
  obtain ⟨text, new, p, hread, houtcome, -, -, hend, hsize, -, htext, -, -⟩ :=
    repair_places_declarations htree hrun hfix hrepair
  exact ⟨htree, found, a, first, hrun, hfix, hrepair, hnew, text, new, p, hread, houtcome, hend,
    hsize, htext⟩

/-- A root one character longer than the text is accepted, and the declaration comes behind the last
bracket. -/
theorem repair_longRoot_places_declaration_last :
    Model.buildTree (Document.ofData (Model.oneRead 13)) (Document.ofData (Model.oneRead 13)).top =
        .ok (.oneRead 13) ∧
      ∃ found a first, (({} : Audit).register .standard).run (.oneRead 13) = .ok (found, a) ∧
        (∃ d ∈ found, d.fixable = true) ∧
        Repair.run .oneRead ⟨"", some "Main.qml", found⟩ false = .ok first ∧
        Workspace.oneRead.readText "Main.qml" = .ok "I(Q()J(t.a))" ∧
        ¬ (ElementTree.oneRead 13).root.span.offset + (ElementTree.oneRead 13).root.span.length ≤
          ("I(Q()J(t.a))".toList.length : Int) ∧
        first.outcome.newText = some "I(Q()J(als_t_a))\n    property alias als_t_a: t.a" := by
  have htree : Model.buildTree (Document.ofData (Model.oneRead 13))
      (Document.ofData (Model.oneRead 13)).top = .ok (.oneRead 13) := by decide +kernel
  have hall : (fun p => (p.1.any Diagnostic.fixable,
      (·.outcome.newText) <$> Repair.run .oneRead ⟨"", some "Main.qml", p.1⟩ false)) <$>
        (({} : Audit).register .standard).run (.oneRead 13) =
      .ok (true, .ok (some "I(Q()J(als_t_a))\n    property alias als_t_a: t.a")) := by
    decide +kernel
  obtain ⟨⟨found, a⟩, hrun, hall⟩ := Outcome.map_eq_ok_iff.mp hall
  obtain ⟨hany, hrepair⟩ := Prod.mk.inj hall
  obtain ⟨first, hrepair, hnew⟩ := Outcome.map_eq_ok_iff.mp hrepair
  exact ⟨htree, found, a, first, hrun, List.any_eq_true.mp hany, hrepair, by decide +kernel,
    by decide, hnew⟩

end BindingAudit
