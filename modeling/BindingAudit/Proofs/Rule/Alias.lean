import BindingAudit.Proofs.Element.Preorder
import BindingAudit.Proofs.Reference.Grammar
import BindingAudit.Proofs.Rule.Findings

/-!
# Aliases and what they refer to

The name of an alias joins the parts of a reference by underscores, and underscores may stand in
the parts as well.  So a name does not determine its reference: it only determines it up to the
place where the two parts meet (`aliasName_eq_iff`).  A whole declaration does determine it, since
its target has a point in that place (`declaration_eq_iff`).

A reference in turn does not determine the object it means, because an inner scope may declare an
id again.  Two uses of one id mean the same element exactly if their declarations stand in one
scope (`declaration?_eq_iff`).
-/

namespace BindingAudit

/-! ## Section 1: Names and declarations -/

namespace Reference

/-- The second reference is the first with the start of its property moved to its object. -/
def Shifted (r s : Reference) : Prop :=
  ∃ m : String, s.object = r.object ++ "_" ++ m ∧ r.property = m ++ "_" ++ s.property

end Reference

/-- Two joined texts are equal exactly if their parts are, up to where they meet. -/
private theorem join_eq_iff {a b c d : List Char} :
    a ++ '_' :: b = c ++ '_' :: d ↔
      (a = c ∧ b = d) ∨ (∃ m, c = a ++ '_' :: m ∧ b = m ++ '_' :: d) ∨
        ∃ m, a = c ++ '_' :: m ∧ d = m ++ '_' :: b := by
  constructor
  · intro h
    -- one of the first parts starts with the other; what it has more is empty or goes on with an
    -- underscore
    rcases List.append_eq_append_iff.mp h with ⟨m, rfl, hm⟩ | ⟨m, rfl, hm⟩
    · cases m with
      | nil =>
        left
        simpa using hm
      | cons u m =>
        right
        left
        rw [List.cons_append, List.cons.injEq] at hm
        obtain ⟨rfl, rfl⟩ := hm
        exact ⟨m, rfl, rfl⟩
    · cases m with
      | nil =>
        left
        rw [List.nil_append, List.cons.injEq] at hm
        exact ⟨List.append_nil c, hm.2.symm⟩
      | cons u m =>
        right
        right
        rw [List.cons_append, List.cons.injEq] at hm
        obtain ⟨rfl, rfl⟩ := hm
        exact ⟨m, rfl, rfl⟩
  · rintro (⟨rfl, rfl⟩ | ⟨m, rfl, rfl⟩ | ⟨m, rfl, rfl⟩)
    · rfl
    · simp
    · simp

private theorem shifted_iff {r s : Reference} :
    r.Shifted s ↔ ∃ m : List Char, s.object.toList = r.object.toList ++ '_' :: m ∧
      r.property.toList = m ++ '_' :: s.property.toList := by
  constructor
  · rintro ⟨m, hobject, hproperty⟩
    refine ⟨m.toList, ?_, ?_⟩
    · rw [hobject]
      simp
    · rw [hproperty]
      simp
  · rintro ⟨m, hobject, hproperty⟩
    refine ⟨String.ofList m, ?_, ?_⟩
    · apply String.toList_injective
      rw [hobject]
      simp
    · apply String.toList_injective
      rw [hproperty]
      simp

private theorem reference_eq_iff {r s : Reference} :
    r = s ↔ r.object.toList = s.object.toList ∧ r.property.toList = s.property.toList := by
  cases r
  cases s
  simp [String.toList_inj]

namespace Rule

theorem toList_aliasName (rule : Rule) (r : Reference) :
    (rule.aliasName r).toList =
      rule.settings.aliasPrefix.toList ++ '_' :: (r.object.toList ++ '_' :: r.property.toList) := by
  simp [aliasName]

/-- **When two references share a name**: they are equal, or one is the other with the point moved
over to another underscore. -/
theorem aliasName_eq_iff {rule : Rule} {r s : Reference} :
    rule.aliasName r = rule.aliasName s ↔ r = s ∨ r.Shifted s ∨ s.Shifted r := by
  rw [← String.toList_inj, toList_aliasName, toList_aliasName, List.append_cancel_left_eq,
    List.cons.injEq, and_iff_right rfl, join_eq_iff, reference_eq_iff, shifted_iff, shifted_iff]

theorem toList_declaration (rule : Rule) (r : Reference) :
    (rule.declaration r).toList =
      ('\n' :: (rule.settings.aliasIndent.toList ++ (rule.settings.aliasKeyword.toList ++ ' ' ::
        (rule.settings.aliasPrefix.toList ++ ['_'])))) ++
      ((r.object.toList ++ '_' :: r.property.toList) ++ ':' ::
        (' ' :: (r.object.toList ++ '.' :: r.property.toList))) := by
  simp [declaration, aliasName, Reference.target]

/-- **A declaration determines its reference**, whatever the settings: the colon behind the common
start is followed by the target, and the point divides the target. -/
theorem declaration_eq_iff {rule : Rule} {r s : Reference}
    (hobject : IsIdentifier r.object.toList) (hproperty : IsIdentifier r.property.toList) :
    rule.declaration r = rule.declaration s ↔ r = s := by
  constructor
  · intro h
    -- the first colon behind the common start ends the name, as no identifier holds one
    have hname : ':' ∉ r.object.toList ++ '_' :: r.property.toList := by
      simp only [List.mem_append, List.mem_cons, not_or]
      exact ⟨hobject.not_mem (by decide), by decide, hproperty.not_mem (by decide)⟩
    have htarget : ':' ∉ ' ' :: (r.object.toList ++ '.' :: r.property.toList) := by
      simp only [List.mem_append, List.mem_cons, not_or]
      exact ⟨by decide, hobject.not_mem (by decide), by decide, hproperty.not_mem (by decide)⟩
    rw [← String.toList_inj, toList_declaration, toList_declaration, List.append_cancel_left_eq,
      List.append_cons_inj_of_notMem hname htarget] at h
    obtain ⟨-, -, h⟩ := h
    -- and the first point behind it divides the target
    rw [List.cons.injEq, List.append_cons_inj_of_notMem (hobject.not_mem (by decide))
      (hproperty.not_mem (by decide))] at h
    obtain ⟨-, heqObject, -, heqProperty⟩ := h
    exact reference_eq_iff.mpr ⟨heqObject, heqProperty⟩
  · rintro rfl
    rfl

end Rule

/-! ## Section 2: What an id means -/

namespace ElementTree

variable {t : ElementTree}

/-- A declaration declares the id it is found for. -/
theorem id?_of_declaration? {id : String} {i k : Nat} (h : t.declaration? id i = some k) :
    t.id? k = some id := by
  obtain ⟨p, -, hp⟩ := List.exists_of_findSome?_eq_some h
  simpa using List.find?_some hp

/-- A declaration is found as a child of the scope it stands in. -/
theorem childWithId?_of_declaration? (hl : Linked t.elements) {id : String} {i k : Nat}
    (h : t.declaration? id i = some k) :
    ∃ p, t.parent? k = some p ∧ t.childWithId? id p = some k := by
  obtain ⟨p, -, hp⟩ := List.exists_of_findSome?_eq_some h
  have hchild : k ∈ t.children p := List.mem_of_find?_eq_some hp
  exact ⟨p, parent?_eq_some_iff.mpr ((mem_children_iff hl).mp hchild), hp⟩

/-- **When two uses of an id mean one element**: exactly if the declarations found for them stand
in one scope. -/
theorem declaration?_eq_iff (hl : Linked t.elements) {id : String} {i j k l : Nat}
    (hk : t.declaration? id i = some k) (hl' : t.declaration? id j = some l) :
    k = l ↔ t.parent? k = t.parent? l := by
  constructor
  · rintro rfl
    rfl
  · intro hparent
    obtain ⟨p, hp, hpk⟩ := childWithId?_of_declaration? hl hk
    obtain ⟨q, hq, hql⟩ := childWithId?_of_declaration? hl hl'
    -- the scope is the same, and a scope has one first child with the id
    obtain rfl : p = q := Option.some.inj (hp.symm.trans (hparent.trans hq))
    exact Option.some.inj (hpk.symm.trans hql)

end ElementTree

/-- The object of a flagged binding is declared around it. -/
theorem Settings.declaration?_of_flagged {s : Settings} {t : ElementTree} {expression : String}
    {i : Nat} {r : Reference} (hr : Reference.ofExpression? expression.toList = some r)
    (h : s.verdict t expression i = .flagged) : ∃ k, t.declaration? r.object i = some k := by
  unfold Settings.verdict at h
  simp only [hr] at h
  by_cases hanti : s.isAntiPattern t expression r i = true
  · cases hk : t.declaration? r.object i with
    | none => simp [Settings.isAntiPattern, ElementTree.refersToNative, hk] at hanti
    | some k => exact ⟨k, rfl⟩
  · rw [if_neg hanti] at h
    split at h <;> cases h

/-! ## Section 3: Two fixes -/

namespace Fix

/-- The texts a fix binds to. -/
def replacing (f : Fix) : List String :=
  (Edit.replacements f.edits).map (·.text)

/-- The declarations of a fix. -/
def inserting (f : Fix) : List String :=
  (Edit.insertions f.edits).map (·.text)

variable {f : Fix} {rule : Rule} {root : Span} {b : Binding} {r : Reference}

theorem replacing_eq (h : f.edits = rule.fixEdits root b r) : f.replacing = [rule.aliasName r] := by
  rw [replacing, h]
  rfl

theorem inserting_eq (h : f.edits = rule.fixEdits root b r) :
    f.inserting = [rule.declaration r] := by
  rw [inserting, h]
  rfl

end Fix

/-- What is known of a binding that is found with a fix. -/
private theorem referent_of_fix {rule : Rule} {t : ElementTree} {i : Nat} {b : Binding}
    {d : Diagnostic} {f : Fix} (h : rule.diagnose t i b = .ok (some d)) (hf : d.fix = some f) :
    ∃ r k, Reference.ofExpression? b.expression.toList = some r ∧
      t.declaration? r.object i = some k ∧ IsIdentifier r.object.toList ∧
      IsIdentifier r.property.toList ∧ f.replacing = [rule.aliasName r] ∧
      f.inserting = [rule.declaration r] := by
  obtain ⟨r, hr, hv, -, hedits⟩ := Rule.edits_of_diagnose h hf
  obtain ⟨k, hk⟩ := Settings.declaration?_of_flagged hr hv
  obtain ⟨_, _, _, _, hreads⟩ := Reference.ofExpression?_reads hr
  exact ⟨r, k, hr, hk, hreads.object_identifier, hreads.property_identifier,
    Fix.replacing_eq hedits, Fix.inserting_eq hedits⟩

/-- **What two fixes share**: they bind to the same alias exactly if their references are equal or
differ in the place of the point among underscores, and they make the same declaration exactly if
the references are equal.  Equal references mean one element exactly if they are declared in one
scope.  So an alias has one referent where no point can be moved and the id is declared once. -/
theorem shared_alias_iff {rule : Rule} {t : ElementTree} (ht : t.Built) {i j : Nat}
    {b c : Binding} {d e : Diagnostic} {f g : Fix}
    (hd : rule.diagnose t i b = .ok (some d)) (hf : d.fix = some f)
    (he : rule.diagnose t j c = .ok (some e)) (hg : e.fix = some g) :
    ∃ r s k l,
      Reference.ofExpression? b.expression.toList = some r ∧
      Reference.ofExpression? c.expression.toList = some s ∧
      t.declaration? r.object i = some k ∧ t.declaration? s.object j = some l ∧
      (f.replacing = g.replacing ↔ r = s ∨ r.Shifted s ∨ s.Shifted r) ∧
      (f.inserting = g.inserting ↔ r = s) ∧
      (r = s → (k = l ↔ t.parent? k = t.parent? l)) ∧
      (f.replacing = g.replacing → ¬ r.Shifted s → ¬ s.Shifted r →
        (∀ m n, t.id? m = some r.object → t.id? n = some r.object → m = n) → r = s ∧ k = l) := by
  obtain ⟨r, k, hr, hk, hobject, hproperty, hreplacing, hinserting⟩ := referent_of_fix hd hf
  obtain ⟨s, l, hs, hl, -, -, hreplacing', hinserting'⟩ := referent_of_fix he hg
  have halias : f.replacing = g.replacing ↔ r = s ∨ r.Shifted s ∨ s.Shifted r := by
    rw [hreplacing, hreplacing', List.singleton_inj]
    exact Rule.aliasName_eq_iff
  refine ⟨r, s, k, l, hr, hs, hk, hl, halias, ?_, ?_, ?_⟩
  · rw [hinserting, hinserting', List.singleton_inj]
    exact Rule.declaration_eq_iff hobject hproperty
  · rintro rfl
    exact ElementTree.declaration?_eq_iff ht.linked hk hl
  · intro hsame hrs hsr hunique
    -- without a shift only equal references are left
    obtain rfl : r = s := by
      rcases halias.mp hsame with h | h | h
      · exact h
      · exact absurd h hrs
      · exact absurd h hsr
    exact ⟨rfl, hunique k l (ElementTree.id?_of_declaration? hk)
      (ElementTree.id?_of_declaration? hl)⟩

/-- Two timers whose ids differ by an underscore, and a third one in an inner scope that takes the
id of the first. -/
def ElementTree.collidingTimers : ElementTree :=
  ⟨#[{ typeName := "Item", span := ⟨0, 99⟩, children := [1, 2, 3, 4] },
    { typeName := "QTimer", span := ⟨5, 5⟩, id := some "a", parent := some 0 },
    { typeName := "QTimer", span := ⟨15, 5⟩, id := some "a_b", parent := some 0 },
    { typeName := "Item", span := ⟨25, 25⟩, parent := some 0,
      bindings := [⟨"x", "a.b_c", ⟨30, 5⟩, 3⟩, ⟨"y", "a_b.c", ⟨40, 5⟩, 3⟩] },
    { typeName := "Item", span := ⟨55, 35⟩, parent := some 0, children := [5, 6] },
    { typeName := "QTimer", span := ⟨60, 5⟩, id := some "a", parent := some 4 },
    { typeName := "Item", span := ⟨70, 15⟩, parent := some 4,
      bindings := [⟨"z", "a.b_c", ⟨75, 5⟩, 6⟩] }], by decide⟩

private theorem collidingTimers_built : ElementTree.collidingTimers.Built := by
  have h := TreeBuilder.Built.empty
  have h := h.addElement (rfl : TreeBuilder.addElement _ "Item" ⟨0, 99⟩ none none = .ok (_, _))
  have h := h.addElement
    (rfl : TreeBuilder.addElement _ "QTimer" ⟨5, 5⟩ (some "a") (some 0) = .ok (_, _))
  have h := h.addElement
    (rfl : TreeBuilder.addElement _ "QTimer" ⟨15, 5⟩ (some "a_b") (some 0) = .ok (_, _))
  have h := h.addElement
    (rfl : TreeBuilder.addElement _ "Item" ⟨25, 25⟩ none (some 0) = .ok (_, _))
  have h := h.addBinding (rfl : TreeBuilder.addBinding _ 3 "x" "a.b_c" ⟨30, 5⟩ = .ok (_, _))
  have h := h.addBinding (rfl : TreeBuilder.addBinding _ 3 "y" "a_b.c" ⟨40, 5⟩ = .ok (_, _))
  have h := h.addElement
    (rfl : TreeBuilder.addElement _ "Item" ⟨55, 35⟩ none (some 0) = .ok (_, _))
  have h := h.addElement
    (rfl : TreeBuilder.addElement _ "QTimer" ⟨60, 5⟩ (some "a") (some 4) = .ok (_, _))
  have h := h.addElement
    (rfl : TreeBuilder.addElement _ "Item" ⟨70, 15⟩ none (some 4) = .ok (_, _))
  have h := h.addBinding (rfl : TreeBuilder.addBinding _ 6 "z" "a.b_c" ⟨75, 5⟩ = .ok (_, _))
  exact ⟨_, h, rfl⟩

/-- The bindings `x` and `z` read the same reference in two scopes, and their fixes are told apart
by nothing but the place. -/
theorem shared_alias_across_scopes :
    ElementTree.collidingTimers.Built ∧ ∃ d f e g,
      Rule.standard.diagnose .collidingTimers 3 ⟨"x", "a.b_c", ⟨30, 5⟩, 3⟩ = .ok (some d) ∧
      d.fix = some f ∧
      Rule.standard.diagnose .collidingTimers 6 ⟨"z", "a.b_c", ⟨75, 5⟩, 6⟩ = .ok (some e) ∧
      e.fix = some g ∧ f.replacing = g.replacing ∧ f.inserting = g.inserting ∧
      ∃ k l, ElementTree.collidingTimers.declaration? "a" 3 = some k ∧
        ElementTree.collidingTimers.declaration? "a" 6 = some l ∧
        (k = l ↔
          ElementTree.collidingTimers.parent? k = ElementTree.collidingTimers.parent? l) := by
  obtain ⟨d, f, hd, hf, -⟩ := Rule.standard.exists_fix_of_flagged .collidingTimers 3
    ⟨"x", "a.b_c", ⟨30, 5⟩, 3⟩ ⟨"a", "b_c"⟩ (by decide +kernel)
  obtain ⟨e, g, he, hg, -⟩ := Rule.standard.exists_fix_of_flagged .collidingTimers 6
    ⟨"z", "a.b_c", ⟨75, 5⟩, 6⟩ ⟨"a", "b_c"⟩ (by decide +kernel)
  obtain ⟨r, s, k, l, hr, hs, hk, hl, hreplacing, hinserting, hscope, -⟩ :=
    shared_alias_iff collidingTimers_built hd hf he hg
  have hread : Reference.ofExpression? "a.b_c".toList = some ⟨"a", "b_c"⟩ := by decide +kernel
  obtain rfl : r = ⟨"a", "b_c"⟩ := Option.some.inj (hr.symm.trans hread)
  obtain rfl : s = ⟨"a", "b_c"⟩ := Option.some.inj (hs.symm.trans hread)
  exact ⟨collidingTimers_built, d, f, e, g, hd, hf, he, hg, hreplacing.mpr (Or.inl rfl),
    hinserting.mpr rfl, k, l, hk, hl, hscope rfl⟩

/-- One alias for two objects: `x` and `y` are bound to the same name, under two declarations that
disagree, and `x` and `z` share even the declaration, though they mean different timers. -/
theorem collidingTimers_share_alias :
    ElementTree.collidingTimers.Built ∧ ∃ d f e g d' f',
      Rule.standard.diagnose .collidingTimers 3 ⟨"x", "a.b_c", ⟨30, 5⟩, 3⟩ = .ok (some d) ∧
      d.fix = some f ∧
      Rule.standard.diagnose .collidingTimers 3 ⟨"y", "a_b.c", ⟨40, 5⟩, 3⟩ = .ok (some e) ∧
      e.fix = some g ∧
      Rule.standard.diagnose .collidingTimers 6 ⟨"z", "a.b_c", ⟨75, 5⟩, 6⟩ = .ok (some d') ∧
      d'.fix = some f' ∧
      (f.replacing = g.replacing ∧ f.inserting ≠ g.inserting ∧
        ElementTree.collidingTimers.declaration? "a" 3 = some 1 ∧
        ElementTree.collidingTimers.declaration? "a_b" 3 = some 2) ∧
      f.replacing = f'.replacing ∧ f.inserting = f'.inserting ∧
        ElementTree.collidingTimers.declaration? "a" 6 = some 5 := by
  obtain ⟨d, f, hd, hf, hx⟩ := Rule.standard.exists_fix_of_flagged .collidingTimers 3
    ⟨"x", "a.b_c", ⟨30, 5⟩, 3⟩ ⟨"a", "b_c"⟩ (by decide +kernel)
  obtain ⟨e, g, he, hg, hy⟩ := Rule.standard.exists_fix_of_flagged .collidingTimers 3
    ⟨"y", "a_b.c", ⟨40, 5⟩, 3⟩ ⟨"a_b", "c"⟩ (by decide +kernel)
  obtain ⟨d', f', hd', hf', hz⟩ := Rule.standard.exists_fix_of_flagged .collidingTimers 6
    ⟨"z", "a.b_c", ⟨75, 5⟩, 6⟩ ⟨"a", "b_c"⟩ (by decide +kernel)
  refine ⟨collidingTimers_built, d, f, e, g, d', f', hd, hf, he, hg, hd', hf', ?_, ?_⟩
  · rw [Fix.replacing_eq hx, Fix.replacing_eq hy, Fix.inserting_eq hx, Fix.inserting_eq hy]
    decide +kernel
  · rw [Fix.replacing_eq hx, Fix.replacing_eq hz, Fix.inserting_eq hx, Fix.inserting_eq hz]
    decide +kernel

end BindingAudit
