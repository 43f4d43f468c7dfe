import BindingAudit.Proofs.Element.Scope
import BindingAudit.Rule.Verdict

/-!
# What a new element changes

A new element becomes the last child of its parent, and nothing else in an arena changes.  Seen from
an element that was there before, an id then means the new element in one case only: the new element
has the id, and the search for it comes as far out as the parent and finds nothing, there included
(`SearchPasses`).  Everywhere else it means what it meant.

## Architecture

1. Look-ups (`Gains`): parents, ids and bindings stay, and one list of children gets longer.
2. One scope: its first child with an id is the old one, or else possibly the new one
   (`Gains.childWithId?_eq`).
3. The search: `SearchPasses` opens along the parents as the search does
   (`searchPasses_iff_of_parent`), and so the induction on the index goes through.
4. Verdicts: they see an arena through the meaning of one id, and the type of what it means.
-/

namespace BindingAudit

namespace ElementTree

/-! ## Section 1: Look-ups in a larger arena -/

/-- `t.Gains p e t'` reads "`t'` is `t` with one more element, the last child of element `p`". -/
def Gains (t : ElementTree) (p : Nat) (e : Element) (t' : ElementTree) : Prop :=
  ∀ i, t'.get? i = if i = t.size then some { e with parent := some p }
    else (t.get? i).map fun q => { q with
      children := if i = p then q.children ++ [t.size] else q.children }

theorem gains_of_addChild {b : TreeBuilder} {t t' : ElementTree} {p : Nat} {e : Element}
    (ht : t.elements = b.elements) (ht' : t'.elements = (b.addChild p e).elements) :
    t.Gains p e t' := by
  intro i
  unfold get? size
  rw [ht', ht]
  exact TreeBuilder.getElem?_addChild b p e i

variable {t t' : ElementTree} {p i k q : Nat} {e : Element} {id : String}

namespace Gains

theorem get?_of_lt (h : t.Gains p e t') (hi : i < t.size) :
    t'.get? i = (t.get? i).map fun q => { q with
      children := if i = p then q.children ++ [t.size] else q.children } := by
  rw [h i, if_neg (Nat.ne_of_lt hi)]

theorem parent?_eq (h : t.Gains p e t') (hi : i < t.size) : t'.parent? i = t.parent? i := by
  unfold parent?
  rw [h.get?_of_lt hi]
  cases t.get? i <;> rfl

theorem id?_eq (h : t.Gains p e t') (hi : i < t.size) : t'.id? i = t.id? i := by
  unfold id?
  rw [h.get?_of_lt hi]
  cases t.get? i <;> rfl

theorem bindings_eq (h : t.Gains p e t') (hi : i < t.size) : t'.bindings i = t.bindings i := by
  unfold bindings
  rw [h.get?_of_lt hi]
  cases t.get? i <;> rfl

theorem children_eq (h : t.Gains p e t') (hi : i < t.size) :
    t'.children i = if i = p then t.children i ++ [t.size] else t.children i := by
  obtain ⟨q, hq⟩ := get?_eq_some_of_lt hi
  unfold children
  rw [h.get?_of_lt hi, hq]
  rfl

theorem id?_size (h : t.Gains p e t') : t'.id? t.size = e.id := by
  unfold id?
  rw [h t.size, if_pos rfl]
  rfl

end Gains

/-! ## Section 2: One scope -/

/-- The first child with an id stays the first; only where there was none can the new element be
it. -/
theorem Gains.childWithId?_eq (h : t.Gains p e t') (hl : Linked t.elements) (hq : q < t.size) :
    t'.childWithId? id q =
      (t.childWithId? id q).or (if q = p ∧ e.id = some id then some t.size else none) := by
  have hold : (t.children q).find? (fun c => t'.id? c == some id) = t.childWithId? id q := by
    unfold childWithId?
    rw [← List.head?_filter, ← List.head?_filter]
    congr 1
    apply List.filter_congr
    intro c hc
    rw [h.id?_eq (lt_of_mem_children hl hc).2]
  unfold childWithId? at hold ⊢
  rw [h.children_eq hq]
  by_cases hqp : q = p
  · rw [if_pos hqp, List.find?_append, hold, List.find?_singleton, h.id?_size]
    simp [hqp]
  · rw [if_neg hqp, hold]
    simp [hqp]

/-! ## Section 3: The search -/

/-- The search for an id used in element `i` comes as far out as scope `p` and has found nothing,
there included: `p` encloses the element, and neither `p` nor a scope nearer to the element declares
the id. -/
structure SearchPasses (t : ElementTree) (id : String) (i p : Nat) : Prop where
  encloses : t.Encloses p i
  undeclared : ∀ q, t.Encloses q i → Above t.elements q p → ¬ t.Declares id q

/-- The search passes a scope if it passes the one around the element and that is the scope, or it
passes the scope from there. -/
theorem searchPasses_iff_of_parent (hl : Linked t.elements) {r : Nat}
    (hr : ParentLink t.elements i r) :
    t.SearchPasses id i p ↔ ¬ t.Declares id r ∧ (r = p ∨ t.SearchPasses id r p) := by
  constructor
  · rintro ⟨hencloses, hundeclared⟩
    have hup : Above t.elements r p := (encloses_iff_of_parent hr).mp hencloses
    refine ⟨hundeclared r (.single hr) hup, ?_⟩
    rcases Relation.reflTransGen_iff_eq_or_transGen.mp hup with heq | hrp
    · exact Or.inl heq.symm
    · exact Or.inr ⟨hrp, fun q hq => hundeclared q (.head hr hq)⟩
  · rintro ⟨hnone, hrest⟩
    constructor
    · rcases hrest with rfl | hpasses
      · exact .single hr
      · exact .head hr hpasses.encloses
    · intro q hq hqp
      rcases Relation.reflTransGen_iff_eq_or_transGen.mp ((encloses_iff_of_parent hr).mp hq) with
        rfl | hqr
      · exact hnone
      · rcases hrest with rfl | hpasses
        -- a scope around `p` is not below it
        · have hlt := lt_of_encloses hl hqr
          have hle := hl.le_of_above hqp
          omega
        · exact hpasses.undeclared q hqr hqp

theorem not_searchPasses_of_root (hi : t.parent? i = none) : ¬ t.SearchPasses id i p := by
  intro h
  obtain ⟨q, hq, -⟩ := Relation.TransGen.head'_iff.mp h.encloses
  rw [parent?_eq_some_iff.mpr hq] at hi
  cases hi

theorem not_declares_iff : ¬ t.Declares id q ↔ t.childWithId? id q = none := by
  rw [childWithId?_eq_none_iff, Declares]
  push Not
  rfl

/-- **The search in the larger arena**: an id means the new element exactly where the new element
has the id and the search passes its parent; elsewhere it means what it meant. -/
theorem Gains.declaration?_eq (h : t.Gains p e t') (hl : Linked t.elements)
    (hl' : Linked t'.elements) (hi : i < t.size) :
    (e.id = some id ∧ t.SearchPasses id i p → t'.declaration? id i = some t.size) ∧
      (¬ (e.id = some id ∧ t.SearchPasses id i p) →
        t'.declaration? id i = t.declaration? id i) := by
  induction i using Nat.strongRecOn with
  | ind i ih =>
    cases hparent : t.parent? i with
    | none =>
      have hparent' : t'.parent? i = none := (h.parent?_eq hi).trans hparent
      rw [declaration?_of_root hparent, declaration?_of_root hparent']
      exact ⟨fun hnew => absurd hnew.2 (not_searchPasses_of_root hparent), fun _ => rfl⟩
    | some r =>
      have hparent' : t'.parent? i = some r := (h.parent?_eq hi).trans hparent
      have hr := parent?_lt hl hparent
      obtain ⟨hnew, hsame⟩ := ih r hr (by omega)
      rw [declaration?_of_parent hl hparent, declaration?_of_parent hl' hparent',
        h.childWithId?_eq hl (by omega),
        searchPasses_iff_of_parent hl (parent?_eq_some_iff.mp hparent), not_declares_iff]
      cases hchild : t.childWithId? id r with
      | some k =>
        -- the scope around the element declares the id, before and after
        simp
      | none =>
        rw [Option.none_or, Option.none_or]
        by_cases hid : e.id = some id
        · by_cases hrp : r = p
          · simp [hid, hrp]
          · rw [if_neg (fun hand => hrp hand.1), Option.none_or]
            simp only [hid, true_and, hrp, false_or] at hnew hsame ⊢
            exact ⟨hnew, hsame⟩
        · rw [if_neg (fun hand => hid hand.2), Option.none_or]
          simp only [hid, false_and, not_false_eq_true, true_implies] at hsame ⊢
          exact ⟨fun hfalse => hfalse.elim, hsame⟩

/-! ## Section 4: Verdicts -/

theorem declaration?_lt_size (hl : Linked t.elements) (hk : t.declaration? id i = some k) :
    k < t.size := by
  obtain ⟨scope, -, hfirst⟩ := ((declaration?_eq_some_iff hl).mp hk).exists_scope
  exact (lt_of_mem_children hl hfirst.mem_children).2

/-- Where an id means what it meant, it refers to a native object if it did. -/
theorem Gains.refersToNative_eq (h : t.Gains p e t') (hl : Linked t.elements)
    (hsame : t'.declaration? id i = t.declaration? id i) (s : Settings) :
    t'.refersToNative s id i = t.refersToNative s id i := by
  unfold refersToNative
  rw [hsame]
  cases hk : t.declaration? id i with
  | none => rfl
  | some k =>
    -- the element that is meant was there before, and has kept its type
    have hlt := declaration?_lt_size hl hk
    obtain ⟨f, hf⟩ := get?_eq_some_of_lt hlt
    rw [Option.bind_some, Option.bind_some, h.get?_of_lt hlt, hf]
    rfl

end ElementTree

/-- A verdict sees an arena through one question: whether the object of the reference is native. -/
theorem Settings.verdict_congr {s : Settings} {t t' : ElementTree} {expression : String} {i : Nat}
    (h : ∀ r, Reference.ofExpression? expression.toList = some r →
      t'.refersToNative s r.object i = t.refersToNative s r.object i) :
    s.verdict t' expression i = s.verdict t expression i := by
  unfold verdict isAntiPattern
  cases hr : Reference.ofExpression? expression.toList with
  | none => rfl
  | some r => simp only [h r hr]

/-- **A new declaration has a local effect**: let an element be added to a builder, whatever was
asked of it before.  Then a tree can be built, and an element that was there before keeps its
bindings.  An id used in it means the new element if the new element has the id, its parent encloses
the other element, and neither the parent nor a scope nearer to that element declared the id before;
in all other cases it means what it meant.  Hence the verdict on an expression in that element
changes only if the expression reads a reference to such an id. -/
theorem declaration_after_addElement {b after : TreeBuilder} {typeName : String} {span : Span}
    {id : Option String} {parent : Option Int} {n : Nat} (hb : b.Built)
    (hadd : b.addElement typeName span id parent = .ok (n, after)) :
    ∃ t', after.build = .ok t' ∧ ∀ t, b.build = .ok t → ∀ i, i < t.size →
      t'.bindings i = t.bindings i ∧
      (∀ y,
        (id = some y ∧ (∃ p : Nat, parent = some (p : Int) ∧ t.SearchPasses y i p) →
          t'.declaration? y i = some n) ∧
        (¬ (id = some y ∧ ∃ p : Nat, parent = some (p : Int) ∧ t.SearchPasses y i p) →
          t'.declaration? y i = t.declaration? y i)) ∧
      ∀ (s : Settings) expression, s.verdict t' expression i ≠ s.verdict t expression i →
        ∃ r, Reference.ofExpression? expression.toList = some r ∧ id = some r.object ∧
          ∃ p : Nat, parent = some (p : Int) ∧ t.SearchPasses r.object i p := by
  have hsize := TreeBuilder.size_addElement hadd
  obtain ⟨t', ht'⟩ := TreeBuilder.exists_build_iff.mpr (show 0 < after.elements.size by omega)
  refine ⟨t', ht', fun t ht i hi => ?_⟩
  have hold := TreeBuilder.elements_of_build ht
  have hnew := TreeBuilder.elements_of_build ht'
  rcases TreeBuilder.addElement_cases hadd with ⟨-, hempty, -, -⟩ | ⟨p, rfl, -, rfl, rfl⟩
  · -- there is no tree before the first element
    have hpos := t.nonempty
    rw [hold, hempty] at hpos
    cases hpos
  have hgains := ElementTree.gains_of_addChild hold hnew
  have hl : Linked t.elements := hold ▸ hb.linked
  have hl' : Linked t'.elements := hnew ▸ (hb.addElement hadd).linked
  have hcount : b.elements.size = t.size := congrArg Array.size hold.symm
  have hparent : ∀ y, (∃ q : Nat, (some (p : Int)) = some (q : Int) ∧ t.SearchPasses y i q) ↔
      t.SearchPasses y i p := by
    intro y
    constructor
    · rintro ⟨q, hq, hpasses⟩
      obtain rfl : p = q := Int.ofNat.inj (Option.some.inj hq)
      exact hpasses
    · exact fun hpasses => ⟨p, rfl, hpasses⟩
  have hmeaning : ∀ y,
      (id = some y ∧ t.SearchPasses y i p → t'.declaration? y i = some t.size) ∧
        (¬ (id = some y ∧ t.SearchPasses y i p) → t'.declaration? y i = t.declaration? y i) :=
    fun y => hgains.declaration?_eq hl hl' hi
  refine ⟨hgains.bindings_eq hi, fun y => ?_, fun s expression hchange => ?_⟩
  · rw [hparent, hcount]
    exact hmeaning y
  · -- if no reference of the expression is to such an id, the verdict stays
    by_contra hnone
    refine hchange (Settings.verdict_congr fun r hr => ?_)
    refine hgains.refersToNative_eq hl ((hmeaning r.object).2 fun hseen => hnone ?_) s
    exact ⟨r, hr, hseen.1, (hparent r.object).mpr hseen.2⟩

/-- A timer beside an item that holds an item. -/
def TreeBuilder.timerOutside : TreeBuilder :=
  (({} : TreeBuilder).performAll [.element "Item" ⟨0, 60⟩ none none,
    .element "Item" ⟨5, 40⟩ none (some 0), .element "Item" ⟨10, 9⟩ none (some 1),
    .element "QTimer" ⟨50, 5⟩ (some "t") (some 0)]).2

/-- The tree of that builder. -/
def ElementTree.timerOutside : ElementTree :=
  ⟨TreeBuilder.timerOutside.elements, by decide⟩

/-- A label with the id of the timer is added to the outer item: from the inner item it hides the
timer, while from the outer item the timer is still meant. -/
theorem declaration_after_labelInside :
    TreeBuilder.timerOutside.Built ∧ TreeBuilder.timerOutside.build = .ok .timerOutside ∧
    ElementTree.timerOutside.SearchPasses "t" 2 1 ∧
    ¬ ElementTree.timerOutside.SearchPasses "t" 1 1 ∧
    ∃ after t',
      TreeBuilder.timerOutside.addElement "Label" ⟨20, 5⟩ (some "t") (some 1) = .ok (4, after) ∧
      after.build = .ok t' ∧
      ElementTree.timerOutside.declaration? "t" 2 = some 3 ∧ t'.declaration? "t" 2 = some 4 ∧
      ElementTree.timerOutside.declaration? "t" 1 = some 3 ∧ t'.declaration? "t" 1 = some 3 := by
  have hbuilt : TreeBuilder.timerOutside.Built := TreeBuilder.built_performAll .empty _
  have hbuild : TreeBuilder.timerOutside.build = .ok .timerOutside := rfl
  have hl : Linked ElementTree.timerOutside.elements := hbuilt.linked
  have hinner : ElementTree.timerOutside.SearchPasses "t" 2 1 := by
    refine ⟨.single ⟨_, rfl, rfl⟩, fun q hq hup => ?_⟩
    -- the outer item is the only scope that is not further out than itself
    have hlt := ElementTree.lt_of_encloses hl hq
    have hle := hl.le_of_above hup
    obtain rfl : q = 1 := by omega
    exact ElementTree.not_declares_iff.mpr (by decide)
  have houter : ¬ ElementTree.timerOutside.SearchPasses "t" 1 1 :=
    fun h => Nat.lt_irrefl 1 (ElementTree.lt_of_encloses hl h.encloses)
  obtain ⟨after, hadd⟩ : ∃ after, TreeBuilder.timerOutside.addElement "Label" ⟨20, 5⟩ (some "t")
      (some 1) = .ok (4, after) := ⟨_, rfl⟩
  obtain ⟨t', ht', hold⟩ := declaration_after_addElement hbuilt hadd
  obtain ⟨-, hmeans, -⟩ := hold _ hbuild 2 (by decide)
  obtain ⟨-, hlater, -⟩ := hold _ hbuild 1 (by decide)
  have htimer : ElementTree.timerOutside.declaration? "t" 1 = some 3 := by decide
  refine ⟨hbuilt, hbuild, hinner, houter, after, t', hadd, ht', by decide,
    (hmeans "t").1 ⟨rfl, 1, rfl, hinner⟩, htimer, ?_⟩
  rw [(hlater "t").2, htimer]
  rintro ⟨-, p, hp, hpasses⟩
  obtain rfl : 1 = p := Int.ofNat.inj (Option.some.inj hp)
  exact houter hpasses

end BindingAudit
