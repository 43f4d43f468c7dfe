import BindingAudit.Proofs.Edit.Substitution
import Mathlib.Data.List.Pairwise

/-!
# Edits in another order

The place of an edit in its list is the last thing the order of application looks at.  This module
says when it matters: whether edits are accepted does not depend on it at all, and what comes out
depends on it in one case only.

## Architecture

1. Edits of one kind at one offset `share` a place.  In the reader's order a list is determined by
   the order of those that share a place (`leftToRight_eq_of_shares`).
2. The checks hold of a list in any order (`Applicable.perm`).
3. Of edits that pass the checks only two replacements that `Contend` share a place: one of an empty
   span, and another that starts there.  A reordering that keeps the order of these and of the
   insertions at each offset changes nothing (`apply_reordered`).
4. The other order of two such replacements loses text (`apply_contending`).
-/

namespace BindingAudit

namespace Edit

/-! ## Section 1: The order of edits at one place -/

/-- Whether an edit is of the kind and at the offset of another. -/
def shares (e f : Edit) : Bool :=
  f.kind == e.kind && f.span.offset == e.span.offset

@[simp] theorem shares_self (e : Edit) : shares e e = true := by
  simp [shares]

theorem shares_iff {e f : Edit} :
    shares e f = true ↔ f.kind = e.kind ∧ f.span.offset = e.span.offset := by
  simp [shares]

/-- Edits share a place exactly if each may stand in front of the other. -/
theorem shares_iff_leads {e f : Edit} : shares e f = true ↔ Leads e f ∧ Leads f e := by
  rw [shares_iff]
  unfold Leads
  cases e.kind <;> cases f.kind <;> simp <;> omega

/-- Lists in the reader's order that have the same edits in the same order at each place are the
same. -/
theorem eq_of_shares {xs ys : List Edit} (hperm : ys.Perm xs) (hxs : xs.Pairwise Leads)
    (hys : ys.Pairwise Leads)
    (h : ∀ e ∈ xs, ys.filter (shares e) = xs.filter (shares e)) : ys = xs := by
  induction xs generalizing ys with
  | nil => exact hperm.eq_nil
  | cons e xs ih =>
    cases ys with
    | nil => exact absurd hperm.symm.eq_nil (List.cons_ne_nil _ _)
    | cons f ys =>
      -- each head is in the other list and so behind its head: they share a place
      have hleads : Leads e f := by
        rcases List.mem_cons.mp (hperm.mem_iff.mp (List.mem_cons_self ..)) with rfl | hf
        · exact (shares_iff_leads.mp (shares_self f)).1
        · exact (List.pairwise_cons.mp hxs).1 f hf
      have hleads' : Leads f e := by
        rcases List.mem_cons.mp (hperm.mem_iff.mpr (List.mem_cons_self ..)) with rfl | he
        · exact (shares_iff_leads.mp (shares_self e)).1
        · exact (List.pairwise_cons.mp hys).1 e he
      have hhead := h e (List.mem_cons_self ..)
      rw [List.filter_cons_of_pos (shares_iff_leads.mpr ⟨hleads, hleads'⟩),
        List.filter_cons_of_pos (shares_self e)] at hhead
      obtain ⟨rfl, -⟩ := List.cons.inj hhead
      congr 1
      refine ih hperm.cons_inv hxs.of_cons hys.of_cons fun g hg => ?_
      have htail := h g (List.mem_cons_of_mem _ hg)
      by_cases hgf : shares g f = true
      · rw [List.filter_cons_of_pos hgf, List.filter_cons_of_pos hgf] at htail
        exact (List.cons.inj htail).2
      · rwa [List.filter_cons_of_neg hgf, List.filter_cons_of_neg hgf] at htail

/-- Edits at one place keep their order among each other in the reader's order. -/
theorem filter_shares_leftToRight (e : Edit) (edits : List Edit) :
    (leftToRight edits).filter (shares e) = edits.filter (shares e) := by
  apply filter_leftToRight
  intro f g hf hg
  obtain ⟨hfk, hfo⟩ := shares_iff.mp hf
  obtain ⟨hgk, hgo⟩ := shares_iff.mp hg
  exact (shares_iff_leads.mp (shares_iff.mpr ⟨hgk.trans hfk.symm, hgo.trans hfo.symm⟩)).1

/-- **What decides the reader's order**: the order of the edits at each place. -/
theorem leftToRight_eq_of_shares {edits edits' : List Edit} (hperm : edits'.Perm edits)
    (h : ∀ e ∈ edits, edits'.filter (shares e) = edits.filter (shares e)) :
    leftToRight edits' = leftToRight edits := by
  refine eq_of_shares ?_ (leftToRight_pairwise edits) (leftToRight_pairwise edits') fun e he => ?_
  · exact ((leftToRight_perm edits').trans hperm).trans (leftToRight_perm edits).symm
  · rw [filter_shares_leftToRight, filter_shares_leftToRight, h e (mem_leftToRight.mp he)]

/-! ## Section 2: The checks do not depend on the order -/

theorem competes_comm (e f : Edit) : competes e f = competes f e := by
  unfold competes Span.overlaps
  rw [Bool.and_comm, Bool.beq_comm]

instance : Std.Symm fun e f : Edit => competes e f = false :=
  ⟨fun e f h => (competes_comm f e).trans h⟩

theorem Applicable.perm {text : List Char} {edits edits' : List Edit} (h : Applicable text edits)
    (hperm : edits'.Perm edits) : Applicable text edits' where
  inside e he := h.inside e (hperm.mem_iff.mp he)
  fitting e he := h.fitting e (hperm.mem_iff.mp he)
  apart := (hperm.filter _).symm.pairwise h.apart fun hef => (competes_comm _ _).trans hef
  clear i hi r hr := h.clear i ((hperm.filter _).mem_iff.mp hi) r ((hperm.filter _).mem_iff.mp hr)

/-! ## Section 3: Reorderings that change nothing -/

/-- A list of edits is another one reordered, where insertions at one offset keep their order. -/
structure Reordered (edits edits' : List Edit) : Prop where
  perm : edits'.Perm edits
  insertions : ∀ e ∈ edits, e.kind = .insertion →
    edits'.filter (shares e) = edits.filter (shares e)

/-- An empty span is replaced where another replaced span starts.  The two pass the checks, as they
share no character and are not equal. -/
def Contend (e f : Edit) : Prop :=
  e.kind = .replacement ∧ f.kind = .replacement ∧ e.span.offset = f.span.offset ∧
    e.span.length ≤ 0 ∧ e.span ≠ f.span

instance (e f : Edit) : Decidable (Contend e f) :=
  inferInstanceAs (Decidable (_ ∧ _))

/-- Replacements at one place that pass the checks contend, one way or the other. -/
theorem contend_of_shares {e f : Edit} (hk : e.kind = .replacement) (hshares : shares e f = true)
    (h : competes e f = false) : Contend e f ∨ Contend f e := by
  obtain ⟨hkind, hoffset⟩ := shares_iff.mp hshares
  simp only [competes, Span.overlaps, Bool.or_eq_false_iff, Bool.and_eq_false_iff,
    decide_eq_false_iff_not, beq_eq_false_iff_ne] at h
  obtain ⟨hempty, hne⟩ := h
  unfold Span.stop at hempty
  by_cases hle : e.span.length ≤ 0
  · exact Or.inl ⟨hk, hkind.trans hk, hoffset.symm, hle, hne⟩
  · exact Or.inr ⟨hkind.trans hk, hk, hoffset, by omega, hne.symm⟩

/-- A list whose members stand in the same order two by two is in the same order. -/
private theorem eq_of_pairs {α : Type} [DecidableEq α] {xs ys : List α} (hperm : ys.Perm xs)
    (h : ∀ a ∈ xs, ∀ b ∈ xs, a ≠ b →
      ys.filter (fun c => c = a ∨ c = b) = xs.filter fun c => c = a ∨ c = b) : ys = xs := by
  induction xs generalizing ys with
  | nil => exact hperm.eq_nil
  | cons a xs ih =>
    cases ys with
    | nil => exact absurd hperm.symm.eq_nil (List.cons_ne_nil _ _)
    | cons b ys =>
      have hb : b ∈ a :: xs := hperm.mem_iff.mp (List.mem_cons_self ..)
      obtain rfl : a = b := by
        by_contra hne
        have hpair := h a (List.mem_cons_self ..) b hb hne
        rw [List.filter_cons_of_pos (by simp), List.filter_cons_of_pos (by simp)] at hpair
        exact hne (List.cons.inj hpair).1.symm
      congr 1
      refine ih hperm.cons_inv fun c hc d hd hne => ?_
      have hpair := h c (List.mem_cons_of_mem _ hc) d (List.mem_cons_of_mem _ hd) hne
      by_cases hacd : a = c ∨ a = d
      · rw [List.filter_cons_of_pos (by simpa using hacd),
          List.filter_cons_of_pos (by simpa using hacd)] at hpair
        exact (List.cons.inj hpair).2
      · rwa [List.filter_cons_of_neg (by simpa using hacd),
          List.filter_cons_of_neg (by simpa using hacd)] at hpair

/-- If replacements that contend keep their order, so do all replacements at one place. -/
theorem filter_shares_of_contend {text : List Char} {edits edits' : List Edit} {e : Edit}
    (happ : Applicable text edits) (hperm : edits'.Perm edits)
    (hcontend : ∀ e ∈ edits, ∀ f ∈ edits, Contend e f →
      edits'.filter (fun g => g = e ∨ g = f) = edits.filter fun g => g = e ∨ g = f)
    (hk : e.kind = .replacement) :
    edits'.filter (shares e) = edits.filter (shares e) := by
  refine eq_of_pairs (hperm.filter _) fun f hf g hg hne => ?_
  obtain ⟨hf, hef⟩ := List.mem_filter.mp hf
  obtain ⟨hg, heg⟩ := List.mem_filter.mp hg
  obtain ⟨hfk, hfo⟩ := shares_iff.mp hef
  obtain ⟨hgk, hgo⟩ := shares_iff.mp heg
  have hapart : competes f g = false :=
    happ.apart.forall (List.mem_filter.mpr ⟨hf, by simp [hfk, hk]⟩)
      (List.mem_filter.mpr ⟨hg, by simp [hgk, hk]⟩) hne
  have hpair : edits'.filter (fun c => c = f ∨ c = g) = edits.filter fun c => c = f ∨ c = g := by
    rcases contend_of_shares (hfk.trans hk)
      (shares_iff.mpr ⟨hgk.trans hfk.symm, hgo.trans hfo.symm⟩) hapart with hfg | hgf
    · exact hcontend f hf g hg hfg
    · simpa only [or_comm] using hcontend g hg f hf hgf
  rw [List.filter_comm, hpair, List.filter_comm]

/-- **When the order of edits matters**: a reordering in which insertions at one offset keep their
order is accepted exactly if the list is.  The outcome is the same, too, unless an empty span and
another that starts there are both replaced and change places. -/
theorem apply_reordered {text : String} {edits edits' : List Edit} (h : Reordered edits edits') :
    ((∃ fault, apply text edits' = .error fault) ↔ ∃ fault, apply text edits = .error fault) ∧
      ((∀ e ∈ edits, ∀ f ∈ edits, Contend e f →
          edits'.filter (fun g => g = e ∨ g = f) = edits.filter fun g => g = e ∨ g = f) →
        ∀ result, apply text edits' = .ok result ↔ apply text edits = .ok result) := by
  have happ : Applicable text.toList edits' ↔ Applicable text.toList edits :=
    ⟨fun h' => h'.perm h.perm.symm, fun h' => h'.perm h.perm⟩
  refine ⟨by rw [exists_error_iff, exists_error_iff, happ], fun hcontend result => ?_⟩
  rw [apply_eq_ok_iff, apply_eq_ok_iff, applyToChars_eq_ok_iff, applyToChars_eq_ok_iff, happ]
  refine and_congr_right fun haccepted => ?_
  have hsame : leftToRight edits' = leftToRight edits := by
    refine leftToRight_eq_of_shares h.perm fun e he => ?_
    cases hk : e.kind with
    | insertion => exact h.insertions e he hk
    | replacement => exact filter_shares_of_contend haccepted h.perm hcontend hk
  rw [inOrder_eq_reverse_leftToRight, inOrder_eq_reverse_leftToRight, hsame]

/-- Two insertions and two replacements at one offset, and a replacement elsewhere. -/
def crowded : List Edit :=
  [insertion 5 "1", replacement ⟨5, 0⟩ "X" none, replacement ⟨5, 3⟩ "Y" (some "fgh"),
    replacement ⟨2, 0⟩ "Z" (some " "), insertion 5 "2"]

/-- The same edits, the insertions in their order and the replacements at one offset in theirs. -/
def crowdedReordered : List Edit :=
  [replacement ⟨5, 0⟩ "X" none, replacement ⟨2, 0⟩ "Z" (some " "), insertion 5 "1",
    insertion 5 "2", replacement ⟨5, 3⟩ "Y" (some "fgh")]

theorem apply_crowdedReordered :
    Reordered crowded crowdedReordered ∧
      (∀ e ∈ crowded, ∀ f ∈ crowded, Contend e f →
        crowdedReordered.filter (fun g => g = e ∨ g = f) = crowded.filter fun g => g = e ∨ g = f) ∧
      apply "abcdefgh" crowdedReordered = .ok "abZcde12XY" := by
  have hreordered : Reordered crowded crowdedReordered := ⟨by decide, by decide⟩
  have hkept : ∀ e ∈ crowded, ∀ f ∈ crowded, Contend e f →
      crowdedReordered.filter (fun g => g = e ∨ g = f) = crowded.filter fun g => g = e ∨ g = f := by
    decide
  exact ⟨hreordered, hkept, ((apply_reordered hreordered).2 hkept _).mpr (by decide +kernel)⟩

/-! ## Section 4: What the other order loses -/

/-- Of two edits at one place the one behind in the list is made first. -/
theorem inOrder_pair {e f : Edit} (h : shares e f = true) : inOrder [e, f] = [f, e] := by
  obtain ⟨hkind, hoffset⟩ := shares_iff.mp h
  have hnot : before (0, e) (1, f) = false := by
    simp [before, hkind, hoffset]
  simp [inOrder, numberFrom, sortNumbered, insertInOrder, hnot]

/-- A replacement inside a text. -/
theorem substitute_replacement {text : List Char} {k : Nat} (len : Nat)
    (h : k + len ≤ text.length) (new : String) (expected : Option String) :
    substitute text (replacement ⟨k, len⟩ new expected) =
      text.take k ++ new.toList ++ text.drop (k + len) := by
  have hoffset : Text.boundary text.length (k : Int) = k :=
    Text.boundary_of_le (by omega) (by omega)
  have hstop : Text.boundary text.length ((k : Int) + len) = k + len :=
    Text.boundary_of_le (by omega) (by omega)
  simp only [substitute, replacement, Span.stop, hoffset, hstop]

theorem substitute_empty {text : List Char} {k : Nat} (h : k ≤ text.length) (new : String)
    (expected : Option String) :
    substitute text (replacement ⟨k, 0⟩ new expected) = text.take k ++ new.toList ++ text.drop k :=
  substitute_replacement 0 h new expected

/-- **Replacements that contend**: in front of the other in the list the text for the empty span
stands in front of it in the outcome; behind it, it is written first, and the other replacement
takes it for the text it replaces. -/
theorem apply_contending {text front whole : String} {k len : Nat} (hlen : 0 < len)
    (hfits : k + len ≤ text.toList.length) :
    apply text [replacement ⟨k, 0⟩ front none, replacement ⟨k, len⟩ whole none] =
        .ok (String.ofList (text.toList.take k ++ front.toList ++ whole.toList ++
          text.toList.drop (k + len))) ∧
      apply text [replacement ⟨k, len⟩ whole none, replacement ⟨k, 0⟩ front none] =
        .ok (String.ofList (text.toList.take k ++ whole.toList ++
          (front.toList ++ text.toList.drop k).drop len)) := by
  have happ : Applicable text.toList
      [replacement ⟨k, 0⟩ front none, replacement ⟨k, len⟩ whole none] := by
    refine ⟨?_, ?_, ?_, ?_⟩
    · simp [replacement, Span.stop]
      omega
    · simp [fits, replacement]
    · simp [replacements, replacement, competes, Span.overlaps, Span.stop]
      omega
    · simp [insertions, replacement]
  have hswapped : Applicable text.toList
      [replacement ⟨k, len⟩ whole none, replacement ⟨k, 0⟩ front none] :=
    happ.perm (List.Perm.swap ..)
  have htake : (text.toList.take k).length = k := by
    rw [List.length_take]
    omega
  constructor
  · -- the place of the empty span is still where it was
    refine apply_eq_ok_iff.mpr (applyToChars_eq_ok_iff.mpr ⟨happ, ?_⟩)
    rw [inOrder_pair (by simp [shares, replacement])]
    simp only [List.foldl_cons, List.foldl_nil]
    rw [substitute_replacement len hfits, substitute_empty]
    · simp only [List.append_assoc, List.take_left' htake, List.drop_left' htake,
        String.toList_ofList]
    · simp only [List.length_append, htake]
      omega
  · -- the other span now starts with the text that was put in front of it
    refine apply_eq_ok_iff.mpr (applyToChars_eq_ok_iff.mpr ⟨hswapped, ?_⟩)
    rw [inOrder_pair (by simp [shares, replacement])]
    simp only [List.foldl_cons, List.foldl_nil]
    rw [substitute_empty (by omega), substitute_replacement]
    · simp only [List.append_assoc, ← List.drop_drop, List.take_left' htake, List.drop_left' htake,
        String.toList_ofList]
    · simp only [List.length_append, List.length_drop, htake]
      omega

/-- Changing places, two replacements that contend give another text: characters beyond both spans
move into one of them. -/
theorem contending_edits_order :
    Reordered [replacement ⟨5, 0⟩ "X" none, replacement ⟨5, 3⟩ "Y" none]
        [replacement ⟨5, 3⟩ "Y" none, replacement ⟨5, 0⟩ "X" none] ∧
      apply "abcdefgh" [replacement ⟨5, 0⟩ "X" none, replacement ⟨5, 3⟩ "Y" none] =
        .ok "abcdeXY" ∧
      apply "abcdefgh" [replacement ⟨5, 3⟩ "Y" none, replacement ⟨5, 0⟩ "X" none] =
        .ok "abcdeYh" := by
  obtain ⟨hfront, hbehind⟩ := @apply_contending "abcdefgh" "X" "Y" 5 3 (by decide) (by decide)
  exact ⟨⟨by decide, by decide⟩, hfront.trans (congrArg Except.ok (by decide +kernel)),
    hbehind.trans (congrArg Except.ok (by decide +kernel))⟩

end Edit

end BindingAudit
