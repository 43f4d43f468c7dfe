import BindingAudit.Proofs.Edit.Substitution
import Mathlib.Algebra.Ring.Int.Defs
import Mathlib.Data.List.Pairwise

/-!
# Edits made after others

Edits that refer to one text are made in two rounds: first some of them, and then the others on the
text that came out.  The second round counts its places in that text, so in general this is not the
same as making all of them at once.

It is the same where the second round is `Undisturbed`: none of its edits was made in the first,
none gets in the way of an edit of the first, and the edits of the first in front of it add as many
characters as they take away (`apply_append_of_undisturbed`).

## Architecture

1. The edits of both rounds in the reader's order: on the way through them the text of the first
   round is ahead by `shift` when an edit of the second is met (`shifted_leftToRight`).
2. One walk along all edits, through the old text and the one after the first round in step
   (`renderFrom_filter`).
-/

namespace BindingAudit

namespace Edit

/-! ## Section 1: Two rounds in one order -/

/-- How much longer an edit makes a text. -/
def growth (e : Edit) : Int :=
  e.text.toList.length - e.span.length

/-- How far edits that were made move the place of another. -/
def shift (done : List Edit) (e : Edit) : Int :=
  ((done.filter fun f => Leads f e).map growth).sum

/-- Edits have their places and their room although others were made before them. -/
structure Undisturbed (done edits : List Edit) : Prop where
  fresh : ∀ e ∈ edits, e ∉ done
  clear : ∀ e ∈ edits, ∀ f ∈ done, Clear f e
  unmoved : ∀ e ∈ edits, shift done e = 0

instance (e f : Edit) : Decidable (Clear e f) :=
  inferInstanceAs (Decidable (_ ∨ _))

instance (done edits : List Edit) : Decidable (Undisturbed done edits) :=
  decidable_of_iff ((∀ e ∈ edits, e ∉ done) ∧ (∀ e ∈ edits, ∀ f ∈ done, Clear f e) ∧
      ∀ e ∈ edits, shift done e = 0)
    ⟨fun ⟨hfresh, hclear, hunmoved⟩ => ⟨hfresh, hclear, hunmoved⟩,
      fun h => ⟨h.fresh, h.clear, h.unmoved⟩⟩

/-- Along a list in which `p` marks the edits that were made, an edit that was not is met when the
others are ahead by `c` of it.  They are ahead by `d` at the start. -/
def Shifted (p : Edit → Bool) (c : Edit → Int) : Int → List Edit → Prop
  | _, [] => True
  | d, e :: rest =>
    if p e then Shifted p c (d + growth e) rest else d = c e ∧ Shifted p c d rest

section

variable {p : Edit → Bool} {c : Edit → Int} {d : Int} {e : Edit} {edits : List Edit}

theorem shifted_cons_done (hp : p e = true) :
    Shifted p c d (e :: edits) ↔ Shifted p c (d + growth e) edits := by
  simp [Shifted, hp]

theorem shifted_cons_new (hp : p e = false) :
    Shifted p c d (e :: edits) ↔ d = c e ∧ Shifted p c d edits := by
  simp [Shifted, hp]

/-- Where nothing was made, nothing is ahead. -/
theorem shifted_of_new (hp : ∀ e ∈ edits, p e = false) (hc : ∀ e ∈ edits, c e = d) :
    Shifted p c d edits := by
  induction edits with
  | nil => trivial
  | cons e rest ih =>
    rw [shifted_cons_new (hp e (List.mem_cons_self ..))]
    exact ⟨(hc e (List.mem_cons_self ..)).symm, ih (fun f hf => hp f (List.mem_cons_of_mem _ hf))
      fun f hf => hc f (List.mem_cons_of_mem _ hf)⟩

theorem Shifted.add {c' : Edit → Int} (h : Shifted p c d edits) (x : Int)
    (hc : ∀ e ∈ edits, c' e = c e + x) : Shifted p c' (d + x) edits := by
  induction edits generalizing d with
  | nil => trivial
  | cons e rest ih =>
    have hrest : ∀ e ∈ rest, c' e = c e + x := fun e he => hc e (List.mem_cons_of_mem _ he)
    cases hp : p e with
    | true =>
      rw [shifted_cons_done hp] at h ⊢
      rw [Int.add_right_comm]
      exact ih h hrest
    | false =>
      rw [shifted_cons_new hp] at h ⊢
      obtain ⟨hd, h⟩ := h
      exact ⟨by rw [hd, hc e (List.mem_cons_self ..)], ih h hrest⟩

/-- One more edit in the first round moves the edits it leads, and no other. -/
theorem Shifted.orderedInsert (h : Shifted p c d edits) (hsorted : edits.Pairwise Leads)
    (hp : p e = true) :
    Shifted p (fun f => (if Leads e f then growth e else 0) + c f) d
      (edits.orderedInsert Leads e) := by
  induction edits generalizing d with
  | nil => exact (shifted_cons_done hp).mpr trivial
  | cons f rest ih =>
    have hrest := (List.pairwise_cons.mp hsorted).2
    by_cases hef : Leads e f
    · -- all that follows is led by `e`, and moves with it
      rw [List.orderedInsert_cons_of_le Leads _ hef, shifted_cons_done hp]
      refine h.add (growth e) fun g hg => ?_
      rw [if_pos (leads_of_mem hsorted hef g hg), Int.add_comm]
    · rw [List.orderedInsert_of_not_le Leads rest hef]
      cases hpf : p f with
      | true =>
        rw [shifted_cons_done hpf] at h ⊢
        exact ih h hrest
      | false =>
        rw [shifted_cons_new hpf] at h ⊢
        exact ⟨by rw [if_neg hef, Int.zero_add, h.1], ih h.2 hrest⟩

end

theorem shift_cons (f : Edit) (done : List Edit) (e : Edit) :
    shift (f :: done) e = (if Leads f e then growth f else 0) + shift done e := by
  unfold shift
  by_cases h : Leads f e <;> simp [h]

/-- **How far the first round is ahead** when an edit of the second is met in the reader's order. -/
theorem shifted_leftToRight {p : Edit → Bool} {done edits : List Edit}
    (hdone : ∀ e ∈ done, p e = true) (hedits : ∀ e ∈ edits, p e = false) :
    Shifted p (shift done) 0 (leftToRight (done ++ edits)) := by
  induction done with
  | nil => exact shifted_of_new (fun e he => hedits e (mem_leftToRight.mp he)) fun e _ => rfl
  | cons f rest ih =>
    have ih := ih fun e he => hdone e (List.mem_cons_of_mem _ he)
    have hinsert := ih.orderedInsert (leftToRight_pairwise _) (hdone f (List.mem_cons_self ..))
    rw [show shift (f :: rest) = fun e => (if Leads f e then growth f else 0) + shift rest e from
      funext fun e => shift_cons f rest e]
    exact hinsert

/-! ## Section 2: Two texts in step -/

/-- A stretch of a text in two parts. -/
private theorem drop_take_split {α : Type} (text : List α) {k m n : Nat} (hkm : k ≤ m)
    (hmn : m ≤ n) :
    (text.take n).drop k = (text.take m).drop k ++ (text.take n).drop m := by
  have hn : n - k = (m - k) + (n - m) := by omega
  have hm : k + (m - k) = m := by omega
  rw [List.drop_take, List.drop_take, List.drop_take, hn, List.take_add, List.drop_drop, hm]

/-- What stands in front of all edits is copied. -/
theorem renderFrom_split (text : List Char) {k m : Nat} {edits : List Edit} (hkm : k ≤ m)
    (h : ∀ e ∈ edits, (m : Int) ≤ e.span.offset) :
    renderFrom text k edits = (text.take m).drop k ++ renderFrom text m edits := by
  cases edits with
  | nil =>
    have hm : k + (m - k) = m := by omega
    rw [renderFrom, renderFrom, List.drop_take]
    conv_lhs => rw [← List.take_append_drop (m - k) (text.drop k), List.drop_drop, hm]
  | cons e rest =>
    have hme : m ≤ e.start := by
      have := h e (List.mem_cons_self ..)
      unfold start
      omega
    rw [renderFrom, renderFrom, drop_take_split text hkm hme]
    simp only [List.append_assoc]

theorem Separated.offset_le_stop {size k : Nat} {edits : List Edit} (h : Separated size k edits) :
    ∀ e ∈ edits, e.span.offset ≤ e.span.stop := by
  induction edits generalizing k with
  | nil => intro e he; cases he
  | cons e rest ih =>
    intro f hf
    rcases List.mem_cons.mp hf with rfl | hf
    · exact h.2.1
    · exact ih h.2.2 f hf

/-- On the way to the next edit of the second round the text of the first does not run past it. -/
theorem Shifted.le_offset {p : Edit → Bool} {c : Edit → Int} {d : Int} {size k : Nat}
    {edits : List Edit} (h : Shifted p c d edits) (hsep : Separated size k edits)
    (hc : ∀ e ∈ edits, p e = false → c e = 0) :
    ∀ e ∈ edits.filter (fun e => !p e), k + d ≤ e.span.offset := by
  induction edits generalizing d k with
  | nil => intro e he; cases he
  | cons f rest ih =>
    obtain ⟨hk, hle, hrest⟩ := hsep
    have hc' : ∀ e ∈ rest, p e = false → c e = 0 := fun e he => hc e (List.mem_cons_of_mem _ he)
    have hfinish : (f.finish : Int) = f.span.stop := by
      unfold finish
      omega
    intro e he
    cases hp : p f with
    | true =>
      rw [shifted_cons_done hp] at h
      rw [List.filter_cons_of_neg (by simp [hp])] at he
      -- what an edit puts in is no less than nothing, so the new text is not past `e` before it
      have := ih h hrest hc' e he
      unfold growth Span.stop at *
      omega
    | false =>
      rw [shifted_cons_new hp] at h
      rw [List.filter_cons_of_pos (by simp [hp])] at he
      have hd : d = 0 := h.1.trans (hc f (List.mem_cons_self ..) hp)
      rcases List.mem_cons.mp he with rfl | he
      · omega
      · have := ih h.2 hrest hc' e he
        omega

/-- A stretch of a text and what follows it. -/
private theorem take_drop_of_append {α : Type} {text front back : List α} {j m : Nat}
    (h : text.drop j = front ++ back) (hm : m = j + front.length) :
    (text.take m).drop j = front ∧ text.drop m = back := by
  have hsub : m - j = front.length := by omega
  constructor
  · rw [List.drop_take, h, hsub, List.take_left']
    rfl
  · rw [hm, ← List.drop_drop, h, List.drop_left']
    rfl

/-- Texts that agree on a stretch agree on both parts of it. -/
private theorem stretch_parts {α : Type} {xs ys : List α} {k m n : Nat}
    (h : (xs.take n).drop k = (ys.take n).drop k) (hkm : k ≤ m) (hmn : m ≤ n) :
    (xs.take m).drop k = (ys.take m).drop k ∧ (xs.take n).drop m = (ys.take n).drop m := by
  have hm : k + (m - k) = m := by omega
  constructor
  · have htake := congrArg (List.take (m - k)) h
    rw [List.drop_take, List.drop_take, List.take_take, List.take_take] at htake
    rw [List.drop_take, List.drop_take]
    rwa [Nat.min_eq_left (by omega)] at htake
  · have hdrop := congrArg (List.drop (m - k)) h
    rwa [List.drop_drop, List.drop_drop, hm] at hdrop

section

variable {text new : List Char} {p : Edit → Bool} {c : Edit → Int} {size k j : Nat} {e : Edit}
  {rest : List Edit}

/-- Past an edit of the first round: the new text goes on where the edit ends in the old one. -/
private theorem drop_past_done (hk : (k : Int) ≤ e.span.offset)
    (hle : e.span.offset ≤ e.span.stop) (hstop : e.span.stop ≤ text.length)
    (hrest : new.drop j =
      (text.take e.start).drop k ++ e.text.toList ++ renderFrom text e.finish rest) :
    ∃ m : Nat, j ≤ m ∧ (m : Int) - e.finish = j - k + growth e ∧
      (new.take m).drop j = (text.take e.start).drop k ++ e.text.toList ∧
      new.drop m = renderFrom text e.finish rest := by
  have hlength : ((text.take e.start).drop k ++ e.text.toList).length =
      (e.start - k) + e.text.toList.length := by
    rw [List.length_append, List.length_drop, List.length_take, Nat.min_eq_left]
    unfold start
    omega
  refine ⟨j + ((e.start - k) + e.text.toList.length), by omega, ?_,
    take_drop_of_append hrest (by rw [hlength])⟩
  unfold start finish growth Span.stop at *
  omega

/-- Up to the end of an edit of the second round both texts read the same, and the new text goes on
there as the old one does. -/
private theorem drop_past_new (hk : (k : Int) ≤ e.span.offset)
    (hle : e.span.offset ≤ e.span.stop) (hfits : k ≤ text.length)
    (hstop : e.span.stop ≤ new.length)
    (hbehind : ∀ f ∈ rest, (e.finish : Int) ≤ f.span.offset ∧ f.span.offset ≤ text.length)
    (hrest : new.drop k = renderFrom text k rest) :
    e.finish ≤ text.length ∧ (new.take e.finish).drop k = (text.take e.finish).drop k ∧
      new.drop e.finish = renderFrom text e.finish rest := by
  have hke : k ≤ e.finish := by
    unfold finish
    omega
  have hfinish : e.finish ≤ text.length := by
    cases rest with
    | nil =>
      -- nothing of the first round is left, so both texts end alike
      have hlength := congrArg List.length hrest
      rw [renderFrom, List.length_drop, List.length_drop] at hlength
      unfold finish at *
      omega
    | cons f rest =>
      have := hbehind f (List.mem_cons_self ..)
      omega
  rw [renderFrom_split text hke fun f hf => (hbehind f hf).1] at hrest
  have hlength : ((text.take e.finish).drop k).length = e.finish - k := by
    rw [List.length_drop, List.length_take, Nat.min_eq_left hfinish]
  exact ⟨hfinish, take_drop_of_append hrest (by omega)⟩

end

/-- **The two texts in step**: let `new` go on like the old text with the edits of the first round
made.  Then the edits of the second round lie in the old text as well and find there what they find
in `new`; and making them in `new` is making all edits in the old text. -/
theorem renderFrom_filter {text new : List Char} {p : Edit → Bool} {c : Edit → Int}
    {size k j : Nat} {edits : List Edit} (hsep : Separated size k edits) (hk : k ≤ text.length)
    (hdone : ∀ e ∈ edits, p e = true → e.span.stop ≤ text.length)
    (hnew : ∀ e ∈ edits, p e = false → e.span.stop ≤ new.length)
    (hshift : Shifted p c (j - k) edits) (hc : ∀ e ∈ edits, p e = false → c e = 0)
    (hrest : new.drop j = renderFrom text k (edits.filter p)) :
    Separated text.length k edits ∧
      (∀ e ∈ edits, p e = false →
        (new.take e.finish).drop e.start = (text.take e.finish).drop e.start) ∧
      renderFrom new j (edits.filter fun e => !p e) = renderFrom text k edits := by
  -- the induction is on all edits; behind `k` in the old text and `j` in the new one, both go on
  -- with the same edits of the first round, and `Shifted` keeps account of how far apart they are
  induction edits generalizing k j with
  | nil => exact ⟨hk, (fun e he => by cases he), hrest⟩
  | cons e rest ih =>
    obtain ⟨hke, hle, hsep⟩ := hsep
    have hdone' : ∀ f ∈ rest, p f = true → f.span.stop ≤ text.length :=
      fun f hf => hdone f (List.mem_cons_of_mem _ hf)
    have hnew' : ∀ f ∈ rest, p f = false → f.span.stop ≤ new.length :=
      fun f hf => hnew f (List.mem_cons_of_mem _ hf)
    have hc' : ∀ f ∈ rest, p f = false → c f = 0 := fun f hf => hc f (List.mem_cons_of_mem _ hf)
    cases hp : p e with
    | true =>
      -- an edit of the first round: what it made stands in the new text and is copied from there
      have hstop := hdone e (List.mem_cons_self ..) hp
      rw [shifted_cons_done hp] at hshift
      rw [List.filter_cons_of_pos hp, renderFrom] at hrest
      obtain ⟨m, hjm, hm, hcopied, hrest⟩ := drop_past_done hke hle hstop hrest
      rw [← hm] at hshift
      obtain ⟨hsep', hsame, hrender⟩ :=
        ih hsep (by unfold finish; omega) hdone' hnew' hshift hc' hrest
      refine ⟨⟨hke, hle, hsep'⟩, ?_, ?_⟩
      · intro f hf hpf
        rcases List.mem_cons.mp hf with rfl | hf
        · rw [hp] at hpf
          cases hpf
        · exact hsame f hf hpf
      · have hahead : ∀ f ∈ rest.filter (fun f => !p f), (m : Int) ≤ f.span.offset := by
          intro f hf
          have := hshift.le_offset hsep hc' f hf
          omega
        rw [List.filter_cons_of_neg (by simp [hp]), renderFrom_split new hjm hahead, hcopied,
          hrender, renderFrom]
    | false =>
      -- an edit of the second round: the texts are at the same place, so it is made alike in both
      have hstop := hnew e (List.mem_cons_self ..) hp
      rw [shifted_cons_new hp] at hshift
      have hstep := hshift.1.trans (hc e (List.mem_cons_self ..) hp)
      obtain rfl : j = k := by omega
      rw [List.filter_cons_of_neg (by simp [hp])] at hrest
      have hbehind : ∀ f ∈ rest.filter p,
          (e.finish : Int) ≤ f.span.offset ∧ f.span.offset ≤ text.length := by
        intro f hf
        obtain ⟨hf, hpf⟩ := List.mem_filter.mp hf
        have := hdone' f hf hpf
        have := hsep.offset_le_stop f hf
        exact ⟨hsep.le_offset f hf, by omega⟩
      obtain ⟨hfinish, hstretch, hrest⟩ := drop_past_new hke hle hk hstop hbehind hrest
      have hshift' : Shifted p c ((e.finish : Int) - e.finish) rest := by
        rw [Int.sub_self, ← hstep]
        exact hshift.2
      obtain ⟨hsep', hsame, hrender⟩ := ih hsep hfinish hdone' hnew' hshift' hc' hrest
      obtain ⟨hfront, hspan⟩ := stretch_parts hstretch
        (show j ≤ e.start by unfold start; omega)
        (show e.start ≤ e.finish by unfold start finish; omega)
      refine ⟨⟨hke, hle, hsep'⟩, ?_, ?_⟩
      · intro f hf hpf
        rcases List.mem_cons.mp hf with rfl | hf
        · exact hspan
        · exact hsame f hf hpf
      · rw [List.filter_cons_of_pos (by simp [hp]), renderFrom, renderFrom, hfront, hrender]

/-! ## Section 3: One round after the other -/

instance : Std.Symm Clear := ⟨fun _ _ => Or.symm⟩

theorem Separated.stop_le {size k : Nat} {edits : List Edit} (h : Separated size k edits) :
    ∀ e ∈ edits, e.span.stop ≤ (size : Int) := by
  induction edits generalizing k with
  | nil => intro e he; cases he
  | cons e rest ih =>
    obtain ⟨hk, hle, hrest⟩ := h
    intro f hf
    rcases List.mem_cons.mp hf with rfl | hf
    · have := hrest.le_size
      unfold finish at this
      omega
    · exact ih hrest f hf

/-- Edits that are clear of each other pass the checks if each of them does. -/
theorem applicable_of_clear {text : List Char} {edits : List Edit}
    (hinside : ∀ e ∈ edits, 0 ≤ e.span.offset ∧ e.span.stop ≤ (text.length : Int))
    (hfits : ∀ e ∈ edits, fits text e = true) (hproper : ∀ e ∈ edits, e.Proper)
    (h : edits.Pairwise Clear) : Applicable text edits := by
  refine ⟨hinside, hfits, ?_, ?_⟩
  · unfold replacements
    rw [List.pairwise_filter]
    refine h.imp_of_mem fun {e f} he hf hclear hek hfk => ?_
    have hespan := (hproper e he).of_replacement (by simpa using hek)
    have hfspan := (hproper f hf).of_replacement (by simpa using hfk)
    have hne : e.span ≠ f.span := by
      intro heq
      unfold Clear at hclear
      rw [heq] at hclear
      omega
    simp only [competes, Span.overlaps, Bool.or_eq_false_iff, Bool.and_eq_false_iff,
      decide_eq_false_iff_not, beq_eq_false_iff_ne]
    unfold Clear at hclear
    exact ⟨by omega, hne⟩
  · intro i hi r hr
    obtain ⟨hi, hik⟩ := List.mem_filter.mp hi
    obtain ⟨hr, hrk⟩ := List.mem_filter.mp hr
    have hne : i ≠ r := by
      rintro rfl
      simp only [beq_iff_eq] at hik hrk
      rw [hik] at hrk
      cases hrk
    have hclear : Clear i r := h.forall hi hr hne
    have hpoint := (hproper i hi).of_insertion (by simpa using hik)
    simp only [Span.enclosesPoint, Bool.and_eq_false_iff, decide_eq_false_iff_not]
    unfold Clear at hclear
    omega

/-- An edit finds the same in texts that agree on its span. -/
theorem fits_congr {xs ys : List Char} {e : Edit} (hoffset : 0 ≤ e.span.offset)
    (hle : e.span.offset ≤ e.span.stop) (hxs : e.span.stop ≤ (xs.length : Int))
    (hys : e.span.stop ≤ (ys.length : Int))
    (h : (xs.take e.finish).drop e.start = (ys.take e.finish).drop e.start) :
    fits xs e = fits ys e := by
  have hslice : ∀ zs : List Char, e.span.stop ≤ (zs.length : Int) →
      Text.slice zs e.span.offset e.span.stop = (zs.take e.finish).drop e.start := by
    intro zs hzs
    rw [Text.slice, Text.boundary_of_le hoffset (by omega),
      Text.boundary_of_le (by omega) (by omega)]
    rfl
  simp only [fits, hslice xs hxs, hslice ys hys, h]

/-- **Two rounds are one** if the second is not disturbed by the first: what comes out of making the
second round in the text the first one left is what comes out of making all edits at once. -/
theorem apply_append_of_undisturbed {text middle final : String} {done edits : List Edit}
    (hdone : ∀ e ∈ done, e.Proper) (hedits : ∀ e ∈ edits, e.Proper)
    (hfirst : apply text done = .ok middle) (hsecond : apply middle edits = .ok final)
    (h : Undisturbed done edits) : apply text (done ++ edits) = .ok final := by
  obtain ⟨happ₁, hmiddle⟩ := applyToChars_eq_ok_iff.mp (apply_eq_ok_iff.mp hfirst)
  obtain ⟨happ₂, hfinal⟩ := applyToChars_eq_ok_iff.mp (apply_eq_ok_iff.mp hsecond)
  rw [(foldl_inOrder happ₁ hdone).1] at hmiddle
  rw [(foldl_inOrder happ₂ hedits).1] at hfinal
  have hproper : ∀ e ∈ done ++ edits, e.Proper := fun e he =>
    (List.mem_append.mp he).elim (hdone e) (hedits e)
  have hclear : (done ++ edits).Pairwise Clear :=
    List.pairwise_append.mpr ⟨clear_of_applicable happ₁ hdone, clear_of_applicable happ₂ hedits,
      fun f hf e he => h.clear e he f hf⟩
  -- the first round is told from the second by membership
  have hmarked : ∀ e ∈ edits, decide (e ∈ done) = false := fun e he => by simpa using h.fresh e he
  have hother : ∀ e ∈ leftToRight (done ++ edits), decide (e ∈ done) = false → e ∈ edits :=
    fun e he hnot => (List.mem_append.mp (mem_leftToRight.mp he)).resolve_left (by simpa using hnot)
  have hround₁ : (leftToRight (done ++ edits)).filter (fun e => decide (e ∈ done)) =
      leftToRight done := by
    rw [filter_leftToRight_comm, List.filter_append, List.filter_eq_self.mpr (by simp),
      List.filter_eq_nil_iff.mpr fun e he => by simp [hmarked e he], List.append_nil]
  have hround₂ : (leftToRight (done ++ edits)).filter (fun e => !decide (e ∈ done)) =
      leftToRight edits := by
    rw [filter_leftToRight_comm, List.filter_append, List.filter_eq_nil_iff.mpr (by simp),
      List.filter_eq_self.mpr fun e he => by simp [hmarked e he], List.nil_append]
  -- that the second round lies in the old text is not known yet, so the size is that of either
  have hsep : Separated (max text.toList.length middle.toList.length) 0
      (leftToRight (done ++ edits)) := by
    refine separated_of_clear (fun e he => ?_) hproper hclear
    rcases List.mem_append.mp he with he | he
    · have := happ₁.inside e he
      omega
    · have := happ₂.inside e he
      omega
  -- walk along all edits, from the start of both texts
  obtain ⟨hsep, hsame, hrender⟩ := renderFrom_filter (p := fun e => decide (e ∈ done))
    (c := shift done) (j := 0) hsep (Nat.zero_le _)
    (fun e _ he => (happ₁.inside e (by simpa using he)).2)
    (fun e he hnot => (happ₂.inside e (hother e he hnot)).2)
    (shifted_leftToRight (by simp) hmarked)
    (fun e he hnot => h.unmoved e (hother e he hnot))
    (by rw [List.drop_zero, hround₁, hmiddle, render])
  have hinside : ∀ e ∈ done ++ edits, 0 ≤ e.span.offset ∧
      e.span.stop ≤ (text.toList.length : Int) := fun e he =>
    ⟨by simpa using hsep.le_offset e (mem_leftToRight.mpr he),
      hsep.stop_le e (mem_leftToRight.mpr he)⟩
  have hfits : ∀ e ∈ done ++ edits, fits text.toList e = true := by
    intro e he
    rcases List.mem_append.mp he with hed | hee
    · exact happ₁.fitting e hed
    · obtain ⟨hoffset, hstop⟩ := hinside e he
      rw [fits_congr hoffset (hproper e he).offset_le_stop hstop (happ₂.inside e hee).2
        (hsame e (mem_leftToRight.mpr he) (hmarked e hee)).symm]
      exact happ₂.fitting e hee
  have happ := applicable_of_clear hinside hfits hproper hclear
  refine apply_eq_ok_iff.mpr (applyToChars_eq_ok_iff.mpr ⟨happ, ?_⟩)
  rw [(foldl_inOrder happ hproper).1, render, ← hrender, hround₂, hfinal, render]

end Edit

end BindingAudit
