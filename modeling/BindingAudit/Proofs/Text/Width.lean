import BindingAudit.Proofs.Text.Blank
import BindingAudit.Text.Width

/-!
# The width of texts put together

A text takes at least the cells of any text it starts with (`displayWidth_le_append`), and at
least those of two texts it is put together from, unless the first ends in a joiner
(`add_displayWidth_le`).  The cells may be more, since a selector can widen the character that ends
the first text.

The width reads a joiner and the character after it in one step, so the inductions are by
`steps`.
-/

namespace BindingAudit.Text

variable {cs xs ys : List Char} {c : Char}

/-- Induction on a text that is read by one character or by two. -/
theorem steps {P : List Char → Prop} (nil : P [])
    (cons : ∀ c cs, P cs → P (cs.drop 1) → P (c :: cs)) (cs : List Char) : P cs := by
  have both : P cs ∧ P (cs.drop 1) := by
    induction cs with
    | nil => exact ⟨nil, nil⟩
    | cons c cs ih => exact ⟨cons c cs ih.1 ih.2, ih.1⟩
  exact both.1

@[simp] theorem widthAfter_nil (last : Option Char) : widthAfter last [] = 0 := rfl

/-- How a character counts, and what it leaves for a selector after it. -/
theorem widthAfter_cons (last : Option Char) (c : Char) (cs : List Char) :
    widthAfter last (c :: cs) =
      if c = joiner then widthAfter last (cs.drop 1)
      else if c = emojiSelector then addedWidth last + widthAfter none cs
      else if charWidth c = 0 then widthAfter last cs
      else charWidth c + widthAfter (some c) cs := by
  cases cs with
  | nil =>
    simp only [widthAfter, beq_iff_eq, List.drop_nil, Nat.add_zero]
    split
    · rfl
    · split
      · rfl
      · split
        · assumption
        · rfl
  | cons d cs =>
    simp only [widthAfter, beq_iff_eq, List.drop_one, List.tail_cons]

/-- Nothing in front of a text makes it take fewer cells. -/
theorem widthAfter_none_le (last : Option Char) (cs : List Char) :
    widthAfter none cs ≤ widthAfter last cs := by
  induction cs using steps with
  | nil => exact Nat.le_refl _
  | cons c cs ih ihDrop =>
    simp only [widthAfter_cons]
    split
    · exact ihDrop
    · split
      · exact Nat.add_le_add_right (Nat.zero_le _) _
      · split
        · exact ih
        · exact Nat.le_refl _

theorem widthAfter_le_append (last : Option Char) (xs ys : List Char) :
    widthAfter last xs ≤ widthAfter last (xs ++ ys) := by
  induction xs using steps generalizing last with
  | nil => exact Nat.zero_le _
  | cons c xs ih ihDrop =>
    simp only [List.cons_append, widthAfter_cons]
    split
    · -- the joiner takes a character of the first text, or else leaves none of it
      cases xs with
      | nil => exact Nat.zero_le _
      | cons d xs => exact ihDrop last
    · split
      · exact Nat.add_le_add_left (ih none) _
      · split
        · exact ih last
        · exact Nat.add_le_add_left (ih (some c)) _

theorem add_widthAfter_le (last : Option Char) (ys : List Char)
    (h : xs.getLast? ≠ some joiner) :
    widthAfter last xs + widthAfter none ys ≤ widthAfter last (xs ++ ys) := by
  induction xs using steps generalizing last with
  | nil =>
    -- what the first text leaves for a selector at the head of the second can only add cells
    rw [widthAfter_nil, Nat.zero_add]
    exact widthAfter_none_le last ys
  | cons c xs ih ihDrop =>
    have hrest : xs.getLast? ≠ some joiner := by
      cases xs with
      | nil => nofun
      | cons d xs => rwa [List.getLast?_cons_cons] at h
    simp only [List.cons_append, widthAfter_cons]
    split
    · next hc =>
      -- a joiner is not the last character, so what it takes is of the first text
      cases xs with
      | nil => exact absurd (congrArg some hc) h
      | cons d xs =>
        refine ihDrop last ?_
        cases xs with
        | nil => nofun
        | cons e xs => rwa [List.getLast?_cons_cons] at hrest
    · split
      · rw [Nat.add_assoc]
        exact Nat.add_le_add_left (ih none hrest) _
      · split
        · exact ih last hrest
        · rw [Nat.add_assoc]
          exact Nat.add_le_add_left (ih (some c) hrest) _

theorem widthAfter_spaces_le (last : Option Char) (n : Nat) :
    widthAfter last (List.replicate n ' ') ≤ n := by
  induction n generalizing last with
  | zero => exact Nat.le_refl _
  | succ n ih =>
    have hjoiner : ' ' ≠ joiner := by decide
    have hselector : ' ' ≠ emojiSelector := by decide
    have hwidth : charWidth ' ' = 1 := by decide
    rw [List.replicate_succ, widthAfter_cons, if_neg hjoiner, if_neg hselector, hwidth,
      if_neg Nat.one_ne_zero, Nat.add_comm]
    exact Nat.add_le_add_right (ih _) 1

theorem widthAfter_append_spaces_le (last : Option Char) (xs : List Char) (n : Nat) :
    widthAfter last (xs ++ List.replicate n ' ') ≤ widthAfter last xs + n := by
  induction xs using steps generalizing last n with
  | nil =>
    rw [widthAfter_nil, Nat.zero_add]
    exact widthAfter_spaces_le last n
  | cons c xs ih ihDrop =>
    simp only [List.cons_append, widthAfter_cons]
    split
    · cases xs with
      | nil =>
        rw [List.nil_append, List.drop_replicate, List.drop_nil, widthAfter_nil, Nat.zero_add]
        exact Nat.le_trans (widthAfter_spaces_le last _) (Nat.sub_le n 1)
      | cons d xs => exact ihDrop last n
    · split
      · rw [Nat.add_assoc]
        exact Nat.add_le_add_left (ih none n) _
      · split
        · exact ih last n
        · rw [Nat.add_assoc]
          exact Nat.add_le_add_left (ih (some c) n) _

/-- A text takes at least the cells of any text it starts with. -/
theorem displayWidth_le_append (xs ys : List Char) :
    displayWidth xs ≤ displayWidth (xs ++ ys) :=
  widthAfter_le_append none xs ys

/-- Two texts take no more cells apart than together, unless a joiner stands between them. -/
theorem add_displayWidth_le (ys : List Char) (h : xs.getLast? ≠ some joiner) :
    displayWidth xs + displayWidth ys ≤ displayWidth (xs ++ ys) :=
  add_widthAfter_le none ys h

theorem displayWidth_append_spaces_le (xs : List Char) (n : Nat) :
    displayWidth (xs ++ List.replicate n ' ') ≤ displayWidth xs + n :=
  widthAfter_append_spaces_le none xs n

theorem displayWidth_trimEnd_le (cs : List Char) :
    displayWidth (trimEnd cs) ≤ displayWidth cs := by
  obtain ⟨blanks, hcs⟩ := trimEnd_prefix cs
  calc displayWidth (trimEnd cs)
      ≤ displayWidth (trimEnd cs ++ blanks) := displayWidth_le_append ..
    _ = displayWidth cs := by rw [hcs]

end BindingAudit.Text
