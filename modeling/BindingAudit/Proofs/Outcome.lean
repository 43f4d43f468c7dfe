import Mathlib.Data.List.Basic
import Mathlib.Data.List.Forall2

/-!
# Computations that may fail

How a computation that succeeded came about: a sequence has a first result that the second part
started from, and a run over a list has a result for each of its members.  The statements about
lists follow what is seen of each result (`view`), so that a run can be compared with a plain
list even where part of a result is of no interest.
-/

namespace BindingAudit.Outcome

variable {ε α β γ : Type}

@[simp] theorem ok_bind (a : α) (f : α → Except ε β) : (Except.ok a >>= f) = f a := rfl

@[simp] theorem error_bind (e : ε) (f : α → Except ε β) :
    ((Except.error e : Except ε α) >>= f) = .error e := rfl

theorem bind_eq_ok_iff {x : Except ε α} {f : α → Except ε β} {b : β} :
    (x >>= f) = .ok b ↔ ∃ a, x = .ok a ∧ f a = .ok b := by
  constructor
  · intro h
    cases x with
    | error e => cases h
    | ok a => exact ⟨a, rfl, h⟩
  · rintro ⟨a, rfl, h⟩
    exact h

theorem map_eq_ok_iff {x : Except ε α} {f : α → β} {b : β} :
    f <$> x = .ok b ↔ ∃ a, x = .ok a ∧ f a = b := by
  constructor
  · intro h
    cases x with
    | error e => cases h
    | ok a => exact ⟨a, rfl, Except.ok.inj h⟩
  · rintro ⟨a, rfl, rfl⟩
    rfl

theorem map_eq_error_iff {x : Except ε α} {f : α → β} {e : ε} :
    f <$> x = .error e ↔ x = .error e := by
  cases x with
  | error e' => simp
  | ok a => simp

/-- A filtering run over a list, seen from outside, is a plain filter. -/
theorem filterMapM_view {f : α → Except ε (Option β)} {view : β → γ} {g : α → Option γ}
    {l : List α} {found : List β} (hview : ∀ a ∈ l, ∀ x, f a = .ok x → x.map view = g a)
    (h : l.filterMapM f = .ok found) : found.map view = l.filterMap g := by
  induction l generalizing found with
  | nil =>
    rw [List.filterMapM_nil] at h
    cases h
    rfl
  | cons a rest ih =>
    rw [List.filterMapM_cons, bind_eq_ok_iff] at h
    obtain ⟨x, hx, h⟩ := h
    have hhead := hview a (List.mem_cons_self ..) x hx
    -- the head leaves a result or none; either way the rest is a run of its own
    have htail : ∀ ys, rest.filterMapM f = .ok ys → ys.map view = rest.filterMap g :=
      fun ys hys => ih (fun c hc => hview c (List.mem_cons_of_mem _ hc)) hys
    cases x with
    | none =>
      rw [List.filterMap_cons_none hhead.symm]
      exact htail found h
    | some y =>
      rw [List.filterMap_cons_some hhead.symm]
      simp only [bind_eq_ok_iff] at h
      obtain ⟨ys, hys, h⟩ := h
      cases h
      rw [List.map_cons, htail ys hys]

/-- A run over a list that collects what each member gives is a plain concatenation. -/
theorem flatten_mapM_view {f : α → Except ε (List β)} {view : β → γ} {g : α → List γ}
    {l : List α} {found : List β} (hview : ∀ a ∈ l, ∀ xs, f a = .ok xs → xs.map view = g a)
    (h : List.flatten <$> l.mapM f = .ok found) : found.map view = l.flatMap g := by
  obtain ⟨parts, hparts, rfl⟩ := map_eq_ok_iff.mp h
  clear h
  induction l generalizing parts with
  | nil =>
    rw [List.mapM_nil] at hparts
    cases hparts
    rfl
  | cons a rest ih =>
    -- the parts are that of the head and those of the rest
    simp only [List.mapM_cons, bind_eq_ok_iff] at hparts
    obtain ⟨xs, hxs, ys, hys, h⟩ := hparts
    cases h
    rw [List.flatten_cons, List.map_append, List.flatMap_cons,
      hview a (List.mem_cons_self ..) xs hxs,
      ih (fun c hc => hview c (List.mem_cons_of_mem _ hc)) ys hys]

/-- A run over a list goes through if it does for each member. -/
theorem exists_mapM {f : α → Except ε β} {l : List α} (h : ∀ a ∈ l, ∃ b, f a = .ok b) :
    ∃ bs, l.mapM f = .ok bs := by
  induction l with
  | nil => exact ⟨[], List.mapM_nil⟩
  | cons a rest ih =>
    obtain ⟨b, hb⟩ := h a (List.mem_cons_self ..)
    obtain ⟨bs, hbs⟩ := ih fun c hc => h c (List.mem_cons_of_mem _ hc)
    exact ⟨b :: bs, by rw [List.mapM_cons, hb, ok_bind, hbs]; rfl⟩

/-- A run in which no member fails is a map. -/
theorem mapM_eq_map {f : α → Except ε β} {g : α → β} {l : List α}
    (h : ∀ a ∈ l, f a = .ok (g a)) : l.mapM f = .ok (l.map g) := by
  induction l with
  | nil => exact List.mapM_nil
  | cons a rest ih =>
    rw [List.mapM_cons, h a (List.mem_cons_self ..), ok_bind,
      ih fun c hc => h c (List.mem_cons_of_mem _ hc)]
    rfl

theorem mapM_map_eq {γ : Type} {f : β → Except ε γ} {g : α → β} {k : α → γ} {l : List α}
    (h : ∀ a ∈ l, f (g a) = .ok (k a)) : (l.map g).mapM f = .ok (l.map k) := by
  rw [List.mapM_map]
  exact mapM_eq_map h

theorem forall₂_of_mapM {f : α → Except ε β} {l : List α} {bs : List β}
    (h : l.mapM f = .ok bs) : List.Forall₂ (fun a b => f a = .ok b) l bs := by
  induction l generalizing bs with
  | nil =>
    cases h
    exact .nil
  | cons a rest ih =>
    simp only [List.mapM_cons, bind_eq_ok_iff] at h
    obtain ⟨b, hb, bs, hbs, h⟩ := h
    cases h
    exact .cons hb (ih hbs)

/-- Every member has a result in a run that succeeds. -/
theorem exists_of_mem {f : α → Except ε β} {l : List α} {bs : List β} {a : α}
    (h : l.mapM f = .ok bs) (ha : a ∈ l) : ∃ b, f a = .ok b := by
  have hall := forall₂_of_mapM h
  clear h
  induction hall with
  | nil => cases ha
  | cons hb _ ih =>
    rcases List.mem_cons.mp ha with rfl | ha
    · exact ⟨_, hb⟩
    · exact ih ha

/-- What holds of the result of each member holds of the results of a run, in order. -/
theorem exists_mapM_forall₂ {R : α → β → Prop} {f : α → Except ε β} {l : List α}
    (h : ∀ a ∈ l, ∃ b, f a = .ok b ∧ R a b) : ∃ bs, l.mapM f = .ok bs ∧ List.Forall₂ R l bs := by
  induction l with
  | nil => exact ⟨[], List.mapM_nil, .nil⟩
  | cons a rest ih =>
    obtain ⟨b, hb, hR⟩ := h a (List.mem_cons_self ..)
    obtain ⟨bs, hbs, hrest⟩ := ih fun c hc => h c (List.mem_cons_of_mem _ hc)
    exact ⟨b :: bs, by rw [List.mapM_cons, hb, ok_bind, hbs]; rfl, .cons hR hrest⟩

theorem exists_filterMapM {f : α → Except ε (Option β)} {l : List α}
    (h : ∀ a ∈ l, ∃ x, f a = .ok x) : ∃ bs, l.filterMapM f = .ok bs := by
  induction l with
  | nil => exact ⟨[], List.filterMapM_nil⟩
  | cons a rest ih =>
    obtain ⟨x, hx⟩ := h a (List.mem_cons_self ..)
    obtain ⟨bs, hbs⟩ := ih fun c hc => h c (List.mem_cons_of_mem _ hc)
    rw [List.filterMapM_cons, hx, ok_bind]
    cases x with
    | none => exact ⟨bs, hbs⟩
    | some b => exact ⟨b :: bs, by rw [hbs]; rfl⟩

/-- A result of a run over a list is that of a member. -/
theorem exists_of_mem_mapM {f : α → Except ε β} {l : List α} {bs : List β} {b : β}
    (h : l.mapM f = .ok bs) (hb : b ∈ bs) : ∃ a ∈ l, f a = .ok b := by
  induction l generalizing bs with
  | nil =>
    rw [List.mapM_nil] at h
    cases h
    cases hb
  | cons a rest ih =>
    simp only [List.mapM_cons, bind_eq_ok_iff] at h
    obtain ⟨x, hx, xs, hxs, h⟩ := h
    cases h
    rcases List.mem_cons.mp hb with rfl | hb
    · exact ⟨a, List.mem_cons_self .., hx⟩
    · obtain ⟨c, hc, hb⟩ := ih hxs hb
      exact ⟨c, List.mem_cons_of_mem _ hc, hb⟩

theorem exists_of_mem_filterMapM {f : α → Except ε (Option β)} {l : List α} {bs : List β} {b : β}
    (h : l.filterMapM f = .ok bs) (hb : b ∈ bs) : ∃ a ∈ l, f a = .ok (some b) := by
  induction l generalizing bs with
  | nil =>
    rw [List.filterMapM_nil] at h
    cases h
    cases hb
  | cons a rest ih =>
    rw [List.filterMapM_cons, bind_eq_ok_iff] at h
    obtain ⟨x, hx, h⟩ := h
    cases x with
    | none =>
      obtain ⟨c, hc, hb⟩ := ih h hb
      exact ⟨c, List.mem_cons_of_mem _ hc, hb⟩
    | some y =>
      simp only [bind_eq_ok_iff] at h
      obtain ⟨ys, hys, h⟩ := h
      cases h
      rcases List.mem_cons.mp hb with rfl | hb
      · exact ⟨a, List.mem_cons_self .., hx⟩
      · obtain ⟨c, hc, hb⟩ := ih hys hb
        exact ⟨c, List.mem_cons_of_mem _ hc, hb⟩

/-- A filtering run over a list fails with the first fault of a member. -/
theorem filterMapM_eq_error_iff {f : α → Except ε (Option β)} {fault? : α → Option ε}
    (h : ∀ a e, f a = .error e ↔ fault? a = some e) {l : List α} {e : ε} :
    l.filterMapM f = .error e ↔ (l.filterMap fault?).head? = some e := by
  induction l with
  | nil =>
    rw [List.filterMapM_nil]
    constructor <;> nofun
  | cons a rest ih =>
    rw [List.filterMapM_cons]
    cases hf : f a with
    | error e' => rw [List.filterMap_cons_some ((h a e').mp hf), error_bind, List.head?_cons,
        Except.error.injEq, Option.some.injEq]
    | ok x =>
      have hnone : fault? a = none := Option.eq_none_iff_forall_ne_some.mpr fun e' he' => by
        cases hf.symm.trans ((h a e').mpr he')
      rw [List.filterMap_cons_none hnone, ← ih, ok_bind]
      cases x with
      | none => rfl
      | some b => exact map_eq_error_iff

/-- A run over a list fails with the first fault of a member. -/
theorem mapM_eq_error_iff {f : α → Except ε β} {faults : α → List ε}
    (h : ∀ a e, f a = .error e ↔ (faults a).head? = some e) {l : List α} {e : ε} :
    l.mapM f = .error e ↔ (l.flatMap faults).head? = some e := by
  induction l with
  | nil =>
    rw [List.mapM_nil]
    constructor <;> nofun
  | cons a rest ih =>
    rw [List.mapM_cons, List.flatMap_cons, List.head?_append]
    cases hf : f a with
    | error e' => rw [(h a e').mp hf, error_bind, Option.some_or, Except.error.injEq,
        Option.some.injEq]
    | ok b =>
      have hnone : (faults a).head? = none := Option.eq_none_iff_forall_ne_some.mpr fun e' he' => by
        cases hf.symm.trans ((h a e').mpr he')
      rw [hnone, Option.none_or, ← ih, ok_bind]
      exact map_eq_error_iff

end BindingAudit.Outcome
