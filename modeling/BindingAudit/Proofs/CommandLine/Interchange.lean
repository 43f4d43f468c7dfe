import BindingAudit.Proofs.CommandLine.Isolation
import Mathlib.Data.List.Perm.Basic

/-!
# The order of reports

Reports about different files do not get into each other's way.  What a report does depends on the
file its source leads to and on nothing else that is stored, and it changes at most this file and
nothing in what the system refuses (`Treated.change`).  So two such reports may change places
(`Treated.swap`), and reports of which no two are about one file come to the same files in any order
(`TreatedAll.perm`).
-/

namespace BindingAudit

namespace Workspace

variable {w : Workspace} {p q : Place} {old old' : List UInt8}

/-! ## Section 1: Changing files -/

theorem any_stored (h : w.at? p = some (.file old)) : (w.stored.any fun e => e.1 == p) = true := by
  rw [at?, if_neg (ne_nil_of_file h)] at h
  obtain ⟨e, he, -⟩ := Option.map_eq_some_iff.mp h
  exact List.any_eq_true.mpr ⟨e, List.mem_of_find?_eq_some he, by simpa using List.find?_some he⟩

/-- Files at different places can be replaced in either order. -/
theorem store_comm (hp : w.at? p = some (.file old)) (hq : w.at? q = some (.file old'))
    (hne : p ≠ q) (a b : List UInt8) :
    (w.store p (.file a)).store q (.file b) = (w.store q (.file b)).store p (.file a) := by
  have hq' : (w.store p (.file a)).at? q = some (.file old') := by
    rw [at?_store (ne_nil_of_file hp), if_neg hne.symm, hq]
  have hp' : (w.store q (.file b)).at? p = some (.file old) := by
    rw [at?_store (ne_nil_of_file hq), if_neg hne, hp]
  have hentries : (w.stored.map fun e => if e.1 == p then (p, Stored.file a) else e).map
        (fun e => if e.1 == q then (q, Stored.file b) else e) =
      (w.stored.map fun e => if e.1 == q then (q, Stored.file b) else e).map
        fun e => if e.1 == p then (p, Stored.file a) else e := by
    rw [List.map_map, List.map_map]
    refine List.map_congr_left fun e _ => ?_
    -- an entry is for one of the places at most
    by_cases hep : e.1 = p
    · simp [hep, hne]
    · by_cases heq : e.1 = q <;> simp [hep, heq, hne.symm]
  -- neither file is new, so both stay where they are listed
  have hleft := any_stored hq'
  have hright := any_stored hp'
  simp only [store, any_stored hp, any_stored hq, if_true] at hleft hright ⊢
  simp only [hleft, hright, if_true, hentries]

/-- The files after a change, if there is one: the file at a place gets another content. -/
def changed (w : Workspace) : Option (Place × List UInt8) → Workspace
  | none => w
  | some (p, bytes) => w.store p (.file bytes)

/-- A change is one of a file. -/
def Changes (w : Workspace) (change : Option (Place × List UInt8)) : Prop :=
  ∀ p bytes, change = some (p, bytes) → ∃ old, w.at? p = some (.file old)

theorem locate_changed {change : Option (Place × List UInt8)} (h : w.Changes change) :
    (w.changed change).locate = w.locate := by
  cases change with
  | none => rfl
  | some c =>
    obtain ⟨old, hold⟩ := h c.1 c.2 rfl
    exact funext fun path => locate_store hold path

theorem unreadable_changed (w : Workspace) (change : Option (Place × List UInt8)) :
    (w.changed change).unreadable = w.unreadable := by
  cases change with
  | none => rfl
  | some c => exact unreadable_store w c.1 _

theorem unwritable_changed (w : Workspace) (change : Option (Place × List UInt8)) :
    (w.changed change).unwritable = w.unwritable := by
  cases change with
  | none => rfl
  | some c => exact unwritable_store w c.1 _

theorem at?_changed {change : Option (Place × List UInt8)} (h : w.Changes change)
    (hne : ∀ p bytes, change = some (p, bytes) → q ≠ p) : (w.changed change).at? q = w.at? q := by
  cases change with
  | none => rfl
  | some c =>
    obtain ⟨old, hold⟩ := h c.1 c.2 rfl
    exact (at?_store (ne_nil_of_file hold)).trans (if_neg (hne c.1 c.2 rfl))

theorem changed_comm {change change' : Option (Place × List UInt8)} (h : w.Changes change)
    (h' : w.Changes change')
    (hne : ∀ p bytes q bytes', change = some (p, bytes) → change' = some (q, bytes') → p ≠ q) :
    (w.changed change).changed change' = (w.changed change').changed change := by
  cases change with
  | none => rfl
  | some c =>
    cases change' with
    | none => rfl
    | some c' =>
      obtain ⟨old, hold⟩ := h c.1 c.2 rfl
      obtain ⟨old', hold'⟩ := h' c'.1 c'.2 rfl
      exact store_comm hold hold' (hne _ _ _ _ rfl rfl) _ _

/-- Paths lead to the same places in another workspace, and the system refuses the same there. -/
structure Alike (w w' : Workspace) : Prop where
  locate : w'.locate = w.locate
  unreadable : w'.unreadable = w.unreadable
  unwritable : w'.unwritable = w.unwritable

theorem Alike.symm {w' : Workspace} (h : w.Alike w') : w'.Alike w :=
  ⟨h.locate.symm, h.unreadable.symm, h.unwritable.symm⟩

theorem alike_changed {change : Option (Place × List UInt8)} (h : w.Changes change) :
    w.Alike (w.changed change) :=
  ⟨locate_changed h, unreadable_changed w change, unwritable_changed w change⟩

/-- What is read at a path is settled by where it leads and what is there. -/
theorem readText_congr {w' : Workspace} {path : String} (halike : w.Alike w')
    (hat : ∀ p, w.locate path = .ok p → w'.at? p = w.at? p) :
    w'.readText path = w.readText path := by
  have hbytes : w'.readBytes path = w.readBytes path := by
    unfold readBytes
    rw [halike.locate]
    cases hplace : w.locate path with
    | error error => rfl
    | ok p => rw [Outcome.ok_bind, Outcome.ok_bind, hat p hplace, halike.unreadable]
  rw [readText, readText, hbytes]

/-- Where there is a file to be read in both, the same texts are refused. -/
theorem writeText_error_congr {w' : Workspace} {path text new : String} {error : AccessError}
    (halike : w.Alike w') (hread : w.readText path = .ok text)
    (hread' : w'.readText path = .ok text) (hwrite : w.writeText path new = .error error) :
    w'.writeText path new = .error error := by
  obtain ⟨p, e, hp, hrefused, rfl⟩ := (writeText_eq_error_iff hread).mp hwrite
  refine (writeText_eq_error_iff hread').mpr ⟨p, e, ?_, ?_, rfl⟩
  · rw [halike.locate, hp]
  · rw [halike.unwritable, hrefused]

end Workspace

namespace CommandLine

variable {dryRun success success' : Bool} {w middle after after' : Workspace} {r r' : Report}

/-! ## Section 2: One report -/

/-- A report has fixes for the file at a place. -/
def Concerns (w : Workspace) (r : Report) (p : Place) : Prop :=
  r.fixes ≠ [] ∧ ∃ path, r.source = some path ∧ w.locate path = .ok p

/-- Two reports have no fixes for one file. -/
def Apart (w : Workspace) (r r' : Report) : Prop :=
  ∀ p, Concerns w r p → ¬ Concerns w r' p

theorem Apart.symm (h : Apart w r r') : Apart w r' r :=
  fun p hr' hr => h p hr hr'

theorem Apart.congr (h : Apart w r r') (hlocate : middle.locate = w.locate) :
    Apart middle r r' := by
  unfold Apart Concerns at *
  rwa [hlocate]

/-- There is one way for a report to be dealt with. -/
theorem Treated.unique (h : Treated dryRun w r success after)
    (h' : Treated dryRun w r success' after') : success = success' ∧ after = after' := by
  rcases h.run with ⟨rfl, done, hrun, hafter⟩ | ⟨rfl, error, hrun⟩
  · rcases h'.run with ⟨rfl, done', hrun', hafter'⟩ | ⟨rfl, error, hrun'⟩
    · cases hrun.symm.trans hrun'
      exact ⟨rfl, hafter.symm.trans hafter'⟩
    · cases hrun.symm.trans hrun'
  · rcases h'.run with ⟨rfl, done', hrun', -⟩ | ⟨rfl, error, hrun'⟩
    · cases hrun.symm.trans hrun'
    · exact ⟨rfl, h.eq_of_failure.trans h'.eq_of_failure.symm⟩

/-- **One report**: what it does is a change of the file it is about, and the same change wherever
this file is the same. -/
theorem Treated.change (h : Treated dryRun w r success after) :
    ∃ change, after = w.changed change ∧ w.Changes change ∧
      (∀ p bytes, change = some (p, bytes) → Concerns w r p) ∧
      ∀ w' : Workspace, w.Alike w' → (∀ p, Concerns w r p → w'.at? p = w.at? p) →
        Treated dryRun w' r success (w'.changed change) := by
  have hsame {w' : Workspace} {path : String} (hfixes : r.fixes ≠ [])
      (hsource : r.source = some path) (halike : w.Alike w')
      (hat : ∀ p, Concerns w r p → w'.at? p = w.at? p) :
      w'.readText path = w.readText path :=
    Workspace.readText_congr halike fun p hp => hat p ⟨hfixes, path, hsource, hp⟩
  cases h with
  | idle h => exact ⟨none, rfl, nofun, nofun, fun w' _ _ => .idle h⟩
  | unread hfixes hsource hread =>
    refine ⟨none, rfl, nofun, nofun, fun w' halike hat => ?_⟩
    exact .unread hfixes hsource ((hsame hfixes hsource halike hat).trans hread)
  | unfit hfixes hsource hread happly =>
    refine ⟨none, rfl, nofun, nofun, fun w' halike hat => .unfit hfixes hsource ?_ happly⟩
    rw [hsame hfixes hsource halike hat, hread]
  | unwritten hdry hfixes hsource hread happly hwrite =>
    refine ⟨none, rfl, nofun, nofun, fun w' halike hat => ?_⟩
    have hread' := (hsame hfixes hsource halike hat).trans hread
    exact .unwritten hdry hfixes hsource hread' happly
      (Workspace.writeText_error_congr halike hread hread' hwrite)
  | planned hdry hfixes hsource hread happly =>
    refine ⟨none, rfl, nofun, nofun, fun w' halike hat => .planned hdry hfixes hsource ?_ happly⟩
    rw [hsame hfixes hsource halike hat, hread]
  | @rewritten path text new p bytes hdry hfixes hsource hread happly hplace hfile hlet =>
    have hconcerns : Concerns w r p := ⟨hfixes, path, hsource, hplace⟩
    refine ⟨some (p, Text.Utf8.encode new.toList), rfl, ?_, ?_, fun w' halike hat => ?_⟩
    · rintro q bytes' hq
      cases hq
      exact ⟨bytes, hfile⟩
    · rintro q bytes' hq
      cases hq
      exact hconcerns
    · refine .rewritten hdry hfixes hsource ?_ happly ?_ (?_ : w'.at? p = some (.file bytes)) ?_
      · rw [hsame hfixes hsource halike hat, hread]
      · rw [halike.locate, hplace]
      · rw [hat p hconcerns, hfile]
      · rw [halike.unwritable, hlet]

/-- **Two reports** about different files may change places. -/
theorem Treated.swap (h : Treated dryRun w r success middle)
    (h' : Treated dryRun middle r' success' after) (hapart : Apart w r r') :
    ∃ middle', Treated dryRun w r' success' middle' ∧ Treated dryRun middle' r success after := by
  obtain ⟨change, rfl, hchange, hplace, hmove⟩ := h.change
  obtain ⟨change', rfl, hchange', hplace', hmove'⟩ := h'.change
  -- paths lead where they led, so the reports concern the same files before and after a change
  have halike := Workspace.alike_changed hchange
  have hconcerns : ∀ r p, Concerns (w.changed change) r p ↔ Concerns w r p := by
    intro r p
    rw [Concerns, Concerns, halike.locate]
  -- the second report finds its file as it was before the first
  have hat : ∀ p, Concerns w r' p → (w.changed change).at? p = w.at? p := fun p hp =>
    Workspace.at?_changed hchange fun q bytes hq heq => hapart q (hplace q bytes hq) (heq ▸ hp)
  have hfiles : w.Changes change' := by
    intro p bytes hp
    rw [← hat p ((hconcerns r' p).mp (hplace' p bytes hp))]
    exact hchange' p bytes hp
  refine ⟨w.changed change', hmove' w halike.symm fun p hp => ?_, ?_⟩
  · exact (hat p ((hconcerns r' p).mp hp)).symm
  · rw [Workspace.changed_comm hchange hfiles]
    · refine hmove _ (Workspace.alike_changed hfiles) fun p hp => ?_
      refine Workspace.at?_changed hfiles fun q bytes hq heq => ?_
      exact hapart p hp (heq ▸ (hconcerns r' q).mp (hplace' q bytes hq))
    · intro p bytes q bytes' hp hq heq
      exact hapart p (hplace p bytes hp) (heq ▸ (hconcerns r' q).mp (hplace' q bytes' hq))

/-! ## Section 3: All reports -/

theorem TreatedAll.unique {treated treated' : List (Report × Bool)}
    (h : TreatedAll dryRun w treated after) (h' : TreatedAll dryRun w treated' after')
    (hreports : treated.map (·.1) = treated'.map (·.1)) : treated = treated' ∧ after = after' := by
  induction h generalizing treated' after' with
  | nil =>
    obtain rfl := List.map_eq_nil_iff.mp hreports.symm
    cases h'
    exact ⟨rfl, rfl⟩
  | cons hfirst _ ih =>
    cases h' with
    | nil => cases hreports
    | cons hfirst' hrest' =>
      obtain ⟨hr, hrest⟩ := List.cons.inj hreports
      cases hr
      obtain ⟨rfl, rfl⟩ := hfirst.unique hfirst'
      obtain ⟨rfl, rfl⟩ := ih hrest' hrest
      exact ⟨rfl, rfl⟩

/-- **All reports**: of which no two are about one file, they may be dealt with in any order. -/
theorem TreatedAll.perm {treated treated' : List (Report × Bool)}
    (h : TreatedAll dryRun w treated after) (hperm : treated.Perm treated')
    (hapart : treated.Pairwise fun x y => Apart w x.1 y.1) :
    TreatedAll dryRun w treated' after := by
  -- by adjacent swaps; the workspace is general, for the rest starts in what the first leaves
  induction hperm generalizing w with
  | nil => exact h
  | cons x _ ih =>
    cases h with
    | cons hfirst hrest =>
      refine .cons hfirst (ih hrest ?_)
      exact (List.pairwise_cons.mp hapart).2.imp fun h => h.congr hfirst.frame.1
  | swap x y rest =>
    cases h with
    | cons hfirst hrest =>
      cases hrest with
      | cons hsecond hrest =>
        have happly := (List.pairwise_cons.mp hapart).1 _ (List.mem_cons_self ..)
        obtain ⟨middle', hsecond', hfirst'⟩ := hfirst.swap hsecond happly
        exact .cons hsecond' (.cons hfirst' hrest)
  | trans hperm _ ih ih' =>
    exact ih' (ih h hapart) ((hperm.pairwise_iff fun h => h.symm).mp hapart)

/-- **Reports in another order** come to the same files, and each fares as before. -/
theorem TreatedAll.of_reports_perm {treated treated' : List (Report × Bool)}
    (h : TreatedAll dryRun w treated after) (h' : TreatedAll dryRun w treated' after')
    (hperm : (treated.map (·.1)).Perm (treated'.map (·.1)))
    (hapart : (treated.map (·.1)).Pairwise (Apart w)) : treated.Perm treated' ∧ after = after' := by
  -- the first reports in the order of the second, each with what became of it
  have hfirst : List.Forall₂ (fun r x => r = x.1) (treated.map (·.1)) treated :=
    List.forall₂_map_left_iff.mpr (List.forall₂_same.mpr fun x _ => rfl)
  obtain ⟨sorted, hsorted, hmap⟩ := List.perm_comp_forall₂ hperm.symm hfirst
  have hreports : sorted.map (·.1) = treated'.map (·.1) := by
    have hequal := List.forall₂_map_right_iff.mpr hsorted
    rw [List.forall₂_eq_eq_eq] at hequal
    exact hequal.symm
  obtain ⟨rfl, rfl⟩ := (h.perm hmap.symm (List.pairwise_map.mp hapart)).unique h' hreports
  exact ⟨hmap.symm, rfl⟩

end CommandLine

end BindingAudit
