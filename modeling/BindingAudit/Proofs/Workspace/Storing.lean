import BindingAudit.Proofs.Data.Entries
import BindingAudit.Proofs.Outcome
import BindingAudit.Proofs.Text.Utf8
import BindingAudit.Workspace.Basic

/-!
# Reading back what was written

Where a path leads to a file that can be read, a text that was written to the path is read from it
again (`readText_of_writeText`).  The system may refuse the text; then nothing is written, and that
is all that can go wrong where there is a file to be read (`writeText_eq_error_iff`).

The writer finds its place in another way than the reader: it goes to the directory first, and drops
empty names at the end of the path.  Where there is a file to be read, both come to one place
(`locateForWriting_of_locate`), and putting another file in its place changes no way
(`enter_store`).
-/

namespace BindingAudit.Workspace

variable {w : Workspace} {p q : Place}

/-! ## Section 1: What is stored where -/

/-- The base is a directory, whatever is stored. -/
theorem at?_nil (w : Workspace) : w.at? [] = some .directory := rfl

theorem ne_nil_of_file {bytes : List UInt8} (h : w.at? p = some (.file bytes)) : p ≠ [] := by
  rintro rfl
  rw [at?_nil] at h
  cases h

/-- Storing at a place changes what is there and nothing else. -/
theorem at?_store {s : Stored} (hp : p ≠ []) :
    (w.store p s).at? q = if q = p then some s else w.at? q := by
  by_cases hq : q = []
  · rw [hq, at?_nil, at?_nil, if_neg (Ne.symm hp)]
  · have hstored : (w.store p s).stored = if w.stored.any fun e => e.1 == p then
        w.stored.map fun e => if e.1 == p then (p, s) else e
        else w.stored ++ [(p, s)] := by
      unfold store
      split <;> rfl
    rw [at?, at?, if_neg hq, if_neg hq, hstored, find?_put]

theorem base_store (w : Workspace) (p : Place) (s : Stored) : (w.store p s).base = w.base := by
  unfold store
  split <;> rfl

theorem current_store (w : Workspace) (p : Place) (s : Stored) :
    (w.store p s).current = w.current := by
  unfold store
  split <;> rfl

/-- Storing changes nothing in what the system refuses. -/
theorem unreadable_store (w : Workspace) (p : Place) (s : Stored) :
    (w.store p s).unreadable = w.unreadable := by
  unfold store
  split <;> rfl

theorem unwritable_store (w : Workspace) (p : Place) (s : Stored) :
    (w.store p s).unwritable = w.unwritable := by
  unfold store
  split <;> rfl

/-! ## Section 2: Ways -/

/-- A file in the place of a file changes no way. -/
theorem enter_store {old new : List UInt8} (h : w.at? p = some (.file old)) :
    (w.store p (.file new)).enter = w.enter := by
  funext q name
  unfold enter
  rw [at?_store (ne_nil_of_file h)]
  by_cases hq : q = p
  · rw [if_pos hq, hq, h]
  · rw [if_neg hq]

theorem locate_store {old new : List UInt8} (h : w.at? p = some (.file old)) (path : String) :
    (w.store p (.file new)).locate path = w.locate path := by
  unfold locate follow origin origin?
  rw [enter_store h, base_store, current_store]

/-- An empty name leads from a directory to itself, so never to a file. -/
theorem ne_empty_of_enter {name : String} {bytes : List UInt8} (h : w.enter q name = .ok p)
    (hp : w.at? p = some (.file bytes)) : name ≠ "" := by
  rintro rfl
  unfold enter at h
  split at h
  · cases h
  · cases h
  · next hq =>
    simp only [true_or, if_true, Except.ok.injEq] at h
    rw [← h, hq] at hp
    cases hp

theorem splitAt_ne_nil (sep : Char) (cs : List Char) : Text.splitAt sep cs ≠ [] := by
  cases cs with
  | nil => exact List.cons_ne_nil _ _
  | cons c rest =>
    rw [Text.splitAt]
    split
    · exact List.cons_ne_nil _ _
    · split <;> exact List.cons_ne_nil _ _

/-- Where no name follows, a path starts at the base. -/
theorem start_of_origin_nil {path : String} (h : w.origin path = .ok (p, [])) : p = [] := by
  have hsome : w.origin? path = some (p, []) := by
    unfold origin at h
    split at h
    · cases h
    · split at h
      · cases h
      · split at h
        · next hfound => rw [hfound, Except.ok.inj h]
        · cases h
  simp only [origin?] at hsome
  split at hsome
  · exact (Prod.mk.inj (Option.some.inj hsome)).1.symm
  · split at hsome
    · -- a path from the working directory has at least one name
      have hnames := (Prod.mk.inj (Option.some.inj hsome)).2
      exact absurd (List.map_eq_nil_iff.mp hnames) (splitAt_ne_nil _ _)
    · cases hsome

/-- Following names leads to the last of them from where the others lead. -/
theorem follow_concat (w : Workspace) (start : Place) (names : List String) (name : String) :
    w.follow start (names ++ [name]) = w.follow start names >>= fun q => w.enter q name := by
  unfold follow
  rw [List.foldlM_append]
  simp

theorem enter_dot {name : String} (h : w.enter q name = .ok p) : w.enter q "." = .ok q := by
  unfold enter at h ⊢
  split at h
  · cases h
  · cases h
  · simp

/-- **Reader and writer come to one place** where there is a file to be read. -/
theorem locateForWriting_of_locate {path : String} {bytes : List UInt8}
    (hread : w.locate path = .ok p) (hp : w.at? p = some (.file bytes))
    (hslash : path.endsWith "/" = false) : w.locateForWriting path = .ok p := by
  obtain ⟨⟨start, names⟩, horigin, hfollow⟩ := Outcome.bind_eq_ok_iff.mp hread
  simp only at hfollow
  rcases List.eq_nil_or_concat names with rfl | ⟨init, name, rfl⟩
  · -- without a name the reader would be at the base, which is no file
    cases hfollow
    exact absurd (start_of_origin_nil horigin) (ne_nil_of_file hp)
  · rw [List.concat_eq_append] at *
    rw [follow_concat] at hfollow
    obtain ⟨directory, hdirectory, henter⟩ := Outcome.bind_eq_ok_iff.mp hfollow
    -- the last name is not empty, so the writer drops none
    have hname := ne_empty_of_enter henter hp
    have hsame : ((init ++ [name]).reverse.dropWhile (· == "")).reverse = init ++ [name] := by
      simp [hname]
    rw [locateForWriting, horigin]
    simp only [Outcome.ok_bind, hsame, List.dropLast_concat, hdirectory, enter_dot henter,
      hslash, Bool.false_eq_true, if_false, List.getLastD_concat, henter, hp]

/-! ## Section 3: Reading and writing -/

theorem readText_eq_ok {path text : String} (h : w.readText path = .ok text) :
    ∃ p bytes, w.locate path = .ok p ∧ w.at? p = some (.file bytes) ∧ w.unreadable p = none ∧
      hasNull path = false ∧ path.endsWith "/" = false := by
  unfold readText at h
  split at h
  · cases h
  · next hnull =>
    split at h
    · cases h
    · next bytes hbytes =>
      obtain ⟨p, hp, hbytes⟩ := Outcome.bind_eq_ok_iff.mp hbytes
      split at hbytes
      · cases hbytes
      · cases hbytes
      · next stored hstored =>
        split at hbytes
        · cases hbytes
        · next hslash =>
          split at hbytes
          · cases hbytes
          · next hreadable =>
            exact ⟨p, stored, hp, hstored, hreadable, by simpa using hnull, by simpa using hslash⟩

/-- **Writing where there is a file to be read**: the text takes the place of that file, unless the
system refuses its bytes. -/
theorem writeText_eq {path old : String} (hread : w.readText path = .ok old) (new : String) :
    ∃ p bytes, w.locate path = .ok p ∧ w.at? p = some (.file bytes) ∧
      w.writeText path new =
        match w.unwritable p (Text.Utf8.encode new.toList) with
        | some e => .error (.file e path)
        | none => .ok (w.store p (.file (Text.Utf8.encode new.toList))) := by
  obtain ⟨p, bytes, hlocate, hp, -, hnull, hslash⟩ := readText_eq_ok hread
  refine ⟨p, bytes, hlocate, hp, ?_⟩
  cases hrefused : w.unwritable p (Text.Utf8.encode new.toList) <;>
    simp only [writeText, hnull, Bool.false_eq_true, if_false,
      locateForWriting_of_locate hlocate hp hslash, hrefused]

/-- What a text written where there is a file to be read does: it takes the place of that file, and
the system let it. -/
theorem writeText_eq_ok_iff {w' : Workspace} {path old new : String}
    (hread : w.readText path = .ok old) :
    w.writeText path new = .ok w' ↔ ∃ p bytes, w.locate path = .ok p ∧
      w.at? p = some (.file bytes) ∧ w.unwritable p (Text.Utf8.encode new.toList) = none ∧
      w' = w.store p (.file (Text.Utf8.encode new.toList)) := by
  obtain ⟨p, bytes, hlocate, hp, hwrite⟩ := writeText_eq hread new
  rw [hwrite]
  constructor
  · intro h
    split at h
    · cases h
    · next hlet => exact ⟨p, bytes, hlocate, hp, hlet, (Except.ok.inj h).symm⟩
  · rintro ⟨q, -, hq, -, hlet, rfl⟩
    obtain rfl : p = q := Except.ok.inj (hlocate.symm.trans hq)
    simp only [hlet]

/-- Where there is a file to be read, a text is not written if and only if the system refuses its
bytes. -/
theorem writeText_eq_error_iff {path old new : String} {error : AccessError}
    (hread : w.readText path = .ok old) :
    w.writeText path new = .error error ↔ ∃ p e, w.locate path = .ok p ∧
      w.unwritable p (Text.Utf8.encode new.toList) = some e ∧ error = .file e path := by
  obtain ⟨p, bytes, hlocate, hp, hwrite⟩ := writeText_eq hread new
  rw [hwrite]
  constructor
  · intro h
    split at h
    · next e hrefused => exact ⟨p, e, hlocate, hrefused, (Except.error.inj h).symm⟩
    · cases h
  · rintro ⟨q, e, hq, hrefused, rfl⟩
    obtain rfl : p = q := Except.ok.inj (hlocate.symm.trans hq)
    simp only [hrefused]

/-- **Reading back what was written**: where a path leads to a file, a text written to the path is
read from it. -/
theorem readText_of_writeText {w' : Workspace} {path old new : String}
    (hread : w.readText path = .ok old) (hwrite : w.writeText path new = .ok w') :
    w'.readText path = .ok new := by
  obtain ⟨p, -, hlocate, -, hreadable, hnull, hslash⟩ := readText_eq_ok hread
  obtain ⟨q, bytes, hq, hp, -, rfl⟩ := (writeText_eq_ok_iff hread).mp hwrite
  obtain rfl : p = q := Except.ok.inj (hlocate.symm.trans hq)
  have hbytes : (w.store p (.file (Text.Utf8.encode new.toList))).readBytes path =
      .ok (Text.Utf8.encode new.toList) := by
    refine Outcome.bind_eq_ok_iff.mpr ⟨p, (locate_store hp path).trans hlocate, ?_⟩
    rw [at?_store (ne_nil_of_file hp), if_pos rfl, unreadable_store, hreadable]
    simp [hslash]
  rw [readText, if_neg (by simp [hnull]), hbytes]
  simp only [Text.Utf8.decode_encode, String.ofList_toList]

/-- Only a path that holds the null character is no path. -/
theorem hasNull_of_readText {path : String} (h : w.readText path = .error .nullByte) :
    hasNull path = true := by
  unfold readText at h
  split at h
  · assumption
  · split at h
    · cases h
    · split at h <;> cases h

end BindingAudit.Workspace
