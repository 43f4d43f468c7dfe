import BindingAudit.Proofs.Outcome
import BindingAudit.Workspace.ConfigurationFile
import Mathlib.Data.List.Induction

/-!
# The nearest configuration

The configuration of a directory is that of the nearest place, from the directory upwards, whose
file has one.  Places without a file, or whose file has no table for the tool, are passed over, and
so are files that cannot be read as TOML, with a warning for each, the nearest first
(`configuration_nearest`).

## Architecture

1. What the file of a place is: it may be usable, or stop the search; all other places are passed
   over, among them those whose file cannot be read as TOML (`Malformed.passed`).
2. One step of the search for each of these, and the run over places that are passed over
   (`searchConfiguration_append`).
3. The places of a search are those above the start directory, and the first that is not passed
   over decides (`configuration_nearest`).
4. Between a start directory and the place that decides all others are passed over, and what is
   above it makes no difference (`configuration_of_usable`, `configuration_of_stops`).

A file whose bytes are no text is no TOML either, but it is not passed over: it takes the whole
search down with it, and a configuration above it is never found (`undecodable_file_stops`).  The
same holds of a number with too many digits and of values too deep inside each other.
-/

namespace BindingAudit.Workspace

open Text (Utf8.decode)

variable {w : Workspace} {p q : Place} {table : Configuration}
  {e : ConfigurationError} {text text' : List Char}

/-! ## Section 1: What a place has to say -/

/-- The configuration file in a directory can be read, and holds a text. -/
def Offers (w : Workspace) (q : Place) (text : List Char) : Prop :=
  ∃ bytes, w.stat (w.configurationPath q) = .ok (some (.file bytes)) ∧
    w.unreadable (configurationPlace q) = none ∧ Utf8.decode bytes = .ok text

/-- There is a configuration file in a directory, but the system refuses to read it. -/
def Refused (w : Workspace) (q : Place) : Prop :=
  ∃ bytes, w.stat (w.configurationPath q) = .ok (some (.file bytes)) ∧
    w.unreadable (configurationPlace q) ≠ none

/-- The configuration file in a directory has a table for the tool. -/
def Usable (w : Workspace) (q : Place) (table : Configuration) : Prop :=
  ∃ text t tool, w.Offers q text ∧ Toml.read text = .ok t ∧
    lookupText t "tool" = some (.map tool) ∧
    lookupText tool "qml-alias-lint" = some (.map table)

/-- The configuration file in a directory cannot be read as TOML. -/
inductive Malformed (w : Workspace) (q : Place) : Prop where
  | refused (h : w.Refused q) : Malformed w q
  /-- The file is a text, but no TOML. -/
  | syntactic {text : List Char} (htext : w.Offers q text)
      (hread : Toml.read text = .error .malformed) : Malformed w q

/-- The configuration file in a directory stops the search. -/
inductive Stops (w : Workspace) (q : Place) : ConfigurationError → Prop where
  /-- The path of the file is too long to be followed. -/
  | unreachable {error : AccessError} (h : w.stat (w.configurationPath q) = .error error) :
      Stops w q (.access error)
  /-- The bytes of the file are no text. -/
  | undecodable {bytes : List UInt8} {fault : Text.Utf8.Fault}
      (hfile : w.stat (w.configurationPath q) = .ok (some (.file bytes)))
      (hreadable : w.unreadable (configurationPlace q) = none)
      (hbytes : Utf8.decode bytes = .error fault) : Stops w q (.access (.decoding fault))
  /-- The text holds more than can be read. -/
  | excessive {text : List Char} {fault : Toml.Fault} (htext : w.Offers q text)
      (hread : Toml.read text = .error fault) (hfault : fault ≠ .malformed) :
      Stops w q (.toml fault)

/-- A place that the search passes over. -/
structure Passed (w : Workspace) (q : Place) : Prop where
  unusable : ∀ table, ¬ w.Usable q table
  free : ∀ e, ¬ w.Stops q e

theorem configurationOffer_eq_text_iff :
    w.configurationOffer q = .ok (.text text) ↔ w.Offers q text := by
  unfold configurationOffer Offers
  split
  · next h => simp [h]
  · next bytes h =>
    cases hr : w.unreadable (configurationPlace q) <;>
      cases hd : Utf8.decode bytes <;> simp [h, hd]
  · next stored hstored h =>
    simp only [h, reduceCtorEq, Except.ok.injEq, false_iff, not_exists]
    rintro bytes ⟨rfl, -⟩
    exact hstored bytes rfl

theorem configurationOffer_eq_refused_iff :
    w.configurationOffer q = .ok .refused ↔ w.Refused q := by
  unfold configurationOffer Refused
  split
  · next h => simp [h]
  · next bytes h =>
    cases hr : w.unreadable (configurationPlace q) <;> cases Utf8.decode bytes <;> simp [h]
  · next stored hstored h =>
    simp only [h, reduceCtorEq, Except.ok.injEq, false_iff, not_exists]
    rintro bytes ⟨rfl, -⟩
    exact hstored bytes rfl

theorem Offers.unique (h : w.Offers q text) (h' : w.Offers q text') : text = text' :=
  Offer.text.inj (Except.ok.inj ((configurationOffer_eq_text_iff.mpr h).symm.trans
    (configurationOffer_eq_text_iff.mpr h')))

/-- A file that can be read is not one that the system refuses to read. -/
theorem Offers.not_refused (h : w.Offers q text) : ¬ w.Refused q := fun h' => by
  cases (configurationOffer_eq_text_iff.mpr h).symm.trans (configurationOffer_eq_refused_iff.mpr h')

theorem toolTable?_eq_some_iff {t : Toml.Table} :
    toolTable? t = some table ↔ ∃ tool, lookupText t "tool" = some (.map tool) ∧
      lookupText tool "qml-alias-lint" = some (.map table) := by
  unfold toolTable?
  constructor
  · intro h
    split at h
    · next found hfound =>
      cases h
      obtain ⟨d, htool, hfield⟩ := Option.bind_eq_some_iff.mp hfound
      cases d <;> try cases hfield
      exact ⟨_, htool, hfield⟩
    · cases h
  · rintro ⟨tool, htool, htable⟩
    have hfield : (Data.map tool).field? "qml-alias-lint" = some (.map table) := htable
    rw [htool, Option.bind_some, hfield]

/-- What the text of a place decides: a usable table is the one the text reads as. -/
theorem Offers.usable_iff (h : w.Offers q text) :
    w.Usable q table ↔ ∃ t, Toml.read text = .ok t ∧ toolTable? t = some table := by
  simp only [toolTable?_eq_some_iff]
  constructor
  · rintro ⟨text', t, tool, h', hread, htable⟩
    cases h.unique h'
    exact ⟨t, hread, tool, htable⟩
  · rintro ⟨t, hread, tool, htable⟩
    exact ⟨text, t, tool, h, hread, htable⟩

theorem Offers.malformed_iff (h : w.Offers q text) :
    w.Malformed q ↔ Toml.read text = .error .malformed := by
  constructor
  · rintro (h' | ⟨h', hread⟩)
    · exact absurd h' h.not_refused
    · cases h.unique h'
      exact hread
  · exact fun hread => .syntactic h hread

/-- Whether the configuration file in a directory cannot be read as TOML. -/
def isMalformed (w : Workspace) (q : Place) : Bool :=
  match w.configurationOffer q with
  | .ok .refused => true
  | .ok (.text text) =>
    match Toml.read text with
    | .error fault => fault == .malformed
    | .ok _ => false
  | _ => false

theorem isMalformed_iff : w.isMalformed q = true ↔ w.Malformed q := by
  unfold isMalformed
  split
  · next hrefused =>
    exact iff_of_true rfl (.refused (configurationOffer_eq_refused_iff.mp hrefused))
  · next text htext =>
    rw [(configurationOffer_eq_text_iff.mp htext).malformed_iff]
    cases Toml.read text <;> simp
  · next hrefused htext =>
    simp only [Bool.false_eq_true, false_iff]
    rintro (h | ⟨h, -⟩)
    · exact hrefused (configurationOffer_eq_refused_iff.mpr h)
    · exact htext _ (configurationOffer_eq_text_iff.mpr h)

instance (w : Workspace) (q : Place) : Decidable (w.Malformed q) :=
  decidable_of_iff _ isMalformed_iff

/-- A place stops the search where there is nothing to offer for a fault, or a text that holds too
much. -/
theorem stops_iff :
    w.Stops q e ↔ w.configurationOffer q = .error e ∨
      ∃ text fault, w.Offers q text ∧ Toml.read text = .error fault ∧ fault ≠ .malformed ∧
        e = .toml fault := by
  constructor
  · rintro (h | ⟨hfile, hreadable, hbytes⟩ | ⟨htext, hread, hfault⟩)
    · left
      rw [configurationOffer, h]
    · left
      simp only [configurationOffer, hfile, hreadable, Option.isSome_none, Bool.false_eq_true,
        if_false, hbytes]
    · exact Or.inr ⟨_, _, htext, hread, hfault, rfl⟩
  · rintro (h | ⟨text, fault, htext, hread, hfault, rfl⟩)
    · unfold configurationOffer at h
      split at h
      · next hstat =>
        cases h
        exact .unreachable hstat
      · next hstat =>
        split at h
        · cases h
        · next hreadable =>
          split at h
          · next hbytes =>
            cases h
            exact .undecodable hstat (by simpa using hreadable) hbytes
          · cases h
      · cases h
    · exact .excessive htext hread hfault

theorem Offers.stops_iff (h : w.Offers q text) :
    w.Stops q e ↔ ∃ fault, Toml.read text = .error fault ∧ fault ≠ .malformed ∧
      e = .toml fault := by
  rw [Workspace.stops_iff, configurationOffer_eq_text_iff.mpr h]
  constructor
  · rintro (hfails | ⟨text', fault, h', hfault⟩)
    · cases hfails
    · cases h.unique h'
      exact ⟨fault, hfault⟩
  · rintro ⟨fault, hfault⟩
    exact Or.inr ⟨text, fault, h, hfault⟩

/-- A file that the system refuses to read is passed over. -/
theorem Refused.passed (h : w.Refused q) : w.Passed q := by
  constructor
  · rintro table ⟨text, -, -, htext, -⟩
    exact htext.not_refused h
  · intro e hstops
    rcases stops_iff.mp hstops with hfails | ⟨text, -, htext, -⟩
    · cases (configurationOffer_eq_refused_iff.mpr h).symm.trans hfails
    · exact htext.not_refused h

/-- A file that cannot be read as TOML is passed over. -/
theorem Malformed.passed (h : w.Malformed q) : w.Passed q := by
  rcases h with h | ⟨htext, hread⟩
  · exact h.passed
  constructor
  · intro table
    rw [htext.usable_iff, hread]
    nofun
  · intro e
    rw [htext.stops_iff, hread]
    rintro ⟨fault, hfault, hne, -⟩
    cases hfault
    exact hne rfl

/-! ## Section 2: The search -/

theorem searchConfiguration_of_usable (h : w.Usable q table) (above : List Place) :
    w.searchConfiguration (q :: above) = ([], .ok ⟨table, some (w.configurationPath q)⟩) := by
  obtain ⟨text, -, -, htext, -⟩ := id h
  obtain ⟨t, hread, htable⟩ := htext.usable_iff.mp h
  simp only [searchConfiguration, configurationOffer_eq_text_iff.mpr htext, hread, htable]

theorem searchConfiguration_of_stops (h : w.Stops q e) (above : List Place) :
    w.searchConfiguration (q :: above) = ([], .error e) := by
  rcases stops_iff.mp h with hfile | ⟨text, fault, htext, hread, hfault, rfl⟩
  · simp only [searchConfiguration, hfile]
  · simp only [searchConfiguration, configurationOffer_eq_text_iff.mpr htext, hread]

/-- A place that is passed over gives a warning if its file cannot be read as TOML, and nothing
else. -/
theorem searchConfiguration_of_passed (h : w.Passed q) (above : List Place) :
    w.searchConfiguration (q :: above) =
      ((if w.Malformed q then [w.couldNotRead q] else []) ++ (w.searchConfiguration above).1,
        (w.searchConfiguration above).2) := by
  rw [searchConfiguration]
  cases hfile : w.configurationOffer q with
  | error e => exact absurd (stops_iff.mpr (Or.inl hfile)) (h.free e)
  | ok found =>
    cases found with
    | nothing =>
      have hnot : ¬ w.Malformed q := by
        rw [← isMalformed_iff, isMalformed, hfile]
        nofun
      simp only [if_neg hnot, List.nil_append]
    | refused =>
      have hmalformed : w.Malformed q := .refused (configurationOffer_eq_refused_iff.mp hfile)
      simp only [if_pos hmalformed, List.singleton_append]
    | text text =>
      have htext := configurationOffer_eq_text_iff.mp hfile
      cases hread : Toml.read text with
      | error fault =>
        obtain rfl : fault = .malformed := by
          by_contra hfault
          exact h.free _ (htext.stops_iff.mpr ⟨fault, hread, hfault, rfl⟩)
        simp only [hread, if_pos (htext.malformed_iff.mpr hread), List.singleton_append]
      | ok t =>
        have hnot : ¬ w.Malformed q := by
          rw [htext.malformed_iff, hread]
          nofun
        cases htable : toolTable? t with
        | some table => exact absurd (htext.usable_iff.mpr ⟨t, hread, htable⟩) (h.unusable table)
        | none => simp only [hread, htable, if_neg hnot, List.nil_append]

/-- **The search** passes over places with a warning for each file that cannot be read as TOML, and
then goes on as if it had started there. -/
theorem searchConfiguration_append {passed : List Place} (h : ∀ q ∈ passed, w.Passed q)
    (rest : List Place) :
    w.searchConfiguration (passed ++ rest) =
      ((passed.filter fun q => w.Malformed q).map w.couldNotRead ++ (w.searchConfiguration rest).1,
        (w.searchConfiguration rest).2) := by
  induction passed with
  | nil => rfl
  | cons p passed ih =>
    rw [List.forall_mem_cons] at h
    rw [List.cons_append, searchConfiguration_of_passed h.1, ih h.2]
    by_cases hp : w.Malformed p <;> simp [hp]

/-- Places are passed over up to the first that is usable or stops the search. -/
theorem exists_passed_append (w : Workspace) (places : List Place) :
    ∃ passed rest, places = passed ++ rest ∧ (∀ q ∈ passed, w.Passed q) ∧
      (rest = [] ∨ (∃ q above table, rest = q :: above ∧ w.Usable q table) ∨
        ∃ q above e, rest = q :: above ∧ w.Stops q e) := by
  induction places with
  | nil => exact ⟨[], [], rfl, by simp, Or.inl rfl⟩
  | cons p above ih =>
    by_cases husable : ∃ table, w.Usable p table
    · obtain ⟨table, husable⟩ := husable
      exact ⟨[], p :: above, rfl, by simp, Or.inr (Or.inl ⟨p, above, table, rfl, husable⟩)⟩
    by_cases hstops : ∃ e, w.Stops p e
    · obtain ⟨e, hstops⟩ := hstops
      exact ⟨[], p :: above, rfl, by simp, Or.inr (Or.inr ⟨p, above, e, rfl, hstops⟩)⟩
    obtain ⟨passed, rest, rfl, hpassed, hrest⟩ := ih
    exact ⟨p :: passed, rest, rfl, List.forall_mem_cons.mpr
      ⟨⟨not_exists.mp husable, not_exists.mp hstops⟩, hpassed⟩, hrest⟩

/-! ## Section 3: From a directory upwards -/

@[simp] theorem upwards_nil : upwards [] = [[]] := rfl

@[simp] theorem upwards_concat (p : Place) (name : String) :
    upwards (p ++ [name]) = (p ++ [name]) :: upwards p := by
  have hshort : ∀ n ∈ (List.range (p.length + 1)).reverse, (p ++ [name]).take n = p.take n := by
    intro n hn
    rw [List.mem_reverse, List.mem_range] at hn
    exact List.take_append_of_le_length (by omega)
  rw [upwards, List.length_append, List.length_singleton, List.range_succ, List.reverse_concat,
    List.map_cons, List.map_congr_left hshort, List.take_of_length_le (by simp), upwards]

example : upwards ["ui", "views"] = [["ui", "views"], ["ui"], []] := by decide +kernel

/-- The places above a place are those its way leads through, and the nearest come first. -/
theorem exists_upwards_append (h : q <+: p) :
    ∃ below above, upwards p = below ++ q :: above ∧
      ∀ r ∈ below, q <+: r ∧ r <+: p ∧ r ≠ q := by
  obtain ⟨names, rfl⟩ := h
  induction names using List.reverseRecOn with
  | nil =>
    rw [List.append_nil]
    cases q using List.reverseRecOn with
    | nil => exact ⟨[], [], rfl, by simp⟩
    | append_singleton p name => exact ⟨[], upwards p, by simp, by simp⟩
  | append_singleton names name ih =>
    obtain ⟨below, above, hsplit, hbelow⟩ := ih
    rw [← List.append_assoc, upwards_concat, hsplit]
    refine ⟨_ :: below, above, rfl, List.forall_mem_cons.mpr ⟨⟨?_, List.prefix_rfl, ?_⟩, ?_⟩⟩
    · rw [List.append_assoc]
      exact List.prefix_append q _
    · simp
    · intro r hr
      obtain ⟨hq, hp, hne⟩ := hbelow r hr
      exact ⟨hq, hp.trans (List.prefix_append _ _), hne⟩

/-- The places whose configuration files are looked at from a start directory, nearest first. -/
def searched (w : Workspace) (start : Option String) : List Place :=
  match w.resolve? (start.getD ".") with
  | none => []
  | some p => upwards p

theorem configuration_eq {start : Option String} (h : hasNull (start.getD ".") = false) :
    w.configuration start = w.searchConfiguration (w.searched start) := by
  unfold configuration searched
  simp only [h, Bool.false_eq_true, if_false]
  cases w.resolve? (start.getD ".") <;> rfl

/-- **The nearest configuration.**  Of the places from the start directory upwards, a first part is
passed over: none of them is usable, and each file there that cannot be read as TOML leaves one
warning, the nearest first.  If these are all places, the configuration is empty.  Otherwise the
next place decides: it is usable, and its table is the configuration, or it stops the search with an
error. -/
theorem configuration_nearest {start : Option String} (h : hasNull (start.getD ".") = false) :
    ∃ passed rest, w.searched start = passed ++ rest ∧ (∀ q ∈ passed, w.Passed q) ∧
      (w.configuration start).1 = (passed.filter fun q => w.Malformed q).map w.couldNotRead ∧
      (rest = [] ∧ (w.configuration start).2 = .ok {} ∨
        (∃ q above table, rest = q :: above ∧ w.Usable q table ∧
          (w.configuration start).2 = .ok ⟨table, some (w.configurationPath q)⟩) ∨
        ∃ q above e, rest = q :: above ∧ w.Stops q e ∧ (w.configuration start).2 = .error e) := by
  obtain ⟨passed, rest, hsplit, hpassed, hrest⟩ := exists_passed_append w (w.searched start)
  rw [configuration_eq h, hsplit, searchConfiguration_append hpassed]
  refine ⟨passed, rest, rfl, hpassed, ?_⟩
  rcases hrest with rfl | ⟨q, above, table, rfl, husable⟩ | ⟨q, above, e, rfl, hstops⟩
  · exact ⟨List.append_nil _, Or.inl ⟨rfl, rfl⟩⟩
  · rw [searchConfiguration_of_usable husable]
    exact ⟨List.append_nil _, Or.inr (Or.inl ⟨q, above, table, rfl, husable, rfl⟩)⟩
  · rw [searchConfiguration_of_stops hstops]
    exact ⟨List.append_nil _, Or.inr (Or.inr ⟨q, above, e, rfl, hstops, rfl⟩)⟩

/-- Three configuration files above each other: the nearest is no TOML, the next has no table for
the tool, and the last has one. -/
def nested : Workspace where
  base := "/w"
  stored := [(["pyproject.toml"], .file (Text.Utf8.encode
      "[tool.qml-alias-lint]\nalias_prefix = \"cpp\"\n".toList)),
    (["ui"], .directory),
    (["ui", "pyproject.toml"], .file (Text.Utf8.encode "[project]\nname = \"x\"\n".toList)),
    (["ui", "views"], .directory),
    (["ui", "views", "pyproject.toml"], .file (Text.Utf8.encode "[tool.qml-alias-lint\n".toList))]

/-- From the innermost directory the table at the top is found, with a warning about the file that
is no TOML and none about the one without a table. -/
theorem configuration_nested :
    hasNull "ui/views" = false ∧ ∃ table, nested.Usable [] table ∧
      nested.configuration (some "ui/views") =
        ([nested.couldNotRead ["ui", "views"]],
          .ok ⟨table, some (nested.configurationPath [])⟩) := by
  have hentries : (nested.configuration (some "ui/views")).1 =
      [nested.couldNotRead ["ui", "views"]] := by decide +kernel
  have hfound : (fun s : ConfigurationSource => s.path) <$>
      (nested.configuration (some "ui/views")).2 = .ok (some "/w/pyproject.toml") := by
    decide +kernel
  obtain ⟨s, hs, hpath⟩ := Outcome.map_eq_ok_iff.mp hfound
  obtain ⟨passed, rest, hsplit, -, -, hend⟩ :=
    @configuration_nearest nested (some "ui/views") (by decide +kernel)
  refine ⟨by decide +kernel, ?_⟩
  obtain ⟨-, hend⟩ | ⟨q, above, table, rfl, husable, hend⟩ | ⟨q, above, e, -, -, hend⟩ := hend
  · cases hs.symm.trans hend
    cases hpath
  · cases hs.symm.trans hend
    have hq : q ∈ nested.searched (some "ui/views") := by simp [hsplit]
    have htop : ∀ q ∈ nested.searched (some "ui/views"),
        some (nested.configurationPath q) = some "/w/pyproject.toml" → q = [] := by decide +kernel
    obtain rfl := htop q hq hpath
    exact ⟨table, husable, Prod.ext hentries hend⟩
  · cases hs.symm.trans hend

/-! ## Section 4: The place that decides -/

section

variable {start : Option String} (hnull : hasNull (start.getD ".") = false)
  (hstart : w.resolve? (start.getD ".") = some p) (habove : q <+: p)
  (hbetween : ∀ r, q <+: r → r <+: p → r ≠ q → w.Passed r)

include hnull hstart habove hbetween

/-- If all places below one are passed over, the search comes to it. -/
theorem configuration_from :
    ∃ above, (w.configuration start).2 = (w.searchConfiguration (q :: above)).2 := by
  obtain ⟨below, above, hsplit, hbelow⟩ := exists_upwards_append habove
  have hpassed : ∀ r ∈ below, w.Passed r := fun r hr =>
    hbetween r (hbelow r hr).1 (hbelow r hr).2.1 (hbelow r hr).2.2
  refine ⟨above, ?_⟩
  rw [configuration_eq hnull, searched, hstart]
  simp only [hsplit, searchConfiguration_append hpassed]

/-- The nearest usable place gives the configuration, whatever the files above it hold. -/
theorem configuration_of_usable (h : w.Usable q table) :
    (w.configuration start).2 = .ok ⟨table, some (w.configurationPath q)⟩ := by
  obtain ⟨above, hfrom⟩ := configuration_from hnull hstart habove hbetween
  rw [hfrom, searchConfiguration_of_usable h]

/-- A place that stops the search leaves no configuration, whatever the files above it hold. -/
theorem configuration_of_stops (h : w.Stops q e) : (w.configuration start).2 = .error e := by
  obtain ⟨above, hfrom⟩ := configuration_from hnull hstart habove hbetween
  rw [hfrom, searchConfiguration_of_stops h]

end

/-- A configuration file that is no text, below one that has a table for the tool. -/
def undecodable : Workspace where
  base := "/w"
  stored := [(["pyproject.toml"], .file (Text.Utf8.encode
      "[tool.qml-alias-lint]\nalias_prefix = \"cpp\"\n".toList)),
    (["sub"], .directory), (["sub", "pyproject.toml"], .file [0xff])]

/-- The table is found from the directory it is in, but not from the one below, where the file that
is no text gives an error and no warning. -/
theorem undecodable_file_stops :
    (∃ table, undecodable.configuration (some ".") = ([], .ok ⟨table, some "/w/pyproject.toml"⟩)) ∧
      undecodable.configuration (some "sub") =
        ([], .error (.access (.decoding ⟨0, 1, 0xff, .startByte⟩))) := by
  have hfound : (fun s : ConfigurationSource => s.path) <$>
      (undecodable.configuration (some ".")).2 = .ok (some "/w/pyproject.toml") := by
    decide +kernel
  have hfails : (fun s : ConfigurationSource => s.path) <$>
      (undecodable.configuration (some "sub")).2 =
        .error (.access (.decoding ⟨0, 1, 0xff, .startByte⟩)) := by decide +kernel
  have hsilent : (undecodable.configuration (some ".")).1 = [] ∧
      (undecodable.configuration (some "sub")).1 = [] := by decide +kernel
  obtain ⟨⟨table, path⟩, hs, rfl⟩ := Outcome.map_eq_ok_iff.mp hfound
  exact ⟨⟨table, Prod.ext hsilent.1 hs⟩,
    Prod.ext hsilent.2 (Outcome.map_eq_error_iff.mp hfails)⟩

end BindingAudit.Workspace
