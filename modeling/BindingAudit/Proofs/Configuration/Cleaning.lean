import BindingAudit.Proofs.Configuration.Lists
import Mathlib.Data.List.Sort
import Mathlib.Data.String.Basic

/-!
# Bad entries count as absent

A configuration may hold anything: keys that mean nothing, values of the wrong kind, and lists with
items of any kind.  None of this does more than leave a warning.  The settings are those of the
`cleaned` configuration, which holds only what counts, and the warnings tell exactly what was passed
over (`settings_of_keyed`).

## Architecture

1. What is read from a configuration, one `Reading` for each key, and which values fit it.
2. What is left of a configuration when everything is deleted that does not count.
3. The merger of a configured list with the built-in one, in the order of first places.
4. The warnings, for any sequence of readings.
-/

namespace BindingAudit

namespace Text

/-- Alphabetical order is that of an insertion sort. -/
theorem sorted_eq_insertionSort (texts : List String) :
    sorted texts = texts.insertionSort (· ≤ ·) := by
  have hinsert : ∀ (s : String) (others : List String),
      insertSorted s others = others.orderedInsert (· ≤ ·) s := by
    intro s others
    induction others with
    | nil => rfl
    | cons t rest ih => rw [insertSorted, List.orderedInsert_cons, ih]
  unfold sorted
  induction texts with
  | nil => rfl
  | cons s rest ih => rw [List.foldr_cons, ih, hinsert, List.insertionSort_cons]

/-- Different texts are in strictly ascending order. -/
theorem pairwise_sorted {texts : List String} (h : texts.Nodup) :
    (sorted texts).Pairwise (· < ·) := by
  rw [sorted_eq_insertionSort]
  have hnodup : (texts.insertionSort (· ≤ ·)).Nodup :=
    (List.perm_insertionSort _ texts).nodup_iff.mpr h
  exact (List.pairwise_insertionSort _ texts).imp₂ (fun _ _ => lt_of_le_of_ne) hnodup

theorem mem_sorted {texts : List String} {s : String} : s ∈ sorted texts ↔ s ∈ texts := by
  rw [sorted_eq_insertionSort, List.mem_insertionSort]

end Text

/-! ## Section 1: Readings -/

namespace Configuration

/-- A table as documents give it: the keys are texts, and each stands once. -/
structure Keyed (c : Configuration) : Prop where
  texts : ∀ e ∈ c, ∃ key, e.1 = .text key
  nodup : (c.map Prod.fst).Nodup

/-- What is read from a configuration: the text or the list under a key. -/
inductive Reading where
  | text (key default : String)
  | list (key : String)
deriving DecidableEq

namespace Reading

/-- The key that is read. -/
def key : Reading → String
  | .text key _ => key
  | .list key => key

/-- Whether a value is of the right kind. -/
def Fits : Reading → Data → Prop
  | .text _ _, d => d.text?.isSome
  | .list _, d => (itemsOf? d).isSome

instance (r : Reading) (d : Data) : Decidable (r.Fits d) := by
  cases r <;> exact inferInstanceAs (Decidable (_ = true))

/-- A configuration has a value of the wrong kind for a reading. -/
def Mistyped (c : Configuration) (r : Reading) : Prop :=
  ∃ e ∈ c, e.1 = .text r.key ∧ ¬ r.Fits e.2

instance (c : Configuration) (r : Reading) : Decidable (r.Mistyped c) :=
  inferInstanceAs (Decidable (∃ e ∈ c, _))

/-- The warning that a value has the wrong kind. -/
def warning : Reading → Entry
  | .text key default =>
    .ofConfiguration ("Configuration Warning: '" ++ key ++ "' must be a string; using "
      ++ Text.quoted default ++ ".")
  | .list key =>
    .ofConfiguration ("Configuration Warning: '" ++ key
      ++ "' must be a list of strings; ignoring it.")

/-- What a reading leaves in the journal. -/
def entries (c : Configuration) : Reading → List Entry
  | .text key default => c.textEntries key default
  | .list key => c.textsEntries key

end Reading

/-- The readings that make up the settings, in order. -/
def settingReadings : List Reading :=
  let default : Settings := {}
  [.text "native_type_prefix" default.nativePrefix, .list "native_base_types",
    .list "enum_exemption_terms", .text "alias_prefix" default.aliasPrefix,
    .text "alias_keyword" default.aliasKeyword, .text "alias_indent" default.aliasIndent]

/-- The reading of the rules that are switched off. -/
def disabledReading : Reading :=
  .list "disabled_rules"

/-- All that is read. -/
def readings : List Reading :=
  settingReadings ++ [disabledReading]

theorem settingsEntries_eq (c : Configuration) :
    c.settingsEntries = settingReadings.flatMap (Reading.entries c) := by
  simp [settingsEntries, settingReadings, Reading.entries]

/-- The value under a key of a table is what is found there. -/
theorem Keyed.lookupText_eq_some_iff {c : Configuration} (h : c.Keyed) {key : String} {d : Data} :
    lookupText c key = some d ↔ (.text key, d) ∈ c := by
  unfold lookupText
  rw [Option.map_eq_some_iff]
  constructor
  · rintro ⟨e, hfind, rfl⟩
    have hkey : e.1 = .text key := by simpa using List.find?_some hfind
    exact hkey ▸ List.mem_of_find?_eq_some hfind
  · intro hmem
    have hsome : (c.find? fun e => e.1 == .text key).isSome :=
      List.find?_isSome.mpr ⟨_, hmem, beq_self_eq_true _⟩
    obtain ⟨e, hfind⟩ := Option.isSome_iff_exists.mp hsome
    have hkey : e.1 = .text key := by simpa using List.find?_some hfind
    -- no other entry has the key
    have he := List.inj_on_of_nodup_map h.nodup (List.mem_of_find?_eq_some hfind) hmem hkey
    exact ⟨e, hfind, congrArg Prod.snd he⟩

/-! ## Section 2: What is left of a configuration -/

/-- Whether an item of a list counts: it is a text, and not empty. -/
def counts (d : Data) : Bool :=
  d.text?.any (· != "")

/-- What is left of a value when everything is deleted that does not count. -/
def Reading.clean? : Reading → Data → Option Data
  | .text _ _, .scalar (.text s) => some (.text s)
  | .list _, .list items => some (.list (items.filter counts))
  | .list _, .tuple items => some (.tuple (items.filter counts))
  | .list _, .set members => some (.set (members.filter fun s => counts (.scalar s)))
  | _, _ => none

/-- What is left of an entry. -/
def cleanEntry? (e : Scalar × Data) : Option (Scalar × Data) :=
  (readings.find? fun r => e.1 == .text r.key).bind fun r => (r.clean? e.2).map fun d => (e.1, d)

/-- A configuration without unknown keys, values of the wrong kind, and items that are no texts or
empty. -/
def cleaned (c : Configuration) : Configuration :=
  c.filterMap cleanEntry?

section

variable {c : Configuration} {r : Reading} {key s : String} {d : Data} {items : List Data}

theorem cleanEntry_reading (hr : r ∈ readings) (d : Data) :
    cleanEntry? (.text r.key, d) = (r.clean? d).map fun d => (.text r.key, d) := by
  have hfind : ∀ r ∈ readings,
      (readings.find? fun r' => Scalar.text r.key == .text r'.key) = some r := by decide
  unfold cleanEntry?
  rw [hfind r hr, Option.bind_some]

theorem of_cleanEntry {e e' : Scalar × Data} (h : cleanEntry? e = some e') :
    e'.1 = e.1 ∧ ∃ r ∈ readings, e.1 = .text r.key := by
  obtain ⟨r, hfind, h⟩ := Option.bind_eq_some_iff.mp h
  obtain ⟨d, -, rfl⟩ := Option.map_eq_some_iff.mp h
  exact ⟨rfl, r, List.mem_of_find?_eq_some hfind, by simpa using List.find?_some hfind⟩

theorem Keyed.cleaned (h : c.Keyed) : c.cleaned.Keyed where
  texts e he := by
    obtain ⟨e', he', hclean⟩ := List.mem_filterMap.mp he
    exact (of_cleanEntry hclean).1 ▸ h.texts e' he'
  nodup := by
    -- cleaning keeps the keys of the entries that stay
    refine List.Nodup.sublist ?_ h.nodup
    unfold Configuration.cleaned
    clear h
    induction c with
    | nil => exact List.Sublist.slnil
    | cons e rest ih =>
      cases hclean : cleanEntry? e with
      | none =>
        rw [List.filterMap_cons_none hclean]
        exact ih.cons _
      | some e' =>
        rw [List.filterMap_cons_some hclean, List.map_cons, List.map_cons,
          (of_cleanEntry hclean).1]
        exact ih.cons_cons _

/-- What is found in the cleaned table is what is left of the value that was there. -/
theorem lookupText_cleaned (h : c.Keyed) (hr : r ∈ readings) :
    lookupText c.cleaned r.key = (lookupText c r.key).bind r.clean? := by
  refine Option.ext fun d => ?_
  rw [h.cleaned.lookupText_eq_some_iff, Option.bind_eq_some_iff]
  simp only [h.lookupText_eq_some_iff, Configuration.cleaned, List.mem_filterMap]
  constructor
  · rintro ⟨e, he, hclean⟩
    have hkey : e.1 = .text r.key := (of_cleanEntry hclean).1.symm
    obtain ⟨k, v⟩ := e
    subst hkey
    rw [cleanEntry_reading hr] at hclean
    obtain ⟨d', hd', hpair⟩ := Option.map_eq_some_iff.mp hclean
    cases hpair
    exact ⟨v, he, hd'⟩
  · rintro ⟨v, hv, hd⟩
    exact ⟨_, hv, by rw [cleanEntry_reading hr, hd, Option.map_some]⟩

/-- A text is left as it is. -/
theorem text_cleaned {default : String} (h : c.Keyed) (hr : .text key default ∈ readings) :
    c.cleaned.text key default = c.text key default := by
  have hlookup : lookupText c.cleaned key =
      (lookupText c key).bind (Reading.text key default).clean? := lookupText_cleaned h hr
  unfold text
  rw [hlookup]
  cases lookupText c key with
  | none => rfl
  | some d =>
    cases d with
    | scalar v => cases v <;> rfl
    | _ => rfl

/-- What is left of a list are the items that count. -/
theorem itemsOf?_clean (key : String) (d : Data) :
    ((Reading.list key).clean? d).bind itemsOf? = (itemsOf? d).map (List.filter counts) := by
  cases d with
  | set members =>
    simp only [Reading.clean?, itemsOf?, Option.bind_some, Option.map_some, List.filter_map]
    rfl
  | _ => rfl

/-- The texts among the items are among those that count. -/
theorem filterMap_filter_counts (items : List Data) :
    (items.filter counts).filterMap (fun d => d.text?.filter (· != "")) =
      items.filterMap fun d => d.text?.filter (· != "") := by
  rw [List.filterMap_filter]
  congr 1
  funext d
  unfold counts
  cases d.text? with
  | none => rfl
  | some s => by_cases hs : s = "" <;> simp [hs, Option.filter]

theorem texts_cleaned (h : c.Keyed) (hr : .list key ∈ readings) :
    c.cleaned.texts key = c.texts key := by
  have hlookup : (lookupText c.cleaned key).bind itemsOf? =
      ((lookupText c key).bind itemsOf?).map (List.filter counts) := by
    have hvalue : lookupText c.cleaned key = (lookupText c key).bind (Reading.list key).clean? :=
      lookupText_cleaned h hr
    rw [hvalue, Option.bind_assoc, Option.map_bind]
    congr 1
    funext d
    exact itemsOf?_clean key d
  unfold texts
  rw [hlookup]
  cases (lookupText c key).bind itemsOf? with
  | none => rfl
  | some items => exact filterMap_filter_counts items

theorem settings_cleaned (h : c.Keyed) : c.cleaned.settings = c.settings := by
  have htext : ∀ key default, Reading.text key default ∈ readings →
      c.cleaned.text key default = c.text key default := fun _ _ hr => text_cleaned h hr
  have hlist : ∀ key, Reading.list key ∈ readings → c.cleaned.texts key = c.texts key :=
    fun _ hr => texts_cleaned h hr
  simp only [settings]
  rw [htext _ _ (by decide), htext _ _ (by decide), htext _ _ (by decide), htext _ _ (by decide),
    hlist _ (by decide), hlist _ (by decide)]

theorem disabledRules_cleaned (h : c.Keyed) : c.cleaned.disabledRules = c.disabledRules := by
  rw [disabledRules, disabledRules, texts_cleaned h (by decide)]

/-! ## Section 3: First places -/

/-- The items that are configured under a key.  A key that is absent has none, and neither has a
value that is no list. -/
def configured (c : Configuration) (key : String) : List Data :=
  (c.itemsAt? key).getD []

/-- The first place of a text in a list is in front of every place of another. -/
def Precedes (items : List Data) (s t : String) : Prop :=
  ∃ front back, items = front ++ .text s :: back ∧ .text t ∉ front

theorem texts_eq_filterMap (c : Configuration) (key : String) :
    c.texts key = (c.configured key).filterMap fun d => d.text?.filter (· != "") := by
  unfold texts configured itemsAt?
  cases lookupText c key with
  | none => rfl
  | some d =>
    simp only [Option.bind_some]
    cases itemsOf? d <;> rfl

theorem mem_texts_iff_configured :
    s ∈ c.texts key ↔ s ≠ "" ∧ .text s ∈ c.configured key := by
  rw [mem_texts_iff, configured]
  cases c.itemsAt? key <;> simp

/-- What a merger adds is new, and in the order of first places. -/
theorem exists_addNew_eq_append (known xs : List String) :
    ∃ added, addNew known xs = known ++ added ∧ (∀ s ∈ added, s ∉ known) ∧
      added.Pairwise fun s t => ∃ front back, xs = front ++ s :: back ∧ t ∉ front := by
  induction xs generalizing known with
  | nil => exact ⟨[], by simp [addNew], by simp, List.Pairwise.nil⟩
  | cons x rest ih =>
    -- behind `x`, places are one further back, which only matters for what is equal to `x`
    have hbehind : ∀ {added : List String}, (∀ s ∈ added, s ≠ x) →
        added.Pairwise (fun s t => ∃ front back, rest = front ++ s :: back ∧ t ∉ front) →
        added.Pairwise fun s t => ∃ front back, x :: rest = front ++ s :: back ∧ t ∉ front := by
      intro added hne hpairs
      refine hpairs.imp_of_mem ?_
      rintro s t - ht ⟨front, back, rfl, hfront⟩
      exact ⟨x :: front, back, rfl, by simp [hne t ht, hfront]⟩
    by_cases hx : x ∈ known
    · obtain ⟨added, heq, hnew, hpairs⟩ := ih known
      refine ⟨added, ?_, hnew, hbehind (fun s hs => ?_) hpairs⟩
      · rw [addNew, if_pos (List.contains_iff_mem.mpr hx), heq]
      · rintro rfl
        exact hnew s hs hx
    · obtain ⟨added, heq, hnew, hpairs⟩ := ih (known ++ [x])
      simp only [List.mem_append, List.mem_singleton, not_or] at hnew
      refine ⟨x :: added, ?_, ?_, ?_⟩
      · rw [addNew, if_neg (by simpa using hx), heq, List.append_assoc, List.singleton_append]
      · rintro s (_ | ⟨_, hs⟩)
        · exact hx
        · exact (hnew s hs).1
      · refine List.pairwise_cons.mpr ⟨fun t _ => ⟨[], rest, rfl, by simp⟩, ?_⟩
        exact hbehind (fun s hs => (hnew s hs).2) hpairs

/-- **A merger** has the known texts first and then the others that are configured, each once and in
the order of their first places. -/
theorem exists_merged {known : List String} (hknown : known.Nodup) (c : Configuration)
    (key : String) :
    ∃ added, addNew known (c.texts key) = known ++ added ∧ (known ++ added).Nodup ∧
      (∀ s, s ∈ added ↔ s ∉ known ∧ s ≠ "" ∧ .text s ∈ c.configured key) ∧
      added.Pairwise (Precedes (c.configured key)) := by
  obtain ⟨added, heq, hnew, hpairs⟩ := exists_addNew_eq_append known (c.texts key)
  have hnodup := nodup_addNew hknown (c.texts key)
  have hmem : ∀ s, s ∈ added ↔ s ∉ known ∧ s ∈ c.texts key := by
    intro s
    have h : s ∈ addNew known (c.texts key) ↔ s ∈ known ∨ s ∈ c.texts key := mem_addNew_iff
    rw [heq, List.mem_append] at h
    constructor
    · exact fun hs => ⟨hnew s hs, (h.mp (.inr hs)).resolve_left (hnew s hs)⟩
    · exact fun ⟨hs, ht⟩ => (h.mpr (.inr ht)).resolve_left hs
  refine ⟨added, heq, heq ▸ hnodup, fun s => by rw [hmem, mem_texts_iff_configured],
    hpairs.imp_of_mem ?_⟩
  -- a place among the texts is one among the items
  rintro s t - ht ⟨front, back, hsplit, hfront⟩
  rw [texts_eq_filterMap] at hsplit
  obtain ⟨front', rest, hitems, rfl, hrest⟩ := List.filterMap_eq_append_iff.mp hsplit
  obtain ⟨skipped, d, back', rfl, hskipped, hd, -⟩ := List.filterMap_eq_cons_iff.mp hrest
  obtain ⟨htext, -⟩ := Option.filter_eq_some_iff.mp hd
  have hne : t ≠ "" := (mem_texts_iff_configured.mp ((hmem t).mp ht).2).1
  have hcount : (Data.text t).text?.filter (· != "") = some t := by simp [Data.text?, hne]
  refine ⟨front' ++ skipped, back', ?_, ?_⟩
  · rw [hitems, Data.text?_eq_some_iff.mp htext, List.append_assoc]
  · rw [List.mem_append]
    rintro (hin | hin)
    · exact hfront (List.mem_filterMap.mpr ⟨_, hin, hcount⟩)
    · exact Option.some_ne_none t (hcount.symm.trans (hskipped _ hin))

end

/-! ## Section 4: Warnings -/

section

variable {c : Configuration} {key : String}

/-- The warning that a key means nothing. -/
def unknownWarning (key : String) : Entry :=
  .ofConfiguration ("Configuration Warning: unknown key '" ++ key
    ++ "' in [tool.qml-alias-lint] is ignored.")

/-- A key as a text, if it is one. -/
def keyText? (k : Scalar) : Option String :=
  (Data.scalar k).text?

theorem keyText?_eq_some_iff {k : Scalar} : keyText? k = some key ↔ k = .text key :=
  Data.text?_eq_some_iff.trans ⟨Data.scalar.inj, congrArg Data.scalar⟩

theorem unknownKeys_eq (c : Configuration) : c.unknownKeys = Text.sorted
    (((c.map Prod.fst).filterMap keyText?).filter fun key => !knownKeys.contains key) := by
  rw [List.filterMap_map]
  refine congrArg (fun found => Text.sorted (found.filter fun key => !knownKeys.contains key))
    (List.filterMap_congr fun e _ => ?_)
  obtain ⟨k, d⟩ := e
  cases k <;> rfl

/-- The unknown keys are those of the entries that are not known, in ascending order. -/
theorem Keyed.unknownKeys (h : c.Keyed) :
    c.unknownKeys.Pairwise (· < ·) ∧
      ∀ key, key ∈ c.unknownKeys ↔ key ∉ knownKeys ∧ ∃ d, (.text key, d) ∈ c := by
  rw [unknownKeys_eq]
  constructor
  · refine Text.pairwise_sorted (List.Nodup.filter _ (h.nodup.filterMap ?_))
    rintro k k' key hk hk'
    rw [keyText?_eq_some_iff.mp hk, keyText?_eq_some_iff.mp hk']
  · intro key
    simp only [Text.mem_sorted, List.mem_filter, List.mem_filterMap, keyText?_eq_some_iff,
      exists_eq_right, List.mem_map, Prod.exists, exists_and_right, Bool.not_eq_true',
      List.contains_eq_mem, decide_eq_false_iff_not]
    exact and_comm

/-- A reading leaves a warning if what it finds does not fit. -/
theorem Reading.entries_eq (c : Configuration) (r : Reading) :
    r.entries c = match lookupText c r.key with
      | none => []
      | some d => if r.Fits d then [] else [r.warning] := by
  cases r with
  | text key default =>
    simp only [entries, textEntries, Reading.key, Fits, warning]
    cases lookupText c key with
    | none => rfl
    | some d =>
      cases d with
      | scalar v => cases v <;> rfl
      | _ => rfl
  | list key =>
    simp only [entries, textsEntries, Reading.key, Fits, warning]
    cases lookupText c key with
    | none => rfl
    | some d => cases d <;> rfl

/-- In a table, that is one warning if the value has the wrong kind, and else none. -/
theorem Keyed.entries_eq (h : c.Keyed) (r : Reading) :
    r.entries c = if r.Mistyped c then [r.warning] else [] := by
  have hmistyped : r.Mistyped c ↔ ∃ d, lookupText c r.key = some d ∧ ¬ r.Fits d := by
    simp only [h.lookupText_eq_some_iff]
    constructor
    · rintro ⟨⟨k, d⟩, he, rfl, hd⟩
      exact ⟨d, he, hd⟩
    · rintro ⟨d, he, hd⟩
      exact ⟨_, he, rfl, hd⟩
  rw [r.entries_eq]
  cases hlookup : lookupText c r.key with
  | none => simp [hmistyped, hlookup]
  | some d => by_cases hd : r.Fits d <;> simp [hmistyped, hlookup, hd]

theorem Keyed.flatMap_entries (h : c.Keyed) (asked : List Reading) :
    asked.flatMap (Reading.entries c) =
      (asked.filter fun r => decide (r.Mistyped c)).map Reading.warning := by
  induction asked with
  | nil => rfl
  | cons r rest ih =>
    rw [List.flatMap_cons, ih, h.entries_eq, List.filter_cons]
    by_cases hr : r.Mistyped c <;> simp [hr]

/-- **Bad entries count as absent.**  Reading a configuration never fails, whatever it holds, for
each setting has a value.  The settings and the rules that are switched off are those of the cleaned
configuration.  The exempt terms are the built-in ones and then the configured ones, each once and
in the order of first places; the native types are the built-in ones and the configured ones.  There
is one warning for each unknown key, in alphabetical order, when the configuration is taken up, and
then one for each value of the wrong kind each time it is read, in whatever order values are read;
the settings, and the rules that are switched off, are read in an order of their own. -/
theorem settings_of_keyed (h : c.Keyed) :
    (c.cleaned.settings = c.settings ∧ c.cleaned.disabledRules = c.disabledRules) ∧
    (∃ added, c.settings.exemptTerms = ["State", "Mode", "Type", "Policy"] ++ added ∧
      c.settings.exemptTerms.Nodup ∧
      (∀ s, s ∈ added ↔ s ∉ ["State", "Mode", "Type", "Policy"] ∧ s ≠ "" ∧
        .text s ∈ c.configured "enum_exemption_terms") ∧
      added.Pairwise (Precedes (c.configured "enum_exemption_terms"))) ∧
    (∀ s, s ∈ c.settings.nativeTypes ↔ s ∈ ({} : Settings).nativeTypes ∨
      (s ≠ "" ∧ .text s ∈ c.configured "native_base_types")) ∧
    (∃ unknown : List String, unknown.Pairwise (· < ·) ∧
      (∀ key, key ∈ unknown ↔ key ∉ knownKeys ∧ ∃ d, (.text key, d) ∈ c) ∧
      ∀ asked : List Reading, c.unknownEntries ++ asked.flatMap (Reading.entries c) =
        unknown.map unknownWarning ++
          (asked.filter fun r => decide (r.Mistyped c)).map Reading.warning) ∧
    (c.settingsEntries = settingReadings.flatMap (Reading.entries c) ∧
      c.disabledEntries = disabledReading.entries c) := by
  refine ⟨⟨settings_cleaned h, disabledRules_cleaned h⟩, ?terms, ?types, ?warnings,
    settingsEntries_eq c, rfl⟩
  case terms =>
    have hknown : ["State", "Mode", "Type", "Policy"].Nodup := by decide
    obtain ⟨added, heq, hnodup, hmem, horder⟩ := exists_merged hknown c "enum_exemption_terms"
    have hterms : c.settings.exemptTerms = ["State", "Mode", "Type", "Policy"] ++ added := heq
    exact ⟨added, hterms, hterms ▸ hnodup, hmem, horder⟩
  case types =>
    intro s
    have hmem : s ∈ c.settings.nativeTypes ↔
        s ∈ ({} : Settings).nativeTypes ∨ s ∈ c.texts "native_base_types" := mem_addNew_iff
    rw [hmem, mem_texts_iff_configured]
  case warnings =>
    obtain ⟨horder, hmem⟩ := h.unknownKeys
    exact ⟨c.unknownKeys, horder, hmem, fun asked => by rw [h.flatMap_entries]; rfl⟩

/-- A configuration with unknown keys, values of the wrong kind, and items of several kinds. -/
def untidy : Configuration :=
  [(.text "zoom", .int 1), (.text "alias_prefix", .int 3), (.text "alias_sufix", .text "x"),
    (.text "enum_exemption_terms",
      .list [.text "Kind", .text "State", .null, .text "", .text "Flag", .text "Kind"]),
    (.text "native_base_types", .text "QFoo"),
    (.text "disabled_rules", .tuple [.text "D03", .int 7])]

/-- The untidy configuration gives the settings of what counts in it, and its warnings come in
order. -/
theorem settings_of_untidy :
    untidy.Keyed ∧
    untidy.cleaned =
      [(.text "enum_exemption_terms",
          .list [.text "Kind", .text "State", .text "Flag", .text "Kind"]),
        (.text "disabled_rules", .tuple [.text "D03"])] ∧
    untidy.cleaned.settings = untidy.settings ∧
    untidy.settings.exemptTerms = ["State", "Mode", "Type", "Policy", "Kind", "Flag"] ∧
    untidy.unknownEntries ++ untidy.settingsEntries ++ untidy.settingsEntries =
      [unknownWarning "alias_sufix", unknownWarning "zoom",
        (Reading.list "native_base_types").warning, (Reading.text "alias_prefix" "als").warning,
        (Reading.list "native_base_types").warning,
        (Reading.text "alias_prefix" "als").warning] := by
  have hkeyed : untidy.Keyed := by
    refine ⟨fun e he => ?_, by decide⟩
    simp only [untidy, List.mem_cons, List.not_mem_nil, or_false] at he
    rcases he with rfl | rfl | rfl | rfl | rfl | rfl <;> exact ⟨_, rfl⟩
  obtain ⟨⟨hsettings, -⟩, -, -, ⟨unknown, -, -, hjournal⟩, hentries, -⟩ := settings_of_keyed hkeyed
  refine ⟨hkeyed, rfl, hsettings, by decide, ?_⟩
  have hunknown : untidy.unknownEntries = unknown.map unknownWarning := by
    simpa using hjournal []
  rw [List.append_assoc, hentries, ← List.flatMap_append, hjournal, ← hunknown]
  decide

end

end Configuration

end BindingAudit
