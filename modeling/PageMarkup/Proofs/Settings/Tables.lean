import Mathlib.Data.List.Nodup
import PageMarkup.Proofs.Settings.Documents
import PageMarkup.Settings.Search

/-! # Tables of settings

What a table of settings comes to, told setting by setting and key by key. -/

namespace PageMarkup

theorem Setting.ofKey?_eq_some_iff {key : Text} {setting : Setting} :
    Setting.ofKey? key = some setting ↔ setting.key = key := by
  constructor
  · intro found
    simpa using List.find?_some found
  · rintro rfl
    cases setting <;> decide

theorem Setting.ofKey?_eq_none_iff {key : Text} :
    Setting.ofKey? key = none ↔ ∀ setting : Setting, setting.key ≠ key := by
  rw [Option.eq_none_iff_forall_ne_some]
  exact forall_congr' fun setting => not_congr ofKey?_eq_some_iff

namespace Draft

variable {draft : Draft} {setting : Setting} {value : Setting.Value}
  {values : List (Setting × Setting.Value)}

theorem putAll_of_notMem (unwritten : setting ∉ values.map Prod.fst) :
    draft.putAll values setting = draft setting := by
  induction values generalizing draft with
  | nil => rfl
  | cons entry values ih =>
      rw [List.map_cons, List.mem_cons, not_or] at unwritten
      exact (ih unwritten.2).trans (if_neg unwritten.1)

theorem putAll_of_mem (distinct : (values.map Prod.fst).Nodup) (mem : (setting, value) ∈ values) :
    draft.putAll values setting = value := by
  induction values generalizing draft with
  | nil => cases mem
  | cons entry values ih =>
      rw [List.map_cons, List.nodup_cons] at distinct
      rcases List.mem_cons.mp mem with rfl | mem
      · exact (putAll_of_notMem distinct.1).trans (if_pos rfl)
      · exact ih distinct.2 mem

end Draft

namespace Search

variable {table : Toml.Key} {file : Path} {entries : Toml.Table} {value : Toml.Value}
  {setting : Setting} {outcome other : Except Fault Draft}

/-! ## Drafts -/

/-- The settings that a table writes, with their values. -/
theorem mem_written_iff {written : Setting.Value} :
    (setting, written) ∈ (entries.filterMap fun entry =>
      (Setting.ofKey? entry.1).map fun setting => (setting, settingValue entry.2)) ↔
      ∃ value, (setting.key, value) ∈ entries ∧ settingValue value = written := by
  simp only [List.mem_filterMap, Option.map_eq_some_iff, Setting.ofKey?_eq_some_iff, Prod.mk.injEq]
  constructor
  · rintro ⟨⟨key, value⟩, mem, setting, rfl, rfl, rfl⟩
    exact ⟨value, mem, rfl⟩
  · rintro ⟨value, mem, rfl⟩
    exact ⟨_, mem, setting, rfl, rfl, rfl⟩

theorem nodup_written (distinct : (entries.map Prod.fst).Nodup) :
    ((entries.filterMap fun entry => (Setting.ofKey? entry.1).map fun setting =>
      (setting, settingValue entry.2)).map Prod.fst).Nodup := by
  have settings : (entries.filterMap fun entry => (Setting.ofKey? entry.1).map fun setting =>
      (setting, settingValue entry.2)).map Prod.fst =
        (entries.map Prod.fst).filterMap Setting.ofKey? := by
    rw [List.map_filterMap, List.filterMap_map]
    refine List.filterMap_congr fun entry _ => ?_
    cases found : Setting.ofKey? entry.1 <;> simp [found]
  rw [settings]
  refine distinct.filterMap fun first second setting found again => ?_
  rw [Option.mem_def, Setting.ofKey?_eq_some_iff] at found again
  exact found.symm.trans again

theorem draftOf_of_mem (distinct : (entries.map Prod.fst).Nodup)
    (mem : (setting.key, value) ∈ entries) : draftOf entries setting = settingValue value :=
  Draft.putAll_of_mem (nodup_written distinct) (mem_written_iff.mpr ⟨value, mem, rfl⟩)

theorem draftOf_of_notMem (unwritten : setting.key ∉ entries.map Prod.fst) :
    draftOf entries setting = Draft.standard setting := by
  refine Draft.putAll_of_notMem fun written => unwritten ?_
  obtain ⟨⟨_, written⟩, mem, rfl⟩ := List.mem_map.mp written
  obtain ⟨value, mem, -⟩ := mem_written_iff.mp mem
  exact List.mem_map.mpr ⟨_, mem, rfl⟩

/-! ## Unknown keys -/

theorem mem_unknownKeys_iff {key : Text} : key ∈ unknownKeys entries ↔
    key ∈ entries.map Prod.fst ∧ ∀ setting : Setting, setting.key ≠ key := by
  rw [unknownKeys, List.mem_mergeSort, List.mem_filter, Option.isNone_iff_eq_none,
    Setting.ofKey?_eq_none_iff]

/-- The keys stand in the order of their code points, none of them twice. -/
def Ascending (keys : List Text) : Prop :=
  keys.Pairwise fun key later => Text.le key later = true ∧ key ≠ later

theorem ascending_unknownKeys (distinct : (entries.map Prod.fst).Nodup) :
    Ascending (unknownKeys entries) := by
  have sorted : (unknownKeys entries).Pairwise fun key later => Text.le key later = true :=
    List.pairwise_mergeSort Text.le_trans Text.le_total _
  have unequal : (unknownKeys entries).Nodup :=
    (List.mergeSort_perm _ _).nodup_iff.mpr (distinct.filter _)
  exact sorted.and unequal

theorem Ascending.eq {first second : List Text} (one : Ascending first) (two : Ascending second)
    (same : ∀ key, key ∈ first ↔ key ∈ second) : first = second := by
  refine List.Perm.eq_of_pairwise (fun a b _ _ less more => Text.le_antisymm less.1 more.1) one two
    ((List.perm_ext_iff_of_nodup ?_ ?_).mpr same)
  · exact one.imp fun order => order.2
  · exact two.imp fun order => order.2

/-! ## Tables -/

/-- What the value of a table of settings comes to: the standard draft with exactly what the table
writes, or a fault that names exactly the keys which are no settings, or that there is no table. -/
inductive Decided (table : Toml.Key) (file : Path) : Toml.Value → Except Fault Draft → Prop
  | draft {entries : Toml.Table} {draft : Draft}
      (known : ∀ key ∈ entries.map Prod.fst, ∃ setting : Setting, setting.key = key)
      (written : ∀ (setting : Setting) (value : Toml.Value), (setting.key, value) ∈ entries →
        draft setting = settingValue value)
      (unwritten : ∀ setting : Setting, setting.key ∉ entries.map Prod.fst →
        draft setting = Draft.standard setting) :
      Decided table file (.table entries) (.ok draft)
  | unknownKeys {entries : Toml.Table} {keys : List Text} (some : keys ≠ [])
      (unknown : ∀ key, key ∈ keys ↔
        key ∈ entries.map Prod.fst ∧ ∀ setting : Setting, setting.key ≠ key)
      (ascending : Ascending keys) :
      Decided table file (.table entries) (.error (.unknownKeys table file keys))
  | notTable {value : Toml.Value} (noTable : ∀ entries, value ≠ .table entries) :
      Decided table file value (.error (.notTable table file))

theorem decided_draftIn (sound : value.Sound) :
    Decided table file value (draftIn table file value) := by
  unfold draftIn
  split
  · next entries =>
      have distinct := Toml.Table.Sound.distinct sound
      split
      · next all =>
          refine .draft (fun key mem => ?_) (fun setting value => draftOf_of_mem distinct)
            fun setting => draftOf_of_notMem
          by_contra unknown
          push Not at unknown
          have listed := mem_unknownKeys_iff.mpr ⟨mem, unknown⟩
          simp [all] at listed
      · next key keys some =>
          rw [← some]
          exact .unknownKeys (by simp [some]) (fun _ => mem_unknownKeys_iff)
            (ascending_unknownKeys distinct)
  · next noTable => exact .notTable noTable

/-- Not all keys are settings when some are not. -/
theorem not_known_of_unknown {keys : List Text} (some : keys ≠ [])
    (unknown : ∀ key, key ∈ keys ↔
      key ∈ entries.map Prod.fst ∧ ∀ setting : Setting, setting.key ≠ key) :
    ¬ ∀ key ∈ entries.map Prod.fst, ∃ setting : Setting, setting.key = key := by
  intro known
  obtain ⟨key, mem⟩ := List.exists_mem_of_ne_nil keys some
  obtain ⟨listed, other⟩ := (unknown key).mp mem
  obtain ⟨setting, same⟩ := known key listed
  exact other setting same

/-- A table comes to one thing only. -/
theorem Decided.unique (first : Decided table file value outcome)
    (second : Decided table file value other) : outcome = other := by
  cases first with
  | @draft entries draft known written unwritten =>
      cases second with
      | draft _ writtenToo unwrittenToo =>
          refine congrArg Except.ok (funext fun setting => ?_)
          by_cases listed : setting.key ∈ entries.map Prod.fst
          · obtain ⟨⟨key, value⟩, mem, same⟩ := List.mem_map.mp listed
            obtain rfl : key = setting.key := same
            exact (written setting value mem).trans (writtenToo setting value mem).symm
          · exact (unwritten setting listed).trans (unwrittenToo setting listed).symm
      | unknownKeys some unknown => exact absurd known (not_known_of_unknown some unknown)
      | notTable noTable => exact absurd rfl (noTable _)
  | unknownKeys some unknown ascending =>
      cases second with
      | draft known => exact absurd known (not_known_of_unknown some unknown)
      | unknownKeys _ unknownToo ascendingToo =>
          rw [ascending.eq ascendingToo fun key => (unknown key).trans (unknownToo key).symm]
      | notTable noTable => exact absurd rfl (noTable _)
  | notTable noTable =>
      cases second with
      | notTable => rfl
      | draft => exact absurd rfl (noTable _)
      | unknownKeys => exact absurd rfl (noTable _)

end Search

end PageMarkup
