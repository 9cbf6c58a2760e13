import PageMarkup.Settings
import PageMarkup.Code.Language

/-! Drafts of settings. A setting may be written with any value; a draft holds what was written,
and `Draft.check` turns it into settings or says what is wrong with the first bad value. -/

namespace PageMarkup

/-- The settings by name. -/
inductive Setting
  | backticks
  | closeTags
  | language
  | tabSize
  | contextRadius
  | maxFileSize
deriving DecidableEq, Repr

namespace Setting

/-- All settings. -/
def all : List Setting :=
  [.backticks, .closeTags, .language, .tabSize, .contextRadius, .maxFileSize]

/-- The name under which a setting is written. -/
def key : Setting → Text
  | .backticks => "backticks_enabled".toList
  | .closeTags => "require_closed_tags".toList
  | .language => "default_language".toList
  | .tabSize => "tab_size".toList
  | .contextRadius => "context_radius".toList
  | .maxFileSize => "max_file_size".toList

/-- The setting that goes by a name. -/
def ofKey? (key : Text) : Option Setting := all.find? fun setting => setting.key = key

/-- A value that no setting can have. -/
inductive Foreign
  | float
  | list
  | table
  | date
deriving DecidableEq, Repr

/-- What may be written for a setting. -/
inductive Value
  | absent
  | boolean (value : Bool)
  | integer (value : Int)
  | text (value : Text)
  | foreign (kind : Foreign)
deriving DecidableEq

end Setting

/-- Why a draft is refused. -/
inductive Objection
  | notBoolean (setting : Setting)
  | notInteger (setting : Setting)
  | notPositive (setting : Setting)
  | notText (setting : Setting)
  | unknownLanguage
deriving DecidableEq

/-- The wording of an objection. -/
def Objection.message : Objection → Text
  | .notBoolean setting => '`' :: setting.key ++ "` must be a boolean".toList
  | .notInteger setting => '`' :: setting.key ++ "` must be an integer".toList
  | .notPositive setting => '`' :: setting.key ++ "` must be a positive integer".toList
  | .notText setting => '`' :: setting.key ++ "` must be a string".toList
  | .unknownLanguage =>
    '`' :: Setting.language.key ++ "` must be one of: ".toList ++
      Text.join ", ".toList (Language.all.map Language.name)

/-- What is written for each setting. -/
def Draft := Setting → Setting.Value

namespace Draft

/-- What holds when nothing is written. -/
def standard : Draft
  | .backticks => .boolean false
  | .closeTags => .boolean false
  | .language => .text "none".toList
  | .tabSize => .absent
  | .contextRadius => .integer 30
  | .maxFileSize => .integer 10485760

/-- The draft with another value for one setting. -/
def put (draft : Draft) (setting : Setting) (value : Setting.Value) : Draft :=
  fun other => if other = setting then value else draft other

/-- The draft with the values of some settings replaced, from first to last. -/
def putAll (draft : Draft) (values : List (Setting × Setting.Value)) : Draft :=
  values.foldl (fun draft entry => draft.put entry.1 entry.2) draft

/-- The value of a flag. -/
def flag (draft : Draft) (setting : Setting) : Except Objection Bool :=
  match draft setting with
  | .boolean value => .ok value
  | _ => .error (.notBoolean setting)

/-- The value of a size, which has to be positive. -/
def size (draft : Draft) (setting : Setting) : Except Objection Int :=
  match draft setting with
  | .integer value => if 0 < value then .ok value else .error (.notPositive setting)
  | _ => .error (.notInteger setting)

/-- The value of a size that may be left open. -/
def size? (draft : Draft) (setting : Setting) : Except Objection (Option Int) :=
  match draft setting with
  | .absent => .ok none
  | _ => (draft.size setting).map some

/-- The name of a language that can be coloured, as it was written. -/
def languageName (draft : Draft) : Except Objection Text :=
  match draft .language with
  | .text name => if (Language.named? name).isSome then .ok name else .error .unknownLanguage
  | _ => .error (.notText .language)

/-- The settings that a draft describes, or the first objection to it. -/
def check (draft : Draft) : Except Objection Settings := do
  let backticks ← draft.flag .backticks
  let closeTags ← draft.flag .closeTags
  let tabSize? ← draft.size? .tabSize
  let contextRadius ← draft.size .contextRadius
  let maxFileSize ← draft.size .maxFileSize
  let language ← draft.languageName
  return { backticks, closeTags, language, tabSize?, contextRadius, maxFileSize }

end Draft

/-- Settings that a draft can describe: positive sizes and a language that can be coloured. -/
structure Settings.Valid (settings : Settings) : Prop where
  tabSize : ∀ size ∈ settings.tabSize?, 0 < size
  contextRadius : 0 < settings.contextRadius
  maxFileSize : 0 < settings.maxFileSize
  language : (Language.named? settings.language).isSome

namespace Draft

theorem size_pos {draft : Draft} {setting : Setting} {value : Int}
    (h : draft.size setting = .ok value) : 0 < value := by
  unfold size at h
  split at h
  · split at h
    · cases h
      assumption
    · cases h
  · cases h

theorem size?_pos {draft : Draft} {setting : Setting} {value? : Option Int}
    (h : draft.size? setting = .ok value?) : ∀ value ∈ value?, 0 < value := by
  unfold size? at h
  split at h
  · cases h
    simp
  · cases found : draft.size setting with
    | error objection =>
        rw [found] at h
        cases h
    | ok value =>
        rw [found] at h
        cases h
        simpa using size_pos found

theorem languageName_isSome {draft : Draft} {name : Text} (h : draft.languageName = .ok name) :
    (Language.named? name).isSome := by
  unfold languageName at h
  split at h
  · split at h
    · cases h
      assumption
    · cases h
  · cases h

/-- A checked draft gives valid settings. -/
theorem valid_of_check {draft : Draft} {settings : Settings} (h : draft.check = .ok settings) :
    settings.Valid := by
  simp only [check, bind, Except.bind] at h
  split at h
  · cases h
  split at h
  · cases h
  split at h
  · cases h
  next tabSize =>
  split at h
  · cases h
  next contextRadius =>
  split at h
  · cases h
  next maxFileSize =>
  split at h
  · cases h
  next language =>
  cases h
  exact ⟨size?_pos tabSize, size_pos contextRadius, size_pos maxFileSize,
    languageName_isSome language⟩

end Draft

end PageMarkup
