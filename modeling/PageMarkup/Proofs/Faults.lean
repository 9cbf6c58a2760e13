import PageMarkup.Proofs.Handling.Refusals
import PageMarkup.Proofs.Modes
import PageMarkup.Proofs.Reading.Faults
import PageMarkup.Settings.Draft

/-! # Faults of a compilation

Every fault of a page lies in its source, where the text is as the cause of the fault tells. Only
tabs that are too wide show nowhere: they are a fault of the settings, and checked settings can
still have them. -/

namespace PageMarkup

open Document Compilation

variable {setup : Setup} {source : Text} {steps : List Step} {last : Compilation}

/-! ## Tags and their places -/

theorem Tag.WrittenAt.isPrefix {tag : Tag} {here : Cursor} {name : Text}
    (written : tag.WrittenAt here) (h : tag.name = name) : '<' :: name <+: here.rest :=
  h ▸ written.bracket

/-- A run over the source reads the tag, although it may refuse it. -/
def ReadsTag (setup : Setup) (source : Text) (tag : Tag) : Prop :=
  ∃ steps last token after, (opening setup.settings source).Reaches setup steps last ∧
    last.Reads token after ∧ token.opens? = some tag

/-- The tag is written somewhere in the source. -/
def Tag.WrittenIn (tag : Tag) (source : Text) : Prop :=
  ∃ read there, (Cursor.start source).Reads read there ∧ tag.WrittenAt there

theorem ReadsTag.writtenIn {tag : Tag} (h : ReadsTag setup source tag) : tag.WrittenIn source := by
  obtain ⟨steps, last, token, after, reaches, ⟨mode, -, read⟩, opens⟩ := h
  obtain ⟨read', start⟩ := reaches.reads_start
  obtain ⟨-, readAt⟩ := Cursor.next_readAt read
  refine ⟨read', last.cursor, start, ?_⟩
  obtain ⟨form, offset⟩ := token
  cases form with
  | openTag written | selfCloseTag written =>
      obtain rfl : written = tag := Option.some.inj opens
      exact readAt
  | text | newline | pipe | closeTag | backtick => cases opens

/-- An element that is open after a token was open before it, or the token opens it. -/
theorem Document.Handling.tag_of_mem {before after : Document} {token : Token}
    {element : OpenElement} (handling : Handling setup before token after)
    (mem : element ∈ after.elements) :
    (∃ earlier ∈ before.elements, earlier.tag = element.tag) ∨
      ∃ tag, token.opens? = some tag ∧ element.tag = tag.proper := by
  have tags := handling.map_elements OpenElement.tag fun _ _ => rfl
  have mem : element.tag ∈ after.elements.map OpenElement.tag := List.mem_map_of_mem mem
  rw [tags] at mem
  obtain ⟨form, offset⟩ := token
  cases form with
  | openTag tag =>
      rcases List.mem_cons.mp mem with same | mem
      · exact .inr ⟨tag, rfl, same⟩
      · exact .inl (List.mem_map.mp mem)
  | closeTag => exact .inl (List.mem_map.mp (List.mem_of_mem_tail mem))
  | text | newline | pipe | selfCloseTag | backtick => exact .inl (List.mem_map.mp mem)

/-- Every open element comes from a tag that the run has read. -/
theorem Compilation.Reaches.readsTag_of_mem
    (h : (opening setup.settings source).Reaches setup steps last) :
    ∀ element ∈ last.document.elements,
      ∃ tag, ReadsTag setup source tag ∧ element.tag = tag.proper := by
  induction h with
  | refl => exact fun element mem => absurd mem List.not_mem_nil
  | @step steps before token after earlier handled ih =>
      intro element mem
      obtain ⟨read, handled⟩ := advance_eq_handled_iff.mp handled
      rcases (handling_of_handle handled).tag_of_mem mem with ⟨old, was, same⟩ | ⟨tag, opens, same⟩
      · obtain ⟨tag, reads, proper⟩ := ih old was
        exact ⟨tag, reads, same.symm.trans proper⟩
      · exact ⟨tag, ⟨_, before, token, _, earlier, read, opens⟩, same⟩

/-! ## Faults in the source -/

/-- The text from the place of a fault on, by its cause. -/
def Cause.ShownBy : Cause → Text → Prop
  | .mismatchedClose _ _, text => "</".toList <+: text
  | .repeatedContents, text => "<tableofcontents".toList <+: text
  | .unsupportedLanguage _, text => "<code".toList <+: text
  | .unclosedTag _, text => ∃ c rest, text = '<' :: c :: rest ∧ Cursor.isTagStart c = true
  | cause, text => cause.MetBy text

/-- A listing that the run has read, at that offset, names the language. -/
def NamesLanguage (setup : Setup) (source : Text) (offset : Int) (language : Text) : Prop :=
  ∃ tag, ReadsTag setup source tag ∧ tag.name = "code".toList ∧ tag.offset = offset ∧
    tag.attributes.get? "language".toList = some language

/-- The fault lies in the source and shows there. If it is about a language, then a listing that
the run has read names that language. -/
structure Fault.FoundIn (setup : Setup) (source : Text) (fault : Fault) : Prop where
  inSource : fault.cause.inSource = true
  tagOpen : fault.cause ≠ .noOpenTag
  tokenKnown : ∀ kind, fault.cause ≠ .unexpectedToken kind
  place : ∃ place : Nat, fault.offset = place ∧ place ≤ source.length ∧
    fault.cause.ShownBy (source.drop place)
  language : ∀ language, fault.cause = .unsupportedLanguage language →
    NamesLanguage setup source fault.offset language

/-- The report gives the whole source and a place in it, where its cause shows. If it is about a
language, then a listing at that place names the language. -/
structure Report.FoundIn (setup : Setup) (source : Text) (report : Report) : Prop where
  inSource : report.cause.inSource = true
  tagOpen : report.cause ≠ .noOpenTag
  tokenKnown : ∀ kind, report.cause ≠ .unexpectedToken kind
  whole : report.source? = some source
  place : ∃ place : Nat, report.offset? = some (place : Int) ∧ place ≤ source.length ∧
    report.cause.ShownBy (source.drop place)
  language : ∀ language, report.cause = .unsupportedLanguage language →
    ∃ offset ∈ report.offset?, NamesLanguage setup source offset language

/-- The run over the source closes a listing in a language that there is. -/
def ListsCode (setup : Setup) (source : Text) : Prop :=
  ∃ steps last token after element language,
    (opening setup.settings source).Reaches setup steps last ∧ last.Reads token after ∧
      last.document.closing? setup token = some element ∧ element.role = .code ∧
      Language.named? (languageName setup.settings element.tag) = some language

/-- The cause is that the settings have tabs that are too wide. -/
def Settings.TooWide (settings : Settings) (cause : Cause) : Prop :=
  ∃ width, settings.tabSize? = some width ∧ Text.isLength width = false ∧ cause = .tabTooWide width

namespace Fault.FoundIn

variable {fault : Fault} {cause : Cause} {tag : Tag}

theorem of_reads {read : Text} {here : Cursor} (reads : (Cursor.start source).Reads read here)
    (offset : fault.offset = here.offset) (inSource : fault.cause.inSource = true)
    (shown : fault.cause.ShownBy here.rest)
    (language : ∀ language, fault.cause = .unsupportedLanguage language →
      NamesLanguage setup source fault.offset language) :
    fault.FoundIn setup source where
  inSource := inSource
  tagOpen := by
    intro same
    rwa [same] at shown
  tokenKnown := by
    intro kind same
    rwa [same] at shown
  place := by
    have whole : source = read ++ here.rest := reads.rest
    have length : here.offset = read.length := by simpa [Cursor.start] using reads.offset
    refine ⟨here.offset, offset, ?_, ?_⟩
    · rw [whole, length, List.length_append]
      omega
    · rwa [whole, length, List.drop_left]
  language := language

/-- A fault that a reader has met. -/
theorem of_metFrom (h : fault.MetFrom (.start source)) : fault.FoundIn setup source := by
  obtain ⟨read, here, reads, offset, met⟩ := h
  obtain ⟨cause, place⟩ := fault
  have other : cause.inSource = true ∧ cause.ShownBy here.rest ∧
      ∀ language, cause ≠ .unsupportedLanguage language := by
    cases cause <;> simp_all [Cause.MetBy, Cause.ShownBy, Cause.inSource]
  obtain ⟨inSource, shown, noLanguage⟩ := other
  exact of_reads reads offset inSource shown fun language same => absurd same (noLanguage language)

/-- A fault at a tag that the run has read. -/
theorem of_readsTag (reads : ReadsTag setup source tag) (inSource : cause.inSource = true)
    (shown : ∀ here : Cursor, tag.WrittenAt here → cause.ShownBy here.rest)
    (language : ∀ language, cause = .unsupportedLanguage language →
      tag.name = "code".toList ∧ tag.attributes.get? "language".toList = some language) :
    Fault.FoundIn setup source ⟨cause, tag.offset⟩ := by
  obtain ⟨read, there, start, written⟩ := reads.writtenIn
  refine of_reads start written.offset inSource (shown there written) fun name same => ?_
  obtain ⟨named, given⟩ := language name same
  exact ⟨tag, reads, named, rfl, given⟩

/-- The fault is reported with the source and with its place there. -/
theorem report (found : fault.FoundIn setup source) :
    (fault.report source).FoundIn setup source := by
  have reported : fault.report source = ⟨fault.cause, some source, some fault.offset⟩ :=
    if_pos found.inSource
  rw [reported]
  obtain ⟨place, offset, bound, shown⟩ := found.place
  exact {
    inSource := found.inSource
    tagOpen := found.tagOpen
    tokenKnown := found.tokenKnown
    whole := rfl
    place := ⟨place, congrArg some offset, bound, shown⟩
    language := fun language about => ⟨_, rfl, found.language language about⟩ }

end Fault.FoundIn

/-! ## Refused tokens -/

/-- The languages have tabs that fit. -/
theorem Language.isLength_of_named? {name : Text} {language : Language}
    (h : Language.named? name = some language) : Text.isLength language.tabSize = true := by
  have each : ∀ language ∈ Language.all, Text.isLength language.tabSize = true := by decide
  unfold Language.named? at h
  exact each language (List.mem_of_find?_eq_some h)

/-- A listing is refused for the language that its tag names, or for the tabs of the settings. -/
theorem Document.ListingRefusal.cases_of_valid {tag : Tag} {cause : Cause}
    (refusal : ListingRefusal setup tag cause) (valid : setup.settings.Valid) :
    (∃ language, tag.attributes.get? "language".toList = some language ∧
        cause = .unsupportedLanguage language) ∨
      setup.settings.TooWide cause ∧
        ∃ language, Language.named? (languageName setup.settings tag) = some language := by
  cases refusal with
  | language missing =>
      refine .inl ?_
      unfold languageName at missing ⊢
      cases given : tag.attributes.get? "language".toList with
      | none =>
          have known := valid.language
          rw [given, Option.getD_none] at missing
          rw [missing] at known
          cases known
      | some language => exact ⟨language, rfl, rfl⟩
  | @tabs language found wide =>
      refine .inr ⟨?_, language, found⟩
      cases given : setup.settings.tabSize? with
      | none =>
          have fits := Language.isLength_of_named? found
          simp [given, fits] at wide
      | some width => exact ⟨width, given, by simpa [given] using wide, rfl⟩

namespace Compilation

/-- The element that a token closes comes from a tag that the run has read. -/
theorem Reaches.readsTag_of_closing? {token : Token} {after : Cursor} {element : OpenElement}
    (reaches : (opening setup.settings source).Reaches setup steps last)
    (read : last.Reads token after) (closes : last.document.closing? setup token = some element) :
    ∃ tag, ReadsTag setup source tag ∧ element.tag = tag.proper := by
  obtain ⟨form, offset⟩ := token
  cases form with
  | closeTag name => exact reaches.readsTag_of_mem element (List.mem_of_head? closes)
  | selfCloseTag tag =>
      obtain rfl := Option.some.inj closes
      exact ⟨tag, ⟨steps, last, _, after, reaches, read, rfl⟩, rfl⟩
  | text | newline | pipe | openTag | backtick => cases closes

/-- A token is refused for a fault in the source, or for the tabs of the settings. -/
theorem Reaches.foundIn_of_refusal {token : Token} {after : Cursor} {fault : Fault}
    (reaches : (opening setup.settings source).Reaches setup steps last)
    (read : last.Reads token after) (refusal : Refusal setup last.document token fault)
    (valid : setup.settings.Valid) :
    fault.FoundIn setup source ∨
      setup.settings.TooWide fault.cause ∧ ListsCode setup source := by
  cases refusal with
  | noMode missing | noModeToLeave missing =>
      exact absurd missing reaches.coherent.mode?_ne_none
  | noOpenTag mode elements => exact absurd elements (reaches.coherent.elements_ne_nil mode)
  | @repeatedContents _ tag opens marks asked =>
      have role : tag.role = .contents := by simp_all [marksContents, Tag.role_proper]
      have name := Tag.name_of_role_contents role
      exact .inl (.of_readsTag ⟨steps, last, _, after, reaches, read, opens⟩ rfl
        (fun _ written => written.isPrefix name) (by simp))
  | mismatched differs =>
      obtain ⟨_, start⟩ := reaches.reads_start
      obtain ⟨mode, -, read⟩ := read
      obtain ⟨offset, readAt⟩ := Cursor.next_readAt read
      exact .inl (.of_reads start offset rfl readAt (by simp))
  | @listing _ element cause closes role refusal =>
      obtain ⟨tag, reads, proper⟩ := reaches.readsTag_of_closing? read closes
      have code : tag.role = .code := by
        rw [← Tag.role_proper, ← proper]
        exact role
      have same : tag.proper = tag := Tag.proper_eq_self (by simp [code])
      have name := Tag.name_of_role_code code
      rcases refusal.cases_of_valid valid with ⟨language, given, rfl⟩ | ⟨wide, language, named⟩
      · rw [same] at proper
        rw [proper] at given ⊢
        refine .inl (.of_readsTag reads rfl (fun _ written => written.isPrefix name) ?_)
        intro other same
        obtain rfl := Cause.unsupportedLanguage.inj same
        exact ⟨name, given⟩
      · exact .inr ⟨wide, steps, last, _, after, element, language, reaches, read, closes, role,
          named⟩

theorem leftOpen?_eq_some {settings : Settings} {document : Document} {fault : Fault}
    (h : leftOpen? settings document = some fault) :
    ∃ element ∈ document.elements,
      fault = ⟨.unclosedTag element.tag.name, element.tag.offset⟩ := by
  unfold leftOpen? at h
  split at h
  · next element outer elements =>
      split at h
      · obtain rfl := Option.some.inj h
        exact ⟨element, by simp [elements], rfl⟩
      · cases h
  · cases h

/-- A tag that is left open is a fault at the place where it is written. -/
theorem Reaches.foundIn_of_leftOpen {settings : Settings} {fault : Fault}
    (reaches : (opening setup.settings source).Reaches setup steps last)
    (h : leftOpen? settings last.document = some fault) : fault.FoundIn setup source := by
  obtain ⟨element, mem, rfl⟩ := leftOpen?_eq_some h
  obtain ⟨tag, reads, proper⟩ := reaches.readsTag_of_mem element mem
  rw [proper, Tag.proper_offset]
  refine .of_readsTag reads rfl ?_ (by simp)
  rintro here ⟨-, ⟨rest, bracket⟩, c, first, letter⟩
  obtain ⟨letters, name⟩ := List.head?_eq_some_iff.mp first
  refine ⟨c, letters ++ rest, ?_, letter⟩
  rw [← bracket, name]
  rfl

end Compilation

theorem foundIn_or_tooWide {fault : Fault} (valid : setup.settings.Valid)
    (h : compileWith setup source = .error fault) :
    fault.FoundIn setup source ∨
      setup.settings.TooWide fault.cause ∧ ListsCode setup source := by
  obtain ⟨steps, last, reaches, ⟨token?, after, stopped⟩ | ⟨-, left⟩⟩ :=
    compileWith_eq_error_iff.mp h
  · rcases advance_eq_stopped stopped with
      missing | ⟨mode, stop, -, read, rfl⟩ | ⟨token, cursor, halt, read, refused, rfl⟩
    · exact absurd missing reaches.coherent.mode?_ne_none
    · obtain ⟨_, start⟩ := reaches.reads_start
      exact .inl (.of_metFrom (.of_reads start (Cursor.next_error read)))
    · exact reaches.foundIn_of_refusal read (refusal_of_handle refused) valid
  · exact .inl (reaches.foundIn_of_leftOpen left)

/-! ## Tabs that are too wide -/

namespace Document

variable {before : Document} {element : OpenElement} {language : Language} {width : Int}

theorem close_of_tooWide (role : element.role = .code)
    (named : Language.named? (languageName setup.settings element.tag) = some language)
    (given : setup.settings.tabSize? = some width) (wide : Text.isLength width = false) :
    ∃ halt, before.close setup element = .error halt ∧ halt.fault.cause = .tabTooWide width := by
  simp only [close, role, Listing.of?, named, given, Option.map_some, Option.getD_some, Listing.lay,
    wide]
  exact ⟨_, rfl, rfl⟩

theorem pop_of_tooWide {outer : List OpenElement} {name : Text} (offset : Int)
    (elements : before.elements = element :: outer)
    (same : element.tag.name = Tag.properName name) (role : element.role = .code)
    (named : Language.named? (languageName setup.settings element.tag) = some language)
    (given : setup.settings.tabSize? = some width) (wide : Text.isLength width = false) :
    ∃ halt, before.pop setup name offset = .error halt ∧
      halt.fault.cause = .tabTooWide width := by
  obtain ⟨halt, refused, cause⟩ :=
    @close_of_tooWide setup { before with elements := outer } _ _ _ role named given wide
  refine ⟨halt, ?_, cause⟩
  simp only [pop, elements, same, if_true, refused]
  rfl

/-- A token that closes a listing is refused for its tabs. -/
theorem Coherent.handle_of_tooWide {mode : Mode} {token : Token} (coherent : before.Coherent)
    (current : before.mode? = some mode) (brings : mode.Brings token.form)
    (closes : before.closing? setup token = some element) (role : element.role = .code)
    (named : Language.named? (languageName setup.settings element.tag) = some language)
    (given : setup.settings.tabSize? = some width) (wide : Text.isLength width = false) :
    ∃ halt, before.handle setup token = .error halt ∧ halt.fault.cause = .tabTooWide width := by
  obtain ⟨form, offset⟩ := token
  cases form with
  | closeTag name =>
      obtain ⟨outer, elements⟩ := List.head?_eq_some_iff.mp closes
      -- The innermost element is a listing, so that only its own closing tag can have been read.
      have code : before.mode? = some .code := by
        rw [← coherent.head?_roles_eq_code_iff, roles, elements, List.map_cons, List.head?_cons,
          role]
      obtain rfl : mode = .code := Option.some.inj (current.symm.trans code)
      obtain rfl : name = "code".toList := by simpa [Mode.Brings] using brings
      have same : element.tag.name = Tag.properName "code".toList := Tag.name_of_role_code role
      obtain ⟨halt, refused, cause⟩ := pop_of_tooWide offset elements same role named given wide
      refine ⟨halt, ?_, cause⟩
      simp only [handle, handleClose, refused]
  | selfCloseTag tag =>
      obtain rfl := Option.some.inj closes
      have pushed : before.push setup tag = .ok (before.enter tag.proper none) := by
        have role : tag.proper.role = .code := role
        simp only [push, role]
      have same : tag.proper.name = Tag.properName tag.name := tag.proper_name
      have elements : (before.enter tag.proper none).elements = { tag := tag.proper } ::
          before.elements := rfl
      obtain ⟨halt, refused, cause⟩ := pop_of_tooWide offset elements same role named given wide
      refine ⟨halt, ?_, cause⟩
      simp only [handle, handleSelfClose, pushed, bind, Except.bind, refused]
  | text | newline | pipe | openTag | backtick => cases closes

end Document

theorem Report.FoundIn.not_tooWide {report : Report} (found : report.FoundIn setup source) :
    ¬ setup.settings.TooWide report.cause := by
  rintro ⟨width, -, -, cause⟩
  have inSource := found.inSource
  rw [cause] at inSource
  cases inSource

/-- A listing is all that it takes for tabs that are too wide to be a fault. -/
theorem exists_tooWide_of_listsCode {width : Int} (given : setup.settings.tabSize? = some width)
    (wide : Text.isLength width = false) (lists : ListsCode setup source) :
    ∃ fault, compileWith setup source = .error fault ∧ setup.settings.TooWide fault.cause := by
  obtain ⟨steps, last, token, after, element, language, reaches, read, closes, role, named⟩ := lists
  obtain ⟨mode, current, next⟩ := id read
  obtain ⟨halt, refused, cause⟩ := reaches.coherent.handle_of_tooWide current
    (Cursor.brings_of_next next) closes role named given wide
  have stopped := advance_of_refused read refused
  refine ⟨halt.fault, ?_, width, given, wide, cause⟩
  exact compileWith_eq_error_iff.mpr ⟨steps, last, reaches, .inl ⟨_, _, stopped⟩⟩

/-- A listing that is empty is closed by its run. -/
theorem listsCode_of_empty (valid : setup.settings.Valid) :
    ListsCode setup "<code></code>".toList := by
  have named : Cursor.IsTagName "code".toList := by decide
  have read := Cursor.next_writtenTag (show Mode.normal ≠ .code by decide) (by decide)
    setup.settings.backticks named (List.forall_mem_nil _) false "</code>".toList 0
  have first : (opening setup.settings "<code></code>".toList).advance setup = .handled _ _ :=
    advance_of_next rfl read rfl
  obtain ⟨language, known⟩ := Option.isSome_iff_exists.mp valid.language
  exact ⟨_, _, _, _, _, language, .step .refl first, ⟨.code, rfl, rfl⟩, rfl, rfl, known⟩

/-! ## The faults of checked settings -/

/-- What is reported of a page is the fault that its run has met. -/
theorem compile_eq_error_iff {settings : Settings} {report : Report} :
    compile settings source = .error report ↔
      ∃ fault, compileWith { settings } source = .error fault ∧ fault.report source = report := by
  rw [compile_eq_compileWith]
  cases compileWith { settings } source with
  | ok page => exact ⟨nofun, nofun⟩
  | error fault => simp

theorem Fault.cause_report (fault : Fault) (source : Text) :
    (fault.report source).cause = fault.cause := by
  unfold Fault.report
  split <;> rfl

/-- A report is one of a fault in the source, or one of tabs that are too wide for a listing. -/
theorem foundIn_or_tooWide_of_compile {settings : Settings} {report : Report}
    (valid : settings.Valid) (failed : compile settings source = .error report) :
    report.FoundIn { settings } source ∨
      settings.TooWide report.cause ∧ ListsCode { settings } source := by
  obtain ⟨fault, stopped, rfl⟩ := compile_eq_error_iff.mp failed
  rw [fault.cause_report]
  exact (foundIn_or_tooWide valid stopped).imp_left Fault.FoundIn.report

/-- Tabs that are too wide are what is reported as soon as there is a listing. -/
theorem exists_report_of_listsCode {settings : Settings} {width : Int}
    (given : settings.tabSize? = some width) (wide : Text.isLength width = false)
    (lists : ListsCode { settings } source) :
    ∃ report, compile settings source = .error report ∧ settings.TooWide report.cause := by
  obtain ⟨fault, failed, tooWide⟩ := exists_tooWide_of_listsCode given wide lists
  refine ⟨_, compile_eq_error_iff.mpr ⟨fault, failed, rfl⟩, ?_⟩
  rwa [fault.cause_report]

/-- With checked settings a page that cannot be compiled has a fault that shows in its source, and
the report gives the source and the place. The one exception is a source with a listing where the
settings have tabs that are too wide, which the check lets pass. -/
theorem faults_of_checked_settings {draft : Draft} {settings : Settings}
    (h : draft.check = .ok settings) :
    (∀ source report, compile settings source = .error report →
      report.FoundIn { settings } source ∨
        settings.TooWide report.cause ∧ ListsCode { settings } source) ∧
    (∀ source, (∃ report, compile settings source = .error report ∧
        ¬ report.FoundIn { settings } source) ↔
      (∃ width ∈ settings.tabSize?, Text.isLength width = false) ∧
        ListsCode { settings } source) ∧
    ((∃ source report, compile settings source = .error report ∧
        ¬ report.FoundIn { settings } source) ↔
      ∃ width ∈ settings.tabSize?, Text.isLength width = false) := by
  have valid : settings.Valid := Draft.valid_of_check h
  have reports (source : Text) (report : Report)
      (failed : compile settings source = .error report) :
      report.FoundIn { settings } source ∨
        settings.TooWide report.cause ∧ ListsCode { settings } source :=
    foundIn_or_tooWide_of_compile valid failed
  have exception (source : Text) : (∃ report, compile settings source = .error report ∧
      ¬ report.FoundIn { settings } source) ↔
        (∃ width ∈ settings.tabSize?, Text.isLength width = false) ∧
          ListsCode { settings } source := by
    constructor
    · rintro ⟨report, failed, elsewhere⟩
      obtain ⟨⟨width, given, wide, -⟩, lists⟩ :=
        (reports source report failed).resolve_left elsewhere
      exact ⟨⟨width, given, wide⟩, lists⟩
    · rintro ⟨⟨width, given, wide⟩, lists⟩
      obtain ⟨report, failed, tooWide⟩ := exists_report_of_listsCode given wide lists
      exact ⟨report, failed, fun found => found.not_tooWide tooWide⟩
  refine ⟨reports, exception, ?_, fun wide => ?_⟩
  · rintro ⟨source, report, failed, elsewhere⟩
    exact ((exception source).mp ⟨report, failed, elsewhere⟩).1
  · exact ⟨_, (exception _).mpr ⟨wide, @listsCode_of_empty { settings } valid⟩⟩

/-- The check lets pass a tab of a size that no text has. -/
theorem fault_of_overwide_tab :
    (Draft.standard.put .tabSize (.integer 1180591620717411303424)).check =
        .ok { tabSize? := some 1180591620717411303424 } ∧
      ∃ report, compile { tabSize? := some 1180591620717411303424 } "<code></code>".toList =
          .error report ∧
        ¬ report.FoundIn { settings := { tabSize? := some 1180591620717411303424 } }
          "<code></code>".toList := by
  have checked : (Draft.standard.put .tabSize (.integer 1180591620717411303424)).check =
      .ok { tabSize? := some 1180591620717411303424 } := rfl
  refine ⟨checked, ((faults_of_checked_settings checked).2.1 _).mpr ⟨⟨_, rfl, by decide⟩, ?_⟩⟩
  exact listsCode_of_empty (Draft.valid_of_check checked)

end PageMarkup
