import PageMarkup.Proofs.Code.Lexemes
import PageMarkup.Proofs.Contents
import PageMarkup.Proofs.Faults
import PageMarkup.Proofs.SelfClosing

/-! # Listings on a page

From the tag of a listing to the first closing tag all is code, whatever it looks like. The page
shows it as it would be listed by itself, in a box. -/

namespace PageMarkup

/-! ## Reading -/

namespace Text

/-- A mark whose first character it has only there does not begin before the place where it is
written. -/
theorem not_isPrefix_before_mark {first : Char} {later text rest : Text} (alone : first ∉ later)
    (free : ¬ first :: later <:+: text) (outer inner : Text) (split : text = outer ++ inner)
    (nonempty : inner ≠ []) : ¬ first :: later <+: inner ++ (first :: later ++ rest) := by
  rintro ⟨more, begins⟩
  rcases List.append_eq_append_iff.mp begins with ⟨after, whole, -⟩ | ⟨beyond, whole, behind⟩
  · exact free ⟨outer, after, by rw [split, whole, List.append_assoc]⟩
  cases beyond with
  | nil =>
      rw [List.append_nil] at whole
      exact free ⟨outer, [], by rw [split, whole, List.append_nil]⟩
  | cons c beyond =>
      -- The mark would have its first character again, where it is written.
      obtain rfl : first = c := (List.cons.inj behind).1
      obtain ⟨d, inner, rfl⟩ := List.exists_cons_of_ne_nil nonempty
      have again : later = inner ++ first :: beyond := (List.cons.inj whole).2
      exact alone (by simp [again])

end Text

namespace Cursor

variable {code : Text}

theorem breakOn_listingEnd (unended : ¬ listingEnd <:+: code) (rest : Text) :
    Text.breakOn listingEnd (code ++ (listingEnd ++ rest)) = (code, listingEnd ++ rest) :=
  Text.breakOn_append_of_first (.inr (List.prefix_append _ _))
    (Text.not_isPrefix_before_mark (show '<' ∉ "/code>".toList by decide) unended)

/-- All code before the closing tag is one token. -/
theorem next_listed (nonempty : code ≠ []) (unended : ¬ listingEnd <:+: code) (backticks : Bool)
    (rest : Text) (offset : Nat) :
    (⟨code ++ (listingEnd ++ rest), offset⟩ : Cursor).next .code backticks =
      .ok (some (⟨.text code, offset⟩, ⟨listingEnd ++ rest, offset + code.length⟩)) := by
  have elsewhere : (⟨code ++ (listingEnd ++ rest), offset⟩ : Cursor).take? listingEnd = none := by
    rw [take?_eq_none_iff]
    exact Text.not_isPrefix_before_mark (show '<' ∉ "/code>".toList by decide) unended [] code rfl
      nonempty
  have listing : (⟨code ++ (listingEnd ++ rest), offset⟩ : Cursor).nextInListing =
      (⟨.text code, offset⟩, ⟨listingEnd ++ rest, offset + code.length⟩) := by
    simp only [nextInListing, elsewhere, breakOn_listingEnd unended]
  obtain ⟨c, code, rfl⟩ := List.exists_cons_of_ne_nil nonempty
  exact congrArg (fun read => Except.ok (some read)) listing

end Cursor

/-! ## Runs -/

namespace Document

/-- The document inside a listing, its code read. -/
def insideListing (document : Document) (tag : Tag) (code : Text) : Document :=
  { document with
    elements := { tag, content := code } :: document.elements
    modes := .code :: document.modes }

variable {setup : Setup} {document : Document} {tag : Tag} {code : Text}

theorem handle_listing (role : tag.role = .code) (offset : Int) :
    document.handle setup ⟨.openTag tag, offset⟩ = .ok (document.insideListing tag []) := by
  have proper : tag.proper = tag := Tag.proper_eq_self (by simp [role])
  simp only [handle, handleOpen, push, proper, role]
  rfl

theorem handle_insideListing (offset : Int) :
    (document.insideListing tag []).handle setup ⟨.text code, offset⟩ =
      .ok (document.insideListing tag code) := rfl

/-- The closing tag of a listing ends its mode, if the listing can be shown. -/
theorem handle_listingEnd (role : tag.role = .code) (offset : Int) :
    (document.insideListing tag code).handle setup ⟨.closeTag "code".toList, offset⟩ =
      match document.close setup { tag, content := code } with
      | .ok after => .ok { after with modes := document.modes }
      | .error halt =>
        .error ⟨halt.fault, { halt.document with modes := .code :: document.modes }⟩ := by
  have named : tag.name = Tag.properName "code".toList := Tag.name_of_role_code role
  have element : (⟨tag, code, none⟩ : OpenElement).role = .code := role
  have closes := @handleClose_of_brought setup
    { document with elements := ⟨tag, code, none⟩ :: document.elements } _ _ _ offset rfl named
  rw [element] at closes
  exact closes

end Document

namespace Compilation

variable {setup : Setup} {document : Document} {mode : Mode} {pairs : List (Text × Text)}
  {code : Text}

/-- The source of a listing. -/
def writtenListing (pairs : List (Text × Text)) (code : Text) : Text :=
  Cursor.writtenTag "code".toList pairs false ++ (code ++ Cursor.writtenClose "code".toList)

/-- A run over a listing comes to its closing tag with all of the code. -/
theorem run_listing (current : document.mode? = some mode) (tags : mode = .normal ∨ mode = .image)
    (writable : ∀ pair ∈ pairs, Cursor.Writable pair) (unended : ¬ Cursor.listingEnd <:+: code)
    (rest : Text) (offset : Nat) :
    ∃ place : Nat,
      (⟨⟨writtenListing pairs code ++ rest, offset⟩, document⟩ : Compilation).run setup =
        (⟨⟨Cursor.listingEnd ++ rest, place⟩, document.insideListing
          ⟨"code".toList, .ofList pairs, offset⟩ code⟩ : Compilation).run setup := by
  obtain ⟨noCode, noInline⟩ := Cursor.ne_of_tags tags
  have read := Cursor.next_writtenTag noCode noInline document.backticks
    (show Cursor.IsTagName "code".toList by decide) writable false
    (code ++ (Cursor.listingEnd ++ rest)) offset
  have shape : writtenListing pairs code ++ rest = Cursor.writtenTag "code".toList pairs false ++
      (code ++ (Cursor.listingEnd ++ rest)) := by
    simp only [writtenListing, List.append_assoc]
    rfl
  have role : (⟨"code".toList, .ofList pairs, offset⟩ : Tag).role = .code := rfl
  rw [shape, run_of_handled (advance_of_next current read (Document.handle_listing role offset))]
  by_cases empty : code = []
  · subst empty
    exact ⟨_, rfl⟩
  · have inside := Cursor.next_listed empty unended document.backticks rest
      (offset + (Cursor.writtenTag "code".toList pairs false).length)
    exact ⟨_, run_of_handled (advance_of_next rfl inside (Document.handle_insideListing _))⟩

end Compilation

/-! ## Shown code -/

/-- Code as it is listed in the language called `name`, or why it cannot be. -/
def Listing.listed (name : Text) (tabSize? : Option Int) (classes : List Text) (code : Text) :
    Except Cause Text :=
  match Listing.of? name tabSize? classes with
  | none => .error (.unsupportedLanguage name)
  | some listing => listing.lay code

namespace Listing

variable {name : Text} {tabSize? : Option Int} {classes : List Text} {code : Text}

/-- A language is known by its name, in small letters and without blanks around it. -/
theorem isSome_named?_iff :
    (Language.named? name).isSome ↔
      Text.toLower (Text.trim name) ∈ Language.all.map Language.name := by
  rw [Language.named?, List.find?_isSome, List.mem_map]
  simp only [decide_eq_true_eq]

/-- The tabs that are asked for, if any are, can be written out. -/
def TabsFit (tabSize? : Option Int) : Prop := ∀ width ∈ tabSize?, Text.isLength width = true

/-- Code is refused for its language, or else for its tabs, or it is listed. -/
theorem listed_cases (name : Text) (tabSize? : Option Int) (classes : List Text) (code : Text) :
    Language.named? name = none ∧
        listed name tabSize? classes code = .error (.unsupportedLanguage name) ∨
      (Language.named? name).isSome ∧ TabsFit tabSize? ∧
        (∃ listing, of? name tabSize? classes = some listing ∧
          listed name tabSize? classes code = .ok (listing.render code)) ∨
      (Language.named? name).isSome ∧ ∃ width, tabSize? = some width ∧
        Text.isLength width = false ∧
        listed name tabSize? classes code = .error (.tabTooWide width) := by
  cases found : Language.named? name with
  | none => exact .inl ⟨rfl, by rw [listed, of?, found, Option.map_none]⟩
  | some language =>
      have own := Language.isLength_of_named? found
      have of : of? name tabSize? classes =
          some ⟨language, tabSize?.getD language.tabSize, classes⟩ := by
        rw [of?, found, Option.map_some]
      cases tabSize? with
      | none =>
          refine .inr (.inl ⟨rfl, by simp [TabsFit], _, of, ?_⟩)
          simp only [listed, of, lay, Option.getD_none, own, if_true]
      | some width =>
          cases fits : Text.isLength width with
          | true =>
              refine .inr (.inl ⟨rfl, by simp [TabsFit, fits], _, of, ?_⟩)
              simp only [listed, of, lay, Option.getD_some, fits, if_true]
          | false =>
              refine .inr (.inr ⟨rfl, width, rfl, fits, ?_⟩)
              simp [listed, of, lay, fits]

end Listing

/-- The language that the attributes of a listing name, or else that of the settings. -/
def namedLanguage (settings : Settings) (pairs : List (Text × Text)) : Text :=
  (pairs.lookup "language".toList).getD settings.language

/-- The names in a value, between commas and spaces and without blanks around them. -/
def namesBetween (value : Text) : List Text :=
  ((value.splitOnP fun c => c = ',' || c = ' ').map Text.trim).filter fun name => name ≠ []

/-- The box around a listing. It has the attributes of the tag, except those that say how the code
is listed. -/
def listingBox (pairs : List (Text × Text)) (listed : Text) : Text :=
  let shown := pairs.filter fun pair =>
    pair.1 ∉ ["comment".toList, "language".toList, "classes".toList]
  "<div".toList ++ shown.flatMap Attributes.renderEntry ++ ['>'] ++ listed ++ "</div>".toList

theorem Text.splitOn_replace (mark other : Char) (text : Text) :
    Text.splitOn mark (Text.replace other [mark] text) =
      text.splitOnP fun c => c = mark || c = other := by
  induction text with
  | nil => rfl
  | cons c text ih =>
      have split : Text.replace other [mark] (c :: text) =
          (if c = other then mark else c) :: Text.replace other [mark] text := by
        by_cases same : c = other <;> simp [Text.replace, same]
      rw [split, Text.splitOn, ih, List.splitOnP_cons_eq_if_modifyHead]
      by_cases ends : c = other ∨ c = mark
      · have stops : (if c = other then mark else c) = mark := by
          rcases ends with rfl | rfl <;> simp
        rw [if_pos stops, if_pos (by simpa [or_comm] using ends)]
      · rw [not_or] at ends
        rw [if_neg ends.1, if_neg ends.2, if_neg (by simp [ends])]
        obtain ⟨piece, pieces, same⟩ := List.exists_cons_of_ne_nil
          (List.splitOnP_ne_nil (fun c => c = mark || c = other) text)
        rw [same]
        rfl

namespace Document

variable {setup : Setup} {document : Document} {tag : Tag} {code : Text}

/-- The classes that a tag names are the names in its attribute. -/
theorem namedClasses_eq (tag : Tag) :
    namedClasses tag = namesBetween ((tag.attributes.get? "classes".toList).getD []) := by
  rw [namedClasses, namesBetween, Text.splitOn_replace]

theorem listingStart_ofList {pairs : List (Text × Text)} (distinct : (pairs.map Prod.fst).Nodup)
    (listed : Text) (offset : Int) :
    listingStart ⟨"code".toList, .ofList pairs, offset⟩ ++ listed ++ boxEnd =
      listingBox pairs listed := by
  have shown (note language classes : Text) : (fun pair : Text × Text => pair.1 ≠ note &&
      !([language, classes].contains pair.1)) = fun pair =>
        decide (pair.1 ∉ [note, language, classes]) := by
    funext pair
    rw [Bool.eq_iff_iff]
    simp
  have rendered : (Attributes.ofList pairs).render ["language".toList, "classes".toList] =
      (pairs.filter fun pair => pair.1 ∉ ["comment".toList, "language".toList,
        "classes".toList]).flatMap Attributes.renderEntry := by
    rw [Attributes.render, Attributes.entries_ofList distinct, shown]
    rfl
  exact congrArg (fun attributes => "<div".toList ++ attributes ++ ['>'] ++ listed ++ boxEnd)
    rendered

theorem close_of_listed {listed : Text} (role : tag.role = .code)
    (laid : Listing.listed (languageName setup.settings tag) setup.settings.tabSize?
      (namedClasses tag) code = .ok listed) :
    ∃ notice, document.close setup { tag, content := code } =
      .ok ((document.tell notice).emit (listingStart tag ++ listed ++ boxEnd)) := by
  have element : (⟨tag, code, none⟩ : OpenElement).role = .code := role
  unfold Listing.listed at laid
  split at laid
  · cases laid
  next listing found =>
  simp only [close, element, found, laid]
  exact ⟨.listing listing.language.name listing.tabSize, by simp only [emit_emit]⟩

theorem close_of_unlisted {cause : Cause} (role : tag.role = .code)
    (refused : Listing.listed (languageName setup.settings tag) setup.settings.tabSize?
      (namedClasses tag) code = .error cause) :
    ∃ left, document.close setup { tag, content := code } =
      .error ⟨⟨cause, tag.offset⟩, left⟩ := by
  have element : (⟨tag, code, none⟩ : OpenElement).role = .code := role
  unfold Listing.listed at refused
  split at refused
  · next missing =>
      cases refused
      simp only [close, element, missing]
      exact ⟨_, rfl⟩
  · next listing found =>
      simp only [close, element, found, refused]
      exact ⟨_, rfl⟩

end Document

namespace Compilation

variable {setup : Setup} {document : Document} {mode : Mode} {pairs : List (Text × Text)}
  {code : Text}

/-- Behind a listing a run goes on as it would where the listing is put on the page as a whole. -/
theorem run_past_listing {listed : Text} {offset : Nat} (current : document.mode? = some mode)
    (tags : mode = .normal ∨ mode = .image)
    (writable : ∀ pair ∈ pairs, Cursor.Writable pair) (unended : ¬ Cursor.listingEnd <:+: code)
    (laid : Listing.listed
      (Document.languageName setup.settings ⟨"code".toList, .ofList pairs, offset⟩)
      setup.settings.tabSize?
      (Document.namedClasses ⟨"code".toList, .ofList pairs, offset⟩) code = .ok listed)
    (rest : Text) :
    ∃ place notice,
      (⟨⟨writtenListing pairs code ++ rest, offset⟩, document⟩ : Compilation).run setup =
        (⟨⟨rest, place⟩, (document.tell notice).emit
          (Document.listingStart ⟨"code".toList, .ofList pairs, offset⟩ ++ listed ++
            Document.boxEnd)⟩ : Compilation).run setup := by
  have role : (⟨"code".toList, .ofList pairs, offset⟩ : Tag).role = .code := rfl
  obtain ⟨place, inside⟩ := @run_listing setup _ _ _ _ current tags writable unended rest offset
  obtain ⟨notice, closed⟩ := @Document.close_of_listed setup document _ _ _ role laid
  have read := Cursor.next_listingEnd document.backticks rest place
  have closes := @Document.handle_listingEnd setup document _ code role place
  rw [closed] at closes
  exact ⟨_, notice, inside.trans (run_of_handled (advance_of_next rfl read closes))⟩

/-- Code that cannot be listed is refused, at the place of its tag. -/
theorem run_at_unlisted {cause : Cause} {offset : Nat} (current : document.mode? = some mode)
    (tags : mode = .normal ∨ mode = .image)
    (writable : ∀ pair ∈ pairs, Cursor.Writable pair) (unended : ¬ Cursor.listingEnd <:+: code)
    (refused : Listing.listed
      (Document.languageName setup.settings ⟨"code".toList, .ofList pairs, offset⟩)
      setup.settings.tabSize?
      (Document.namedClasses ⟨"code".toList, .ofList pairs, offset⟩) code = .error cause)
    (rest : Text) :
    ∃ left, (⟨⟨writtenListing pairs code ++ rest, offset⟩, document⟩ : Compilation).run setup =
      (some ⟨cause, offset⟩, left) := by
  have role : (⟨"code".toList, .ofList pairs, offset⟩ : Tag).role = .code := rfl
  obtain ⟨place, inside⟩ := @run_listing setup _ _ _ _ current tags writable unended rest offset
  obtain ⟨left, closed⟩ := @Document.close_of_unlisted setup document _ _ _ role refused
  have read := Cursor.next_listingEnd document.backticks rest place
  have closes := @Document.handle_listingEnd setup document _ code role place
  rw [closed] at closes
  have reads : (⟨⟨Cursor.listingEnd ++ rest, place⟩, document.insideListing
      ⟨"code".toList, .ofList pairs, offset⟩ code⟩ : Compilation).Reads
        ⟨.closeTag "code".toList, place⟩ _ := ⟨.code, rfl, read⟩
  exact ⟨_, inside.trans (run_of_stopped (advance_of_refused reads closes))⟩

/-- A source that is a listing has the page on which the listing stands in its box. -/
theorem compileWith_writtenListing (writable : ∀ pair ∈ pairs, Cursor.Writable pair)
    (distinct : (pairs.map Prod.fst).Nodup) (unended : ¬ Cursor.listingEnd <:+: code) :
    compileWith setup (writtenListing pairs code) =
      ((Listing.listed (namedLanguage setup.settings pairs) setup.settings.tabSize?
        (namesBetween ((pairs.lookup "classes".toList).getD [])) code).map
          (listingBox pairs)).mapError (⟨·, 0⟩) := by
  have value (name : Text) : (Attributes.ofList pairs).get? name = pairs.lookup name := by
    rw [Attributes.get?, Attributes.entries_ofList distinct]
  have language (offset : Int) :
      Document.languageName setup.settings ⟨"code".toList, .ofList pairs, offset⟩ =
        namedLanguage setup.settings pairs := by
    rw [Document.languageName, value, namedLanguage]
  have classes (offset : Int) :
      Document.namedClasses ⟨"code".toList, .ofList pairs, offset⟩ =
        namesBetween ((pairs.lookup "classes".toList).getD []) := by
    rw [Document.namedClasses_eq, value]
  let first := (Document.start setup.settings).tell (.compiling (writtenListing pairs code).length)
  rw [compileWith_eq]
  cases laid : Listing.listed (namedLanguage setup.settings pairs) setup.settings.tabSize?
      (namesBetween ((pairs.lookup "classes".toList).getD [])) code with
  | ok listed =>
      rw [← language (0 : Nat), ← classes (0 : Nat)] at laid
      obtain ⟨place, notice, run⟩ := @run_past_listing setup first .normal pairs code listed 0 rfl
        (.inl rfl) writable unended laid []
      have told : (first.tell notice).Laid :=
        ⟨rfl, fun place marked => absurd marked (Option.not_mem_none place)⟩
      rw [List.append_nil, Document.listingStart_ofList distinct] at run
      have ran : (opening setup.settings (writtenListing pairs code)).run setup = _ :=
        run.trans (run_at_end rfl place)
      have rendered := told.render_emit rfl (listingBox pairs listed)
      rw [ran]
      exact congrArg Except.ok rendered
  | error cause =>
      rw [← language (0 : Nat), ← classes (0 : Nat)] at laid
      obtain ⟨left, run⟩ := @run_at_unlisted setup first .normal pairs code cause 0 rfl
        (.inl rfl) writable unended laid []
      rw [List.append_nil] at run
      have ran : (opening setup.settings (writtenListing pairs code)).run setup = _ := run
      rw [ran]
      rfl

end Compilation

open Compilation

/-- Code between the tags of a listing is shown in a box as it is listed by itself, whatever stands
in it, up to the first closing tag. It is refused exactly for a language that is not known, and for
tabs that no text can hold, which the check of settings lets pass. -/
theorem code_is_listed_as_written {setup : Setup} {pairs : List (Text × Text)} {code : Text}
    (writable : ∀ pair ∈ pairs, Cursor.Writable pair) (distinct : (pairs.map Prod.fst).Nodup)
    (unended : ¬ "</code>".toList <:+: code) :
    compileWith setup (writtenListing pairs code) =
        ((Listing.listed (namedLanguage setup.settings pairs) setup.settings.tabSize?
          (namesBetween ((pairs.lookup "classes".toList).getD [])) code).map
            (listingBox pairs)).mapError (⟨·, 0⟩) ∧
      (compileWith setup (writtenListing pairs code) =
          .error ⟨.unsupportedLanguage (namedLanguage setup.settings pairs), 0⟩ ↔
        Text.toLower (Text.trim (namedLanguage setup.settings pairs)) ∉
          Language.all.map Language.name) ∧
      ((∃ page, compileWith setup (writtenListing pairs code) = .ok page) ↔
        Text.toLower (Text.trim (namedLanguage setup.settings pairs)) ∈
            Language.all.map Language.name ∧ Listing.TabsFit setup.settings.tabSize?) ∧
      (∀ cause place, compileWith setup (writtenListing pairs code) = .error ⟨cause, place⟩ →
        place = 0 ∧ (cause = .unsupportedLanguage (namedLanguage setup.settings pairs) ∨
          ∃ width ∈ setup.settings.tabSize?, Text.isLength width = false ∧
            cause = .tabTooWide width)) := by
  rw [compileWith_writtenListing writable distinct unended, ← Listing.isSome_named?_iff]
  refine ⟨rfl, ?_⟩
  rcases Listing.listed_cases (namedLanguage setup.settings pairs) setup.settings.tabSize?
      (namesBetween ((pairs.lookup "classes".toList).getD [])) code with
    ⟨unknown, refused⟩ | ⟨known, fits, listing, -, laid⟩ | ⟨known, width, given, wide, refused⟩
  · rw [refused]
    simp [Except.map, unknown]
  · rw [laid]
    simp [Except.map, known, fits]
  · have unfit : ¬ Listing.TabsFit (some width) := fun fits => by simp [fits width rfl] at wide
    rw [refused, given]
    simp [Except.map, known, wide, unfit]

/-- What looks like markup is code. Tabs that no text can hold are refused even where the code has
none. -/
theorem listings_of_marks_and_of_overwide_tabs :
    (∃ page, compileWith {} (writtenListing [("id".toList, ['n'])] "</code <!--|`\n".toList) =
        .ok page) ∧
      (Draft.standard.put .tabSize (.integer 1180591620717411303424)).check =
        .ok { tabSize? := some 1180591620717411303424 } ∧
      compileWith { settings := { tabSize? := some 1180591620717411303424 } }
          (writtenListing [] ['x']) =
        .error ⟨.tabTooWide 1180591620717411303424, 0⟩ := by
  have unended {code : Text} (inside : '>' ∉ code) : ¬ "</code>".toList <:+: code := fun within =>
    inside (within.subset (show '>' ∈ "</code>".toList by decide))
  have marks := @code_is_listed_as_written {} [("id".toList, ['n'])] "</code <!--|`\n".toList
    (by decide) (by decide) (unended (by decide))
  have wide := @code_is_listed_as_written
    { settings := { tabSize? := some 1180591620717411303424 } } [] ['x'] (List.forall_mem_nil _)
    List.nodup_nil (unended (by decide))
  exact ⟨marks.2.2.1.mpr ⟨by decide, nofun⟩, rfl, wide.1⟩

end PageMarkup
