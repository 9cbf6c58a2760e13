import PageMarkup.Proofs.Bookmarks.Ledger
import PageMarkup.Proofs.Contents
import PageMarkup.Proofs.Joined
import PageMarkup.Proofs.SelfClosing

/-! # Separators

Outside listings and inline code a line end or a pipe is a token of its own. It goes to the page
wherever it stands, and it is part of no address of an image and of no label of a bookmark. -/

namespace PageMarkup

open Cursor (endsText)

/-- Line ends and pipes. -/
def isSeparator (c : Char) : Bool := c = '\n' || c = '|'

namespace Text

/-- The separators in a text. -/
def separators (text : Text) : Text := text.filter isSeparator

/-- The text without its separators. -/
def unseparated (text : Text) : Text := text.filter fun c => !isSeparator c

variable {text : Text}

theorem separators_snoc (text : Text) (c : Char) :
    separators (text ++ [c]) = separators text ++ if isSeparator c then [c] else [] := by
  cases separates : isSeparator c <;> simp [separators, separates]

theorem unseparated_snoc (text : Text) (c : Char) :
    unseparated (text ++ [c]) = unseparated text ++ if isSeparator c then [] else [c] := by
  cases separates : isSeparator c <;> simp [unseparated, separates]

theorem forall_not_isSeparator_iff :
    (∀ c ∈ text, isSeparator c = false) ↔ '\n' ∉ text ∧ '|' ∉ text := by
  constructor
  · intro none
    exact ⟨fun mem => by simpa [isSeparator] using none _ mem,
      fun mem => by simpa [isSeparator] using none _ mem⟩
  · rintro ⟨newline, pipe⟩ c mem
    have other {mark : Char} (absent : mark ∉ text) : c ≠ mark := fun same => absent (same ▸ mem)
    simp [isSeparator, other newline, other pipe]

theorem unseparated_eq_self_iff : unseparated text = text ↔ '\n' ∉ text ∧ '|' ∉ text := by
  rw [← forall_not_isSeparator_iff, unseparated, List.filter_eq_self]
  simp only [Bool.not_eq_true']

theorem separators_eq_nil_iff : separators text = [] ↔ '\n' ∉ text ∧ '|' ∉ text := by
  rw [← forall_not_isSeparator_iff, separators, List.filter_eq_nil_iff]
  simp only [Bool.not_eq_true]

end Text

/-! ## Text without brackets -/

namespace Document

/-- The documents `taken text` are what a document becomes as it takes text, one character after
another, in a mode. -/
structure Takes (mode : Mode) (taken : Text → Document) : Prop where
  current (text : Text) : (taken text).mode? = some mode
  plain (text : Text) : (taken text).backticks = false
  separator (text : Text) {c : Char} (separates : isSeparator c = true) :
    (taken text).emit [c] = taken (text ++ [c])
  character (text : Text) {c : Char} (joins : isSeparator c = false) (offset : Int) :
    (taken text).handleText [c] offset = .ok (taken (text ++ [c]))

end Document

namespace Compilation

variable {setup : Setup} {document : Document} {mode : Mode} {c : Char}

theorem run_separator (current : document.mode? = some mode)
    (tags : mode = .normal ∨ mode = .image) (separates : isSeparator c = true) (rest : Text)
    (offset : Nat) :
    (⟨⟨c :: rest, offset⟩, document⟩ : Compilation).run setup =
      (⟨⟨rest, offset + 1⟩, document.emit [c]⟩ : Compilation).run setup := by
  simp only [isSeparator, Bool.or_eq_true, decide_eq_true_eq] at separates
  rcases tags with rfl | rfl <;> rcases separates with rfl | rfl <;>
    exact run_of_handled (advance_of_next current rfl rfl)

/-- Without backticks, a run over text that opens no tags takes all of it. -/
theorem run_taken {taken : Text → Document} (takes : Document.Takes mode taken)
    (tags : mode = .normal ∨ mode = .image) {text : Text} (unmarked : '<' ∉ text)
    (read rest : Text) (offset : Nat) :
    (⟨⟨text ++ rest, offset⟩, taken read⟩ : Compilation).run setup =
      (⟨⟨rest, offset + text.length⟩, taken (read ++ text)⟩ : Compilation).run setup := by
  induction text generalizing read offset with
  | nil => rw [List.append_nil]; rfl
  | cons c text ih =>
      rw [List.mem_cons, not_or] at unmarked
      have first : (⟨⟨c :: (text ++ rest), offset⟩, taken read⟩ : Compilation).run setup =
          (⟨⟨text ++ rest, offset + 1⟩, taken (read ++ [c])⟩ : Compilation).run setup := by
        cases separates : isSeparator c with
        | true =>
            rw [← takes.separator read separates]
            exact run_separator (takes.current read) tags separates _ _
        | false =>
            have inRun : endsText c = false := by
              simpa [endsText, isSeparator, Ne.symm unmarked.1] using separates
            have single : Cursor.IsRun (taken read).backticks [c] :=
              ⟨List.cons_ne_nil _ _, by simp [takes.plain],
                by rw [Text.run_of_plain inRun (by simp [takes.plain])]; rfl⟩
            exact run_across single (takes.current read) tags (.inl (takes.plain read))
              (takes.character read separates offset)
      rw [List.cons_append, first, ih unmarked.2, List.append_assoc, List.length_cons,
        Nat.add_assoc, Nat.add_comm 1]
      rfl

end Compilation

/-! ## Addresses of images -/

namespace Document

variable {setup : Setup} {document : Document} {tag : Tag} {address : Text}

/-- The document inside an image, its address read. -/
def insideImage (document : Document) (tag : Tag) (address : Text) : Document :=
  { document.emit (Text.separators address) with
    elements := { tag, content := Text.unseparated address } :: document.elements
    modes := .image :: document.modes }

theorem takes_insideImage (document : Document) (tag : Tag) (plain : document.backticks = false) :
    Takes .image (document.insideImage tag) where
  current _ := rfl
  plain _ := plain
  separator read c separates := by
    simp only [insideImage, Text.separators_snoc, Text.unseparated_snoc, separates, if_true,
      List.append_nil, ← emit_emit]
    rfl
  character read c joins offset := by
    simp only [insideImage, Text.separators_snoc, Text.unseparated_snoc, joins, Bool.false_eq_true,
      if_false, List.append_nil]
    rfl

theorem handle_image (role : tag.role = .image) (offset : Int) :
    document.handle setup ⟨.openTag tag, offset⟩ = .ok (document.insideImage tag []) := by
  have proper : tag.proper = tag := Tag.proper_eq_self (by simp [role])
  simp only [handle, handleOpen, push, proper, role, insideImage, Text.separators, List.filter_nil,
    emit_nil]
  rfl

theorem handle_imageEnd (named : tag.name = "image".toList) (offset : Int) :
    (document.insideImage tag address).handle setup ⟨.closeTag "image".toList, offset⟩ =
      .ok (document.emit (Text.separators address ++ image tag (Text.unseparated address))) := by
  have proper : tag.name = Tag.properName "image".toList := named
  have role : (⟨tag, Text.unseparated address, none⟩ : OpenElement).role = .image := by
    rw [OpenElement.role, Tag.role, named]
    rfl
  have closes := @handleClose_of_brought setup
    { document.emit (Text.separators address) with
      elements := ⟨tag, Text.unseparated address, none⟩ :: document.elements } _ _ _ offset rfl
    proper
  simp only [role, close] at closes
  rw [← emit_emit]
  exact closes

end Document

/-- An image of an address, with the name of the file as the text that stands for it. -/
def imageOf (written : Text) : Text :=
  let address := Text.trim written
  "<img src=\"".toList ++ address ++ "\" alt=\"".toList ++
    Text.escape (Text.afterLast '/' address) ++ ['"'] ++ "/>".toList

theorem head?_imageOf (written : Text) : (imageOf written).head? = some '<' := rfl

/-- Separators are seen in front of an image, which begins with a bracket. -/
theorem separators_append_imageOf_eq_iff {address : Text} :
    Text.separators address ++ imageOf (Text.unseparated address) = imageOf address ↔
      '\n' ∉ address ∧ '|' ∉ address := by
  constructor
  · intro same
    rw [← Text.separators_eq_nil_iff]
    cases found : Text.separators address with
    | nil => rfl
    | cons c more =>
        have mem : c ∈ Text.separators address := found ▸ List.mem_cons_self
        have separates : isSeparator c = true := (List.mem_filter.mp mem).2
        have first := congrArg List.head? same
        rw [found, head?_imageOf] at first
        obtain rfl : c = '<' := Option.some.inj first
        cases separates
  · intro joined
    rw [Text.separators_eq_nil_iff.mpr joined, Text.unseparated_eq_self_iff.mpr joined]
    rfl

theorem Document.image_eq_imageOf (name : Text) (offset : Int) (written : Text) :
    Document.image ⟨name, .ofList [], offset⟩ written = imageOf written := by
  have unset (name : Text) : (Attributes.ofList []).get? name = none := rfl
  have blank : Text.trim [] = [] := rfl
  have text (address : Text) : imageText ⟨name, .ofList [], offset⟩ address =
      Text.escape (Text.afterLast '/' address) := by
    simp only [imageText, unset, Option.getD_none, blank, List.isEmpty_nil, if_true]
  have others : (imageAttributes ⟨name, .ofList [], offset⟩).render [] = [] := rfl
  have drop (front rear : Text) : front ++ [] ++ rear = front ++ rear := by rw [List.append_nil]
  unfold Document.image imageOf
  simp only
  rw [text, others, drop]

namespace Compilation

variable {setup : Setup} {document : Document} {mode : Mode} {pairs : List (Text × Text)}
  {address : Text}

/-- The source of an image. -/
def writtenImage (pairs : List (Text × Text)) (address : Text) : Text :=
  Cursor.writtenTag "image".toList pairs false ++ (address ++ Cursor.writtenClose "image".toList)

/-- Behind an image a run goes on as it would where the separators and the image are put on the
page as a whole. -/
theorem run_past_image (current : document.mode? = some mode)
    (tags : mode = .normal ∨ mode = .image) (plain : document.backticks = false)
    (writable : ∀ pair ∈ pairs, Cursor.Writable pair) (unmarked : '<' ∉ address) (rest : Text)
    (offset : Nat) :
    ∃ place : Nat,
      (⟨⟨writtenImage pairs address ++ rest, offset⟩, document⟩ : Compilation).run setup =
        (⟨⟨rest, place⟩, document.emit (Text.separators address ++
          Document.image ⟨"image".toList, .ofList pairs, offset⟩ (Text.unseparated address))⟩ :
            Compilation).run setup := by
  obtain ⟨noCode, noInline⟩ := Cursor.ne_of_tags tags
  have name : Cursor.IsTagName "image".toList := by decide
  have shape : writtenImage pairs address ++ rest = Cursor.writtenTag "image".toList pairs false ++
      (address ++ (Cursor.writtenClose "image".toList ++ rest)) := by
    simp only [writtenImage, List.append_assoc]
  have opens := Cursor.next_writtenTag noCode noInline document.backticks name writable false
    (address ++ (Cursor.writtenClose "image".toList ++ rest)) offset
  have takes := document.takes_insideImage ⟨"image".toList, .ofList pairs, offset⟩ plain
  have role : (⟨"image".toList, .ofList pairs, offset⟩ : Tag).role = .image := rfl
  have inside := @run_taken setup _ _ takes (.inr rfl) _ unmarked []
    (Cursor.writtenClose "image".toList ++ rest)
    (offset + (Cursor.writtenTag "image".toList pairs false).length)
  have closes := Cursor.next_writtenClose (show Mode.image ≠ .code by decide) (by decide)
    document.backticks name.1 rest
    (offset + (Cursor.writtenTag "image".toList pairs false).length + address.length)
  rw [shape]
  exact ⟨_, (run_of_handled (advance_of_next current opens
    (Document.handle_image role offset))).trans (inside.trans
      (run_of_handled (advance_of_next rfl closes (Document.handle_imageEnd rfl _))))⟩

/-- A source that is an image has the page of its separators and the image. -/
theorem compileWith_writtenImage (plain : setup.settings.backticks = false)
    (writable : ∀ pair ∈ pairs, Cursor.Writable pair) (unmarked : '<' ∉ address) :
    compileWith setup (writtenImage pairs address) =
      .ok (Text.separators address ++ Document.image ⟨"image".toList, .ofList pairs, (0 : Nat)⟩
        (Text.unseparated address)) := by
  let first := (Document.start setup.settings).tell (.compiling (writtenImage pairs address).length)
  have laid : first.Laid := ⟨rfl, nofun⟩
  obtain ⟨place, run⟩ := @run_past_image setup first .normal pairs address rfl (.inl rfl) plain
    writable unmarked [] 0
  rw [List.append_nil] at run
  have ran : (opening setup.settings (writtenImage pairs address)).run setup = _ :=
    run.trans (run_at_end rfl place)
  rw [compileWith_eq, ran]
  exact congrArg Except.ok (laid.render_emit rfl _)

end Compilation

open Compilation

/-- Line ends and pipes in the address of an image are put on the page in front of it, and the
address is what is left without them. So the whole text between the tags is the address exactly
where it has none of them. -/
theorem image_has_address_without_separators {setup : Setup} {address : Text}
    (plain : setup.settings.backticks = false) (unmarked : '<' ∉ address) :
    compileWith setup (writtenImage [] address) =
        .ok (Text.separators address ++ imageOf (Text.unseparated address)) ∧
      (compileWith setup (writtenImage [] address) = .ok (imageOf address) ↔
        '\n' ∉ address ∧ '|' ∉ address) := by
  have page := compileWith_writtenImage plain (List.forall_mem_nil _) unmarked
  rw [Document.image_eq_imageOf] at page
  refine ⟨page, ?_⟩
  rw [page, Except.ok.injEq]
  exact separators_append_imageOf_eq_iff

/-- The address of an image with a pipe in it. -/
theorem pipe_in_address_is_shown_in_front :
    compileWith {} (writtenImage [] "a|b".toList) =
        .ok "|<img src=\"ab\" alt=\"ab\"/>".toList ∧
      compileWith {} (writtenImage [] "a|b".toList) ≠ .ok (imageOf "a|b".toList) := by
  obtain ⟨page, whole⟩ :=
    @image_has_address_without_separators {} "a|b".toList rfl (by decide)
  refine ⟨page.trans (congrArg Except.ok (by decide)), fun same => ?_⟩
  exact absurd (whole.mp same) (by decide)

/-! ## Labels of bookmarks -/

/-- The table of contents of a page with one bookmark. -/
theorem Bookmark.contents_singleton (bookmark : Bookmark) :
    contents [bookmark] = "\n<div class=\"hpp_tableofcontents\">\n".toList ++ bookmark.entry ++
      "</div>\n".toList :=
  congrArg (fun entries => "\n<div class=\"hpp_tableofcontents\">\n".toList ++ entries ++
    "</div>\n".toList) (List.flatMap_singleton entry bookmark)

namespace Document

variable {setup : Setup} {document : Document} {tag : Tag} {text : Text}

/-- The document once text has been read outside listings, images and inline code. -/
def takeText (document : Document) (text : Text) : Document :=
  { document.emit text with
    captures := document.captures.map fun capture =>
      (capture.1, capture.2 ++ Text.unseparated text) }

theorem takeText_nil (document : Document) : document.takeText [] = document := by
  simp [takeText, Text.unseparated]

theorem takes_takeText (current : document.mode? = some .normal)
    (plain : document.backticks = false) : Takes .normal document.takeText where
  current _ := current
  plain _ := plain
  separator read c separates := by
    simp only [takeText, Text.unseparated_snoc, separates, if_true, List.append_nil, ← emit_emit]
    rfl
  character read c joins offset := by
    have mode : (document.takeText read).mode? = some .normal := current
    have label (capture : Text × Text) : (capture.1, capture.2 ++ Text.unseparated (read ++ [c])) =
        (capture.1, capture.2 ++ Text.unseparated read ++ [c]) := by
      simp [Text.unseparated_snoc, joins]
    have adds : document.takeText (read ++ [c]) = (document.takeText read).emitText [c] := by
      simp only [takeText, emitText, label, ← emit_emit, List.map_map]
      rfl
    simp only [handleText, mode, adds]

/-- The document behind a bookmark that holds text. -/
def withBookmark (setup : Setup) (tag : Tag) (text : Text) (document : Document) : Document :=
  closeBookmark (setup.newId document.bookmarks.length)
    { (document.openBookmark setup tag).takeText text with elements := document.elements }

/-- The bookmark is labelled with the text but for separators. -/
theorem bookmarks_withBookmark (setup : Setup) (tag : Tag) (text : Text) (document : Document) :
    (document.withBookmark setup tag text).bookmarks = document.bookmarks ++
      [{ name := bookmarkName tag document.nextNumber
         id := setup.newId document.bookmarks.length
         label := Text.unseparated text }] := by
  have captured : ((document.openBookmark setup tag).takeText text).captures.lookup
      (setup.newId document.bookmarks.length) = some (Text.unseparated text) := by
    refine (Pairs.lookup_map_snd (· ++ Text.unseparated text)).trans ?_
    rw [show (document.openBookmark setup tag).captures =
      Pairs.put (setup.newId document.bookmarks.length) [] document.captures from rfl,
      Pairs.lookup_put_self, Option.map_some, List.nil_append]
  simp only [withBookmark, closeBookmark, captured, Option.getD_some]
  exact Bookmark.labelLast_of_last rfl (List.forall_mem_nil _)

theorem page_withBookmark (setup : Setup) (tag : Tag) (text : Text) (document : Document) :
    (document.withBookmark setup tag text).page = document.page.emit
      ("<a name=\"".toList ++ Text.escape (bookmarkName tag document.nextNumber) ++
        "\"></a>".toList ++ text) := by
  rw [← Sink.emit_emit]
  rfl

theorem handle_bookmark (role : tag.role = .bookmark) (offset : Int) :
    document.handle setup ⟨.openTag tag, offset⟩ = .ok (document.openBookmark setup tag) := by
  have proper : tag.proper = tag := Tag.proper_eq_self (by simp [role])
  simp only [handle, handleOpen, push, proper, role]
  rfl

theorem handle_bookmarkEnd (named : tag.name = "bookmark".toList) (offset : Int) :
    ((document.openBookmark setup tag).takeText text).handle setup
        ⟨.closeTag "bookmark".toList, offset⟩ =
      .ok (document.withBookmark setup tag text) := by
  have proper : tag.name = Tag.properName "bookmark".toList := named
  have role : (⟨tag, [], some (setup.newId document.bookmarks.length)⟩ : OpenElement).role =
      .bookmark := by
    rw [OpenElement.role, Tag.role, named]
    rfl
  have closes := @handleClose_of_brought setup
    ((document.openBookmark setup tag).takeText text) _ _ _ offset rfl proper
  simp only [role, close] at closes
  exact closes

/-- The first table of contents outside comments marks its place. -/
theorem handle_contents (role : tag.role = .contents) (shows : document.page.shows = true)
    (unasked : document.hasContents = false) (offset : Int) :
    document.handle setup ⟨.selfCloseTag tag, offset⟩ =
      .ok { document with hasContents := true, page := document.page.markHere } := by
  have named : tag.name = "tableofcontents".toList := Tag.name_of_role_contents role
  have proper : tag.proper = tag := Tag.proper_eq_self (by simp [role])
  have pushed : document.push setup tag =
      .ok (({ document with hasContents := true, page := document.page.markHere } :
        Document).enter tag none) := by
    simp only [push, proper, role, shows, unasked]
    rfl
  have element : (⟨tag, [], none⟩ : OpenElement).role = .contents := role
  have popped := @pop_eq_close setup
    (({ document with hasContents := true, page := document.page.markHere } :
      Document).enter tag none) ⟨tag, [], none⟩ tag.name document.elements offset rfl
    (by rw [named]; rfl)
  simp only [close, element] at popped
  simp only [handle, handleSelfClose, pushed]
  exact congrArg (fun result => result >>= fun (popped : OpenElement × Document) => pure popped.2)
    popped

/-- A table of contents at the end of the page is put behind all that is shown. -/
theorem render_markHere (document : Document) :
    ({ document with hasContents := true, page := document.page.markHere } : Document).render =
      document.page.text ++ Bookmark.contents document.bookmarks := by
  simp only [render, if_true, Sink.render, Sink.markHere]
  have whole : document.page.text.take document.page.text.length ++
      Bookmark.contents document.bookmarks ++ document.page.text.drop document.page.text.length =
        document.page.text ++ Bookmark.contents document.bookmarks := by
    rw [List.take_length, List.drop_length, List.append_nil]
  exact whole

end Document

namespace Compilation

variable {setup : Setup} {document : Document} {name text : Text}

/-- The source of a bookmark with a name that holds text. -/
def writtenBookmark (name text : Text) : Text :=
  Cursor.writtenTag "bookmark".toList [("name".toList, name)] false ++
    (text ++ Cursor.writtenClose "bookmark".toList)

/-- The source that asks for a table of contents. -/
def writtenContents : Text := Cursor.writtenTag "tableofcontents".toList [] true

/-- Behind a bookmark a run goes on from the document that has the bookmark. -/
theorem run_past_bookmark (current : document.mode? = some .normal)
    (plain : document.backticks = false) (writable : '"' ∉ name) (unmarked : '<' ∉ text)
    (rest : Text) (offset : Nat) :
    ∃ place : Nat,
      (⟨⟨writtenBookmark name text ++ rest, offset⟩, document⟩ : Compilation).run setup =
        (⟨⟨rest, place⟩, document.withBookmark setup
          ⟨"bookmark".toList, .ofList [("name".toList, name)], offset⟩ text⟩ :
            Compilation).run setup := by
  have noCode : Mode.normal ≠ .code := by decide
  have noInline : Mode.normal ≠ .inlineCode := by decide
  have named : Cursor.IsTagName "bookmark".toList := by decide
  have pairs : ∀ pair ∈ [("name".toList, name)], Cursor.Writable pair :=
    List.forall_mem_singleton.mpr ⟨show Cursor.IsWord "name".toList by decide, writable⟩
  have role : (⟨"bookmark".toList, .ofList [("name".toList, name)], offset⟩ : Tag).role =
      .bookmark := rfl
  have shape : writtenBookmark name text ++ rest =
      Cursor.writtenTag "bookmark".toList [("name".toList, name)] false ++
        (text ++ (Cursor.writtenClose "bookmark".toList ++ rest)) := by
    simp only [writtenBookmark, List.append_assoc]
  have opens := Cursor.next_writtenTag noCode noInline document.backticks named pairs false
    (text ++ (Cursor.writtenClose "bookmark".toList ++ rest)) offset
  let opened := document.openBookmark setup
    ⟨"bookmark".toList, .ofList [("name".toList, name)], offset⟩
  have takes : Document.Takes .normal opened.takeText := Document.takes_takeText current plain
  have inside := @run_taken setup _ _ takes (.inl rfl) _ unmarked []
    (Cursor.writtenClose "bookmark".toList ++ rest)
    (offset + (Cursor.writtenTag "bookmark".toList [("name".toList, name)] false).length)
  rw [Document.takeText_nil, List.nil_append] at inside
  have closes := Cursor.next_writtenClose noCode noInline document.backticks named.1 rest
    (offset + (Cursor.writtenTag "bookmark".toList [("name".toList, name)] false).length +
      text.length)
  rw [shape]
  exact ⟨_, (run_of_handled (advance_of_next current opens
    (Document.handle_bookmark role offset))).trans (inside.trans
      (run_of_handled (advance_of_next current closes (Document.handle_bookmarkEnd rfl _))))⟩

theorem run_at_contents (current : document.mode? = some .normal)
    (shows : document.page.shows = true) (unasked : document.hasContents = false) (offset : Nat) :
    ∃ place : Nat, (⟨⟨writtenContents, offset⟩, document⟩ : Compilation).run setup =
      (none, ⟨⟨[], place⟩,
        { document with hasContents := true, page := document.page.markHere }⟩) := by
  have asks := Cursor.next_writtenTag (show Mode.normal ≠ .code by decide) (by decide)
    document.backticks (show Cursor.IsTagName "tableofcontents".toList by decide)
    (List.forall_mem_nil _) true [] offset
  rw [List.append_nil] at asks
  have handled := @Document.handle_contents setup document
    ⟨"tableofcontents".toList, .ofList [], offset⟩ rfl shows unasked offset
  have ends := @run_at_end setup
    { document with hasContents := true, page := document.page.markHere } _ current
    (offset + (Cursor.writtenTag "tableofcontents".toList [] true).length)
  exact ⟨_, (run_of_handled (advance_of_next current asks handled)).trans ends⟩

end Compilation

/-- A bookmark is listed under the text that it holds, but for line ends and pipes, which are only
shown on the page. So it is listed under the whole text exactly where that has none of them. -/
theorem bookmark_is_listed_without_separators {setup : Setup} {name text : Text}
    (plain : setup.settings.backticks = false) (writable : '"' ∉ name) (unmarked : '<' ∉ text) :
    ∃ last bookmark,
      (opening setup.settings (writtenBookmark name text ++ writtenContents)).run setup =
        (none, last) ∧
      last.document.bookmarks = [bookmark] ∧ bookmark.name = Text.trim name ∧
      bookmark.label = Text.unseparated text ∧
      compileWith setup (writtenBookmark name text ++ writtenContents) =
        .ok ("<a name=\"".toList ++ Text.escape (Text.trim name) ++ "\"></a>".toList ++ text ++
          ("\n<div class=\"hpp_tableofcontents\">\n".toList ++
            ("<div><a href=\"#".toList ++ Text.escape (Text.trim name) ++ "\">".toList ++
              bookmark.label ++ "</a></div>\n".toList) ++ "</div>\n".toList)) ∧
      (bookmark.label = text ↔ '\n' ∉ text ∧ '|' ∉ text) := by
  let first := (Document.start setup.settings).tell
    (.compiling (writtenBookmark name text ++ writtenContents).length)
  let tag : Tag := ⟨"bookmark".toList, .ofList [("name".toList, name)], (0 : Nat)⟩
  obtain ⟨place, past⟩ := @run_past_bookmark setup first _ _ rfl plain writable unmarked
    writtenContents 0
  have page := Document.page_withBookmark setup tag text first
  have shows : (first.withBookmark setup tag text).page.shows = true := by
    rw [page, Sink.shows_emit]
    rfl
  obtain ⟨ended, last⟩ := @run_at_contents setup (first.withBookmark setup tag text) rfl shows rfl
    place
  have ran : (opening setup.settings (writtenBookmark name text ++ writtenContents)).run setup = _ :=
    past.trans last
  refine ⟨_, _, ran, Document.bookmarks_withBookmark setup tag text first, rfl, rfl, ?_,
    Text.unseparated_eq_self_iff⟩
  have given : Document.bookmarkName tag first.nextNumber = Text.trim name := rfl
  have shown : (first.withBookmark setup tag text).page.text = "<a name=\"".toList ++
      Text.escape (Text.trim name) ++ "\"></a>".toList ++ text := by
    rw [page, Sink.text_emit_of_shows rfl, given]
    rfl
  have listed := Bookmark.contents_singleton
    ⟨Document.bookmarkName tag first.nextNumber, setup.newId 0, Text.unseparated text⟩
  rw [compileWith_eq, ran]
  refine congrArg Except.ok ((first.withBookmark setup tag text).render_markHere.trans ?_)
  rw [shown, Document.bookmarks_withBookmark]
  exact congrArg _ listed

/-- A bookmark that holds a pipe. -/
theorem pipe_in_bookmark_is_missing_from_label :
    ∃ last bookmark,
      (opening {} (writtenBookmark ['n'] "a|b".toList ++ writtenContents)).run {} = (none, last) ∧
      last.document.bookmarks = [bookmark] ∧ bookmark.label = "ab".toList ∧
      bookmark.label ≠ "a|b".toList ∧
      compileWith {} (writtenBookmark ['n'] "a|b".toList ++ writtenContents) =
        .ok ("<a name=\"n\"></a>a|b\n<div class=\"hpp_tableofcontents\">\n".toList ++
          "<div><a href=\"#n\">ab</a></div>\n</div>\n".toList) := by
  obtain ⟨last, bookmark, ran, bookmarks, -, label, page, whole⟩ :=
    @bookmark_is_listed_without_separators {} ['n'] "a|b".toList rfl (by decide) (by decide)
  have labelled : bookmark.label = "ab".toList := label.trans (by decide)
  rw [labelled] at page
  exact ⟨last, bookmark, ran, bookmarks, labelled, fun same => absurd (whole.mp same).2 (by decide),
    page.trans (congrArg Except.ok (by decide))⟩

end PageMarkup
