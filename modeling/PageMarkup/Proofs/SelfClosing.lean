import PageMarkup.Proofs.Alike
import PageMarkup.Proofs.Modes
import PageMarkup.Proofs.Reading.Tags

/-! # Tags that close themselves

A tag that closes itself does what the tag and its closing tag do, one directly behind the other:
the modes that the two bring and end leave no trace, wherever they stand. -/

namespace PageMarkup

/-! ## Handling -/

/-- What comes of a change to a document, in other modes. -/
def Halt.outcomeIn (modes : List Mode) : Except Halt Document → Except Halt Document
  | .ok document => .ok { document with modes }
  | .error halt => .error ⟨halt.fault, { halt.document with modes }⟩

namespace Document

variable {setup : Setup} {document : Document} {element : OpenElement} {tag : Tag}

/-- Closing an element does not depend on modes. -/
theorem close_in_modes (setup : Setup) (element : OpenElement) (document : Document)
    (modes : List Mode) :
    ({ document with modes } : Document).close setup element =
      Halt.outcomeIn modes (document.close setup element) := by
  unfold close
  cases element.role with
  | bookmark => cases element.bookmark? <;> rfl
  | code =>
      simp only [tell]
      split
      · rfl
      split <;> rfl
  | _ => rfl

theorem pop_eq_close {name : Text} {outer : List OpenElement} (offset : Int)
    (elements : document.elements = element :: outer)
    (named : element.tag.name = Tag.properName name) :
    document.pop setup name offset =
      (close setup element { document with elements := outer }).map fun after =>
        (element, after) := by
  simp only [pop, elements, named, if_true]

theorem handleOpen_eq (setup : Setup) (tag : Tag) (document : Document) :
    document.handleOpen setup tag = (document.push setup tag).map fun inside =>
      { inside with modes := tag.proper.role.captureMode?.toList ++ inside.modes } := by
  unfold handleOpen
  cases tag.proper.role <;> rfl

/-- Closing an element in the mode that it has brought ends this mode. -/
theorem handleClose_of_brought {name : Text} {outer : List OpenElement} (offset : Int)
    (elements : document.elements = element :: outer)
    (named : element.tag.name = Tag.properName name) :
    ({ document with modes := element.role.captureMode?.toList ++ document.modes } :
        Document).handleClose setup name offset =
      match close setup element { document with elements := outer } with
      | .ok after => .ok { after with modes := document.modes }
      | .error halt => .error ⟨halt.fault,
          { halt.document with modes := element.role.captureMode?.toList ++ document.modes }⟩ := by
  have closes := close_in_modes setup element { document with elements := outer }
    (element.role.captureMode?.toList ++ document.modes)
  have popped : ({ document with modes := element.role.captureMode?.toList ++ document.modes } :
      Document).pop setup name offset = _ := pop_eq_close offset elements named
  rw [handleClose, popped, closes]
  cases close setup element { document with elements := outer } with
  | error halt => rfl
  | ok after =>
      simp only [Halt.outcomeIn, Except.map]
      cases element.role <;> rfl

/-- A tag that closes itself is handled as the tag and its closing tag are, but for the place where
a fault is met. -/
theorem outcome_handleSelfClose (setup : Setup) (document : Document) (tag : Tag)
    (offset offset' : Int) :
    outcome (document.handleSelfClose setup tag offset) =
      outcome (document.handleOpen setup tag >>= fun inside =>
        inside.handleClose setup tag.name offset') := by
  rw [handleOpen_eq]
  cases pushed : document.push setup tag with
  | error halt => simp [handleSelfClose, pushed, bind, Except.bind, Except.map]
  | ok inside =>
      have opening := push_spec pushed
      have named : (document.opened setup tag.proper).tag.name = Tag.properName tag.name :=
        tag.proper_name
      have closes := @handleClose_of_brought setup inside _ _ _ offset' opening.elements named
      have popped := @pop_eq_close setup inside _ _ _ offset opening.elements named
      simp only [handleSelfClose, pushed, popped, bind, Except.bind, Except.map]
      refine Eq.trans ?_ (congrArg outcome closes).symm
      cases closed : close setup (document.opened setup tag.proper)
          { inside with elements := document.elements } with
      | error halt => rfl
      | ok after =>
          have modes : after.modes = inside.modes := (close_spec closed).modes
          rw [← modes]
          rfl

end Document

/-! ## Reading -/

namespace Cursor

variable {written name rest other : Text} {pair : Text × Text} {pairs : List (Text × Text)}

/-- An attribute can stand before anything that does not go on with a word. -/
theorem EntryText.before_end (shape : EntryText written pair rest)
    (ends : ∀ c ∈ other.head?, isNameChar c = false) : EntryText written pair other := by
  cases shape with
  | entry named left right valued =>
      refine .entry named left right ?_
      cases valued with
      | quoted plain => exact .quoted plain
      | word isWord _ => exact .word isWord ends

/-- A tag that closes itself would open an element without its slash. -/
theorem BodyText.opens (shape : BodyText written pairs true) :
    ∃ front, written = front ++ "/>".toList ∧ BodyText (front ++ ['>']) pairs false := by
  generalize closing : true = closes at shape
  induction shape with
  | @ended blanks isBlanks closes =>
      subst closing
      exact ⟨blanks, rfl, .ended isBlanks false⟩
  | @entry blanks written pair rest pairs closes isBlanks first later ih =>
      obtain ⟨front, rfl, opens⟩ := ih closing
      refine ⟨blanks ++ (written ++ front), by simp only [List.append_assoc], ?_⟩
      have before : EntryText written pair (front ++ ['>']) := by
        cases front with
        | nil => exact first.before_end (by simp [isNameChar])
        | cons c front => exact first.congr rfl
      have whole := BodyText.entry isBlanks before opens
      rwa [← List.append_assoc, ← List.append_assoc, List.append_assoc blanks] at whole

theorem TagText.opens (shape : TagText written name pairs true) :
    ∃ front, written = front ++ "/>".toList ∧ TagText (front ++ ['>']) name pairs false := by
  generalize closing : true = closes at shape
  cases shape with
  | @tag name body pairs closes named ends inside =>
      subst closing
      obtain ⟨front, rfl, opens⟩ := inside.opens
      refine ⟨'<' :: (name ++ front), by simp, ?_⟩
      have whole := TagText.tag named ?_ opens
      · simpa using whole
      · cases front with
        | nil => simp [isNameChar]
        | cons c front => exact ends

variable {mode : Mode} {backticks : Bool} {front behind : Text} {offset : Nat} {after : Cursor}
  {tag : Tag}

/-- Where a tag closes itself, it would open the element if it had no slash. -/
theorem next_of_selfClosed (tags : mode = .normal ∨ mode = .image)
    (h : (⟨front ++ "/>".toList ++ behind, offset⟩ : Cursor).next mode backticks =
      .ok (some (⟨.selfCloseTag tag, offset⟩, after)))
    (ends : after.rest = behind) (more : Text) :
    IsWord tag.name ∧ (⟨front ++ ['>'] ++ more, offset⟩ : Cursor).next mode backticks =
      .ok (some (⟨.openTag tag, offset⟩, ⟨more, offset + (front ++ ['>']).length⟩)) := by
  obtain ⟨written, pairs, closes, letter, reads, shape, token, place⟩ :=
    exists_tagText_of_tag tags h (.inr rfl)
  obtain ⟨rest, last⟩ := after
  obtain rfl : rest = behind := ends
  obtain rfl : written = front ++ "/>".toList := reads.eq
  cases closes with
  | false => cases token
  | true =>
      obtain ⟨front', same, shape⟩ := shape.opens
      obtain rfl : front = front' := List.append_cancel_right same
      refine ⟨shape.begins.1, ?_⟩
      have stands : tag.offset = offset := congrArg Tag.offset place
      rw [next_of_written tags backticks letter shape more offset, ← place, tagToken, stands]
      rfl

/-- In a listing, its closing tag is read. -/
theorem next_listingEnd (backticks : Bool) (rest : Text) (offset : Nat) :
    (⟨writtenClose "code".toList ++ rest, offset⟩ : Cursor).next .code backticks =
      .ok (some (⟨.closeTag "code".toList, offset⟩,
        ⟨rest, offset + (writtenClose "code".toList).length⟩)) := by
  have ends := take?_append listingEnd rest offset
  have listing : (⟨listingEnd ++ rest, offset⟩ : Cursor).nextInListing =
      (⟨.closeTag "code".toList, offset⟩, ⟨rest, offset + listingEnd.length⟩) := by
    simp only [nextInListing, ends]
  exact congrArg (fun read => Except.ok (some read)) listing

end Cursor

/-- Directly behind a tag that has opened an element, its closing tag is read. -/
theorem Document.next_close_of_handleOpen {setup : Setup} {document inside : Document} {tag : Tag}
    {mode : Mode} (opens : document.handleOpen setup tag = .ok inside)
    (current : document.mode? = some mode) (tags : mode = .normal ∨ mode = .image)
    (word : Cursor.IsWord tag.name) (rest : Text) (offset : Nat) :
    ∃ mode, inside.mode? = some mode ∧
      (⟨Cursor.writtenClose tag.name ++ rest, offset⟩ : Cursor).next mode inside.backticks =
        .ok (some (⟨.closeTag tag.name, offset⟩,
          ⟨rest, offset + (Cursor.writtenClose tag.name).length⟩)) := by
  rw [handleOpen_eq] at opens
  cases pushed : document.push setup tag with
  | error halt => simp [pushed, Except.map] at opens
  | ok after =>
      simp only [pushed, Except.map, Except.ok.injEq] at opens
      obtain rfl := opens
      have modes := (push_spec pushed).modes
      have reads {mode : Mode} (tags : mode = .normal ∨ mode = .image) :=
        Cursor.next_writtenClose (Cursor.ne_of_tags tags).1 (Cursor.ne_of_tags tags).2
          after.backticks word rest offset
      cases brought : tag.proper.role.captureMode? with
      | none => exact ⟨mode, by simpa [mode?, modes] using current, reads tags⟩
      | some own =>
          refine ⟨own, rfl, ?_⟩
          cases role : tag.proper.role <;>
            simp only [role, Role.captureMode?, Option.some.injEq, reduceCtorEq] at brought
          case image => exact reads (.inr brought.symm)
          case code =>
            rw [Tag.role_proper] at role
            rw [← brought, Tag.name_of_role_code role]
            exact Cursor.next_listingEnd after.backticks rest offset

/-! ## Runs -/

open Compilation Document

namespace Compilation

/-- What the rest of a source comes to once a token has been handled. -/
def endingFrom (setup : Setup) (cursor : Cursor) : Except Halt Document → Except Cause Document
  | .ok document => ending ((⟨cursor, document⟩ : Compilation).run setup)
  | .error halt => .error halt.fault.cause

/-- Where a token is read, a run goes on with its handling. -/
theorem ending_of_reads {setup : Setup} {here : Compilation} {token : Token} {after : Cursor}
    (read : here.Reads token after) :
    ending (here.run setup) = endingFrom setup after (here.document.handle setup token) := by
  cases handled : here.document.handle setup token with
  | ok document =>
      have step : here.advance setup = .handled token ⟨after, document⟩ :=
        advance_eq_handled_iff.mpr ⟨read, handled⟩
      rw [run_of_handled step]
      rfl
  | error halt =>
      rw [run_of_stopped (advance_of_refused read handled)]
      rfl

/-- Tokens that are handled alike are followed alike. -/
theorem endingFrom_eq {setup : Setup} {cursor cursor' : Cursor} {one two : Except Halt Document}
    (rest : cursor.rest = cursor'.rest) (same : outcome one = outcome two) :
    endingFrom setup cursor one = endingFrom setup cursor' two := by
  cases one with
  | error halt =>
      cases two with
      | error halt' => exact congrArg Except.error (Except.error.inj same)
      | ok document' => cases same
  | ok document =>
      cases two with
      | error halt' => cases same
      | ok document' => exact Alike.ending_run ⟨rest, Except.ok.inj same⟩

/-- Behind a tag that closes itself, a source is compiled as behind the tag and its closing tag. -/
theorem ending_of_selfClosed {setup : Setup} {document : Document} {mode : Mode} {tag : Tag}
    {front behind : Text} {offset : Nat} {after : Cursor} (current : document.mode? = some mode)
    (tags : mode = .normal ∨ mode = .image)
    (read : (⟨front ++ "/>".toList ++ behind, offset⟩ : Cursor).next mode document.backticks =
      .ok (some (⟨.selfCloseTag tag, offset⟩, after)))
    (ends : after.rest = behind) :
    ending ((⟨⟨front ++ "/>".toList ++ behind, offset⟩, document⟩ : Compilation).run setup) =
      ending ((⟨⟨front ++ ['>'] ++ (Cursor.writtenClose tag.name ++ behind), offset⟩,
        document⟩ : Compilation).run setup) := by
  obtain ⟨word, opening⟩ := Cursor.next_of_selfClosed tags read ends
    (Cursor.writtenClose tag.name ++ behind)
  have alone := @ending_of_reads setup ⟨_, document⟩ _ _ ⟨mode, current, read⟩
  have paired := @ending_of_reads setup ⟨_, document⟩ _ _ ⟨mode, current, opening⟩
  simp only [handle] at alone paired
  have same := outcome_handleSelfClose setup document tag offset
    (offset + (front ++ ['>']).length : Nat)
  rw [alone, paired]
  cases opens : document.handleOpen setup tag with
  | error halt =>
      rw [opens] at same
      exact @endingFrom_eq setup after after _ (.error halt) rfl same
  | ok inside =>
      obtain ⟨own, current', closing⟩ := next_close_of_handleOpen opens current tags word behind
        (offset + (front ++ ['>']).length)
      have closed := @ending_of_reads setup ⟨_, inside⟩ _ _ ⟨own, current', closing⟩
      rw [opens] at same
      exact (endingFrom_eq ends same).trans closed.symm

/-- Where a token is read from a stretch of the source, the run stands before it, and what follows
is left. -/
theorem Reaches.cursors_of_reads {setup : Setup} {settings : Settings}
    {before written behind : Text} {steps : List Step} {here : Compilation} {token : Token} {after : Cursor}
    (run : (opening settings (before ++ (written ++ behind))).Reaches setup steps here)
    (read : here.Reads token after) (starts : token.offset = before.length)
    (ends : after.offset = (before ++ written).length) :
    here.cursor = ⟨written ++ behind, before.length⟩ ∧ after.rest = behind := by
  obtain ⟨mode, -, next⟩ := read
  have place := (Cursor.next_readAt next).1
  have cursor := run.cursor_eq (Int.ofNat_inj.mp (place.symm.trans starts))
  rw [cursor] at next
  obtain ⟨text, -, reads⟩ := Cursor.reads_next next
  have length : text.length = written.length := by
    have whole := reads.offset
    rw [ends, List.length_append] at whole
    simp only at whole
    omega
  exact ⟨cursor, (List.append_inj reads.rest length.symm).2.symm⟩

end Compilation

/-! ## Pages -/

/-- Where a tag that closes itself is read, there is the same page, or a fault of the same cause,
with the tag and its closing tag in its place. -/
theorem self_closing_tags_are_opened_and_closed {setup : Setup}
    {before name inner behind : Text} {steps : List Step} {here : Compilation} {tag : Tag}
    {after : Cursor}
    (run : (opening setup.settings
      (before ++ "<".toList ++ name ++ inner ++ "/>".toList ++ behind)).Reaches setup steps here)
    (read : here.Reads ⟨.selfCloseTag tag, before.length⟩ after)
    (ends : after.offset = (before ++ "<".toList ++ name ++ inner ++ "/>".toList).length)
    (named : tag.name = name) :
    (compileWith setup (before ++ "<".toList ++ name ++ inner ++ "/>".toList ++
        behind)).mapError Fault.cause =
      (compileWith setup (before ++ "<".toList ++ name ++ inner ++ ">".toList ++
        "</".toList ++ name ++ ">".toList ++ behind)).mapError Fault.cause := by
  subst named
  obtain ⟨mode, current, code, inline, next⟩ := read.exists_mode (by simp [Mode.Brings])
    (by simp [Mode.Brings])
  have tags : mode = .normal ∨ mode = .image := by cases mode <;> simp_all
  obtain ⟨c, first, letter⟩ := (Cursor.next_readAt next).2.letter
  obtain ⟨letters, name⟩ := List.head?_eq_some_iff.mp first
  have noSlash : c ≠ '/' := by
    rintro rfl
    simp [Cursor.isTagStart] at letter
  generalize shape : "<".toList ++ tag.name ++ inner = front
  have alone : before ++ "<".toList ++ tag.name ++ inner ++ "/>".toList = before ++
      (front ++ "/>".toList) := by
    simp only [← shape, List.append_assoc]
  have paired : before ++ "<".toList ++ tag.name ++ inner ++ ">".toList ++ "</".toList ++
      tag.name ++ ">".toList ++ behind =
      before ++ (front ++ ['>'] ++ (Cursor.writtenClose tag.name ++ behind)) := by
    simp only [← shape, Cursor.writtenClose, List.append_assoc]
    rfl
  rw [alone, List.append_assoc] at run
  rw [alone] at ends
  rw [alone, paired, List.append_assoc]
  -- The tag is read where it is written.
  obtain ⟨cursor, left⟩ := run.cursors_of_reads read rfl ends
  rw [cursor] at next
  -- In front of it, the two sources are read alike.
  have begins (more : Text) : front ++ more = '<' :: c :: (letters ++ (inner ++ more)) := by
    rw [← shape, name]
    simp
  have alike (text : Text) : Text.EndsAlike (text ++ (front ++ "/>".toList ++ behind))
      (text ++ (front ++ ['>'] ++ (Cursor.writtenClose tag.name ++ behind))) := by
    rw [List.append_assoc front, List.append_assoc front, begins, begins]
    exact .before_tag noSlash text _ _
  apply compileWith_alike
  rw [run.run_eq, run.ending_before alike (by rw [cursor])]
  obtain ⟨place, document⟩ := here
  obtain rfl : place = _ := cursor
  exact ending_of_selfClosed current tags next left

/-- A listing that closes itself inside an image, where the pair brings and ends a mode. -/
theorem listing_in_image_closes_itself :
    (compileWith {} "<image><code/></image>".toList).mapError Fault.cause =
      (compileWith {} "<image><code></code></image>".toList).mapError Fault.cause := by
  have image : Cursor.IsTagName "image".toList := by decide
  have code : Cursor.IsTagName "code".toList := by decide
  have first := Cursor.next_writtenTag (show Mode.normal ≠ .code by decide) (by decide) false image
    (List.forall_mem_nil _) false "<code/></image>".toList 0
  have second := Cursor.next_writtenTag (show Mode.image ≠ .code by decide) (by decide) false code
    (List.forall_mem_nil _) true "</image>".toList 7
  have run : ∃ steps here, (opening {} ("<image>".toList ++ "<".toList ++ "code".toList ++ [] ++
      "/>".toList ++ "</image>".toList)).Reaches {} steps here ∧
      here.Reads ⟨.selfCloseTag ⟨"code".toList, .ofList [], 7⟩, 7⟩ ⟨"</image>".toList, 14⟩ :=
    ⟨_, _, .step .refl (advance_of_next rfl first rfl), .image, rfl, second⟩
  obtain ⟨steps, here, run, read⟩ := run
  exact self_closing_tags_are_opened_and_closed run read rfl rfl

end PageMarkup
