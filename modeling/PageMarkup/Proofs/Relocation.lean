import PageMarkup.Proofs.Handling.Retagged
import PageMarkup.Proofs.Run
import PageMarkup.Proofs.Reading.Written

/-! # Sources behind other text

Where a source stands and what has been told before it make no difference to how it is compiled. All
offsets grow by the length of the text in front, and the notices follow those given before. -/

namespace PageMarkup

/-! ## Moving what has a place -/

def Tag.behind (distance : Int) (tag : Tag) : Tag := { tag with offset := tag.offset + distance }

def OpenElement.behind (distance : Int) (element : OpenElement) : OpenElement :=
  { element with tag := element.tag.behind distance }

def Token.Form.behind (distance : Int) : Token.Form → Token.Form
  | .openTag tag => .openTag (tag.behind distance)
  | .selfCloseTag tag => .selfCloseTag (tag.behind distance)
  | form => form

def Token.behind (distance : Int) (token : Token) : Token :=
  ⟨token.form.behind distance, token.offset + distance⟩

def Fault.behind (distance : Int) (fault : Fault) : Fault :=
  ⟨fault.cause, fault.offset + distance⟩

def Cursor.behind (distance : Nat) (cursor : Cursor) : Cursor :=
  ⟨cursor.rest, cursor.offset + distance⟩

def Stop.behind (distance : Nat) (stop : Stop) : Stop :=
  ⟨stop.fault.behind distance, stop.cursor.behind distance⟩

/-- The document with the places of its open tags moved, and notices before its own. -/
def Document.behind (distance : Int) (told : List Notice) (document : Document) : Document :=
  { document with
    elements := document.elements.map (OpenElement.behind distance)
    notices := told ++ document.notices }

def Halt.behind (distance : Int) (told : List Notice) (halt : Halt) : Halt :=
  ⟨halt.fault.behind distance, halt.document.behind distance told⟩

def Compilation.behind (distance : Nat) (told : List Notice) (compilation : Compilation) :
    Compilation :=
  ⟨compilation.cursor.behind distance, compilation.document.behind distance told⟩

def Advance.behind (distance : Nat) (told : List Notice) : Advance → Advance
  | .finished => .finished
  | .handled token after => .handled (token.behind distance) (after.behind distance told)
  | .stopped token? fault after =>
    .stopped (token?.map (Token.behind distance)) (fault.behind distance)
      (after.behind distance told)

/-! ### Moving from anywhere to anywhere -/

def Tag.moved (place : Int → Int) (tag : Tag) : Tag := { tag with offset := place tag.offset }

def OpenElement.moved (place : Int → Int) (element : OpenElement) : OpenElement :=
  { element with tag := element.tag.moved place }

def Token.Form.moved (place : Int → Int) : Token.Form → Token.Form
  | .openTag tag => .openTag (tag.moved place)
  | .selfCloseTag tag => .selfCloseTag (tag.moved place)
  | form => form

def Token.moved (place : Int → Int) (token : Token) : Token :=
  ⟨token.form.moved place, place token.offset⟩

def Fault.moved (place : Int → Int) (fault : Fault) : Fault := ⟨fault.cause, place fault.offset⟩

/-- The document with other places for its open tags, and notices before its own. -/
def Document.moved (place : Int → Int) (told : List Notice) (document : Document) : Document :=
  { document with
    elements := document.elements.map (OpenElement.moved place)
    notices := told ++ document.notices }

def Halt.moved (place : Int → Int) (told : List Notice) (halt : Halt) : Halt :=
  ⟨halt.fault.moved place, halt.document.moved place told⟩

/-! ## Reading -/

namespace Cursor

/-- What is read from a place further on. -/
def readBehind {α : Type} (distance : Nat) (move : α → α) :
    Except Stop (α × Cursor) → Except Stop (α × Cursor)
  | .ok (given, after) => .ok (move given, after.behind distance)
  | .error stop => .error (stop.behind distance)

variable (distance : Nat) (cursor : Cursor)

theorem take?_behind (literal : Text) :
    (cursor.behind distance).take? literal = (cursor.take? literal).map (behind distance) := by
  simp only [take?, behind, Option.map_map]
  apply congrArg (Option.map · _)
  funext rest
  simp [behind, Nat.add_right_comm]

theorem stop_behind (cause : Cause) :
    (cursor.behind distance).stop cause = (cursor.stop cause).behind distance := by
  simp only [stop, behind, Stop.behind, Fault.behind, Int.natCast_add]

theorem expect_behind (literal : Text) :
    (cursor.behind distance).expect literal =
      match cursor.expect literal with
      | .ok after => .ok (after.behind distance)
      | .error stop => .error (stop.behind distance) := by
  rw [expect, take?_behind, stop_behind, expect]
  cases cursor.take? literal <;> rfl

theorem span_behind (p : Char → Bool) :
    (cursor.behind distance).span p =
      ((cursor.span p).1, (cursor.span p).2.behind distance) := by
  simp only [span, behind, Nat.add_right_comm]

theorem skipBlanks_behind :
    (cursor.behind distance).skipBlanks = cursor.skipBlanks.behind distance :=
  congrArg Prod.snd (span_behind distance cursor isTagBlank)

theorem expectWord_behind (cause : Cause) :
    (cursor.behind distance).expectWord cause =
      readBehind distance id (cursor.expectWord cause) := by
  rw [expectWord, word, span_behind, stop_behind, expectWord, word]
  rcases cursor.span isNameChar with ⟨_ | _, after⟩ <;> rfl

theorem attributeValue_behind :
    (cursor.behind distance).attributeValue = readBehind distance id cursor.attributeValue := by
  rw [attributeValue, take?_behind, attributeValue]
  cases cursor.take? ['"'] with
  | none => exact expectWord_behind distance cursor _
  | some opened =>
      simp only [Option.map_some, span_behind, take?_behind]
      cases (opened.span (· ≠ '"')).2.take? ['"'] with
      | none => simp [readBehind, Stop.behind, Fault.behind, behind]
      | some after => rfl

theorem attributeEntry_behind :
    (cursor.behind distance).attributeEntry = readBehind distance id cursor.attributeEntry := by
  simp only [attributeEntry, bind, Except.bind, expectWord_behind]
  cases cursor.expectWord .attributeNameExpected with
  | error stop => rfl
  | ok found =>
      simp only [readBehind, skipBlanks_behind, expect_behind]
      cases found.2.skipBlanks.expect ['='] with
      | error stop => rfl
      | ok equals =>
          simp only [skipBlanks_behind, attributeValue_behind]
          cases equals.skipBlanks.attributeValue <;> rfl

theorem tagBody_behind (attributes : Attributes) :
    tagBody attributes (cursor.behind distance) =
      readBehind distance id (tagBody attributes cursor) := by
  have first (literal : Text) : (cursor.behind distance).skipBlanks.take? literal =
      (cursor.skipBlanks.take? literal).map (behind distance) := by
    rw [skipBlanks_behind, take?_behind]
  fun_induction tagBody attributes cursor with
  | case1 attributes cursor here slash found last closes =>
      have opened := first ['/']
      have closed := expect_behind distance slash ['>']
      rw [found] at opened
      rw [closes] at closed
      rw [tagBody_of_slash opened closed]
      rfl
  | case2 attributes cursor here slash found stop missing =>
      have opened := first ['/']
      have unclosed := expect_behind distance slash ['>']
      rw [found] at opened
      rw [missing] at unclosed
      rw [tagBody]
      simp only [opened, Option.map_some, unclosed]
      rfl
  | case3 attributes cursor here noSlash last closes =>
      have unopened := first ['/']
      have closed := first ['>']
      rw [noSlash] at unopened
      rw [closes] at closed
      rw [tagBody_of_end unopened closed]
      rfl
  | case4 attributes cursor here noSlash noEnd stop missing =>
      have entry := attributeEntry_behind distance here
      rw [missing, ← skipBlanks_behind] at entry
      rw [tagBody]
      simp only [first, here, noSlash, noEnd, Option.map_none]
      split
      · next failed =>
          rw [entry] at failed
          exact congrArg Except.error (Except.error.inj failed).symm
      · next read =>
          rw [entry] at read
          cases read
  | case5 attributes cursor here noSlash noEnd name value next read ih =>
      have unopened := first ['/']
      have unclosed := first ['>']
      have entry := attributeEntry_behind distance here
      rw [noSlash] at unopened
      rw [noEnd] at unclosed
      rw [read, ← skipBlanks_behind] at entry
      rw [tagBody_of_entry unopened unclosed entry]
      exact ih fun literal => by rw [skipBlanks_behind, take?_behind]

theorem openTag_behind :
    (cursor.behind distance).openTag =
      readBehind distance (Token.Form.behind distance) cursor.openTag := by
  simp only [openTag, bind, Except.bind, expect_behind]
  cases cursor.expect ['<'] with
  | error stop => rfl
  | ok opened =>
      simp only [expectWord_behind]
      cases opened.expectWord .tagNameExpected with
      | error stop => rfl
      | ok found =>
          simp only [readBehind, tagBody_behind]
          cases found.2.tagBody .empty with
          | error stop => rfl
          | ok body =>
              obtain ⟨⟨attributes, closes⟩, after⟩ := body
              cases closes <;> rfl

theorem closeTag_behind :
    (cursor.behind distance).closeTag =
      readBehind distance (Token.Form.behind distance) cursor.closeTag := by
  simp only [closeTag, bind, Except.bind, expect_behind]
  cases cursor.expect ['<'] with
  | error stop => rfl
  | ok opened =>
      simp only [expect_behind]
      cases opened.expect ['/'] with
      | error stop => rfl
      | ok slashed =>
          simp only [expectWord_behind]
          cases slashed.expectWord .tagNameExpected with
          | error stop => rfl
          | ok found =>
              simp only [readBehind, skipBlanks_behind, expect_behind]
              cases found.2.skipBlanks.expect ['>'] <;> rfl

/-! ## Tokens -/

/-- A token read from a place further on, and the place after it. -/
def tokenBehind (distance : Nat) (read : Token × Cursor) : Token × Cursor :=
  (read.1.behind distance, read.2.behind distance)

theorem single_behind (form : Token.Form) (plain : form.behind distance = form) :
    (cursor.behind distance).single form = tokenBehind distance (cursor.single form) := by
  simp only [single, behind, tokenBehind, Token.behind, plain, Int.natCast_add, Nat.add_right_comm]

theorem nextInListing_behind :
    (cursor.behind distance).nextInListing = tokenBehind distance cursor.nextInListing := by
  rw [nextInListing, take?_behind, nextInListing]
  cases cursor.take? listingEnd with
  | some after => rfl
  | none =>
      simp only [Option.map_none, behind, tokenBehind, Token.behind, Token.Form.behind,
        Int.natCast_add, Nat.add_right_comm]

theorem nextText_behind (backticks : Bool) :
    nextText backticks (cursor.behind distance) =
      tokenBehind distance (nextText backticks cursor) := by
  simp only [nextText, behind, tokenBehind, Token.behind, Token.Form.behind, Int.natCast_add,
    Nat.add_right_comm]

theorem nextInInlineCode_behind (backticks : Bool) :
    nextInInlineCode backticks (cursor.behind distance) =
      readBehind distance (Token.behind distance) (nextInInlineCode backticks cursor) := by
  simp only [nextInInlineCode, behind]
  by_cases line : (Text.run (· = '\n') backticks cursor.rest).2.head? = some '\n'
  · simp only [line, if_true, readBehind, Stop.behind, Fault.behind, behind, Int.natCast_add,
      Int.add_right_comm]
  · simp only [line, if_false, readBehind, Token.behind, Token.Form.behind, behind,
      Int.natCast_add, Nat.add_right_comm]

theorem nextAtBracket_behind :
    (cursor.behind distance).nextAtBracket =
      readBehind distance (Token.behind distance) cursor.nextAtBracket := by
  have loose := single_behind distance cursor (.text "&lt;".toList) rfl
  have place : ((cursor.behind distance).offset : Int) = cursor.offset + distance := rfl
  unfold nextAtBracket
  simp only [closeTag_behind, openTag_behind, stop_behind, loose, place]
  have same : (cursor.behind distance).rest = cursor.rest := rfl
  rw [same]
  split
  · rfl
  split
  · rfl
  split
  · cases cursor.closeTag <;> rfl
  split
  · cases cursor.openTag <;> rfl
  · rfl

theorem next_behind (mode : Mode) (backticks : Bool) :
    (cursor.behind distance).next mode backticks =
      match cursor.next mode backticks with
      | .error stop => .error (stop.behind distance)
      | .ok read => .ok (read.map (tokenBehind distance)) := by
  unfold next
  have same : (cursor.behind distance).rest = cursor.rest := rfl
  rw [same]
  split
  · rfl
  split
  · rw [nextInListing_behind]
    rfl
  split
  · rw [single_behind distance cursor .backtick rfl]
    rfl
  split
  · rw [nextInInlineCode_behind]
    cases nextInInlineCode backticks cursor <;> rfl
  split
  · rw [single_behind distance cursor .pipe rfl]
    rfl
  split
  · rw [single_behind distance cursor .newline rfl]
    rfl
  split
  · rw [nextAtBracket_behind]
    cases cursor.nextAtBracket <;> rfl
  · rw [nextText_behind]
    rfl

end Cursor

/-! ## Handling -/

theorem Tag.proper_moved (place : Int → Int) (tag : Tag) :
    (tag.moved place).proper = tag.proper.moved place := by
  unfold proper moved
  split <;> rfl

theorem Tag.unseen_moved (place : Int → Int) : Tag.Unseen place (Tag.moved place) where
  offset _ := rfl
  name _ := rfl
  proper := Tag.proper_moved place
  value _ := rfl
  rendered _ _ := rfl
  imageRendered _ := rfl

/-- What comes of a change to a document with other places. -/
def Halt.outcomeMoved {α : Type} (place : Int → Int) (told : List Notice) (move : α → α) :
    Except Halt α → Except Halt α
  | .ok given => .ok (move given)
  | .error halt => .error (halt.moved place told)

/-- What comes of a change to a document that stands further on. -/
def Halt.outcomeBehind {α : Type} (distance : Int) (told : List Notice) (move : α → α) :
    Except Halt α → Except Halt α
  | .ok given => .ok (move given)
  | .error halt => .error (halt.behind distance told)

namespace Document

variable (place : Int → Int) (told : List Notice) (document : Document)

theorem handle_moved (setup : Setup) (token : Token) :
    (document.moved place told).handle setup (token.moved place) =
      Halt.outcomeMoved place told (moved place told) (document.handle setup token) :=
  handle_retagged (Tag.unseen_moved place) told document setup token

/-! ### Further on -/

variable (distance : Int)

/-- What is moved back and forth stands where it stood. -/
theorem behind_neg : (document.behind (-distance) []).behind distance [] = document := by
  have still : OpenElement.behind distance ∘ OpenElement.behind (-distance) = id := by
    funext element
    simp only [Function.comp, OpenElement.behind, Tag.behind, Int.neg_add_cancel_right, id]
  simp only [behind, List.map_map, still, List.map_id, List.nil_append]

theorem handle_behind (setup : Setup) (token : Token) :
    (document.behind distance told).handle setup (token.behind distance) =
      Halt.outcomeBehind distance told (behind distance told) (document.handle setup token) :=
  handle_moved (· + distance) told document setup token

end Document

/-! ## Compiling -/

namespace Compilation

theorem advance_behind (distance : Nat) (told : List Notice) (setup : Setup)
    (compilation : Compilation) :
    (compilation.behind distance told).advance setup =
      (compilation.advance setup).behind distance told := by
  obtain ⟨cursor, document⟩ := compilation
  have mode : (document.behind distance told).mode? = document.mode? := rfl
  have backticks : (document.behind distance told).backticks = document.backticks := rfl
  simp only [advance, behind, mode, backticks]
  cases document.mode? with
  | none => rfl
  | some mode =>
      simp only [Cursor.next_behind]
      rcases cursor.next mode document.backticks with stop | _ | ⟨token, after⟩
      · rfl
      · rfl
      simp only [Option.map_some, Cursor.tokenBehind, Document.handle_behind]
      cases document.handle setup token <;> rfl

/-- A source further on is compiled as where it begins. -/
theorem run_behind (distance : Nat) (told : List Notice) (setup : Setup)
    (compilation : Compilation) :
    (compilation.behind distance told).run setup =
      ((compilation.run setup).1.map (Fault.behind distance),
        (compilation.run setup).2.behind distance told) := by
  have advances := advance_behind distance told setup
  fun_induction run setup compilation with
  | case1 last finished =>
      rw [run_of_finished (by rw [advances, finished]; rfl)]
      rfl
  | case2 before token after handled ih =>
      have further : (before.behind distance told).advance setup =
          .handled (token.behind distance) (after.behind distance told) := by
        rw [advances, handled]
        rfl
      rw [run_of_handled further]
      exact ih
  | case3 last token? fault after stopped =>
      have further : (last.behind distance told).advance setup =
          .stopped (token?.map (Token.behind distance)) (fault.behind distance)
            (after.behind distance told) := by
        rw [advances, stopped]
        rfl
      rw [run_of_stopped further]
      rfl

theorem opening_eq_behind (settings : Settings) (source : Text) :
    opening settings source = (start settings source).behind 0 [.compiling source.length] := rfl

theorem leftOpen?_behind (settings : Settings) (distance : Int) (told : List Notice)
    (document : Document) :
    leftOpen? settings (document.behind distance told) =
      (leftOpen? settings document).map (Fault.behind distance) := by
  have elements : (document.behind distance told).elements =
      document.elements.map (OpenElement.behind distance) := rfl
  unfold leftOpen?
  rw [elements]
  cases document.elements with
  | nil => rfl
  | cons element outer =>
      simp only [List.map_cons]
      split <;> rfl

/-- What a run comes to: a fault, or the page if nothing is left open that has to be closed. -/
def verdict (settings : Settings) : Option Fault × Compilation → Except Fault Text
  | (some fault, _) => .error fault
  | (none, last) =>
    match leftOpen? settings last.document with
    | some fault => .error fault
    | none => .ok last.document.render

theorem verdict_behind (settings : Settings) (distance : Nat) (told : List Notice)
    (ran : Option Fault × Compilation) :
    verdict settings (ran.1.map (Fault.behind distance), ran.2.behind distance told) =
      (verdict settings ran).mapError (Fault.behind distance) := by
  obtain ⟨_ | fault, last⟩ := ran
  · have left := leftOpen?_behind settings distance told last.document
    simp only [verdict, behind, Option.map_none, left]
    cases leftOpen? settings last.document <;> rfl
  · rfl

end Compilation

open Compilation in
/-- What comes of a source is told by the run over it alone, before which nothing has been told. -/
theorem compileWith_eq_start (setup : Setup) (source : Text) :
    compileWith setup source =
      verdict setup.settings ((start setup.settings source).run setup) := by
  have still (result : Except Fault Text) : result.mapError (Fault.behind 0) = result := by
    cases result with
    | error fault =>
        have same : fault.behind 0 = fault := by rw [Fault.behind, Int.add_zero]
        exact congrArg Except.error same
    | ok page => rfl
  have whole : compileWith setup source =
      verdict setup.settings ((opening setup.settings source).run setup) :=
    compileWith_eq setup source
  rw [whole, opening_eq_behind, run_behind, verdict_behind]
  exact still _

open Compilation in
theorem compileWith_eq_ok_iff_run {setup : Setup} {source page : Text} :
    compileWith setup source = .ok page ↔
      ∃ last, (start setup.settings source).run setup = (none, last) ∧
        leftOpen? setup.settings last.document = none ∧ last.document.render = page := by
  rw [compileWith_eq_start]
  rcases (start setup.settings source).run setup with ⟨_ | fault, last⟩
  · cases closed : leftOpen? setup.settings last.document <;> simp [verdict, closed]
  · simp [verdict]

open Compilation in
theorem compileWith_of_run {setup : Setup} {source page : Text} {last : Compilation}
    (ran : (start setup.settings source).run setup = (none, last))
    (closed : last.document.elements = []) (rendered : last.document.render = page) :
    compileWith setup source = .ok page :=
  compileWith_eq_ok_iff_run.mpr ⟨last, ran, by simp only [leftOpen?, closed], rendered⟩

end PageMarkup
