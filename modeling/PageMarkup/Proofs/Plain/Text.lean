import PageMarkup.Proofs.Reading.Written
import PageMarkup.Proofs.Run

/-! # Plain text

Text outside listings, images and inline code goes to the page as it is, but for the angle brackets
in it. -/

namespace PageMarkup

namespace Plain

/-- An angle bracket is not text before such a character. -/
def opensMarkup (c : Char) : Bool := Cursor.isTagStart c || c = '/' || c = '!'

/-- No angle bracket of the text opens markup where `rest` follows the text. -/
def isLoose : Text → Text → Bool
  | [], _ => true
  | c :: text, rest =>
    (c ≠ '<' || !(text ++ rest).head?.any opensMarkup) && isLoose text rest

/-- Text on the page. -/
def shownText (text : Text) : Text := text.flatMap fun c => if c = '<' then "&lt;".toList else [c]

end Plain

/-! ## Documents that take text -/

namespace Document

variable {document : Document}

/-- The document reads tags and text, and gives both to nothing but the page. -/
structure Clean (document : Document) : Prop where
  mode : document.mode? = some .normal
  backticks : document.backticks = false
  captures : document.captures = []

theorem Clean.emit (clean : document.Clean) (fragment : Text) : (document.emit fragment).Clean :=
  ⟨clean.mode, clean.backticks, clean.captures⟩

theorem Clean.enter (clean : document.Clean) (tag : Tag) : (document.enter tag none).Clean :=
  ⟨clean.mode, clean.backticks, clean.captures⟩

theorem Clean.emitText_eq (clean : document.Clean) (text : Text) :
    document.emitText text = document.emit text := by
  rw [emitText, clean.captures, List.map_nil, ← clean.captures]
  rfl

end Document

/-! ## Runs over text -/

namespace Compilation

open Plain

variable {setup : Setup} {document : Document}

theorem run_of_next {cursor cursor' : Cursor} {document' : Document} {token : Token}
    (clean : document.Clean)
    (read : cursor.next .normal false = .ok (some (token, cursor')))
    (handled : document.handle setup token = .ok document') :
    (⟨cursor, document⟩ : Compilation).run setup = (⟨cursor', document'⟩ : Compilation).run setup :=
  run_of_handled (advance_of_next clean.mode (clean.backticks ▸ read) handled)

theorem run_of_text {cursor cursor' : Cursor} {text : Text} {offset : Int}
    (clean : document.Clean)
    (read : cursor.next .normal false = .ok (some (⟨.text text, offset⟩, cursor'))) :
    (⟨cursor, document⟩ : Compilation).run setup =
      (⟨cursor', document.emit text⟩ : Compilation).run setup := by
  apply run_of_next clean read
  simp only [Document.handle, Document.handleText, clean.mode, clean.emitText_eq]

/-- Whatever run of text comes next goes to the page, be it empty. -/
theorem run_textRun (clean : document.Clean) (text : Text) (offset : Nat) :
    (⟨⟨text, offset⟩, document⟩ : Compilation).run setup =
      (⟨⟨(Text.run Cursor.endsText false text).2,
          offset + (Text.run Cursor.endsText false text).1.length⟩,
        document.emit (Text.run Cursor.endsText false text).1⟩ : Compilation).run setup := by
  cases text with
  | nil => rw [Text.run, Document.emit_nil]; rfl
  | cons c text =>
      cases stops : Cursor.endsText c with
      | true => rw [Text.run_of_stops stops, Document.emit_nil]; rfl
      | false =>
          simp only [Cursor.endsText, Bool.or_eq_false_iff, decide_eq_false_iff_not] at stops
          obtain ⟨⟨newline, pipe⟩, bracket⟩ := stops
          have read : (⟨c :: text, offset⟩ : Cursor).next .normal false =
              .ok (some (⟨.text (Text.run Cursor.endsText false (c :: text)).1, offset⟩,
                ⟨(Text.run Cursor.endsText false (c :: text)).2,
                  offset + (Text.run Cursor.endsText false (c :: text)).1.length⟩)) := by
            simp [Cursor.next, newline, pipe, bracket, Cursor.nextText, Cursor.runValue]
          exact run_of_text clean read

/-- An angle bracket that opens no markup is text. -/
theorem next_looseBracket {rest : Text} (loose : ∀ d ∈ rest.head?, opensMarkup d = false)
    (offset : Nat) :
    (⟨'<' :: rest, offset⟩ : Cursor).next .normal false =
      .ok (some (⟨.text "&lt;".toList, offset⟩, ⟨rest, offset + 1⟩)) := by
  rw [Cursor.next_at_bracket (by decide) (by decide)]
  cases rest with
  | nil => rfl
  | cons d rest =>
      have other := loose d rfl
      simp only [opensMarkup, Bool.or_eq_false_iff, decide_eq_false_iff_not] at other
      obtain ⟨⟨letter, slash⟩, mark⟩ := other
      simp [Cursor.nextAtBracket, letter, slash, mark, Cursor.single, Except.map]

/-- One character of text, unless it is an angle bracket that opens markup. -/
theorem run_char (clean : document.Clean) {c : Char} {rest : Text}
    (loose : c = '<' → ∀ d ∈ rest.head?, opensMarkup d = false) (offset : Nat) :
    (⟨⟨c :: rest, offset⟩, document⟩ : Compilation).run setup =
      (⟨⟨rest, offset + 1⟩, document.emit (shownText [c])⟩ : Compilation).run setup := by
  by_cases bracket : c = '<'
  · subst bracket
    exact run_of_text clean (next_looseBracket (loose rfl) offset)
  have shown : shownText [c] = [c] := by simp [shownText, bracket]
  rw [shown]
  by_cases newline : c = '\n'
  · subst newline
    exact run_of_next clean rfl rfl
  by_cases pipe : c = '|'
  · subst pipe
    exact run_of_next clean rfl rfl
  -- The run of text that starts here goes on as the run that starts behind the character.
  have plain : Text.run Cursor.endsText false (c :: rest) =
      (c :: (Text.run Cursor.endsText false rest).1, (Text.run Cursor.endsText false rest).2) :=
    Text.run_of_plain (by simp [Cursor.endsText, newline, pipe, bracket]) (by simp)
  rw [run_textRun clean, plain, run_textRun (clean.emit [c]) rest, Document.emit_emit]
  simp only [List.length_cons, List.cons_append, List.nil_append, Nat.add_assoc, Nat.add_comm]

theorem run_text (clean : document.Clean) {text rest : Text} (loose : isLoose text rest = true)
    (offset : Nat) :
    (⟨⟨text ++ rest, offset⟩, document⟩ : Compilation).run setup =
      (⟨⟨rest, offset + text.length⟩, document.emit (shownText text)⟩ : Compilation).run setup := by
  induction text generalizing document offset with
  | nil => rw [shownText, List.flatMap_nil, Document.emit_nil]; rfl
  | cons c text ih =>
      rw [isLoose, Bool.and_eq_true] at loose
      have first : c = '<' → ∀ d ∈ (text ++ rest).head?, opensMarkup d = false := by
        rintro rfl d head
        have silent := loose.1
        rw [Option.mem_def.mp head] at silent
        simpa using silent
      have split : shownText (c :: text) = shownText [c] ++ shownText text := by
        simp [shownText]
      rw [List.cons_append, run_char clean first, ih (clean.emit _) loose.2, Document.emit_emit,
        ← split, List.length_cons, Nat.add_assoc, Nat.add_comm 1]

end Compilation

end PageMarkup
