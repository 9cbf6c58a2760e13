import PageMarkup.Proofs.Reading.Extended
import PageMarkup.Proofs.Relocation

/-! # Compilations alike

Where tags stand and what has been told make no difference to a page. Compilations that differ in
nothing else come to the same page or to faults of one cause. What stands before a tag is compiled
alike whatever follows the first letter of the tag. -/

namespace PageMarkup

/-! ## Documents without places -/

namespace Document

/-- The document without the places of its open tags and without notices. -/
def unplaced (document : Document) : Document :=
  { document with elements := document.elements.map (OpenElement.moved fun _ => 0), notices := [] }

theorem unplaced_moved (place : Int → Int) (told : List Notice) (document : Document) :
    (document.moved place told).unplaced = document.unplaced := by
  simp only [unplaced, moved, List.map_map]
  rfl

/-- The document is one without notices, and its notices. -/
theorem eq_moved_id (document : Document) :
    document = ({ document with notices := [] } : Document).moved id document.notices := by
  have still : OpenElement.moved id = id := rfl
  simp only [moved, still, List.map_id, List.append_nil]

theorem unplaced_eq_moved (document : Document) :
    document.unplaced =
      ({ document with notices := [] } : Document).moved (fun _ => 0) [] := rfl

/-- What comes of a change to a document, without places: the document, or the cause of a fault. -/
def outcome : Except Halt Document → Except Cause Document
  | .ok document => .ok document.unplaced
  | .error halt => .error halt.fault.cause

theorem outcome_moved (place : Int → Int) (told : List Notice) (result : Except Halt Document) :
    outcome (Halt.outcomeMoved place told (moved place told) result) = outcome result := by
  cases result with
  | error halt => rfl
  | ok document => exact congrArg Except.ok (unplaced_moved place told document)

/-- How a token is handled does not depend on places. -/
theorem outcome_handle (setup : Setup) (document : Document) (token : Token) :
    outcome (document.handle setup token) =
      outcome (document.unplaced.handle setup (token.moved fun _ => 0)) := by
  have told := handle_moved id document.notices { document with notices := [] } setup token
  have placed := handle_moved (fun _ => 0) [] { document with notices := [] } setup token
  have still : token.moved id = token := by
    obtain ⟨form, offset⟩ := token
    cases form <;> rfl
  rw [← eq_moved_id, still] at told
  rw [← unplaced_eq_moved] at placed
  rw [told, placed, outcome_moved, outcome_moved]

end Document

/-! ## Runs -/

namespace Compilation

variable {setup : Setup} {one two : Compilation}

/-- The same is still to be read, and the documents differ in nothing but places and notices. -/
structure Alike (one two : Compilation) : Prop where
  rest : one.cursor.rest = two.cursor.rest
  document : one.document.unplaced = two.document.unplaced

/-- What a run comes to, without places. -/
def ending : Option Fault × Compilation → Except Cause Document
  | (none, last) => .ok last.document.unplaced
  | (some fault, _) => .error fault.cause

/-- What one step of two compilations comes to if they are alike. -/
inductive AdvanceAlike : Advance → Advance → Prop
  | finished : AdvanceAlike .finished .finished
  | handled {token token' after after'} (alike : Alike after after') :
      AdvanceAlike (.handled token after) (.handled token' after')
  | stopped {token? token?' fault fault' after after'} (cause : fault.cause = fault'.cause) :
      AdvanceAlike (.stopped token? fault after) (.stopped token?' fault' after')

theorem Alike.advance (alike : Alike one two) :
    AdvanceAlike (one.advance setup) (two.advance setup) := by
  obtain ⟨⟨rest, place⟩, document⟩ := one
  obtain ⟨⟨rest', place'⟩, document'⟩ := two
  obtain ⟨rfl, (same : document.unplaced = document'.unplaced)⟩ := alike
  have mode : document.mode? = document'.mode? := congrArg (fun last => last.mode?) same
  have backticks : document.backticks = document'.backticks :=
    congrArg (fun last => last.backticks) same
  -- Either cursor stands further on than one at offset 0, and the tokens there are its tokens.
  have behind (distance : Nat) :
      (⟨rest, distance⟩ : Cursor) = Cursor.behind distance ⟨rest, 0⟩ := by
    rw [Cursor.behind, Nat.zero_add]
  have unplaced (distance : Int) (token : Token) :
      (token.behind distance).moved (fun _ => 0) = token.moved fun _ => 0 := by
    obtain ⟨form, offset⟩ := token
    cases form <;> rfl
  simp only [Compilation.advance, mode, backticks, behind place, behind place']
  cases document'.mode? with
  | none => exact .stopped rfl
  | some mode =>
      simp only [Cursor.next_behind]
      rcases (⟨rest, 0⟩ : Cursor).next mode document'.backticks with stop | _ | ⟨token, after⟩
      · exact .stopped rfl
      · exact .finished
      simp only [Option.map_some, Cursor.tokenBehind]
      have outcomes : Document.outcome (document.handle setup (token.behind place)) =
          Document.outcome (document'.handle setup (token.behind place')) := by
        rw [Document.outcome_handle, unplaced, same, ← unplaced place', ← Document.outcome_handle]
      cases handled : document.handle setup (token.behind place) with
      | error halt =>
          cases handled' : document'.handle setup (token.behind place') with
          | error halt' =>
              rw [handled, handled'] at outcomes
              exact .stopped (Except.error.inj outcomes)
          | ok _ =>
              rw [handled, handled'] at outcomes
              cases outcomes
      | ok last =>
          cases handled' : document'.handle setup (token.behind place') with
          | error _ =>
              rw [handled, handled'] at outcomes
              cases outcomes
          | ok last' =>
              rw [handled, handled'] at outcomes
              exact .handled ⟨rfl, Except.ok.inj outcomes⟩

/-- Compilations that are alike come to the same end. -/
theorem Alike.ending_run (alike : Alike one two) :
    ending (one.run setup) = ending (two.run setup) := by
  refine run_matched (fun {here there} alike => ?_) alike
  have step : AdvanceAlike (here.advance setup) (there.advance setup) := alike.advance
  generalize here.advance setup = left at step ⊢
  generalize there.advance setup = right at step ⊢
  cases step with
  | finished => exact .finished (congrArg Except.ok alike.document)
  | handled later => exact .handled later
  | stopped cause => exact .stopped (congrArg Except.error cause)

/-! ## Before a tag -/

/-- What is read before a place is read alike whatever stands there, if text ends there alike. -/
theorem Reaches.before {setup : Setup} {read rest other : Text} {offset : Nat}
    {document : Document} {steps : List Step} {last : Compilation}
    (h : (⟨⟨read ++ rest, offset⟩, document⟩ : Compilation).Reaches setup steps last)
    (alike : ∀ front, Text.EndsAlike (front ++ rest) (front ++ other))
    (ends : last.cursor.rest = rest) :
    (⟨⟨read ++ other, offset⟩, document⟩ : Compilation).Reaches setup steps
      ⟨⟨other, last.cursor.offset⟩, last.document⟩ := by
  suffices all : ∀ front, last.cursor.rest = front ++ rest →
      (⟨⟨read ++ other, offset⟩, document⟩ : Compilation).Reaches setup steps
        ⟨⟨front ++ other, last.cursor.offset⟩, last.document⟩ from all [] ends
  clear ends
  induction h with
  | refl =>
      intro front ends
      obtain rfl : read = front := List.append_cancel_right ends
      exact .refl
  | @step steps here token after earlier handled ih =>
      intro front ends
      obtain ⟨⟨mode, current, next⟩, handled⟩ := advance_eq_handled_iff.mp handled
      obtain ⟨written, -, reads⟩ := Cursor.reads_next next
      have begins : here.cursor.rest = (written ++ front) ++ rest := by
        rw [reads.rest, ends, List.append_assoc]
      refine (ih (written ++ front) begins).step (advance_of_next current ?_ handled)
      rw [List.append_assoc]
      refine Cursor.next_before ?_ fun _ => alike front
      have whole : here.cursor = ⟨written ++ (front ++ rest), here.cursor.offset⟩ := by
        rw [← List.append_assoc, ← begins]
      rw [← whole, next, ← ends]

/-- With something else from a place on, the rest is compiled from where that place was reached. -/
theorem Reaches.ending_before {setup : Setup} {before rest other : Text} {steps : List Step}
    {here : Compilation}
    (run : (opening setup.settings (before ++ rest)).Reaches setup steps here)
    (alike : ∀ front, Text.EndsAlike (front ++ rest) (front ++ other))
    (ends : here.cursor.rest = rest) :
    ending ((opening setup.settings (before ++ other)).run setup) =
      ending ((⟨⟨other, here.cursor.offset⟩, here.document⟩ : Compilation).run setup) := by
  have reached := Reaches.before run alike ends
  have starts : Alike (opening setup.settings (before ++ other))
      ⟨⟨before ++ other, 0⟩, (opening setup.settings (before ++ rest)).document⟩ := ⟨rfl, rfl⟩
  exact starts.ending_run.trans (congrArg ending reached.run_eq)

end Compilation

/-! ## Pages -/

open Compilation

/-- The page that an end gives, or the cause of a fault. -/
def pageOf (settings : Settings) : Except Cause Document → Except Cause Text
  | .error cause => .error cause
  | .ok document =>
    match (leftOpen? settings document).map Fault.cause with
    | some cause => .error cause
    | none => .ok document.render

theorem pageOf_retagged {place : Int → Int} {change : Tag → Tag}
    (unseen : Tag.Unseen place change) (told : List Notice) (settings : Settings)
    (document : Document) :
    pageOf settings (.ok (document.retagged change told)) = pageOf settings (.ok document) := by
  have elements : (document.retagged change told).elements =
      document.elements.map (OpenElement.retagged change) := rfl
  have left : (leftOpen? settings (document.retagged change told)).map Fault.cause =
      (leftOpen? settings document).map Fault.cause := by
    unfold leftOpen?
    rw [elements]
    cases document.elements with
    | nil => rfl
    | cons element outer =>
        have name : (element.retagged change).tag.name = element.tag.name := unseen.name element.tag
        simp only [List.map_cons, name]
        split <;> rfl
  simp only [pageOf, left]
  rfl

theorem pageOf_unplaced (settings : Settings) (document : Document) :
    pageOf settings (.ok document.unplaced) = pageOf settings (.ok document) :=
  pageOf_retagged (Tag.unseen_moved fun _ => 0) [] settings { document with notices := [] }

/-- The end to which a run comes tells the page, or the cause of a fault. -/
theorem mapError_compileWith (setup : Setup) (source : Text) :
    (compileWith setup source).mapError Fault.cause =
      pageOf setup.settings (ending ((opening setup.settings source).run setup)) := by
  rw [compileWith_eq]
  rcases (opening setup.settings source).run setup with ⟨_ | fault, last⟩
  · rw [ending, pageOf_unplaced, pageOf]
    simp only
    cases leftOpen? setup.settings last.document <;> rfl
  · rfl

/-- Runs that come to the same end tell the same page, or faults of the same cause. -/
theorem compileWith_alike {setup : Setup} {source other : Text}
    (same : ending ((opening setup.settings source).run setup) =
      ending ((opening setup.settings other).run setup)) :
    (compileWith setup source).mapError Fault.cause =
      (compileWith setup other).mapError Fault.cause := by
  rw [mapError_compileWith, mapError_compileWith, same]

theorem eq_ok_of_mapError {one two : Except Fault Text} {page : Text}
    (alike : one.mapError Fault.cause = two.mapError Fault.cause) (compiled : one = .ok page) :
    two = .ok page := by
  subst compiled
  cases two with
  | error fault => cases alike
  | ok page' => exact congrArg Except.ok (Except.ok.inj alike).symm

theorem compileWith_eq_ok_iff_of_ending {setup : Setup} {source other page : Text}
    (same : ending ((opening setup.settings source).run setup) =
      ending ((opening setup.settings other).run setup)) :
    compileWith setup source = .ok page ↔ compileWith setup other = .ok page :=
  have alike := compileWith_alike same
  ⟨eq_ok_of_mapError alike, eq_ok_of_mapError alike.symm⟩

end PageMarkup
