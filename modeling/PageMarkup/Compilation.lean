import PageMarkup.Document
import PageMarkup.Token.Read

/-! Compiling a source: token after token is read in the mode of the document and handled by
it, to the end of the source or to the first fault. -/

namespace PageMarkup

/-- A compilation on its way: what is still to be read, and the document so far. -/
structure Compilation where
  cursor : Cursor
  document : Document
deriving DecidableEq

/-- What comes of one step. -/
inductive Advance
  /-- The source is at its end. -/
  | finished
  /-- A token was read and handled. -/
  | handled (token : Token) (after : Compilation)
  /-- No token could be read, or the one read could not be handled. -/
  | stopped (token? : Option Token) (fault : Fault) (after : Compilation)

namespace Compilation

/-- Before the first token. -/
def start (settings : Settings) (source : Text) : Compilation :=
  ⟨.start source, .start settings⟩

/-- Reads and handles one token. -/
def advance (setup : Setup) (compilation : Compilation) : Advance :=
  let ⟨cursor, document⟩ := compilation
  match document.mode? with
  | none => .stopped none ⟨.noMode, cursor.offset⟩ compilation
  | some mode =>
    match cursor.next mode document.backticks with
    | .error stop => .stopped none stop.fault ⟨stop.cursor, document⟩
    | .ok none => .finished
    | .ok (some (token, cursor)) =>
      match document.handle setup token with
      | .error halt => .stopped (some token) halt.fault ⟨cursor, halt.document⟩
      | .ok document => .handled token ⟨cursor, document⟩

/-- A handled token leaves less to read. -/
theorem advance_shorter {setup : Setup} {compilation after : Compilation} {token : Token}
    (h : compilation.advance setup = .handled token after) :
    after.cursor.rest.length < compilation.cursor.rest.length := by
  obtain ⟨cursor, document⟩ := compilation
  simp only [advance] at h
  split at h
  · cases h
  split at h
  · cases h
  · cases h
  next found =>
  split at h
  · cases h
  · cases h
    obtain ⟨_, nonempty, reads⟩ := Cursor.reads_next found
    exact reads.shorter nonempty

/-- Where steps end: the fault that ended them, if one did, and what they left. -/
def run (setup : Setup) (compilation : Compilation) : Option Fault × Compilation :=
  match _step : compilation.advance setup with
  | .finished => (none, compilation)
  | .handled _ after => run setup after
  | .stopped _ fault after => (some fault, after)
termination_by compilation.cursor.rest.length
decreasing_by exact advance_shorter _step

/-- Every token read, with what its handling left. -/
def trace (setup : Setup) (compilation : Compilation) : List (Token × Compilation) :=
  match _step : compilation.advance setup with
  | .finished => []
  | .handled token after => (token, after) :: trace setup after
  | .stopped (some token) _ after => [(token, after)]
  | .stopped none _ _ => []
termination_by compilation.cursor.rest.length
decreasing_by exact advance_shorter _step

/-- What is wrong at the end: with closed tags required, the innermost open tag. -/
def leftOpen? (settings : Settings) (document : Document) : Option Fault :=
  match document.elements with
  | element :: _ =>
    if settings.closeTags then some ⟨.unclosedTag element.tag.name, element.tag.offset⟩ else none
  | [] => none

end Compilation

/-- A compilation that can be asked for its page again: a page once made stays, and after a fault
the rest of the source is compiled from where the fault left off. -/
structure Session where
  source : Text
  compilation : Compilation
  page? : Option Text := none

namespace Session

/-- A session with a source, nothing read yet. -/
def start (settings : Settings) (source : Text) : Session :=
  { source, compilation := .start settings source }

/-- The page, or the fault that stands in its way. -/
def parse (setup : Setup) (session : Session) : Except Fault Text × Session :=
  match session.page? with
  | some page => (.ok page, session)
  | none =>
    let told := session.compilation.document.tell (.compiling session.source.length)
    let (fault?, compilation) := Compilation.run setup ⟨session.compilation.cursor, told⟩
    match fault?.or (Compilation.leftOpen? setup.settings compilation.document) with
    | some fault => (.error fault, { session with compilation })
    | none =>
      let page := compilation.document.render
      let document := compilation.document.tell
        (.compiled page.length compilation.document.bookmarks.length)
      (.ok page, { session with compilation := { compilation with document }, page? := some page })

/-- The report of a fault that a session has met. -/
def report (session : Session) (fault : Fault) : Report := fault.report session.source

/-- A session keeps its source. -/
theorem source_parse (setup : Setup) (session : Session) :
    (session.parse setup).2.source = session.source := by
  cases kept : session.page? with
  | some page => simp only [parse, kept]
  | none =>
      simp only [parse, kept]
      split <;> rfl

end Session

/-- The page that a source describes, or the report of what is wrong. -/
def compile (settings : Settings) (source : Text) : Except Report Text :=
  let (result, session) := (Session.start settings source).parse { settings }
  result.mapError session.report

end PageMarkup
