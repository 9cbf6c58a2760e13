import PageMarkup.Files.Publication
import PageMarkup.Files.SizeLimit
import PageMarkup.Files.Source
import PageMarkup.Settings.Search
import PageMarkup.Text.Control

/-! The command line: one source file is compiled, and the page is printed or published. -/

namespace PageMarkup.CommandLine

/-- What the arguments ask for. -/
structure Options where
  /-- The source file. -/
  source : Text
  /-- Where the page goes; it is printed if this is not given. -/
  output? : Option Text := none
  /-- The language of listings that name none. -/
  language? : Option Text := none
  /-- How many spaces a tab stands for in listings. -/
  tabSize? : Option Int := none
  /-- Backticks delimit inline code from the start. -/
  backticks : Bool := false
  /-- A tag that is still open at the end is a fault. -/
  closeTags : Bool := false
  /-- Notices are given. -/
  verbose : Bool := false
deriving DecidableEq

/-! ### Arguments -/

/-- An integer: a sign perhaps, then decimal digits of any script, not too many of them, with single
underscores between them; white space around it does not count. -/
def integer? (text : Text) : Option Int :=
  let (sign, digits) : Int × Text := match Text.trimWhite text with
    | '-' :: digits => (-1, digits)
    | '+' :: digits => (1, digits)
    | digits => (1, digits)
  let pieces := Text.splitOn '_' digits
  if pieces.any List.isEmpty || Text.maxDigits < pieces.flatten.length then none
  else (Text.decimal? pieces.flatten).map fun value => sign * value

/-- The arguments read so far. -/
structure Reading where
  /-- Arguments that are no options, last one first. -/
  plain : List Text := []
  /-- The number of spaces for a tab as it was last written. -/
  tabSize? : Option Text := none
  options : Options := { source := [] }

namespace Reading

/-- An argument that is no option. -/
def addPlain (argument : Text) (reading : Reading) : Reading :=
  { reading with plain := argument :: reading.plain }

/-- An option without a value. -/
def setFlag? (name : Text) (reading : Reading) : Option Reading :=
  let set (change : Options → Options) : Option Reading :=
    some { reading with options := change reading.options }
  if name = "enable-backticks".toList then set fun options => { options with backticks := true }
  else if name = "strict".toList then set fun options => { options with closeTags := true }
  else if name = "verbose".toList then set fun options => { options with verbose := true }
  else none

/-- An option with its value; of values for the same option the last one counts. -/
def setValue? (name value : Text) (reading : Reading) : Option Reading :=
  let set (change : Options → Options) : Option Reading :=
    some { reading with options := change reading.options }
  if name = "output".toList then set fun options => { options with output? := some value }
  else if name = "language".toList then set fun options => { options with language? := some value }
  else if name = "tab-size".toList then some { reading with tabSize? := some value }
  else none

/-- The option that takes the following argument as its value. -/
def wantsValue (name : Text) : Bool :=
  name = "output".toList || name = "language".toList || name = "tab-size".toList

end Reading

/-- The full name of a letter that stands for an option. -/
def longName? : Char → Option Text
  | 'o' => some "output".toList
  | 'v' => some "verbose".toList
  | _ => none

/-- Reads the letters after a single dash. The letter of an option with a value takes the rest of
the argument as that value, or leaves its name to take the next argument. -/
def readLetters : Text → Reading → Option (Reading × Option Text)
  | [], reading => some (reading, none)
  | letter :: letters, reading =>
    match longName? letter with
    | none => none
    | some name =>
      if Reading.wantsValue name then
        if letters.isEmpty then some (reading, some name)
        else (reading.setValue? name letters).map fun reading => (reading, none)
      else (reading.setFlag? name).bind (readLetters letters)

/-- Reads one argument; an option that wants a value leaves its name to take the next one. -/
def readArgument (argument : Text) (reading : Reading) : Option (Reading × Option Text) :=
  match argument with
  | '-' :: '-' :: long =>
    let (name, value) := Text.breakOn ['='] long
    match value with
    | _ :: value => (reading.setValue? name value).map fun reading => (reading, none)
    | [] =>
      if Reading.wantsValue name then some (reading, some name)
      else (reading.setFlag? name).map fun reading => (reading, none)
  | '-' :: letter :: letters => readLetters (letter :: letters) reading
  | _ => some (reading.addPlain argument, none)

/-- Reads arguments, the first as the value of an option if one is waiting for it. After two
dashes no argument is an option. -/
def readArguments : (waiting? : Option Text) → List Text → Reading → Option Reading
  | none, [], reading => some reading
  | some _, [], _ => none
  | some name, value :: arguments, reading =>
    (reading.setValue? name value).bind (readArguments none arguments)
  | none, argument :: arguments, reading =>
    if argument = ['-', '-'] then some { reading with plain := arguments.reverse ++ reading.plain }
    else (readArgument argument reading).bind fun (reading, waiting?) =>
      readArguments waiting? arguments reading

/-- What the arguments ask for, if they name exactly one source and give numbers where numbers are
due. -/
def Options.ofArguments? (arguments : List Text) : Option Options :=
  match readArguments none arguments {} with
  | some { plain := [source], tabSize? := none, options } => some { options with source }
  | some { plain := [source], tabSize? := some written, options } =>
    (integer? written).map fun size => { options with source, tabSize? := some size }
  | _ => none

/-! ### Answers -/

/-- What ends a run without an answer. -/
inductive Crash
  /-- A path is none for the system. -/
  | noPath (flaw : Path.Flaw)
  /-- The source cannot be looked for. -/
  | source (rejection : Source.Rejection)
  /-- Settings cannot be looked for or read. -/
  | settings (fault : Search.Fault)
  /-- The page cannot be made, and the source is not to blame. -/
  | page (cause : Cause)

/-- The wording of a crash. -/
def Crash.message : Crash → Text
  | .noPath flaw => flaw.message
  | .source rejection => rejection.message
  | .settings fault => fault.message
  | .page cause => cause.message

/-- What a run leaves: its exit status and what it prints. -/
structure Outcome where
  status : Nat
  output : Text := []
  errors : Text := []
  crash? : Option Crash := none

namespace Outcome

/-- How the program is called. -/
def usage : Text :=
  "Usage: cli [OPTIONS] FILEPATH\nTry 'cli --help' for help.\n".toList

/-- A run that printed a page; what is printed goes without control sequences. -/
def printed (page : Text) : Outcome := { status := 0, output := Text.withoutControls page }

/-- A run that failed. -/
def failed (message : Text) : Outcome :=
  { status := 1, errors := Text.withoutControls ("Error: ".toList ++ message ++ ['\n']) }

/-- A run that an argument made impossible. -/
def refused (message : Text) : Outcome :=
  { status := 2
    errors := usage ++
      Text.withoutControls ("\nError: Invalid value: ".toList ++ message ++ ['\n']) }

/-- A run that ended without an answer. -/
def crashed (crash : Crash) : Outcome := { status := 1, crash? := some crash }

/-- What a source leads to that cannot be used. -/
def rejected (rejection : Source.Rejection) : Outcome :=
  match rejection with
  | .unresolved (.noPath _) | .missing _ | .notRegular _ | .wrongSuffix _ =>
    refused rejection.message
  | _ => crashed (.source rejection)

/-- What settings lead to that cannot be had. -/
def unsettled (fault : Search.BuildFault) : Outcome :=
  match fault with
  | .refused _ | .unusable (.notTable _ _) | .unusable (.unknownKeys _ _ _) => refused fault.message
  | .unusable fault => crashed (.settings fault)

/-- What a source leads to that cannot be compiled. -/
def uncompiled (fault : Source.CompileFault) : Outcome :=
  match fault with
  | .access (.noPath flaw) => crashed (.noPath flaw)
  | .beyond cause => crashed (.page cause)
  | _ => failed fault.message

/-- What a page leads to that cannot be published at a path. -/
def unpublished (path : Path) (fault : Publication.Fault) : Outcome :=
  match fault with
  | .barred (.noPath flaw) => crashed (.noPath flaw)
  | _ => failed (fault.message path)

/-- The outcome with notices before its error messages. -/
def telling (verbose : Bool) (notices : List Notice) (outcome : Outcome) : Outcome :=
  if verbose then { outcome with errors := notices.flatMap Notice.line ++ outcome.errors }
  else outcome

end Outcome

/-- Why one of the paths is none, if one is. -/
def Options.flaw? (options : Options) : Option Path.Flaw :=
  (options.source :: options.output?.toList).findSome? fun written => (Path.ofText written).flaw?

/-- The settings that options replace. -/
def Options.overrides (options : Options) : List (Setting × Setting.Value) :=
  let given {α : Type} (value? : Option α) (value : α → Setting.Value) :=
    (value?.map value).getD .absent
  [(.language, given options.language? .text), (.tabSize, given options.tabSize? .integer),
    (.backticks, if options.backticks then .boolean true else .absent),
    (.closeTags, if options.closeTags then .boolean true else .absent)]

/-- Prints the page or publishes it. -/
def deliver (fails : Publication.Step → Bool) (world : World) (output? : Option Text)
    (page : Text) : Outcome × World :=
  match output? with
  | none => (.printed page, world)
  | some written =>
    let path := Path.ofText written
    match Publication.publish fails world.files path page with
    | (.ok (), files) => ({ status := 0 }, { world with files })
    | (.error fault, files) => (.unpublished path fault, { world with files })

/-- Checks the size of a source, compiles it and delivers the page. -/
def compileAndDeliver (fails : Publication.Step → Bool) (world : World) (options : Options)
    (source : Path) (draft : Draft) (settings : Settings) : (Outcome × World) × List Notice :=
  match SizeLimit.resolve world.sizeLimit? settings.maxFileSize with
  | .error fault => ((.failed fault.message, world), [])
  | .ok limit =>
    match Source.checkSize world.files source limit with
    | .error fault => ((.failed fault.message, world), [])
    | .ok () =>
      match Source.compileTelling world.files source draft with
      | (.error fault, notices) => ((.uncompiled fault, world), notices)
      | (.ok page, notices) => (deliver fails world options.output? page, notices)

/-- A run with options, some steps of publishing failing. -/
def run (fails : Publication.Step → Bool) (world : World) (options : Options) : Outcome × World :=
  match options.flaw? with
  | some flaw => (.crashed (.noPath flaw), world)
  | none =>
    match Source.locate world options.source with
    | .error rejection => (.rejected rejection, world)
    | .ok source =>
      match Search.buildTelling world.room world.files source.parent options.overrides with
      | (.error fault, notices) =>
        ((Outcome.unsettled fault).telling options.verbose notices, world)
      | (.ok (draft, settings), notices) =>
        let ((outcome, after), later) :=
          compileAndDeliver fails world options source draft settings
        (outcome.telling options.verbose (notices ++ later), after)

/-- A run with arguments. -/
def answer (fails : Publication.Step → Bool) (world : World) (arguments : List Text) :
    Outcome × World :=
  match Options.ofArguments? arguments with
  | none => ({ status := 2, errors := Outcome.usage }, world)
  | some options => run fails world options

end PageMarkup.CommandLine
