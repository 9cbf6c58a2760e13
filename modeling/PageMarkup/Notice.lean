import PageMarkup.Text.Quoted

/-! Notices tell, on request, what the program does. -/

namespace PageMarkup

/-- Something worth telling. -/
inductive Notice
  /-- Compiling a source of so many characters. -/
  | compiling (size : Nat)
  /-- Compiled to so many characters, with so many bookmarks. -/
  | compiled (size bookmarks : Nat)
  /-- A bookmark of this name was opened. -/
  | bookmark (name : Text)
  /-- Code of a language is being listed. -/
  | listing (language : Text) (tabSize : Int)
  /-- A file of settings cannot be used. -/
  | skipped (file : Text)
  /-- Settings were found in a table of a file. -/
  | using (table file : Text)
deriving DecidableEq

namespace Notice

/-- The part of the program that gives the notice. -/
def origin : Notice → Text
  | .compiling _ | .compiled _ _ | .bookmark _ => "htmlplusplus.parser".toList
  | .listing _ _ => "htmlplusplus.highlighter".toList
  | .skipped _ | .using _ _ => "htmlplusplus.config".toList

/-- The wording of a notice. -/
def message : Notice → Text
  | .compiling size => "Parsing ".toList ++ Text.ofNat size ++ " characters of HTML++".toList
  | .compiled size bookmarks =>
    "Produced ".toList ++ Text.ofNat size ++ " characters with ".toList ++
      Text.ofNat bookmarks ++ " bookmark(s)".toList
  | .bookmark name => "Registered bookmark ".toList ++ Text.quoted name
  | .listing language tabSize =>
    "Highlighter ready for ".toList ++ language ++ " (tab size ".toList ++
      Text.ofInt tabSize ++ [')']
  | .skipped file => "Skipping config file ".toList ++ file ++ ": not usable".toList
  | .using table file => "Using [".toList ++ table ++ "] from ".toList ++ file

/-- A notice as one line. -/
def line (notice : Notice) : Text := notice.origin ++ ": ".toList ++ notice.message ++ ['\n']

end Notice

end PageMarkup
