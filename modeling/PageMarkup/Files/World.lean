import PageMarkup.Files.Tree

/-! What the program finds around it: the files, the users and the environment. -/

namespace PageMarkup

/-- How deep calls may stand in calls where the program is called. -/
structure Room where
  /-- For values inside values of a table. -/
  values : Nat
  /-- For links that lead to links. -/
  links : Nat
deriving DecidableEq

/-- Everything outside the program that it looks at or changes. -/
structure World where
  files : FileTree := {}
  room : Room
  /-- The home directory of the user who runs the program. -/
  home : Text := []
  /-- The home directories of users by their names. -/
  homes : List (Text × Text) := []
  /-- The size limit given in the environment. -/
  sizeLimit? : Option Text := none

namespace World

/-- The home directories in a list of users, which has a line for each: its first part is the name
and its sixth the directory. -/
def homesIn (users : Text) : List (Text × Text) :=
  (Text.splitOn '\n' users).filterMap fun line =>
    match Text.splitOn ':' line with
    | name :: _ :: _ :: _ :: _ :: home :: _ => some (name, home)
    | _ => none

/-- A path seen from the root. -/
def absolute (world : World) (path : Path) : Path := (Path.ofLocation world.files.here).append path

/-- The home directory of a user, the one who runs the program if the name is empty. -/
def home? (world : World) (user : Spelling) : Option Text :=
  if user = [] then some world.home
  else (world.homes.find? fun entry => Spelling.ofText entry.1 = user).map Prod.snd

/-- A path with a home directory in place of a tilde at its start, which may have the name of a
user after it; nothing if there is no such user, or if his directory begins with a tilde itself. -/
def expandHome? (world : World) (path : Path) : Option Path :=
  match path with
  | ⟨0, .down ⟨.char '~' :: user, _⟩ :: parts⟩ =>
    match world.home? user with
    | none | some ('~' :: _) => none
    | some [] => some { Path.ofLocation [] with parts }
    | some home => some ((Path.ofText home).append { path with parts })
  | _ => some path

end World

end PageMarkup
