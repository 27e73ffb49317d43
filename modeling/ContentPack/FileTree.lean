import ContentPack.Table

/-!
# Trees of files

A tree has directories and files. A path is a text with slashes between names; it leads from the
root or from the working directory to a place, two points lead back to the directory above, and a
tilde at its start stands for the home of a user.
-/

namespace ContentPack

/-- Why a file cannot be opened. -/
inductive FileFault where
  /-- Nothing is there. -/
  | missing
  /-- A directory is there. -/
  | isDirectory
  /-- A file is where a directory should be. -/
  | notDirectory
  /-- A name or the whole path is too long. -/
  | tooLong
  /-- The path has a null character. -/
  | nullCharacter
  /-- The user whose home is meant has none. -/
  | noHome
  deriving DecidableEq, Repr

/-- A place: the names on the way from the root. -/
abbrev Place := List String

/-- A tree of files. -/
structure FileTree where
  /-- Directories; those on the way to one are directories as well. -/
  directories : List Place
  /-- Files with their texts. -/
  files : Table Place String := []
  /-- The working directory. -/
  working : Place := ["work"]
  /-- The home of the user. -/
  home : Place := ["root"]
  /-- The name of the user. -/
  user : String := "root"
  deriving Repr

namespace FileTree

/-! ### Paths -/

/-- The most bytes of a name. -/
def maxName : Nat := 255

/-- The most bytes of a path. -/
def maxPath : Nat := 4095

/-- The names of a path; a single point is no name. -/
def names (path : String) : List String :=
  (path.splitOn "/").filter fun name => name ≠ "" && name ≠ "."

/-- The path starts at the root. -/
def isAbsolute (path : String) : Bool := path.startsWith "/"

/-- Where a path starts, and the names from there on. -/
def start (t : FileTree) (path : String) : Except FileFault (Place × List String) :=
  match isAbsolute path, names path with
  | true, names => .ok ([], names)
  | false, name :: names =>
    if name = "~" || name = "~" ++ t.user then .ok (t.home, names)
    else if name.startsWith "~" then .error .noHome
    else .ok (t.working, name :: names)
  | false, [] => .ok (t.working, [])

/-- The names without the way to a directory and back from it. -/
def shorten (names : List String) : List String :=
  let step (before : List String) (name : String) :=
    if name = ".." then before.drop 1 else name :: before
  (names.foldl step []).reverse

/-! ### Places -/

/-- A directory is at a place. -/
def isDirectory (t : FileTree) (place : Place) : Bool :=
  (t.working :: t.home :: t.directories).any place.isPrefixOf

/-- Follow names from a directory. All but the last lead to directories, and the last one to
whatever may be there. -/
def follow (t : FileTree) (place : Place) : List String → Except FileFault Place
  | [] => .ok place
  | name :: names =>
    if name = ".." then t.follow place.dropLast names
    else if maxName < name.utf8ByteSize then .error .tooLong
    else if t.isDirectory (place ++ [name]) then t.follow (place ++ [name]) names
    else if names.isEmpty then .ok (place ++ [name])
    else if (t.files.get? (place ++ [name])).isSome then .error .notDirectory
    else .error .missing

/-- Follow names from a directory to where a file may be. -/
def followToFile (t : FileTree) (place : Place) (names : List String) : Except FileFault Place := do
  if names.any (·.contains '\x00') then throw .nullCharacter
  if maxPath < ("/".intercalate names).utf8ByteSize then throw .tooLong
  let place ← t.follow place names
  if t.isDirectory place then throw .isDirectory
  return place

/-! ### Files -/

/-- The text of a file. -/
def read (t : FileTree) (path : String) : Except FileFault String := do
  let (place, names) ← t.start path
  match t.files.get? (← t.followToFile place names) with
  | some text => return text
  | none => throw .missing

/-- The place of a file to write to, by a path that starts at a directory or at the root. The path
is shortened before it is followed. -/
def target (t : FileTree) (directory : Place) (path : String) : Except FileFault Place :=
  let names := names path
  t.followToFile [] (shorten (if isAbsolute path then names else directory ++ names))

/-- Put a file at a place, unless one is there. -/
def touch (t : FileTree) (place : Place) : FileTree :=
  if (t.files.get? place).isSome then t else { t with files := t.files.put place "" }

/-- The directories of a usual system, and the file that is always empty. -/
def usual : FileTree where
  directories :=
    [["bin"], ["boot"], ["dev"], ["etc"], ["home"], ["lib"], ["media"], ["mnt"], ["opt"], ["proc"],
      ["run"], ["sbin"], ["srv"], ["sys"], ["tmp"], ["usr", "bin"], ["usr", "include"],
      ["usr", "lib"], ["usr", "local"], ["usr", "sbin"], ["usr", "share"], ["var", "cache"],
      ["var", "lib"], ["var", "log"], ["var", "tmp"]]
  files := [(["dev", "null"], "")]

end FileTree

end ContentPack
