import LinkGauge.Results.Lines
import LinkGauge.Text.Split

/-!
# A tree of files

A tree has files and directories at its places. Directories on the way to a new file
can be made, and a new file is made only where nothing stands yet, so that two writers
never share a file.
-/

namespace LinkGauge

namespace FileTree

/-- A place in a tree: the names on the way from the root, the last one first. -/
abbrev Place := List String

/-- What stands at a place. -/
inductive Entry where
  | directory
  /-- A file: whether its bytes are stored compressed, and what they are without it. -/
  | file (compressed : Bool) (content : ByteSink)

/-- The names in a path; empty names and single points lead nowhere. -/
def names (path : String) : List String :=
  ((Text.split '/' path.toList).map String.ofList).filter fun name =>
    !(name.isEmpty || name == ".")

/-- The greatest number of bytes in a name. -/
def nameLimit : Nat := 255

/-- The greatest number of bytes in a path. -/
def pathLimit : Nat := 4095

/-- Refuses a path that the system does not take, whatever is in the tree. -/
def checkPath (path : String) : Except SystemError Unit :=
  if path.contains '\x00' then .error .nulInPath
  else if path.isEmpty then .error (.code 2)
  else if pathLimit < path.utf8ByteSize then .error (.code 36)
  else .ok ()

end FileTree

/-- Files and directories below a root, which is a directory. -/
structure FileTree where
  /-- What stands at the places below the root. -/
  entries : List (FileTree.Place × FileTree.Entry) := []
  /-- The directory where paths begin that do not begin at the root. -/
  base : FileTree.Place := []

namespace FileTree

/-- The tree with a directory at its base and nothing else. -/
def ofBase : Place → FileTree
  | [] => {}
  | name :: rest =>
    { entries := (name :: rest, .directory) :: (ofBase rest).entries, base := name :: rest }

/-- What stands at a place. -/
def entryAt? (t : FileTree) (place : Place) : Option Entry :=
  if place = [] then some .directory else t.entries.lookup place

/-- Puts something at a place where nothing stands. -/
def insert (t : FileTree) (place : Place) (entry : Entry) : FileTree :=
  { t with entries := (place, entry) :: t.entries }

/-- The place where a path begins. -/
def origin (t : FileTree) (path : String) : Place := if path.startsWith "/" then [] else t.base

/-- Goes on from a directory by names, and makes the directories that are missing. -/
def makeDirectories (t : FileTree) (place : Place) :
    List String → Except SystemError Place × FileTree
  | [] => (.ok place, t)
  | name :: rest =>
    if name = ".." then t.makeDirectories place.tail rest
    else if nameLimit < name.utf8ByteSize then (.error (.code 36), t)
    else
      match t.entryAt? (name :: place) with
      | some .directory => t.makeDirectories (name :: place) rest
      | some (.file ..) => (.error (.code (if rest.isEmpty then 17 else 20)), t)
      | none => (t.insert (name :: place) .directory).makeDirectories (name :: place) rest

/-- Makes an empty file in a directory, where nothing of its name stands. -/
def createFile (t : FileTree) (place : Place) (name : String) (compressed : Bool) :
    Except SystemError Place × FileTree :=
  if nameLimit < name.utf8ByteSize then (.error (.code 36), t)
  else
    match t.entryAt? (name :: place) with
    | some _ => (.error (.code 17), t)
    | none => (.ok (name :: place), t.insert (name :: place) (.file compressed {}))

/-- Makes an empty file at a path, with the directories on the way; these stay when the
file itself is refused. -/
def create (t : FileTree) (path : String) (compressed : Bool) :
    Except SystemError Place × FileTree :=
  let directories := (names path).dropLast
  if directories.any (·.contains '\x00') then (.error .nulInPath, t)
  else
    match t.makeDirectories (t.origin path) directories with
    | (.error error, t) => (.error error, t)
    | (.ok place, t) =>
      match checkPath path, (names path).getLast? with
      | .error error, _ => (.error error, t)
      | .ok (), none => (.error (.code 17), t)
      | .ok (), some name => t.createFile place name compressed

/-- Changes the content of the file at a place. -/
def update (t : FileTree) (place : Place) (change : ByteSink → ByteSink) : FileTree :=
  { t with
    entries := t.entries.map fun (other, entry) =>
      match entry with
      | .directory => (other, .directory)
      | .file compressed content =>
        (other, .file compressed (if other = place then change content else content)) }

/-- The content of the file at a place. -/
def content? (t : FileTree) (place : Place) : Option ByteSink :=
  match t.entryAt? place with
  | some (.file _ content) => some content
  | _ => none

/-- The names and contents of all files. -/
def files (t : FileTree) : List (String × List UInt8) :=
  t.entries.filterMap fun (place, entry) =>
    match place, entry with
    | name :: _, .file _ content => some (name, content.bytes)
    | _, _ => none

/-- Characters of a path without what leads nowhere at their beginning. -/
def relativeChars : List Char → List Char
  | '/' :: rest => relativeChars rest
  | '.' :: '/' :: rest => relativeChars rest
  | rest => rest

/-- A path without what leads nowhere at its beginning. -/
def relative (path : String) : String := String.ofList (relativeChars path.toList)

/-- Goes on from a place by names to what stands there. -/
def find (t : FileTree) (place : Place) : List String → Except SystemError Entry
  | [] =>
    match t.entryAt? place with
    | some entry => .ok entry
    | none => .error (.code 2)
  | name :: rest =>
    match t.entryAt? place with
    | none => .error (.code 2)
    | some (.file ..) => .error (.code 20)
    | some .directory =>
      if name = ".." then t.find place.tail rest
      else if nameLimit < name.utf8ByteSize then .error (.code 36)
      else t.find (name :: place) rest

/-- Reads the bytes of the file at a path. -/
def read (t : FileTree) (path : String) : Except SystemError (List UInt8) := do
  checkPath path
  match ← t.find (t.origin path) (names path) with
  | .directory => throw (.code 21)
  | .file _ content =>
    if path.endsWith "/" then throw (.code 20) else return content.bytes

end FileTree

end LinkGauge
