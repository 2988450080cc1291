import LinkGauge.Archive
import LinkGauge.FileTree
import LinkGauge.Results.Header
import LinkGauge.Service
import LinkGauge.UtcTime

/-!
# Results files

Every test has a file of its own, at a path that tells which test it was.
-/

namespace LinkGauge.ResultsPath

/-!
## Paths of results files

Results lie in one directory per day. The name of a file tells the subtest, the moment
at which the test began to the nanosecond, the test's id, and whether the content is
compressed.
-/

open Text UtcTime

/-- A directory with the slash that divides it from what follows. -/
def opened (directory : List Char) : List Char :=
  if directory.isEmpty ∨ directory.getLast? = some '/' then directory else directory ++ ['/']

/-- The directory of a day: year, month and day of the month. -/
def day (t : UtcTime) : List Char :=
  yearDigits t.date.year ++ '/' :: twoDigits t.date.month ++ '/' :: twoDigits t.date.day

/-- Date and time in the basic form with nine digits behind the point. -/
def stamp (t : UtcTime) : List Char :=
  yearDigits t.date.year ++ twoDigits t.date.month ++ twoDigits t.date.day ++
    'T' :: twoDigits t.hour ++ twoDigits t.minute ++ twoDigits t.second ++
    '.' :: padded 9 (decimal t.fraction) ++ ['Z']

/-- The end of a name. -/
def ending (compressed : Bool) : String := if compressed then ".jsonl.gz" else ".jsonl"

/-- The name of a results file. -/
def fileName (subtest : Subtest) (uuid : String) (t : UtcTime) (compressed : Bool) :
    List Char :=
  "ndt7-".toList ++ subtest.name.toList ++ '-' :: stamp t ++ '.' :: uuid.toList ++
    (ending compressed).toList

/-- The path of the results file of a test. -/
def path (dataDir : String) (subtest : Subtest) (uuid : String) (t : UtcTime)
    (compressed : Bool) : String :=
  String.ofList <|
    opened dataDir.toList ++ "ndt7/".toList ++ day t ++ '/' :: fileName subtest uuid t compressed

end LinkGauge.ResultsPath

namespace LinkGauge

/-!
## Results files

A results file is made for one test; its first line is the header, and every record is
a line behind it. What is written is held back, for a while and in part, by a buffer and
by a compressor where there is one, so that a file has all its lines only when it has
been finished. Then it takes no more records.

A store keeps the files it has made, in the order in which they were made.
-/

/-- What a results file is made for. -/
structure ResultsRequest where
  dataDir : String
  subtest : Subtest
  uuid : String
  start : UtcTime
  compressed : Bool
  header : TextMap

namespace ResultsRequest

/-- The path of the file. -/
def path (r : ResultsRequest) : String :=
  ResultsPath.path r.dataDir r.subtest r.uuid r.start r.compressed

end ResultsRequest

/-- How many of the bytes that are held back for a file pass on to it after a write. This
may depend on whether they are compressed, on what has passed before and on what is held. -/
structure Outflow where
  passes : (compressed : Bool) → (stored : ByteSink) → (held : List UInt8) → Nat

/-- The size of a buffer in bytes. -/
def Outflow.blockSize : Nat := 8192

/-- The outflow of a buffer that passes on whenever it is full. -/
def Outflow.inBlocks : Outflow where
  passes _ _ held := held.length / blockSize * blockSize

/-- A results file that takes records. -/
structure ResultsFile where
  path : String
  place : FileTree.Place
  compressed : Bool
  /-- What has been written and is held back, oldest first. -/
  held : List UInt8 := []

namespace ResultsFile

/-- What has passed on to the file. -/
def stored (f : ResultsFile) (t : FileTree) : ByteSink := (t.content? f.place).getD {}

/-- Passes on the first of the bytes that are held back. -/
def pass (f : ResultsFile) (count : Nat) (t : FileTree) : ResultsFile × FileTree :=
  ({ f with held := f.held.drop count },
    t.update f.place fun content => (content.write (f.held.take count)).2)

/-- Writes bytes. -/
def put (o : Outflow) (f : ResultsFile) (bytes : List UInt8) (t : FileTree) :
    ResultsFile × FileTree :=
  let f := { f with held := f.held ++ bytes }
  f.pass (o.passes f.compressed (f.stored t) f.held) t

/-- Writes a value and the end of its line. -/
def writeLine (o : Outflow) (f : ResultsFile) (value : Json) (t : FileTree) :
    ResultsFile × FileTree :=
  let (f, t) := f.put o (Text.utf8 value.write) t
  f.put o [10] t

/-- Makes the file and writes its header. -/
def create (o : Outflow) (r : ResultsRequest) (t : FileTree) :
    Except StoreError ResultsFile × FileTree :=
  match t.create r.path r.compressed with
  | (.error cause, t) => (.error (.io cause), t)
  | (.ok place, t) =>
    let file : ResultsFile := { path := r.path, place, compressed := r.compressed }
    let (file, t) := file.writeLine o (Archive.mapToJson r.header) t
    (.ok file, t)

/-- Writes a record. -/
def write (o : Outflow) (f : ResultsFile) (r : Record) (t : FileTree) :
    ResultsFile × FileTree :=
  f.writeLine o r.toJson t

/-- Passes on everything that is held back. -/
def finish (f : ResultsFile) (t : FileTree) : FileTree := (f.pass f.held.length t).2

end ResultsFile

/-- The results files of a server. -/
structure ResultsStore where
  tree : FileTree
  outflow : Outflow := .inBlocks
  /-- The files in the order in which they were made; `none` for a finished one. -/
  files : List (Option ResultsFile) := []

namespace ResultsStore

/-- What is done to a store. -/
inductive Operation where
  | create (request : ResultsRequest)
  /-- Writes a record to the file with a number. -/
  | write (number : Nat) (record : Record)
  | finish (number : Nat)

/-- What an operation is answered. -/
inductive Answer where
  | done
  | refused (error : StoreError)
  /-- The file with this number does not take records. -/
  | noFile
  /-- The file is finished: its path and its content. -/
  | finished (path : String) (content : List UInt8)

/-- The file with a number, if it takes records. -/
def open? (s : ResultsStore) (number : Nat) : Option ResultsFile := (s.files[number]?).join

/-- Carries out an operation. -/
def apply (s : ResultsStore) : Operation → Answer × ResultsStore
  | .create request =>
    match ResultsFile.create s.outflow request s.tree with
    | (.error error, tree) => (.refused error, { s with tree })
    | (.ok file, tree) => (.done, { s with tree, files := s.files ++ [some file] })
  | .write number record =>
    match s.open? number with
    | none => (.noFile, s)
    | some file =>
      let (file, tree) := file.write s.outflow record s.tree
      (.done, { s with tree, files := s.files.set number (some file) })
  | .finish number =>
    match s.open? number with
    | none => (.noFile, s)
    | some file =>
      let tree := file.finish s.tree
      (.finished file.path (file.stored tree).bytes,
        { s with tree, files := s.files.set number none })

end ResultsStore

end LinkGauge
