/-!
# TOML documents
-/

namespace LinkGauge.Toml

/-!
## TOML values

A value keeps of a number with a fraction, and of a date or time, only that it is one.
Tables remember how they came about, because that decides what may still be added to
them.
-/

/-- How a table came about. -/
inductive TableForm where
  /-- Written between braces; nothing can be added. -/
  | inline
  /-- By its own header, or as the whole document. -/
  | header
  /-- By the header of a table below it. -/
  | implied
  /-- By a dotted key. -/
  | dotted
  deriving DecidableEq, Repr

/-- A value. -/
inductive Value where
  | text (content : String)
  | integer (value : Int)
  | real
  | boolean (value : Bool)
  /-- A date, a time of day, or both. -/
  | moment
  | array (items : List Value)
  | table (form : TableForm) (members : List (String × Value))
  /-- Tables under headers in double brackets, the last one first. -/
  | tables (last : List (String × Value)) (earlier : List (List (String × Value)))

/-- The keys of a table with their values. -/
abbrev Members := List (String × Value)

namespace Members

/-- Sets the value of a key: in place of an earlier value, or behind all others. -/
def set (key : String) (value : Value) : Members → Members
  | [] => [(key, value)]
  | (other, kept) :: rest =>
    if other = key then (key, value) :: rest else (other, kept) :: set key value rest

end Members

/-- The items of an array, including one of tables. -/
def Value.items? : Value → Option (List Value)
  | .array items => some items
  | .tables last earlier => some ((last :: earlier).reverse.map (.table .header))
  | _ => none

/-!
## Building a TOML document

A document is built statement by statement. A header opens a table, which must be new or
known only through the tables below it; a header in double brackets adds a table to an
array of such tables; a key with a value goes into the table that was opened last. No
value is ever replaced.
-/

/-- A key with the keys of the tables in front of it. -/
structure Path where
  tables : List String
  key : String

/-- A statement of a document. -/
inductive Statement where
  | header (path : Path)
  /-- A header in double brackets. -/
  | entry (path : Path)
  | pair (path : Path) (value : Value)

/-- Whether a table may be entered while the tables on the way are of the given form: never
an inline one, and by dotted keys none that has a header. -/
def TableForm.enters (way form : TableForm) : Bool :=
  match form with
  | .inline => false
  | .header => way ≠ .dotted
  | .implied => true
  | .dotted => true

namespace Members

/-- Changes the table behind a path, where missing tables on the way get the given form;
the change is told the form of the table. -/
def change? (way : TableForm) (f : TableForm → Members → Option Members) :
    List String → TableForm → Members → Option Members
  | [], form, members => f form members
  | key :: path, _, members =>
    match members.lookup key with
    | none => do return members.set key (.table way (← change? way f path way []))
    | some (.table form inner) =>
      if way.enters form then do
        return members.set key (.table form (← change? way f path form inner))
      else none
    | some (.tables last earlier) => do
      return members.set key (.tables (← change? way f path .header last) earlier)
    | some _ => none

/-- Adds a key; a table made by dotted keys only takes dotted keys, and no other table
takes them. -/
def add? (dotted : Bool) (key : String) (value : Value) (form : TableForm)
    (members : Members) : Option Members :=
  if decide (form = .dotted) = dotted && (members.lookup key).isNone then
    some (members.set key value)
  else none

/-- Adds a pair to a table. -/
def pair? (path : Path) (value : Value) (form : TableForm) (members : Members) :
    Option Members :=
  members.change? .dotted (add? (!path.tables.isEmpty) path.key value) path.tables form

/-- Opens a table of its own. -/
def open? (key : String) (members : Members) : Option Members :=
  match members.lookup key with
  | none => some (members.set key (.table .header []))
  | some (.table .implied inner) => some (members.set key (.table .header inner))
  | some _ => none

/-- Adds a table to an array of tables. -/
def append? (key : String) (members : Members) : Option Members :=
  match members.lookup key with
  | none => some (members.set key (.tables [] []))
  | some (.tables last earlier) => some (members.set key (.tables [] (last :: earlier)))
  | some _ => none

end Members

/-- A document with the path of the table that was opened last. -/
structure Document where
  members : Members := []
  current : List String := []

namespace Document

/-- The document after a statement. -/
def add? (d : Document) : Statement → Option Document
  | .header path => do
    let members ← d.members.change? .implied (fun _ m => m.open? path.key) path.tables .header
    return { members, current := path.tables ++ [path.key] }
  | .entry path => do
    let members ← d.members.change? .implied (fun _ m => m.append? path.key) path.tables .header
    return { members, current := path.tables ++ [path.key] }
  | .pair path value => do
    let members ←
      d.members.change? .implied (fun form m => m.pair? path value form) d.current .header
    return { d with members }

/-- The document with the given statements. -/
def ofStatements? (statements : List Statement) : Option Members :=
  (statements.foldlM add? {}).map (·.members)

end Document

end LinkGauge.Toml
