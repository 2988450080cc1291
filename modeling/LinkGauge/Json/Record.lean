import LinkGauge.Json.Basic

/-!
# Records as JSON objects

A schema lists the members of a record in the order in which they are written.
Reading looks every member up by its name, so neither the order of the members
nor a member under an unknown name matters, and a known name that stands twice is
refused. A record may also be given as the array of its values in the order of the
schema, where a shorter array leaves the last ones at their defaults.
-/

namespace LinkGauge

/-- A fixed-width integer type, as the range of integers that it holds. -/
class Counter (α : Type) where
  least : Int
  greatest : Int
  ofInt : Int → α
  toInt : α → Int
  least_le_toInt (a : α) : least ≤ toInt a
  toInt_le_greatest (a : α) : toInt a ≤ greatest
  ofInt_toInt (a : α) : ofInt (toInt a) = a

instance : Counter UInt8 where
  least := 0
  greatest := 0xff
  ofInt n := UInt8.ofNat n.toNat
  toInt a := a.toNat
  least_le_toInt _ := by omega
  toInt_le_greatest a := by have := a.toNat_lt; omega
  ofInt_toInt a := by simp

instance : Counter UInt32 where
  least := 0
  greatest := 0xffffffff
  ofInt n := UInt32.ofNat n.toNat
  toInt a := a.toNat
  least_le_toInt _ := by omega
  toInt_le_greatest a := by have := a.toNat_lt; omega
  ofInt_toInt a := by simp

instance : Counter UInt64 where
  least := 0
  greatest := 0xffffffffffffffff
  ofInt n := UInt64.ofNat n.toNat
  toInt a := a.toNat
  least_le_toInt _ := by omega
  toInt_le_greatest a := by have := a.toNat_lt; omega
  ofInt_toInt a := by simp

instance : Counter Int64 where
  least := -0x8000000000000000
  greatest := 0x7fffffffffffffff
  ofInt := Int64.ofInt
  toInt := Int64.toInt
  least_le_toInt a := by have := a.le_toInt; omega
  toInt_le_greatest a := by have := a.toInt_lt; omega
  ofInt_toInt := Int64.ofInt_toInt

namespace Json

/-- Reads an integer into a fixed-width type, refusing one outside its range. -/
def counter? {α : Type} [Counter α] : Json → Option α
  | .int n => if Counter.least α ≤ n ∧ n ≤ Counter.greatest α then some (Counter.ofInt n) else none
  | _ => none

/-- The integer value of a counter. -/
def ofCounter {α : Type} [Counter α] (a : α) : Json := .int (Counter.toInt a)

/-- Reads a string that decodes. -/
def text? : Json → Option String
  | .string content => content
  | _ => none

/-- Reads one of a list of named alternatives, given as its name or as an object
with the name as its only key and `null` under it. -/
def choice? {α : Type} (ofName? : String → Option α) : Json → Option α
  | .string (some name) => ofName? name
  | .object [(some name, .null)] => ofName? name
  | _ => none

/-- Reads `null` as absence. -/
def optional? {α : Type} (read? : Json → Option α) : Json → Option (Option α)
  | .null => some none
  | value => (read? value).map some

/-- Reads every item of an array. -/
def list? {α : Type} (read? : Json → Option α) : Json → Option (List α)
  | .array items => items.mapM read?
  | _ => none

/-- One member of a record: how its value is read and written, and what it is when
it is missing from an object (`absent`) or from the end of an array (`past`);
`none` where it may not be missing. Writing `none` leaves the member out. -/
structure Field (α : Type) where
  name : String
  read? : Json → Option α
  write : α → Option Json
  absent : Option α
  past : Option α

namespace Field

/-- A counter that is zero when missing. -/
def counter {α : Type} [Counter α] (name : String) : Field α where
  name
  read? := counter?
  write a := some (ofCounter a)
  absent := some (Counter.ofInt 0)
  past := some (Counter.ofInt 0)

/-- A text that is empty when missing. -/
def text (name : String) : Field String where
  name
  read? := text?
  write a := some (Json.text a)
  absent := some ""
  past := some ""

/-- A value that is left out when there is none. -/
def optional {α : Type} (name : String) (read? : Json → Option α) (write : α → Json) :
    Field (Option α) where
  name
  read? := optional? read?
  write a := a.map write
  absent := some none
  past := some none

end Field

/-- The members of a record, in the order in which they are written. -/
inductive Schema : List Type → Type 1 where
  | nil : Schema []
  | cons {α : Type} {rest : List Type} (field : Field α) (fields : Schema rest) :
      Schema (α :: rest)

/-- The values of a record's members, in the order of its schema. -/
def Row : List Type → Type
  | [] => Unit
  | α :: rest => α × Row rest

/-- The values that stand under a name, in their order. -/
def Members.named (members : Members) (name : String) : List Json :=
  (members.filter (·.1 == some name)).map (·.2)

namespace Schema

/-- Reads the members of an object; every known name stands at most once. -/
def readMembers? (members : Members) : {types : List Type} → Schema types → Option (Row types)
  | _, .nil => some ()
  | _, .cons field fields => do
    let value ←
      match members.named field.name with
      | [] => field.absent
      | [value] => field.read? value
      | _ => none
    return (value, ← fields.readMembers? members)

/-- Reads the items of an array, one for each member. -/
def readItems? : {types : List Type} → Schema types → List Json → Option (Row types)
  | _, .nil, [] => some ()
  | _, .nil, _ :: _ => none
  | _, .cons field fields, [] => do return (← field.past, ← fields.readItems? [])
  | _, .cons field fields, item :: items => do
    return (← field.read? item, ← fields.readItems? items)

/-- Reads a record from an object, whose keys must all be texts, or from an array. -/
def read? {types : List Type} (schema : Schema types) : Json → Option (Row types)
  | .object members =>
    if members.all (·.1.isSome) then schema.readMembers? members else none
  | .array items => schema.readItems? items
  | _ => none

/-- The members that are written for a record. -/
def members : {types : List Type} → Schema types → Row types → Members
  | _, .nil, () => []
  | _, .cons field fields, (value, rest) =>
    match field.write value with
    | some json => (some field.name, json) :: fields.members rest
    | none => fields.members rest

/-- The object that is written for a record. -/
def write {types : List Type} (schema : Schema types) (row : Row types) : Json :=
  .object (schema.members row)

end Schema

end Json

end LinkGauge
