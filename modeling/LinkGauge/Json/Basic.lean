import LinkGauge.Text.Decimal

/-!
# JSON values and their texts
-/

namespace LinkGauge

/-!
## JSON values

A value keeps the order of its members and every repetition of a key, because
whether a repeated or unknown key matters is for the reader of a record to say.
A number that is not written as an integer is only known to be one (`real`), and
a string that decodes to no text is only known to be a string.
-/

/-- A JSON value. -/
inductive Json where
  | null
  | bool (value : Bool)
  /-- A number written without fraction and exponent, other than `-0`. -/
  | int (value : Int)
  /-- Any other number. -/
  | real
  /-- A string; `none` when it holds a lone surrogate or a byte that is not UTF-8. -/
  | string (text : Option String)
  | array (items : List Json)
  | object (members : List (Option String × Json))

namespace Json

/-- The members of an object. -/
abbrev Members := List (Option String × Json)

/-- The string value of a text. -/
def text (value : String) : Json := .string (some value)

end Json

end LinkGauge

namespace LinkGauge.Json

/-!
## Writing JSON

The compact form: no white space, members in their order, integers in decimal.
In strings a quote and a backslash are escaped, control characters are written as
their short escape or as `\u00xx`, and every other character stands for itself.
A value that is only known by its kind is written as one representative of the
kind, so that writing is total.
-/

open Text

/-- A character inside a string literal. -/
def escaped (c : Char) : List Char :=
  if c = '"' then ['\\', '"']
  else if c = '\\' then ['\\', '\\']
  else if c = '\x08' then ['\\', 'b']
  else if c = '\x0c' then ['\\', 'f']
  else if c = '\n' then ['\\', 'n']
  else if c = '\r' then ['\\', 'r']
  else if c = '\t' then ['\\', 't']
  else if c.toNat < 32 then ['\\', 'u'] ++ padded 4 (numeral 16 c.toNat)
  else [c]

/-- A string literal; a lone surrogate stands for every text that does not decode. -/
def quoted : Option String → List Char
  | some text => '"' :: text.toList.flatMap escaped ++ ['"']
  | none => ['"', '\\', 'u', 'd', '8', '0', '0', '"']

mutual

/-- The compact text of a value. -/
def chars : Json → List Char
  | .null => ['n', 'u', 'l', 'l']
  | .bool true => ['t', 'r', 'u', 'e']
  | .bool false => ['f', 'a', 'l', 's', 'e']
  | .int value => signedDecimal value
  | .real => ['-', '0']
  | .string text => quoted text
  | .array items => '[' :: (itemChars items ++ [']'])
  | .object members => '{' :: (memberChars members ++ ['}'])

/-- The items of an array, divided by commas. -/
def itemChars : List Json → List Char
  | [] => []
  | [item] => chars item
  | item :: rest => chars item ++ ',' :: itemChars rest

/-- The members of an object, divided by commas. -/
def memberChars : List (Option String × Json) → List Char
  | [] => []
  | [(key, value)] => quoted key ++ ':' :: chars value
  | (key, value) :: rest => quoted key ++ ':' :: chars value ++ ',' :: memberChars rest

end

/-- The compact text of a value. -/
def write (value : Json) : String := String.ofList (chars value)

end LinkGauge.Json
