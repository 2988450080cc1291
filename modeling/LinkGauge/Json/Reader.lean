import LinkGauge.Json.Basic
import LinkGauge.Text.Decimal
import LinkGauge.Text.Utf8

/-!
# JSON texts

A text is scanned into tokens, and the tokens are put together to a value.
-/

namespace LinkGauge.Json

/-!
## JSON tokens

The scanner reads one glyph after another and never looks ahead: `Scanner.step`
gives its next state, so scanning a text in two parts is scanning the whole.
A string is collected as pieces and decoded at its closing quote, where surrogate
escapes have to come in pairs; a string that does not decode is still a token.
A number ends at the first glyph that cannot belong to it.
-/

section

open Text

/-- A lexical unit of a JSON text. -/
inductive Token where
  | beginArray
  | endArray
  | beginObject
  | endObject
  | colon
  | comma
  /-- A value without parts. -/
  | scalar (value : Json)

/-- A part of a string literal. -/
inductive Piece where
  /-- A character that stands for itself. -/
  | char (c : Char)
  /-- The sixteen-bit code of a `\u` escape. -/
  | unit (code : Nat)
  /-- A byte that is not UTF-8. -/
  | stray

/-- Whether a code is the first half of a pair. -/
def isHighSurrogate (code : Nat) : Bool := 0xD800 ≤ code && code < 0xDC00

/-- Whether a code is the second half of a pair. -/
def isLowSurrogate (code : Nat) : Bool := 0xDC00 ≤ code && code < 0xE000

/-- The characters that pieces stand for, unless a surrogate is alone or a byte is
stray. -/
def decode? : List Piece → Option (List Char)
  | [] => some []
  | .char c :: rest => (decode? rest).map (c :: ·)
  | .stray :: _ => none
  | .unit high :: .unit low :: rest =>
    if isHighSurrogate high then
      if isLowSurrogate low then
        (decode? rest).map
          (Char.ofNat (0x10000 + (high - 0xD800) * 0x400 + (low - 0xDC00)) :: ·)
      else none
    else if isLowSurrogate high then none
    else (decode? (.unit low :: rest)).map (Char.ofNat high :: ·)
  | .unit code :: rest =>
    if isHighSurrogate code || isLowSurrogate code then none
    else (decode? rest).map (Char.ofNat code :: ·)

/-- How far a number has been read. -/
inductive NumberPart where
  /-- A minus sign alone. -/
  | sign
  /-- A leading zero, which no digit may follow. -/
  | zero (negative : Bool)
  /-- Digits of the whole part. -/
  | whole (negative : Bool) (value : Nat)
  /-- A point that needs a digit. -/
  | point
  /-- Digits after the point. -/
  | fraction
  /-- An exponent mark that needs a sign or a digit. -/
  | mark
  /-- The sign of an exponent, which needs a digit. -/
  | markSign
  /-- Digits of the exponent. -/
  | exponent

/-- The number read so far, when it may end here. -/
def NumberPart.value? : NumberPart → Option Json
  | .zero false => some (.int 0)
  | .zero true => some .real
  | .whole false value => some (.int value)
  | .whole true value => some (.int (-value))
  | .fraction => some .real
  | .exponent => some .real
  | .sign => none
  | .point => none
  | .mark => none
  | .markSign => none

/-- The next part of a number, when the character continues it. -/
def NumberPart.next? (c : Char) : NumberPart → Option NumberPart
  | .sign => do
    let digit ← digitValue? c
    return if digit = 0 then .zero true else .whole true digit
  | .zero _ => afterWhole c
  | .whole negative value =>
    match digitValue? c with
    | some digit => some (.whole negative (value * 10 + digit))
    | none => afterWhole c
  | .point => (digitValue? c).map fun _ => .fraction
  | .fraction =>
    if (digitValue? c).isSome then some .fraction
    else if c = 'e' ∨ c = 'E' then some .mark
    else none
  | .mark =>
    if c = '+' ∨ c = '-' then some .markSign
    else (digitValue? c).map fun _ => .exponent
  | .markSign => (digitValue? c).map fun _ => .exponent
  | .exponent => (digitValue? c).map fun _ => .exponent
where
  /-- What may follow the whole part. -/
  afterWhole (c : Char) : Option NumberPart :=
    if c = '.' then some .point
    else if c = 'e' ∨ c = 'E' then some .mark
    else none

/-- What the scanner is in the middle of. -/
inductive Scanning where
  /-- Between two tokens. -/
  | between
  /-- Inside a literal name, with the characters still to come. -/
  | name (left : List Char) (value : Json)
  | number (part : NumberPart)
  /-- Inside a string; the pieces are newest first. -/
  | string (pieces : List Piece)
  /-- After a backslash. -/
  | escape (pieces : List Piece)
  /-- Inside a `\u` escape, with the number of digits still to come. -/
  | code (pieces : List Piece) (left : Nat) (value : Nat)

/-- The scanner's state; the tokens are newest first. -/
structure Scanner where
  scanning : Scanning
  tokens : List Token

namespace Scanner

/-- The state before the first glyph. -/
def start : Scanner := ⟨.between, []⟩

/-- Ends a token. -/
def emit (s : Scanner) (token : Token) : Scanner := ⟨.between, token :: s.tokens⟩

/-- Reads a character between two tokens. -/
def stepBetween (s : Scanner) (c : Char) : Option Scanner :=
  match c with
  | ' ' | '\t' | '\n' | '\r' => some { s with scanning := .between }
  | '[' => some (s.emit .beginArray)
  | ']' => some (s.emit .endArray)
  | '\x7b' => some (s.emit .beginObject)
  | '\x7d' => some (s.emit .endObject)
  | ':' => some (s.emit .colon)
  | ',' => some (s.emit .comma)
  | '"' => some { s with scanning := .string [] }
  | 'n' => some { s with scanning := .name ['u', 'l', 'l'] .null }
  | 't' => some { s with scanning := .name ['r', 'u', 'e'] (.bool true) }
  | 'f' => some { s with scanning := .name ['a', 'l', 's', 'e'] (.bool false) }
  | '-' => some { s with scanning := .number .sign }
  | c => do
    let digit ← digitValue? c
    return { s with
      scanning := .number (if digit = 0 then .zero false else .whole false digit) }

/-- The piece of a one-letter escape. -/
def escapePiece? : Char → Option Piece
  | '"' => some (.char '"')
  | '\\' => some (.char '\\')
  | '/' => some (.char '/')
  | 'b' => some (.char '\x08')
  | 'f' => some (.char '\x0c')
  | 'n' => some (.char '\n')
  | 'r' => some (.char '\r')
  | 't' => some (.char '\t')
  | _ => none

/-- Reads a character of a string. -/
def stepString (s : Scanner) (pieces : List Piece) (c : Char) : Option Scanner :=
  if c = '"' then
    some (s.emit (.scalar (.string ((decode? pieces.reverse).map String.ofList))))
  else if c = '\\' then some { s with scanning := .escape pieces }
  else if c.toNat < 32 then none
  else some { s with scanning := .string (.char c :: pieces) }

/-- The state after one more glyph, or `none` when no JSON text goes on like this. -/
def step (s : Scanner) : Glyph → Option Scanner
  | none =>
    match s.scanning with
    | .string pieces => some { s with scanning := .string (.stray :: pieces) }
    | _ => none
  | some c =>
    match s.scanning with
    | .between => s.stepBetween c
    | .name [] _ => none
    | .name [last] value => if c = last then some (s.emit (.scalar value)) else none
    | .name (next :: left) value =>
      if c = next then some { s with scanning := .name left value } else none
    | .number part =>
      match part.next? c with
      | some part => some { s with scanning := .number part }
      | none => do (s.emit (.scalar (← part.value?))).stepBetween c
    | .string pieces => s.stepString pieces c
    | .escape pieces =>
      if c = 'u' then some { s with scanning := .code pieces 4 0 }
      else (escapePiece? c).map fun piece =>
        { s with scanning := .string (piece :: pieces) }
    | .code pieces left value => do
      let value := value * 16 + (← hexValue? c)
      if left ≤ 1 then return { s with scanning := .string (.unit value :: pieces) }
      else return { s with scanning := .code pieces (left - 1) value }

/-- The tokens read, when the text may end here. -/
def finish (s : Scanner) : Option (List Token) :=
  match s.scanning with
  | .between => some s.tokens.reverse
  | .number part => do
    let value ← part.value?
    return (Token.scalar value :: s.tokens).reverse
  | _ => none

end Scanner

/-- The tokens of a text, or `none` when it is not made of JSON tokens. -/
def scan? (glyphs : List Glyph) : Option (List Token) := do
  (← glyphs.foldlM Scanner.step Scanner.start).finish

end

/-!
## Reading JSON

The reader takes one token after another and keeps the containers that are still
open, innermost first, so nesting costs no recursion. A text is read when, after
its last token, exactly one value has been completed.
-/

/-- A container that is still open; its parts are newest first. -/
inductive Container where
  | array (items : List Json)
  | object (members : Members)
  /-- An object that waits for the value of a key. -/
  | member (members : Members) (key : Option String)

/-- What the reader may take next. -/
inductive Expecting where
  /-- A value. -/
  | value
  /-- The first item of an array, or its end. -/
  | item
  /-- The first key of an object, or its end. -/
  | firstKey
  /-- The key after a comma. -/
  | key
  | colon
  /-- A comma or the end of the innermost container; at the top, the end. -/
  | more

/-- The reader's state. -/
structure Reader where
  expecting : Expecting
  /-- The containers still open, innermost first. -/
  opened : List Container
  /-- The value that the text consists of, once complete. -/
  result : Option Json

namespace Reader

/-- The state before the first token. -/
def start : Reader := ⟨.value, [], none⟩

/-- Puts a completed value where it belongs. -/
def complete (value : Json) : List Container → Option Reader
  | [] => some ⟨.more, [], some value⟩
  | .array items :: outer => some ⟨.more, .array (value :: items) :: outer, none⟩
  | .member members key :: outer =>
    some ⟨.more, .object ((key, value) :: members) :: outer, none⟩
  | .object _ :: _ => none

/-- Takes a token where a value may begin. -/
def stepValue (outer : List Container) : Token → Option Reader
  | .scalar value => complete value outer
  | .beginArray => some ⟨.item, .array [] :: outer, none⟩
  | .beginObject => some ⟨.firstKey, .object [] :: outer, none⟩
  | _ => none

/-- Takes a token where a key has to stand. -/
def stepKey : List Container → Token → Option Reader
  | .object members :: outer, .scalar (.string key) =>
    some ⟨.colon, .member members key :: outer, none⟩
  | _, _ => none

/-- The state after one more token, or `none` when no JSON text goes on like this. -/
def step (r : Reader) (token : Token) : Option Reader :=
  match r.expecting with
  | .value => stepValue r.opened token
  | .item =>
    match token, r.opened with
    | .endArray, .array _ :: outer => complete (.array []) outer
    | token, opened => stepValue opened token
  | .firstKey =>
    match token, r.opened with
    | .endObject, .object _ :: outer => complete (.object []) outer
    | token, opened => stepKey opened token
  | .key => stepKey r.opened token
  | .colon =>
    match token with
    | .colon => some { r with expecting := .value }
    | _ => none
  | .more =>
    match token, r.opened with
    | .comma, .array items :: outer => some ⟨.value, .array items :: outer, none⟩
    | .comma, .object members :: outer => some ⟨.key, .object members :: outer, none⟩
    | .endArray, .array items :: outer => complete (.array items.reverse) outer
    | .endObject, .object members :: outer => complete (.object members.reverse) outer
    | _, _ => none

end Reader

/-- The value that a list of tokens spells. -/
def ofTokens? (tokens : List Token) : Option Json := do
  (← tokens.foldlM Reader.step Reader.start).result

/-- Reads the one value that a sequence of glyphs consists of. -/
def parse? (glyphs : List Text.Glyph) : Option Json := do
  ofTokens? (← scan? glyphs)

/-- Reads the one value that a text consists of. -/
def ofText? (text : String) : Option Json := parse? (Text.glyphsOf text)

end LinkGauge.Json
