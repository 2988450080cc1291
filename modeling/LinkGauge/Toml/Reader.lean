import LinkGauge.Toml.Document
import LinkGauge.Toml.Scalar

/-!
# Reading TOML

A document is a sequence of lines, each with at most one statement and a comment. Arrays
and inline tables may go over several lines, may end with a comma, and nest at most
eighty deep. A byte order mark in front of the document is ignored.
-/

namespace LinkGauge.Toml

open Text Text.Reads

namespace Reader

/-- How deep arrays and inline tables may nest. -/
def depthLimit : Nat := 80

/-- Characters without the white space in front of them. -/
def skipSpace (chars : List Char) : List Char := chars.dropWhile isSpace

/-- Whether a character may stand in a key without quotes. -/
def isBare (c : Char) : Bool := c.isAlphanum || c = '_' || c = '-'

/-- Reads one part of a key. -/
def part? : Reads String := fun chars =>
  let (bare, rest) := span isBare chars
  if bare.isEmpty then (Literal.line? chars).map fun (key, rest) => (String.ofList key, rest)
  else some (String.ofList bare, rest)

/-- Reads the point between two parts of a key. -/
def point? : Reads Unit := fun chars =>
  match skipSpace chars with
  | '.' :: rest => some ((), skipSpace rest)
  | _ => none

/-- Reads a key, which may have several parts, and the white space around it. -/
def path? : Reads Path := fun chars => do
  let chars := skipSpace chars
  let (parts, rest) ← divided? part? point? chars.length chars
  return ({ tables := parts.dropLast, key := ← parts.getLast? }, skipSpace rest)

/-- Drops white space, line ends and comments; `comment` tells whether the front belongs
to one. -/
def gap? (comment : Bool) : List Char → Option (List Char)
  | [] => some []
  | '\r' :: '\n' :: rest => gap? false rest
  | '\n' :: rest => gap? false rest
  | c :: rest =>
    if comment then if isPlain c then gap? true rest else none
    else if isSpace c then gap? false rest
    else if c = '#' then gap? true rest
    else some (c :: rest)

/-- Reads items up to a closing character, with commas between them and possibly one
after the last. The first argument bounds their number. -/
def items? {α : Type} (read? : Reads α) (closing : Char) : Nat → Reads (List α)
  | 0, _ => none
  | bound + 1, chars => do
    match ← gap? false chars with
    | [] => none
    | c :: rest =>
      if c = closing then return ([], rest)
      else
        let (item, rest) ← read? (c :: rest)
        match ← gap? false rest with
        | ',' :: rest =>
          let (more, rest) ← items? read? closing bound rest
          return (item :: more, rest)
        | c :: rest => if c = closing then return ([item], rest) else none
        | [] => none

/-- Reads a key with its value. -/
def pair? (value? : Reads Value) : Reads (Path × Value) := fun chars => do
  let (path, rest) ← path? chars
  let ((), rest) ← char? '=' rest
  let (value, rest) ← value? (skipSpace rest)
  return ((path, value), rest)

/-- The inline table with the given pairs. -/
def inlineTable? (pairs : List (Path × Value)) : Option Value := do
  let members ← pairs.foldlM
    (fun (members : Members) (path, value) => members.pair? path value .inline) []
  return .table .inline members

/-- Reads a value; the first argument is how deep it may nest. -/
def value? : Nat → Reads Value
  | 0, '[' :: _ => none
  | 0, '{' :: _ => none
  | depth + 1, '[' :: rest => do
    let (items, rest) ← items? (value? depth) ']' (rest.length + 1) rest
    return (.array items, rest)
  | depth + 1, '{' :: rest => do
    let (pairs, rest) ← items? (pair? (value? depth)) '}' (rest.length + 1) rest
    return (← inlineTable? pairs, rest)
  | _, chars =>
    if chars.head? = some '"' || chars.head? = some '\'' then
      (Literal.read? chars).map fun (text, rest) => (.text (String.ofList text), rest)
    else Scalar.read? chars

/-- Reads a statement. -/
def statement? : Reads Statement
  | '[' :: '[' :: rest => do
    let (path, rest) ← path? rest
    let ((), rest) ← literal? [']', ']'] rest
    return (.entry path, rest)
  | '[' :: rest => do
    let (path, rest) ← path? rest
    let ((), rest) ← char? ']' rest
    return (.header path, rest)
  | chars => do
    let ((path, value), rest) ← pair? (value? depthLimit) chars
    return (.pair path value, rest)

/-- Drops white space and a comment, and the end of the line. -/
def lineEnd? (chars : List Char) : Option (List Char) :=
  let rest :=
    match skipSpace chars with
    | '#' :: comment => comment.dropWhile isPlain
    | rest => rest
  match rest with
  | [] => some []
  | '\n' :: rest => some rest
  | '\r' :: '\n' :: rest => some rest
  | _ => none

/-- Reads statements up to the end of the text. The first argument bounds the number of
lines. -/
def statements? : Nat → List Char → Option (List Statement)
  | _, [] => some []
  | 0, _ => none
  | bound + 1, chars =>
    match lineEnd? chars with
    | some rest => statements? bound rest
    | none => do
      let (statement, rest) ← statement? (skipSpace chars)
      return statement :: (← statements? bound (← lineEnd? rest))

end Reader

/-- Characters without a byte order mark in front of them. -/
def withoutMark : List Char → List Char
  | '\uFEFF' :: rest => rest
  | chars => chars

/-- The document in a text. -/
def ofText? (text : String) : Option Members := do
  let chars := withoutMark text.toList
  Document.ofStatements? (← Reader.statements? (chars.length + 1) chars)

end LinkGauge.Toml
