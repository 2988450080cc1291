import LinkGauge.Text.Decimal
import LinkGauge.Text.Split
import LinkGauge.Text.Utf8

/-!
# What a request asks for
-/

namespace LinkGauge.Http

/-!
## Targets of requests

The target of a request names a path and may have a query. It stands alone, or behind a
scheme and an authority. Percent signs in a path are kept as they are.
-/

/-- What a request asks for. -/
structure Target where
  path : String
  query : String := ""
  deriving DecidableEq, Repr

namespace Target

/-- Whether a character may stand in a target at all. -/
def isVisible (c : Char) : Bool := ' ' < c && c ≠ '\x7f' && c ≠ '<' && c ≠ '>'

/-- Whether a character may stand in a path. -/
def isPathChar (c : Char) : Bool := isVisible c && c.toNat ≠ 0x60

/-- Whether a character may stand in a query. -/
def isQueryChar (c : Char) : Bool := isVisible c && c ≠ '"'

/-- Reads a path and a query; what follows a number sign does not count. -/
def ofPath? (chars : List Char) : Option Target :=
  let path := chars.takeWhile fun c => c ≠ '?' ∧ c ≠ '#'
  let query :=
    match chars.drop path.length with
    | '?' :: rest => rest.takeWhile (· ≠ '#')
    | _ => []
  if path.all isPathChar ∧ query.all isQueryChar then
    some { path := String.ofList path, query := String.ofList query }
  else none

/-- Whether a character may stand in a scheme. -/
def isSchemeChar (c : Char) : Bool := c.isAlphanum || c = '+' || c = '-' || c = '.'

/-- What follows a scheme and its divider. -/
def behindScheme? (chars : List Char) : Option (List Char) :=
  match chars.takeWhile isSchemeChar, chars.dropWhile isSchemeChar with
  | _ :: _, ':' :: '/' :: '/' :: rest => some rest
  | _, _ => none

/-- Reads a target. One that is only an authority has an empty path. -/
def ofText? (text : String) : Option Target :=
  match text.toList with
  | [] => none
  | '/' :: rest => ofPath? ('/' :: rest)
  | chars =>
    match behindScheme? chars with
    | some rest =>
      let inside (c : Char) : Bool := c ≠ '/' && c ≠ '?' && c ≠ '#'
      if (rest.takeWhile inside).isEmpty then none else ofPath? (rest.dropWhile inside)
    | none => if chars.all fun c => isPathChar c && c ≠ '/' then some { path := "" } else none

end Target

/-!
## Queries

A query is a list of pairs in the form encoding: pairs are divided by ampersands, a key
from its value by the first equals sign, a plus sign is a space, and a percent sign with
two hexadecimal digits is a byte. Nothing is refused: what is not encoded stays as it
is, and bytes that are no text are replaced.
-/

open Text

/-- The bytes that a percent-encoded sequence of bytes stands for. -/
def percentDecoded : List UInt8 → List UInt8
  | [] => []
  | b :: rest =>
    if b = 37 then
      match rest with
      | high :: low :: more =>
        match hexValue? (Char.ofNat high.toNat), hexValue? (Char.ofNat low.toNat) with
        | some h, some l => UInt8.ofNat (16 * h + l) :: percentDecoded more
        | _, _ => b :: percentDecoded (high :: low :: more)
      | rest => b :: percentDecoded rest
    else b :: percentDecoded rest

/-- The text that a key or a value stands for. -/
def formText (encoded : List Char) : String :=
  let spaced := encoded.map fun c => if c = '+' then ' ' else c
  String.ofList (lossy (percentDecoded (utf8 (String.ofList spaced))))

/-- The pair in a piece of a query; without an equals sign the value is empty. -/
def queryPair (piece : List Char) : String × String :=
  match cut? '=' piece with
  | some (key, value) => (formText key, formText value)
  | none => (formText piece, "")

/-- The pairs of a query; empty pieces do not count. -/
def queryPairs (query : String) : List (String × String) :=
  ((split '&' query.toList).filter (!·.isEmpty)).map queryPair

end LinkGauge.Http
