import LinkGauge.Text.Split

/-!
# Endpoints of a connection

An endpoint is an address of version 4 or 6 with a port. Addresses are numeric. Their
text is canonical: a version 6 address is written with the first of its longest runs of
zero groups left out, and one that maps a version 4 address ends with that address.
-/

namespace LinkGauge

/-- An address of version 4, as four bytes. -/
structure Ipv4 where
  a : UInt8
  b : UInt8
  c : UInt8
  d : UInt8
  deriving DecidableEq, Repr

/-- An address of version 6, as eight groups. -/
structure Ipv6 where
  groups : Vector UInt16 8
  deriving DecidableEq, Repr

/-- One end of a connection. -/
inductive Endpoint where
  | v4 (address : Ipv4) (port : UInt16)
  /-- The scope tells apart links on which the same address may occur. -/
  | v6 (address : Ipv6) (scope : UInt32) (port : UInt16)
  deriving DecidableEq, Repr

open Text Text.Reads

namespace Endpoint

/-- A number in decimal or hexadecimal digits. -/
def ofDigits (base : Nat) (digits : List Char) : Nat :=
  digits.foldl (fun n c => n * base + (hexValue? c).getD 0) 0

/-- Reads all digits at the front as a number below `bound`. -/
def number? (base bound : Nat) : Reads Nat := fun chars =>
  let (digits, rest) := span (fun c => (hexValue? c).any (· < base)) chars
  if digits.isEmpty ∨ bound ≤ ofDigits base digits then none
  else some (ofDigits base digits, rest)

/-- Reads a byte in decimal without leading zeros. -/
def byte? : Reads UInt8 := fun chars => do
  let (n, rest) ← number? 10 256 chars
  if chars.take (chars.length - rest.length) = decimal n then some (UInt8.ofNat n, rest)
  else none

/-- Reads a group of at most four hexadecimal digits. -/
def group? : Reads UInt16 := fun chars => do
  let (n, rest) ← number? 16 65536 chars
  if chars.length ≤ rest.length + 4 then some (UInt16.ofNat n, rest) else none

/-- Reads a port; leading zeros are allowed. -/
def port? : Reads UInt16 := fun chars => do
  let ((), rest) ← char? ':' chars
  let (n, rest) ← number? 10 65536 rest
  return (UInt16.ofNat n, rest)

end Endpoint

namespace Ipv4

open Endpoint

/-- Reads an address: four bytes divided by points. -/
def read? : Reads Ipv4 := fun chars => do
  let (a, rest) ← byte? chars
  let ((), rest) ← char? '.' rest
  let (b, rest) ← byte? rest
  let ((), rest) ← char? '.' rest
  let (c, rest) ← byte? rest
  let ((), rest) ← char? '.' rest
  let (d, rest) ← byte? rest
  return ({ a, b, c, d }, rest)

/-- The text of an address. -/
def toText (ip : Ipv4) : String :=
  ".".intercalate ([ip.a, ip.b, ip.c, ip.d].map fun n => natText n.toNat)

/-- The two groups that hold the four bytes. -/
def groups (ip : Ipv4) : List UInt16 :=
  [ip.a.toUInt16 * 256 + ip.b.toUInt16, ip.c.toUInt16 * 256 + ip.d.toUInt16]

end Ipv4

namespace Ipv6

open Endpoint

/-- Groups at the front of a text. -/
structure Front where
  groups : List UInt16
  /-- Whether the last two groups are written as a version 4 address. -/
  mapped : Bool
  rest : List Char

/-- Applies a rule behind a colon, or without one at the beginning. -/
def behind {α : Type} (first : Bool) (read? : Reads α) : Reads α := fun chars =>
  if first then read? chars
  else do
    let ((), rest) ← char? ':' chars
    read? rest

/-- Reads as many groups as there are, at most `limit`; the last two may be written as a
version 4 address. -/
def front (limit : Nat) (first : Bool) (chars : List Char) : Front :=
  match limit with
  | 0 => { groups := [], mapped := false, rest := chars }
  | limit + 1 =>
    match if 1 ≤ limit then behind first Ipv4.read? chars else none with
    | some (ip, rest) => { groups := ip.groups, mapped := true, rest }
    | none =>
      match behind first group? chars with
      | some (group, rest) =>
        let more := front limit false rest
        { more with groups := group :: more.groups }
      | none => { groups := [], mapped := false, rest := chars }

/-- The address with the given groups. -/
def ofGroups? (groups : List UInt16) : Option Ipv6 :=
  if size : groups.length = 8 then some ⟨⟨groups.toArray, by simpa using size⟩⟩ else none

/-- Reads an address: eight groups, or fewer with `::` for one or more zero groups. -/
def read? : Reads Ipv6 := fun chars => do
  let head := front 8 true chars
  if head.groups.length = 8 then return (← ofGroups? head.groups, head.rest)
  else if head.mapped then none
  else
    let ((), rest) ← literal? [':', ':'] head.rest
    let tail := front (7 - head.groups.length) true rest
    let zeros := List.replicate (8 - head.groups.length - tail.groups.length) 0
    return (← ofGroups? (head.groups ++ zeros ++ tail.groups), tail.rest)

/-- The length of the run of zero groups at the front. -/
def zerosAhead (groups : List UInt16) : Nat := (groups.takeWhile (· == 0)).length

/-- Where the first of the longest runs of zero groups begins, and its length. -/
def longestZeros (groups : List UInt16) : Nat × Nat :=
  (List.range groups.length).foldl
    (fun best start =>
      let length := zerosAhead (groups.drop start)
      if best.2 < length then (start, length) else best)
    (0, 0)

/-- Groups divided by colons. -/
def groupsText (groups : List UInt16) : String :=
  ":".intercalate (groups.map fun g => String.ofList (numeral 16 g.toNat))

/-- The text of an address. -/
def toText (ip : Ipv6) : String :=
  match ip.groups.toList with
  | [0, 0, 0, 0, 0, 0xFFFF, g, h] =>
    "::ffff:" ++
      Ipv4.toText ⟨(g / 256).toUInt8, (g % 256).toUInt8, (h / 256).toUInt8, (h % 256).toUInt8⟩
  | groups =>
    let (start, length) := longestZeros groups
    if 1 < length then
      groupsText (groups.take start) ++ "::" ++ groupsText (groups.drop (start + length))
    else groupsText groups

end Ipv6

namespace Endpoint

/-- Reads a scope, which is zero when it is left out. -/
def scope : List Char → UInt32 × List Char := fun chars =>
  match (do number? 10 4294967296 (← char? '%' chars).2) with
  | some (n, rest) => (UInt32.ofNat n, rest)
  | none => (0, chars)

/-- Reads a version 4 endpoint. -/
def readV4? : Reads Endpoint := fun chars => do
  let (ip, rest) ← Ipv4.read? chars
  let (port, rest) ← port? rest
  return (.v4 ip port, rest)

/-- Reads a version 6 endpoint, whose address stands in brackets. -/
def readV6? : Reads Endpoint := fun chars => do
  let ((), rest) ← char? '[' chars
  let (ip, rest) ← Ipv6.read? rest
  let (scope, rest) := scope rest
  let ((), rest) ← char? ']' rest
  let (port, rest) ← port? rest
  return (.v6 ip scope port, rest)

/-- The endpoint written in a text. -/
def ofText? (text : String) : Option Endpoint :=
  match (readV4? text.toList).or (readV6? text.toList) with
  | some (endpoint, []) => some endpoint
  | _ => none

/-- The text of an endpoint. -/
def toText : Endpoint → String
  | .v4 ip port => ip.toText ++ ":" ++ natText port.toNat
  | .v6 ip scope port =>
    let scopeText := if scope = 0 then "" else "%" ++ natText scope.toNat
    "[" ++ ip.toText ++ scopeText ++ "]:" ++ natText port.toNat

end Endpoint

end LinkGauge
