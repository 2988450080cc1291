/-!
# Characters in a sequence of bytes

Bytes from the network need not be UTF-8. `glyphs` splits them into the
characters that are validly encoded, and marks each remaining byte. A byte below
128 is always a character of its own, so a marked byte never hides a quote or a
bracket.
-/

namespace LinkGauge.Text

/-- A character of a text, or `none` for a byte that belongs to no valid encoding. -/
abbrev Glyph := Option Char

/-- Reads a text as glyphs; every character is valid. -/
def glyphsOf (text : String) : List Glyph := text.toList.map some

/-- The payload bits of a continuation byte. -/
def continuation? (b : UInt8) : Option Nat :=
  if 0x80 ≤ b ∧ b ≤ 0xBF then some (b.toNat - 0x80) else none

/-- The character with the given code and its length, refused when the code has a
shorter encoding, is a surrogate, or is too large. -/
def scalar? (least code length : Nat) : Option (Char × Nat) :=
  if h : least ≤ code ∧ code.isValidChar then some (Char.ofNatAux code h.2, length) else none

/-- The character encoded at the front of the bytes, and how many bytes it takes. -/
def leading? : List UInt8 → Option (Char × Nat)
  | a :: rest =>
    if a < 0x80 then some (Char.ofNat a.toNat, 1)
    else if 0xC0 ≤ a ∧ a < 0xE0 then
      match rest with
      | b :: _ => do scalar? 0x80 ((a.toNat - 0xC0) * 64 + (← continuation? b)) 2
      | [] => none
    else if 0xE0 ≤ a ∧ a < 0xF0 then
      match rest with
      | b :: c :: _ => do
        scalar? 0x800
          ((a.toNat - 0xE0) * 4096 + (← continuation? b) * 64 + (← continuation? c)) 3
      | _ => none
    else if 0xF0 ≤ a ∧ a < 0xF8 then
      match rest with
      | b :: c :: d :: _ => do
        scalar? 0x10000
          ((a.toNat - 0xF0) * 262144 + (← continuation? b) * 4096
            + (← continuation? c) * 64 + (← continuation? d)) 4
      | _ => none
    else none
  | [] => none

/-- Splits bytes into glyphs; the first argument counts the bytes still to skip,
those of a character already produced. -/
def glyphsFrom : Nat → List UInt8 → List Glyph
  | _, [] => []
  | skip + 1, _ :: rest => glyphsFrom skip rest
  | 0, b :: rest =>
    match leading? (b :: rest) with
    | some (c, length) => some c :: glyphsFrom (length - 1) rest
    | none => none :: glyphsFrom 0 rest

/-- The glyphs of a sequence of bytes. -/
def glyphs (bytes : List UInt8) : List Glyph := glyphsFrom 0 bytes

/-- The text of a sequence of bytes, when all of it is valid UTF-8. -/
def ofUtf8? (bytes : List UInt8) : Option String :=
  ((glyphs bytes).mapM id).map String.ofList

/-- The bytes of a text. -/
def utf8 (text : String) : List UInt8 := text.toUTF8.toList

/-!
## Text in bytes that may be broken

Every validly encoded character is kept. What is left breaks into runs that could begin
a character and are cut short, or single bytes; each of them becomes one replacement
character.
-/

/-- The character that stands for bytes that cannot be read. -/
def replacement : Char := Char.ofNat 0xFFFD

/-- Whether a byte may follow the first byte of an encoding. -/
def mayFollow (first second : UInt8) : Bool :=
  let least : UInt8 := if first = 0xE0 then 0xA0 else if first = 0xF0 then 0x90 else 0x80
  let greatest : UInt8 := if first = 0xED then 0x9F else if first = 0xF4 then 0x8F else 0xBF
  least ≤ second && second ≤ greatest

/-- The length of the broken run at the front of bytes that begin with no character. -/
def brokenLength : List UInt8 → Nat
  | first :: second :: rest =>
    if 0xE0 ≤ first ∧ first ≤ 0xF4 ∧ mayFollow first second then
      match rest with
      | third :: _ => if 0xF0 ≤ first ∧ (continuation? third).isSome then 3 else 2
      | [] => 2
    else 1
  | _ => 1

/-- Reads characters, with one replacement for each broken run; the first argument counts
the bytes still to skip. -/
def lossyFrom : Nat → List UInt8 → List Char
  | _, [] => []
  | skip + 1, _ :: rest => lossyFrom skip rest
  | 0, b :: rest =>
    match leading? (b :: rest) with
    | some (c, length) => c :: lossyFrom (length - 1) rest
    | none => replacement :: lossyFrom (brokenLength (b :: rest) - 1) rest

/-- The characters in a sequence of bytes. -/
def lossy (bytes : List UInt8) : List Char := lossyFrom 0 bytes

end LinkGauge.Text
