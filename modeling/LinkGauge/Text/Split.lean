import LinkGauge.Text.Decimal

/-!
# Taking texts apart

White space is taken away at the ends of a text, a text is cut at dividers, and rules read
values from its front.
-/

namespace LinkGauge.Text

/-!
## White space

The characters that Unicode calls white space, and texts without them at their ends.
-/

/-- Whether a character has the Unicode property White_Space. -/
def isBlank (c : Char) : Bool :=
  let n := c.toNat
  (9 ≤ n && n ≤ 13) || n == 32 || n == 0x85 || n == 0xA0 || n == 0x1680 ||
    (0x2000 ≤ n && n ≤ 0x200A) || n == 0x2028 || n == 0x2029 || n == 0x202F || n == 0x205F ||
    n == 0x3000

/-- Characters without the white space in front of them. -/
def trimStart (chars : List Char) : List Char := chars.dropWhile isBlank

/-- Characters without the white space around them. -/
def trim (chars : List Char) : List Char := (trimStart (trimStart chars).reverse).reverse

/-- A text without the white space around it. -/
def trimmed (text : String) : String := String.ofList (trim text.toList)

/-!
## Divided texts

A text is cut at every divider, or at the first one. Cutting at every divider gives one
piece more than there are dividers, and pieces may be empty.
-/

/-- The pieces between the dividers. -/
def split (divider : Char) : List Char → List (List Char)
  | [] => [[]]
  | c :: rest =>
    if c = divider then [] :: split divider rest
    else
      match split divider rest with
      | [] => [[c]]
      | piece :: more => (c :: piece) :: more

/-- The parts in front of and behind the first divider. -/
def cut? (divider : Char) (chars : List Char) : Option (List Char × List Char) :=
  match chars.dropWhile (· ≠ divider) with
  | [] => none
  | _ :: behind => some (chars.takeWhile (· ≠ divider), behind)

/-- The lines of a text, each with its end; what is behind the last end is one more. -/
def lines (text : String) : List String :=
  match (split '\n' text.toList).reverse with
  | [] => []
  | last :: ended =>
    ended.reverse.map (fun line => String.ofList (line ++ ['\n'])) ++
      if last.isEmpty then [] else [String.ofList last]

/-!
## Rules for the front of a text

A rule reads a value from the front of a text and leaves the rest, or does not apply.
-/

/-- A rule for the front of a text: the value it reads and the rest. -/
abbrev Reads (α : Type) := List Char → Option (α × List Char)

namespace Reads

/-- Reads one given character. -/
def char? (c : Char) : Reads Unit
  | d :: rest => if d = c then some ((), rest) else none
  | [] => none

/-- Reads the given characters in their order. -/
def literal? : List Char → Reads Unit
  | [], chars => some ((), chars)
  | c :: more, chars => do literal? more (← char? c chars).2

/-- Reads the longest front of characters that satisfy a condition; it may be empty. -/
def span (condition : Char → Bool) (chars : List Char) : List Char × List Char :=
  (chars.takeWhile condition, chars.dropWhile condition)

/-- Reads one or more values, as long as `next?` finds a divider before another one. The
first argument bounds their number; the length of the text is always enough. -/
def divided? {α : Type} (read? : Reads α) (next? : Reads Unit) : Nat → Reads (List α)
  | 0, _ => none
  | bound + 1, chars => do
    let (first, rest) ← read? chars
    match next? rest with
    | none => return ([first], rest)
    | some ((), rest) =>
      let (more, rest) ← divided? read? next? bound rest
      return (first :: more, rest)

end Reads

end LinkGauge.Text
