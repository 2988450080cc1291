/-!
# Filler

Between measurements a download is filled with binary frames. Their size doubles
while it is small compared with what has been sent, up to a limit, so that a slow
connection is not flooded by its first frames.
-/

namespace LinkGauge

/-- The sizes of filler frames, in bytes. -/
structure FillerSizes where
  least : Nat := 1024
  initial : Nat := 8192
  greatest : Nat := 16777216
  /-- Frames of this size or more do not grow. -/
  scaled : Nat := 1048576
  /-- A frame grows when it is at most this fraction of what has been sent. -/
  fraction : Nat := 16
  deriving DecidableEq, Repr

/-- The filler of one download. -/
structure Filler where
  sizes : FillerSizes
  /-- The size of the next frame. -/
  size : Nat
  /-- The bytes sent so far. -/
  total : Nat := 0
  deriving DecidableEq, Repr

namespace Filler

/-- The filler before the first frame. -/
def new (sizes : FillerSizes) : Filler := { sizes, size := sizes.initial }

/-- The filler after one more frame has been sent. -/
def sent (f : Filler) : Filler :=
  let total := f.total + f.size
  if f.sizes.scaled ≤ f.size then { f with total }
  else if total / f.sizes.fraction < f.size then { f with total }
  else { f with total, size := min (min (f.size * 2) f.sizes.scaled) f.sizes.greatest }

/-- The filler after frames have been sent. -/
def after (sizes : FillerSizes) : Nat → Filler
  | 0 => .new sizes
  | n + 1 => (after sizes n).sent

/-- The bytes that frames are made of. -/
def letters : List UInt8 :=
  "abcdefghijklmnopqrstuvwxyzABCDEFGHIJKLMNOPQRSTUVWXYZ".toList.map fun letter =>
    letter.toNat.toUInt8

/-- A frame of the given size, each of its letters drawn on its own. -/
def drawn (draw : Nat → Fin letters.length) (size : Nat) : List UInt8 :=
  (List.range size).map fun n => letters[draw n]

end Filler

/-- A filler with its next frame, which counts in words of 64 bits. -/
structure LoadedFiller extends Filler where
  frame : List UInt8
  deriving DecidableEq, Repr

namespace LoadedFiller

/-- A number, if it fits into a word. -/
def word? (n : Nat) : Option Nat := if n < Nat.pow 2 64 then some n else none

/-- A quotient, if there is one. -/
def quotient? (n divisor : Nat) : Option Nat := if divisor = 0 then none else some (n / divisor)

def new (sizes : FillerSizes) (draw : Nat → Fin Filler.letters.length) : LoadedFiller :=
  { Filler.new sizes with frame := Filler.drawn draw sizes.initial }

/-- The filler after its frame has been sent, unless a number overflows or is divided by zero. A
frame of another size is drawn anew. -/
def sent? (f : LoadedFiller) (draw : Nat → Fin Filler.letters.length) : Option LoadedFiller := do
  let total ← word? (f.total + f.size)
  if f.sizes.scaled ≤ f.size then return { f with total }
  let share ← quotient? total f.sizes.fraction
  if share < f.size then return { f with total }
  let doubled ← word? (f.size * 2)
  let size := min (min doubled f.sizes.scaled) f.sizes.greatest
  return { f with total, size, frame := Filler.drawn draw size }

/-- Sends frames: the frames, and the filler behind them. -/
def send? (sizes : FillerSizes) (draws : Nat → Nat → Fin Filler.letters.length) :
    Nat → Option (List (List UInt8) × LoadedFiller)
  | 0 => some ([], new sizes (draws 0))
  | n + 1 => do
    let (frames, f) ← send? sizes draws n
    let next ← f.sent? (draws (n + 1))
    return (frames ++ [f.frame], next)

end LoadedFiller

end LinkGauge
