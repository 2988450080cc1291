import LinkGauge.Channel
import LinkGauge.Time

/-!
# Parts of a rehearsal

A rehearsal runs one stage among scripted neighbours: a feeder that sends values at
given times, a consumer that takes values and rests after each, and events that
happen at given times.
-/

namespace LinkGauge.Rehearsal

/-- Sends values in order, each when its time has come and there is room, and then
hangs up. -/
structure Feeder (α : Type) where
  entries : List (Nanos × α)
  closeAt : Nanos
  /-- When each value was accepted, newest first. -/
  accepted : List Nanos := []
  closed : Bool := false

namespace Feeder

variable {α : Type}

/-- The next step, if one is possible. -/
def step? (f : Feeder α) (now : Nanos) (c : Channel α) : Option (Feeder α × Channel α) :=
  match f.entries with
  | (time, value) :: rest =>
    if time ≤ now then
      (c.send? value).map fun (_, c) =>
        ({ f with entries := rest, accepted := now :: f.accepted }, c)
    else none
  | [] =>
    if !f.closed && f.closeAt ≤ now then some ({ f with closed := true }, c.hangUp) else none

/-- The moments at which the feeder may go on. -/
def alarms (f : Feeder α) : List Nanos :=
  match f.entries with
  | (time, _) :: _ => [time]
  | [] => if f.closed then [] else [f.closeAt]

end Feeder

/-- Takes values in order and rests after each; it may leave after a number of them. -/
structure Consumer (α : Type) where
  rests : List Nanos := []
  leaveAfter : Option Nat := none
  /-- Until when it rests. -/
  restsUntil : Nanos := 0
  /-- What it took and when, newest first. -/
  taken : List (Nanos × α) := []
  /-- When it left or saw the end. -/
  ended : Option Nanos := none

namespace Consumer

variable {α : Type}

/-- The next step, if one is possible. -/
def step? (k : Consumer α) (now : Nanos) (c : Channel α) : Option (Consumer α × Channel α) :=
  if k.ended.isSome || now < k.restsUntil then none
  else if k.leaveAfter.any (· ≤ k.taken.length) then
    some ({ k with ended := some now }, c.stopReading)
  else
    match c.take? with
    | some (value, c) =>
      some
        ({ k with
            taken := (now, value) :: k.taken
            restsUntil := now + k.rests.headD 0
            rests := k.rests.tail },
          c)
    | none => if c.ended then some ({ k with ended := some now }, c) else none

/-- The moments at which the consumer may go on. -/
def alarms (k : Consumer α) : List Nanos := if k.ended.isSome then [] else [k.restsUntil]

end Consumer

/-- Events with their times, earliest first. -/
abbrev Timeline (ε : Type) := List (Nanos × ε)

namespace Timeline

variable {ε : Type}

/-- Sorts events by their times, keeping the order of those with one time. -/
def ofList (events : List (Nanos × ε)) : Timeline ε :=
  events.mergeSort fun a b => a.1 ≤ b.1

/-- The next event, if its time has come. -/
def next? (t : Timeline ε) (now : Nanos) : Option (ε × Timeline ε) :=
  match t with
  | (time, event) :: rest => if time ≤ now then some (event, rest) else none
  | [] => none

/-- The time of the next event. -/
def alarms (t : Timeline ε) : List Nanos := (t.head?.map (·.1)).toList

end Timeline

/-- What happens to a connection from outside. -/
inductive ConnectionEvent where
  | close
  | peerClose
  deriving DecidableEq, Repr

end LinkGauge.Rehearsal
