/-!
# Bounded channels

A channel hands values from its writers to one reader in order. A full channel
makes a writer wait; a channel whose reader has left takes no value and makes
nobody wait. The reader sees the end once every writer has hung up and the queue
is empty.
-/

namespace LinkGauge

/-- A bounded queue between writers and one reader. -/
structure Channel (α : Type) where
  capacity : Nat := 1
  /-- The values on their way, oldest first. -/
  queue : List α := []
  /-- How many writers have not hung up. -/
  writers : Nat := 1
  /-- Whether the reader is still there. -/
  reading : Bool := true

/-- What happened to a value that was sent. -/
inductive Delivery where
  /-- It is in the queue. -/
  | accepted
  /-- The reader has left and the value is lost. -/
  | gone
  deriving DecidableEq, Repr

namespace Channel

variable {α : Type}

/-- Whether the reader has seen everything there will ever be. -/
def ended (c : Channel α) : Bool := c.queue.isEmpty && c.writers == 0

/-- Whether a value can be sent without waiting. -/
def ready (c : Channel α) : Bool := !c.reading || c.queue.length < c.capacity

/-- Sends a value; `none` while the channel is full. -/
def send? (c : Channel α) (value : α) : Option (Delivery × Channel α) :=
  if !c.reading then some (.gone, c)
  else if c.queue.length < c.capacity then
    some (.accepted, { c with queue := c.queue ++ [value] })
  else none

/-- Takes the oldest value; `none` while the queue is empty. -/
def take? (c : Channel α) : Option (α × Channel α) :=
  match c.queue with
  | [] => none
  | value :: rest => some (value, { c with queue := rest })

/-- One writer hangs up. -/
def hangUp (c : Channel α) : Channel α := { c with writers := c.writers - 1 }

/-- The reader leaves; what was on its way is lost. -/
def stopReading (c : Channel α) : Channel α := { c with reading := false, queue := [] }

end Channel

end LinkGauge
