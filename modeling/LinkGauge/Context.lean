import LinkGauge.Time

/-!
# Contexts

A context bounds what is done under it by a deadline and can be cancelled. Contexts form
trees.
-/

namespace LinkGauge

/-!
## Contexts

A context bounds an activity: it is done at its deadline, or when it is cancelled.
Being done never reverts.
-/

/-- A deadline together with whether the context has been cancelled. -/
structure Context where
  deadline : Nanos
  cancelled : Bool := false
  deriving DecidableEq, Repr

namespace Context

/-- Whether the context is done. -/
def isDone (c : Context) (now : Nanos) : Bool := c.cancelled || c.deadline ≤ now

/-- The context that also ends after `timeout`. -/
def child (c : Context) (now timeout : Nanos) : Context :=
  { c with deadline := min c.deadline (now + timeout) }

/-- The cancelled context. -/
def cancel (c : Context) : Context := { c with cancelled := true }

end Context

/-!
## Trees of contexts

A context may have children, whose deadlines are never later than its own and which
are cancelled with it. Cancelling goes through a handle, or through a guard that was
made from one and cancels when it is dropped. A context is made with one handle, and
handles may be copied; a copy of a context is the same context. A child never affects
its parent.
-/

/-- A context in a tree. -/
structure ContextNode where
  context : Context
  /-- The context itself and all it descends from. -/
  line : List Nat
  /-- How many handles there are. -/
  handles : Nat := 1
  /-- How many guards there are. -/
  guards : Nat := 0

namespace ContextNode

/-- Makes one handle more from a handle. -/
def copyHandle (n : ContextNode) : ContextNode :=
  if n.handles = 0 then n else { n with handles := n.handles + 1 }

/-- Makes a guard from a handle, which is used up. -/
def guardHandle (n : ContextNode) : ContextNode :=
  if n.handles = 0 then n else { n with handles := n.handles - 1, guards := n.guards + 1 }

/-- Drops a handle, which cancels nothing. -/
def dropHandle (n : ContextNode) : ContextNode := { n with handles := n.handles - 1 }

/-- Forgets a guard. -/
def forgetGuard (n : ContextNode) : ContextNode := { n with guards := n.guards - 1 }

end ContextNode

/-- Contexts by their numbers, which count from zero, and the clock. -/
structure ContextTree where
  now : Nanos := 0
  nodes : List ContextNode := []

namespace ContextTree

/-- Something done to the contexts of a tree. -/
inductive Operation where
  /-- Makes a context without a parent. -/
  | root (timeout : Nanos)
  | child (parent : Nat) (timeout : Nanos)
  | copyHandle (id : Nat)
  /-- Cancels through a handle. -/
  | cancel (id : Nat)
  /-- Makes a guard from a handle, which is used up. -/
  | guardHandle (id : Nat)
  /-- Drops an earlier guard, and makes a new one from the copy of a handle if there is one. -/
  | guard (id : Nat)
  | dropGuard (id : Nat)
  | dropHandle (id : Nat)
  | advance (span : Nanos)
  deriving DecidableEq, Repr

/-- Adds a context. -/
def add (t : ContextTree) (node : ContextNode) : ContextTree :=
  { t with nodes := t.nodes ++ [node] }

/-- Cancels a context and everything that descends from it. -/
def cancelLine (t : ContextTree) (id : Nat) : ContextTree :=
  { t with
    nodes := t.nodes.map fun node =>
      if node.line.contains id then { node with context := node.context.cancel } else node }

/-- Changes one context. -/
def change (t : ContextTree) (id : Nat) (f : ContextNode → ContextNode) : ContextTree :=
  { t with nodes := t.nodes.modify id f }

/-- Drops a guard of a context, if there is one. -/
def releaseGuard (t : ContextTree) (id : Nat) : ContextTree :=
  if (t.nodes[id]?).any (0 < ·.guards) then (t.cancelLine id).change id .forgetGuard else t

/-- The tree after an operation. -/
def apply (t : ContextTree) : Operation → ContextTree
  | .root timeout =>
    t.add { context := ⟨t.now + timeout, false⟩, line := [t.nodes.length] }
  | .child parent timeout =>
    match t.nodes[parent]? with
    | some node =>
      t.add
        { context := node.context.child t.now timeout, line := t.nodes.length :: node.line }
    | none => t
  | .copyHandle id => t.change id .copyHandle
  | .cancel id => if (t.nodes[id]?).any (0 < ·.handles) then t.cancelLine id else t
  | .guardHandle id => t.change id .guardHandle
  | .guard id => ((t.releaseGuard id).change id .copyHandle).change id .guardHandle
  | .dropGuard id => t.releaseGuard id
  | .dropHandle id => t.change id .dropHandle
  | .advance span => { t with now := t.now + span }

/-- The contexts in the order of their numbers. -/
def contexts (t : ContextTree) : List Context := t.nodes.map (·.context)

end ContextTree

end LinkGauge
