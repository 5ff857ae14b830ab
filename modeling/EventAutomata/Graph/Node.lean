import EventAutomata.Payload
import EventAutomata.Script

/-!
# States and transitions

A state carries a payload and holds the set of transitions that leave it. A
transition knows where it leads. Where it starts is known to the state that
holds it; the transition itself only remembers an owner, so that it is held by
one state at a time.

Both can have callbacks. An input transition can have a guard; an epsilon
transition takes no arguments that a guard could look at, and cannot.
-/

namespace EventAutomata

inductive TransitionKind
  | input
  | epsilon
  deriving DecidableEq, Repr

structure StateNode (σ α : Type) where
  data : σ
  isTerminal : Bool
  onEntry : Option (Script α) := none
  onExit : Option (Script α) := none
  outgoing : HandleSet .transition := ∅

structure TransitionNode (α : Type) where
  id : TransitionId
  target : StateId
  kind : TransitionKind
  guard : Option (Guard α) := none
  onTransit : Option (Script α) := none
  owner : Option StateId := none

variable {σ α : Type}

namespace StateNode

def ofData [Payload σ] (data : σ) : StateNode σ α := { data, isTerminal := Payload.isFinal data }

/-- A state that carries a payload of no meaning. -/
def blank [Payload σ] [Inhabited σ] : StateNode σ α := ofData default

def name [Payload σ] (n : StateNode σ α) : String := Payload.name n.data

instance [Payload σ] : Describe (StateNode σ α) :=
  ⟨fun n => .record "StateNode"
    [("data", describe n.data), ("is_terminal", describe n.isTerminal),
     ("has_entry_action", describe n.onEntry.isSome),
     ("has_exit_action", describe n.onExit.isSome), ("transitions", describe n.outgoing)]⟩

end StateNode

instance : Describe TransitionKind :=
  ⟨fun
    | .input => .word "Input"
    | .epsilon => .word "Epsilon"⟩

namespace TransitionNode

/-- An input transition to the first state, under the name of the first transition. -/
def blank : TransitionNode α := { id := ⟨0⟩, target := ⟨0⟩, kind := .input }

def isEpsilon (n : TransitionNode α) : Bool := n.kind == .epsilon

def setGuard (n : TransitionNode α) (guard : Guard α) : Except Misuse (TransitionNode α) :=
  if n.isEpsilon then .error (.guardOnEpsilon n.id) else .ok { n with guard := some guard }

instance : Describe (TransitionNode α) :=
  ⟨fun n => .record "TransitionNode"
    [("id", describe n.id), ("target", describe n.target), ("kind", describe n.kind),
     ("has_guard", describe n.guard.isSome), ("has_action", describe n.onTransit.isSome),
     ("owner", describe n.owner)]⟩

end TransitionNode

end EventAutomata
