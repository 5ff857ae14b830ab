import EventAutomata.Graph.Edit

/-!
# Planned callbacks

Whoever sets a callback names signals by the slots they are kept in, and says how
often each effect is to act. When the callback is set the signals are copied out
of their slots and meters are made; later changes to the slots do not reach it.
Raising a signal with fixed arguments acts once unless another number is given.
Every other effect acts without end unless a number is given.
-/

namespace EventAutomata

inductive PlannedEffect (α : Type)
  | log (tag : String) (times : Option Nat)
  | raise (slot : Nat) (args : List α) (times : Nat)
  | raiseRest (slot : Nat) (times : Option Nat)
  | panic (text : String) (times : Option Nat)
  deriving DecidableEq, Repr

abbrev Plan (α : Type) := List (PlannedEffect α)

variable {α : Type}

def Hub.meterFor (h : Hub α) : Option Nat → Option MeterId × Hub α
  | none => (none, h)
  | some times =>
    let (m, h) := h.newMeter times
    (some m, h)

/-- The effect, with its signal and its meter; none if the slot is empty. -/
def PlannedEffect.install? (slots : Array FireSignal) (h : Hub α) :
    PlannedEffect α → Option (Effect α × Hub α)
  | .log tag times =>
    let (m, h) := h.meterFor times
    some (.log tag m, h)
  | .raise slot args times =>
    (slots[slot]?).map fun signal =>
      let (m, h) := h.newMeter times
      (.raise signal args m, h)
  | .raiseRest slot times =>
    (slots[slot]?).map fun signal =>
      let (m, h) := h.meterFor times
      (.raiseRest signal m, h)
  | .panic text times =>
    let (m, h) := h.meterFor times
    some (.panic text m, h)

def Plan.install? (plan : Plan α) (slots : Array FireSignal) (h : Hub α) :
    Option (Script α × Hub α) :=
  match plan with
  | [] => some ([], h)
  | e :: rest =>
    match e.install? slots h with
    | none => none
    | some (effect, h) => (install? rest slots h).map fun (script, h) => (effect :: script, h)

def Graph.Setting.install? (slots : Array FireSignal) (h : Hub α) :
    Graph.Setting (Plan α) α → Option (Graph.Setting (Script α) α × Hub α)
  | .terminal s value => some (.terminal s value, h)
  | .onEntry s plan => (plan.install? slots h).map fun (script, h) => (.onEntry s script, h)
  | .onExit s plan => (plan.install? slots h).map fun (script, h) => (.onExit s script, h)
  | .onTransit t plan => (plan.install? slots h).map fun (script, h) => (.onTransit t script, h)
  | .guard t g => some (.guard t g, h)

end EventAutomata
