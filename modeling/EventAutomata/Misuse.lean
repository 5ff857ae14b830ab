import EventAutomata.Description

/-!
# Misuse

What a caller can get wrong: a handle that names nothing, an input transition
where an epsilon transition is called for, a guard where none may be, a signal
whose automaton is gone. A conflict between valid handles, such as attaching a
transition twice, is no misuse; it is answered with `false`.
-/

namespace EventAutomata

inductive Misuse
  | unknownState (state : StateId)
  | unknownTransition (transition : TransitionId)
  | notEpsilon (transition : TransitionId)
  | guardOnEpsilon (transition : TransitionId)
  | signalClosed (transition : TransitionId)
  deriving DecidableEq, Repr

namespace Misuse

def name : Misuse → String
  | .unknownState _ => "UnknownState"
  | .unknownTransition _ => "UnknownTransition"
  | .notEpsilon _ => "NotEpsilon"
  | .guardOnEpsilon _ => "GuardOnEpsilon"
  | .signalClosed _ => "SignalClosed"

def message : Misuse → String
  | .unknownState s => "State " ++ s.label ++ " does not exist in this graph"
  | .unknownTransition t => "Transition " ++ t.label ++ " does not exist in this graph"
  | .notEpsilon t => "Transition " ++ t.label ++ " is not an epsilon transition"
  | .guardOnEpsilon t =>
    "Transition " ++ t.label ++ " is an epsilon transition and cannot carry a guard"
  | .signalClosed t => "Fire signal for transition " ++ t.label ++ " outlived its automaton"

def subject : Misuse → Description
  | .unknownState s => describe s
  | .unknownTransition t | .notEpsilon t | .guardOnEpsilon t | .signalClosed t => describe t

instance : Describe Misuse := ⟨fun m => .tuple m.name [m.subject]⟩

end Misuse

end EventAutomata
