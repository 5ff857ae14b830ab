import EventAutomata.Automaton.Integrity

/-!
# Answers

What a request to a graph or to an automaton is answered with. An answer holds
values of the library; how they are written down is up to whoever asked.
-/

namespace EventAutomata

structure StateInfo where
  name : String
  data : Description
  isTerminal : Bool
  outgoing : HandleSet .transition

structure TransitionInfo where
  id : TransitionId
  target : StateId
  kind : TransitionKind
  isGuarded : Bool
  deriving DecidableEq

inductive Answer
  /-- There is nothing to say, or nothing of that name. -/
  | nothing
  | flag (value : Bool)
  | number (n : Nat)
  | text (s : String)
  | state (s : StateId)
  | transition (t : TransitionId)
  /-- A signal was put in a slot. -/
  | slot (index : Nat)
  | states (list : List StateId)
  | transitions (list : List TransitionId)
  | counts (states transitions : Nat)
  | stateInfo (info : StateInfo)
  | transitionInfo (info : TransitionInfo)
  | subscription (id : SubscriptionId)
  /-- A signal's transition, and the signal described. -/
  | signal (t : TransitionId) (description : String)
  | history (history : History)
  | report (report : TeardownReport)
  | violations (list : List Violation)
  | config (config : AutomatonConfig)
  /-- No request waits to be delivered. -/
  | pending
  | misuse (problem : Misuse)
  | fault (fault : Fault)
  /-- The automaton that was addressed is gone. -/
  | noMachine
  /-- The request names a slot or a place for an automaton that there is not. -/
  | invalid

namespace Answer

def ofMisuse {α : Type} (answer : α → Answer) : Except Misuse α → Answer
  | .ok a => answer a
  | .error problem => .misuse problem

def ofFault {α : Type} (answer : α → Answer) : Except Fault α → Answer
  | .ok a => answer a
  | .error f => .fault f

def ofOption {α : Type} (answer : α → Answer) : Option α → Answer
  | some a => answer a
  | none => .nothing

end Answer

end EventAutomata
