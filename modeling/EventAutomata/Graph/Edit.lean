import EventAutomata.Answer

/-!
# Changing a graph

The structure of a graph is changed by edits: nodes are added, transitions
attached and removed. What a node is like beyond that is a setting: whether a
state is terminal, callbacks, guards. A setting of a node that does not exist has
no effect.
-/

namespace EventAutomata

namespace Graph

inductive Edit (σ : Type)
  | addState (data : σ)
  | addTransition (kind : TransitionKind) (target : StateId)
  | attach (s : StateId) (t : TransitionId)
  | remove (s : StateId) (t : TransitionId)
  | attachEpsilon (s : StateId) (t : TransitionId)
  | removeEpsilon (s : StateId) (t : TransitionId)

/-- A setting of a node, with callbacks of type `χ`. -/
inductive Setting (χ α : Type)
  | terminal (s : StateId) (value : Bool)
  | onEntry (s : StateId) (callback : χ)
  | onExit (s : StateId) (callback : χ)
  | onTransit (t : TransitionId) (callback : χ)
  | guard (t : TransitionId) (guard : Guard α)

variable {σ α χ : Type}

/-- What was asked for, if it was possible, and otherwise what there was. -/
def accepted {β : Type} (old : β) : Option β → Answer × β
  | some new => (.flag true, new)
  | none => (.flag false, old)

def acceptedUnless {β : Type} (old : β) : Except Misuse (Option β) → Answer × β
  | .ok new? => accepted old new?
  | .error problem => (.misuse problem, old)

def edit [Payload σ] (g : Graph σ α) : Edit σ → Answer × Graph σ α
  | .addState data =>
    let (s, g) := g.addState data
    (.state s, g)
  | .addTransition kind target =>
    match g.addTransition kind target with
    | .ok (t, g) => (.transition t, g)
    | .error problem => (.misuse problem, g)
  | .attach s t => accepted g (g.attach? s t)
  | .remove s t => accepted g (g.remove? s t)
  | .attachEpsilon s t => acceptedUnless g (g.attachEpsilon? s t)
  | .removeEpsilon s t => acceptedUnless g (g.removeEpsilon? s t)

def changeState (g : Graph σ α) (s : StateId) (f : StateNode σ α → StateNode σ α) :
    Answer × Graph σ α :=
  match g.state? s with
  | none => (.nothing, g)
  | some node => (.flag true, g.setState s (f node))

def changeTransition (g : Graph σ α) (t : TransitionId)
    (f : TransitionNode α → Except Misuse (TransitionNode α)) : Answer × Graph σ α :=
  match g.transition? t with
  | none => (.nothing, g)
  | some edge =>
    match f edge with
    | .ok edge => (.flag true, g.setTransition t edge)
    | .error problem => (.misuse problem, g)

def configure (g : Graph σ α) : Setting (Script α) α → Answer × Graph σ α
  | .terminal s value => g.changeState s fun n => { n with isTerminal := value }
  | .onEntry s script => g.changeState s fun n => { n with onEntry := some script }
  | .onExit s script => g.changeState s fun n => { n with onExit := some script }
  | .onTransit t script => g.changeTransition t fun n => .ok { n with onTransit := some script }
  | .guard t guard => g.changeTransition t fun n => n.setGuard guard

def hasSubject (g : Graph σ α) : Setting χ α → Bool
  | .terminal s _ | .onEntry s _ | .onExit s _ => g.hasState s
  | .onTransit t _ | .guard t _ => (g.transition? t).isSome

end Graph

end EventAutomata
