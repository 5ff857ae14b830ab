import EventAutomata.Graph.Node

/-!
# State graphs

A graph keeps its states and its transitions in two arenas. A node is named by
its place, and no node is ever taken out, so a handle keeps its meaning. Making a
transition does not attach it to a state; attaching enters it in the set of one
state and enters that state as its owner.

Structural conflicts answer `none`: an unknown handle, a transition that has an
owner, one that the state does not hold. Misuse is an error: a target that does
not exist, an input transition where an epsilon transition is called for.

Nodes can also be exchanged whole, within a graph or between two. Nothing is
adjusted then. A node that was moved may hold or lead to what its new graph does
not have, and an owner may name a state that does not hold the transition.
-/

namespace EventAutomata

structure Graph (σ α : Type) where
  states : Array (StateNode σ α) := #[]
  transitions : Array (TransitionNode α) := #[]

namespace Graph

variable {σ α : Type}

instance : EmptyCollection (Graph σ α) := ⟨{}⟩

instance : Inhabited (Graph σ α) := ⟨∅⟩

def state? (g : Graph σ α) (s : StateId) : Option (StateNode σ α) := g.states[s.index]?

def transition? (g : Graph σ α) (t : TransitionId) : Option (TransitionNode α) :=
  g.transitions[t.index]?

def hasState (g : Graph σ α) (s : StateId) : Bool := (g.state? s).isSome

def ownerOf (g : Graph σ α) (t : TransitionId) : Option StateId :=
  (g.transition? t).bind TransitionNode.owner

def setState (g : Graph σ α) (s : StateId) (n : StateNode σ α) : Graph σ α :=
  { g with states := g.states.setIfInBounds s.index n }

def setTransition (g : Graph σ α) (t : TransitionId) (n : TransitionNode α) : Graph σ α :=
  { g with transitions := g.transitions.setIfInBounds t.index n }

-- ---------------------------------------------------------------------------
-- Growing
-- ---------------------------------------------------------------------------

def addState [Payload σ] (g : Graph σ α) (data : σ) : StateId × Graph σ α :=
  (⟨g.states.size⟩, { g with states := g.states.push (.ofData data) })

def addTransition (g : Graph σ α) (kind : TransitionKind) (target : StateId) :
    Except Misuse (TransitionId × Graph σ α) :=
  if g.hasState target then
    let id : TransitionId := ⟨g.transitions.size⟩
    .ok (id, { g with transitions := g.transitions.push { id, target, kind } })
  else .error (.unknownState target)

-- ---------------------------------------------------------------------------
-- Attaching
-- ---------------------------------------------------------------------------

/-- Attaches a transition without an owner to a state that does not hold it. -/
def attach? (g : Graph σ α) (s : StateId) (t : TransitionId) : Option (Graph σ α) :=
  match g.state? s, g.transition? t with
  | some node, some edge =>
    if edge.owner = none ∧ ¬ t ∈ node.outgoing then
      some ((g.setState s { node with outgoing := node.outgoing.insert t }).setTransition t
        { edge with owner := some s })
    else none
  | _, _ => none

/-- Takes a transition from a state that holds it. The transition, if it exists,
is left without an owner. -/
def remove? (g : Graph σ α) (s : StateId) (t : TransitionId) : Option (Graph σ α) :=
  match g.state? s with
  | none => none
  | some node =>
    if t ∈ node.outgoing then
      let g := g.setState s { node with outgoing := node.outgoing.erase t }
      match g.transition? t with
      | none => some g
      | some edge => some (g.setTransition t { edge with owner := none })
    else none

def ensureEpsilon (g : Graph σ α) (t : TransitionId) : Except Misuse Unit :=
  match g.transition? t with
  | none => .error (.unknownTransition t)
  | some edge => if edge.isEpsilon then .ok () else .error (.notEpsilon t)

def attachEpsilon? (g : Graph σ α) (s : StateId) (t : TransitionId) :
    Except Misuse (Option (Graph σ α)) :=
  (g.ensureEpsilon t).map fun _ => g.attach? s t

def removeEpsilon? (g : Graph σ α) (s : StateId) (t : TransitionId) :
    Except Misuse (Option (Graph σ α)) :=
  (g.ensureEpsilon t).map fun _ => g.remove? s t

-- ---------------------------------------------------------------------------
-- Exchanging whole nodes
-- ---------------------------------------------------------------------------

def swapStates? (g : Graph σ α) (a b : StateId) : Option (Graph σ α) :=
  match g.state? a, g.state? b with
  | some m, some n => some ((g.setState a n).setState b m)
  | _, _ => none

def swapTransitions? (g : Graph σ α) (a b : TransitionId) : Option (Graph σ α) :=
  match g.transition? a, g.transition? b with
  | some m, some n => some ((g.setTransition a n).setTransition b m)
  | _, _ => none

def tradeStates? (g h : Graph σ α) (a b : StateId) : Option (Graph σ α × Graph σ α) :=
  match g.state? a, h.state? b with
  | some m, some n => some (g.setState a n, h.setState b m)
  | _, _ => none

def tradeTransitions? (g h : Graph σ α) (a b : TransitionId) : Option (Graph σ α × Graph σ α) :=
  match g.transition? a, h.transition? b with
  | some m, some n => some (g.setTransition a n, h.setTransition b m)
  | _, _ => none

/-- Takes a state out and leaves a blank one in its place. -/
def blankState? [Payload σ] [Inhabited σ] (g : Graph σ α) (s : StateId) : Option (Graph σ α) :=
  (g.state? s).map fun _ => g.setState s .blank

def blankTransition? (g : Graph σ α) (t : TransitionId) : Option (Graph σ α) :=
  (g.transition? t).map fun _ => g.setTransition t .blank

-- ---------------------------------------------------------------------------
-- Views of what the operations do
-- ---------------------------------------------------------------------------

theorem state?_setState (g : Graph σ α) (s x : StateId) (n : StateNode σ α) :
    (g.setState s n).state? x =
      if s = x then (if g.hasState s then some n else none) else g.state? x := by
  simp only [state?, setState, hasState, Array.getElem?_setIfInBounds, Handle.ext_iff]
  by_cases hx : s.index = x.index
  · rw [if_pos hx, if_pos hx]
    simp
  · rw [if_neg hx, if_neg hx]

@[simp] theorem transition?_setState (g : Graph σ α) (s : StateId) (n : StateNode σ α)
    (t : TransitionId) : (g.setState s n).transition? t = g.transition? t := rfl

theorem transition?_setTransition (g : Graph σ α) (t x : TransitionId) (n : TransitionNode α) :
    (g.setTransition t n).transition? x =
      if t = x then (if (g.transition? t).isSome then some n else none) else g.transition? x := by
  simp only [transition?, setTransition, Array.getElem?_setIfInBounds, Handle.ext_iff]
  by_cases hx : t.index = x.index
  · rw [if_pos hx, if_pos hx]
    simp
  · rw [if_neg hx, if_neg hx]

@[simp] theorem state?_setTransition (g : Graph σ α) (t : TransitionId) (n : TransitionNode α)
    (s : StateId) : (g.setTransition t n).state? s = g.state? s := rfl

@[simp] theorem size_states_setState (g : Graph σ α) (s : StateId) (n : StateNode σ α) :
    (g.setState s n).states.size = g.states.size := by simp [setState]

theorem hasState_iff (g : Graph σ α) (s : StateId) : g.hasState s = true ↔ s.index < g.states.size := by
  simp [hasState, state?]

instance [Payload σ] : Describe (Graph σ α) :=
  ⟨fun g => .record "Graph"
    [("states", describe g.states.toList), ("transitions", describe g.transitions.toList)]⟩

end Graph

end EventAutomata
