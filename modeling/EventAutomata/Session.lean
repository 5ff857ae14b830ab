import EventAutomata.Automaton.Call
import EventAutomata.Session.Plan

/-!
# Sessions

A session has numbered places for automata, numbered slots for signals, and the
hub that its automata share. A place is never used up: an automaton can be
dropped from it and another be made there. The new one has a channel of its own,
so signals of the old one do not reach it, wherever they are kept.

A slot outlives the automaton whose signal it holds.
-/

namespace EventAutomata

/-- Automata, signals, and what they share. A dropped automaton leaves `none`. -/
structure Session (σ α : Type) where
  machines : Array (Option (Automaton σ α)) := #[]
  slots : Array FireSignal := #[]
  hub : Hub α := {}

namespace Session

variable {σ α : Type}

instance : EmptyCollection (Session σ α) := ⟨{}⟩

inductive Step (σ α : Type)
  /-- Makes an automaton, in the place of the one addressed or in the next free place. -/
  | create (config : AutomatonConfig)
  | drop
  | call (call : Automaton.Call σ α)
  | configure (setting : Graph.Setting (Plan α) α)
  /-- Puts a signal for a transition in a new slot. -/
  | signal (t : TransitionId)
  | raise (slot : Nat) (args : List α)
  | copySignal (slot : Nat)
  | describeSignal (slot : Nat) (spread : Bool)
  /-- Exchanges a state with one of another automaton, or of the same. A state that
  is exchanged with itself is taken out, and a blank one is left in its place. -/
  | swapStates (a b : StateId) (other : Nat)
  /-- Exchanges a transition with one of another automaton, or of the same. One that
  is exchanged with itself is taken out, and a blank one is left in its place. -/
  | swapTransitions (a b : TransitionId) (other : Nat)

def machine? (x : Session σ α) (m : Nat) : Option (Automaton σ α) := (x.machines[m]?).join

def setMachine (x : Session σ α) (m : Nat) (a : Option (Automaton σ α)) : Session σ α :=
  { x with machines := x.machines.setIfInBounds m a }

def addSlot (x : Session σ α) (signal : FireSignal) : Answer × Session σ α :=
  (.slot x.slots.size, { x with slots := x.slots.push signal })

def dropMachine (x : Session σ α) (m : Nat) : Bool × Session σ α :=
  match x.machine? m with
  | none => (false, x)
  | some a => (true, { x.setMachine m none with hub := x.hub.close a.channel })

def create (x : Session σ α) (m : Nat) (config : AutomatonConfig) : Answer × Session σ α :=
  if m < x.machines.size then
    let (_, x) := x.dropMachine m
    let (a, hub) := Automaton.create config x.hub
    (.flag true, { x.setMachine m (some a) with hub })
  else if m = x.machines.size then
    let (a, hub) := Automaton.create config x.hub
    (.flag true, { x with machines := x.machines.push (some a), hub })
  else (.invalid, x)

def withMachine (x : Session σ α) (m : Nat) (f : Automaton σ α → Answer × Session σ α) :
    Answer × Session σ α :=
  match x.machine? m with
  | none => (.noMachine, x)
  | some a => f a

def withSlot (x : Session σ α) (slot : Nat) (f : FireSignal → Answer × Session σ α) :
    Answer × Session σ α :=
  match x.slots[slot]? with
  | none => (.invalid, x)
  | some signal => f signal

variable [Payload σ]

def call (x : Session σ α) (m : Nat) (c : Automaton.Call σ α) : Answer × Session σ α :=
  x.withMachine m fun a =>
    let (answer, a, hub) := a.call x.hub c
    (answer, { x.setMachine m (some a) with hub })

def configure (x : Session σ α) (m : Nat) (setting : Graph.Setting (Plan α) α) :
    Answer × Session σ α :=
  x.withMachine m fun a =>
    if a.graph.hasSubject setting then
      match setting.install? x.slots x.hub with
      | none => (.invalid, x)
      | some (setting, hub) =>
        let (answer, a) := a.configure setting
        (answer, { x.setMachine m (some a) with hub })
    else (.nothing, x)

omit [Payload σ] in
def describeSignal (x : Session σ α) (signal : FireSignal) : Description :=
  .record "FireSignal"
    [("transition", describe signal.transition),
     ("closed", describe (!x.hub.isOpen signal.channel))]

/-- Exchanges nodes, with `inside` for one graph and `between` for two. Answers
whether both were there. -/
def exchange (x : Session σ α) (m other : Nat) (inside : Graph σ α → Option (Graph σ α))
    (between : Graph σ α → Graph σ α → Option (Graph σ α × Graph σ α)) : Answer × Session σ α :=
  x.withMachine m fun a =>
    if m = other then
      match inside a.graph with
      | none => (.flag false, x)
      | some graph => (.flag true, x.setMachine m (some { a with graph }))
    else
      match x.machine? other with
      | none => (.flag false, x)
      | some b =>
        match between a.graph b.graph with
        | none => (.flag false, x)
        | some (g, h) =>
          (.flag true,
            (x.setMachine m (some { a with graph := g })).setMachine other
              (some { b with graph := h }))

def perform [Inhabited σ] (x : Session σ α) (m : Nat) : Step σ α → Answer × Session σ α
  | .create config => x.create m config
  | .drop =>
    let (dropped, x) := x.dropMachine m
    (.flag dropped, x)
  | .call c => x.call m c
  | .configure setting => x.configure m setting
  | .signal t =>
    x.withMachine m fun a =>
      match a.signal? t with
      | none => (.nothing, x)
      | some signal => x.addSlot signal
  | .raise slot args =>
    x.withSlot slot fun signal =>
      let (result, hub) := x.hub.raise signal args
      (.ofMisuse (fun _ => .flag true) result, { x with hub })
  | .copySignal slot => x.withSlot slot x.addSlot
  | .describeSignal slot spread =>
    x.withSlot slot fun signal =>
      (.signal signal.transition ((x.describeSignal signal).render spread), x)
  | .swapStates s u other =>
    x.exchange m other (fun g => if s = u then g.blankState? s else g.swapStates? s u)
      (·.tradeStates? · s u)
  | .swapTransitions t u other =>
    x.exchange m other (fun g => if t = u then g.blankTransition? t else g.swapTransitions? t u)
      (·.tradeTransitions? · t u)

def run [Inhabited σ] (x : Session σ α) : List (Nat × Step σ α) → Session σ α
  | [] => x
  | (m, step) :: rest =>
    let (_, x) := x.perform m step
    run x rest

end Session

end EventAutomata
