import EventAutomata.Proofs.Alike.Sessions

/-!
# What the machines of a session have completed

For every place there is a log of the trips that its machine has completed since it was made.
It follows the moves of the session: a new machine starts with an empty log, a call adds what
it completes, however it ends, and nothing else touches it. The history of the machine keeps as
much of the log as the configuration says (`keeps_tripsAt`).
-/

namespace EventAutomata

open Automaton
open Relation (ReflTransGen)

namespace Session

variable {σ α : Type} [Payload σ] {x : Session σ α} {m k : Nat} {b : Automaton σ α}
  {log : List Trip}

/-- The log of place `k` after a step about place `m`. -/
def logAfter (x : Session σ α) (m k : Nat) (log : List Trip) (step : Step σ α) : List Trip :=
  if k = m then
    match step with
    | .create _ => []
    | .call c => log ++ ((x.machine? m).map (·.completed x.hub c)).getD []
    | _ => log
  else log

def logOver [Inhabited σ] (x : Session σ α) (k : Nat) (log : List Trip) :
    List (Move σ α) → List Trip
  | [] => log
  | mv :: rest =>
    (x.move mv).2.logOver k ((x.atTime mv.time).logAfter mv.place k log mv.step) rest

/-- The trips that the machine in a place has completed, in a session with these moves. -/
def tripsAt [Inhabited σ] (k : Nat) (mvs : List (Move σ α)) : List Trip :=
  (∅ : Session σ α).logOver k [] mvs

-- ---------------------------------------------------------------------------
-- One step
-- ---------------------------------------------------------------------------

/-- What the machine in place `k` has become of by a step about place `m`. -/
inductive Became (x : Session σ α) (m k : Nat) : Step σ α → Automaton σ α → Prop
  | created (config : AutomatonConfig) (hub : Hub α) :
      k = m → Became x m k (.create config) (Automaton.create config hub).1
  | called {a : Automaton σ α} (c : Automaton.Call σ α) :
      k = m → x.machine? k = some a → Became x m k (.call c) (a.call x.hub c).2.1
  | kept {a : Automaton σ α} (step : Step σ α) (graph : Graph σ α) :
      x.machine? k = some a → (k = m → ∀ log, x.logAfter m k log step = log) →
      Became x m k step { a with graph }

theorem became_create {config : AutomatonConfig} (hb : (x.create m config).2.machine? k = some b) :
    x.Became m k (.create config) b := by
  rcases machine?_create hb with ⟨hk, hub, rfl⟩ | ⟨hk, hb⟩
  · exact .created config hub hk
  · exact .kept _ b.graph hb fun heq => absurd heq hk

theorem became_call {c : Automaton.Call σ α} (hb : (x.call m c).2.machine? k = some b) :
    x.Became m k (.call c) b := by
  unfold call withMachine at hb
  split at hb
  next hnone =>
    refine .kept _ b.graph hb ?_
    rintro rfl
    rw [hnone] at hb
    cases hb
  next a ha =>
    rcases machine?_setMachine hb with ⟨rfl, hmade⟩ | ⟨hk, hb⟩
    · cases hmade
      exact .called c rfl ha
    · exact .kept _ b.graph hb fun heq => absurd heq hk

theorem became_configure {setting : Graph.Setting (Plan α) α}
    (hb : (x.configure m setting).2.machine? k = some b) : x.Became m k (.configure setting) b := by
  have hlog : k = m → ∀ log, x.logAfter m k log (.configure setting) = log := fun _ _ => ite_self _
  unfold configure withMachine at hb
  split at hb
  next => exact .kept _ b.graph hb hlog
  next a ha =>
    dsimp only at hb
    split at hb
    next =>
      split at hb
      next => exact .kept _ b.graph hb hlog
      next =>
        rcases machine?_setMachine hb with ⟨rfl, hmade⟩ | ⟨-, hb⟩
        · cases hmade
          exact .kept _ _ ha hlog
        · exact .kept _ b.graph hb hlog
    next => exact .kept _ b.graph hb hlog

theorem became_perform [Inhabited σ] {step : Step σ α}
    (hb : (x.perform m step).2.machine? k = some b) : x.Became m k step b := by
  cases step with
  | create config => exact became_create hb
  | call c => exact became_call hb
  | configure setting => exact became_configure hb
  | drop => exact .kept _ b.graph (machine?_dropMachine hb).2 fun _ _ => ite_self _
  | signal t =>
    refine .kept _ b.graph ?_ fun _ _ => ite_self _
    simp only [perform, withMachine] at hb
    split at hb
    next => exact hb
    next => split at hb <;> exact hb
  | raise slot args | copySignal slot | describeSignal slot spread =>
    refine .kept _ b.graph ?_ fun _ _ => ite_self _
    simp only [perform, withSlot] at hb
    split at hb <;> exact hb
  | swapStates | swapTransitions =>
    obtain ⟨a, graph, ha, rfl⟩ := machine?_exchange hb
    exact .kept _ graph ha fun _ _ => ite_self _

theorem Became.keeps {step : Step σ α} (h : x.Became m k step b)
    (hx : ∀ a, x.machine? k = some a → a.history.Keeps a.config.historyLimit log) :
    b.history.Keeps b.config.historyLimit (x.logAfter m k log step) := by
  cases h with
  | created config hub hk =>
    rw [logAfter, if_pos hk]
    exact History.keeps_withLimit config.historyLimit
  | @called a c hk ha =>
    have hsteps : ReflTransGen (Automaton.Step True) a (a.call x.hub c).2.1 :=
      steps_call a x.hub c fun _ => trivial
    subst hk
    rw [logAfter, if_pos rfl, ha, config_of_steps hsteps]
    exact keeps_call (hx a ha) x.hub c
  | @kept a step graph ha hlog =>
    have hsame : x.logAfter m k log step = log := by
      by_cases hk : k = m
      · exact hlog hk log
      · exact if_neg hk
    rw [hsame]
    exact hx a ha

-- ---------------------------------------------------------------------------
-- Whole runs
-- ---------------------------------------------------------------------------

theorem keeps_of_play [Inhabited σ] {mvs : List (Move σ α)}
    (hx : ∀ a, x.machine? k = some a → a.history.Keeps a.config.historyLimit log)
    (hb : (x.play mvs).machine? k = some b) :
    b.history.Keeps b.config.historyLimit (x.logOver k log mvs) := by
  induction mvs generalizing x log with
  | nil => exact hx b hb
  | cons mv rest ih =>
    refine ih (fun a ha => ?_) hb
    exact (became_perform ha).keeps hx

theorem keeps_tripsAt [Inhabited σ] {mvs : List (Move σ α)}
    (hb : ((∅ : Session σ α).play mvs).machine? k = some b) :
    b.history.Keeps b.config.historyLimit (tripsAt k mvs) :=
  keeps_of_play (fun a ha => absurd ha (machine?_empty_ne k a)) hb

end Session

end EventAutomata
