import EventAutomata.Proofs.Automaton.Subscriptions
import EventAutomata.Proofs.Session.Lives

/-!
# Episodes in a session

A machine of a session in which nodes are exchanged has had no life of its own, but it has
gone through episodes: its own turns, and exchanges that have left it with another graph.
So what holds over all episodes holds in every session.
-/

namespace EventAutomata

open Automaton
open Registry (issued numbered)

namespace Session

variable {σ α : Type} [Payload σ] {x : Session σ α} {m k : Nat} {a b : Automaton σ α}

/-- The automaton is what episodes have made of it, from when it was made. -/
def Undergone (a : Automaton σ α) : Prop :=
  ∃ config hub episodes, a = (Automaton.undergoAll (Automaton.create config hub) episodes).1

theorem Undergone.turn (ha : Undergone a) (hub : Hub α) (turn : Automaton.Turn σ α) :
    Undergone (Automaton.takeTurn (a, hub) turn).1 := by
  obtain ⟨config, hub₀, episodes, rfl⟩ := ha
  refine ⟨config, hub₀, episodes ++ [.turn (.elsewhere hub), .turn turn], ?_⟩
  simp [Automaton.undergoAll, List.foldl_append, Automaton.undergo, Automaton.takeTurn]

theorem Undergone.exchange (ha : Undergone a) (graph : Graph σ α) :
    Undergone { a with graph } := by
  obtain ⟨config, hub, episodes, rfl⟩ := ha
  refine ⟨config, hub, episodes ++ [.exchange graph], ?_⟩
  simp [Automaton.undergoAll, List.foldl_append, Automaton.undergo]

theorem undergone_perform [Inhabited σ] {step : Step σ α}
    (hx : ∀ k a, x.machine? k = some a → Undergone a)
    (hb : (x.perform m step).2.machine? k = some b) : Undergone b := by
  cases hstep : step.exchanges with
  | false =>
    cases stems_perform hstep hb with
    | kept hb => exact hx k b hb
    | created config hub hb => exact ⟨config, hub, [], hb⟩
    | turned hub turn ha hb => exact hb ▸ (hx k _ ha).turn hub turn
  | true =>
    cases step with
    | swapStates | swapTransitions =>
      obtain ⟨a, graph, ha, rfl⟩ := machine?_exchange hb
      exact (hx k a ha).exchange graph
    | _ => cases hstep

theorem undergone_run [Inhabited σ] {steps : List (Nat × Step σ α)}
    (hx : ∀ k a, x.machine? k = some a → Undergone a)
    (hb : (x.run steps).machine? k = some b) : Undergone b := by
  induction steps generalizing x with
  | nil => exact hx k b hb
  | cons e rest ih => exact ih (fun k a ha => undergone_perform hx ha) hb

/-- Whatever an automaton goes through, its subscriptions are numbered from zero on, and each
number is given once. What one step subscribes gets the next numbers, in ascending order of
the transitions. Unless nodes are exchanged, a transition that stays within reach keeps its
number, and one that comes back has a larger one. -/
theorem subscriptions_are_numbered_once [Inhabited σ] (config : AutomatonConfig) (hub : Hub α)
    (episodes : List (Episode σ α)) (turns : List (Turn σ α)) :
    let x : Automaton σ α × Hub α := Automaton.create config hub
    let r := (undergoAll x episodes).1.registry
    let y := live x turns
    (∀ (steps : List (Nat × Step σ α)) m a, (run ∅ steps).machine? m = some a →
      Undergone a ∧ ((∀ e ∈ steps, e.2.exchanges = false) → Lived a)) ∧
    (issuedOver x episodes = (List.range r.nextId).map SubscriptionId.mk ∧
      (issuedOver x episodes).Pairwise (· < ·)) ∧
    (∀ t id, r.get? t = some id → id ∈ issuedOver x episodes) ∧
    (∀ t u id, r.get? t = some id → r.get? u = some id → t = u) ∧
    (∀ more t id, (undergoAll x (episodes ++ more)).1.registry.get? t = some id →
      id ∈ issuedOver x episodes → r.get? t = some id) ∧
    (∀ e, ∃ ts : List TransitionId, ts.Pairwise (· < ·) ∧
      issued r (undergo (undergoAll x episodes) e).1.registry = numbered r.nextId ts ∧
      (undergo (undergoAll x episodes) e).1.registry.nextId = r.nextId + ts.length) ∧
    (∀ turn t, t ∈ y.1.transitions → t ∈ (takeTurn y turn).1.transitions →
      ∃ id, y.1.subscription? t = some id ∧ (takeTurn y turn).1.subscription? t = some id) ∧
    (∀ away back t, t ∈ y.1.transitions → ¬ t ∈ (live y away).1.transitions →
      t ∈ (live (live y away) back).1.transitions →
      ∃ id id', y.1.subscription? t = some id ∧
        (live (live y away) back).1.subscription? t = some id' ∧ id < id') := by
  intro x r y
  have hx : x.1.Tracked := tracked_create config hub
  have hy : y.1.Tracked := hx.live turns
  refine ⟨fun steps m a ha => ⟨?_, fun hsteps => ?_⟩,
    ⟨issuedOver_create, ?_⟩, fun t id ht => mem_issuedOver_create.2 (sound_of_create.below ht),
    fun t u id => sound_of_create.apart, fun more t id ht hid => ?_, fun e => ?_,
    fun turn t ht ht' => ?_, fun away back t ht hgone ht' => ?_⟩
  · exact undergone_run (fun k b hb => absurd hb (machine?_empty_ne k b)) ha
  · exact lived_of_run hsteps (fun k b hb => absurd hb (machine?_empty_ne k b)) ha
  · rw [issuedOver_create, List.pairwise_map]
    exact List.pairwise_lt_range
  · rw [undergoAll, List.foldl_append] at ht
    exact get?_of_undergoAll ht (mem_issuedOver_create.1 hid)
  · obtain ⟨ts, hts⟩ := turnsOver_undergo (undergoAll x episodes) e
    exact ⟨ts, hts.ascending, hts.issued_eq, hts.nextId⟩
  · exact hy.subscription_kept (hy.live [turn]) (turnsOver_undergo y (.turn turn)) ht ht'
  · have hsound : y.1.registry.Sound := by
      show (live x turns).1.registry.Sound
      rw [live_eq_undergoAll]
      exact sound_of_create
    exact subscription_renewed hy hsound ht hgone ht'

/-- An edge is cut, which takes the one behind it out of reach as well, and attached again. -/
example :
    let calls : List (Call String Nat) :=
      [.edit (.addState "idle"), .edit (.addState "busy"), .edit (.addTransition .input ⟨1⟩),
        .edit (.addTransition .input ⟨0⟩), .setStart (some ⟨0⟩), .edit (.attach ⟨0⟩ ⟨0⟩),
        .edit (.attach ⟨1⟩ ⟨1⟩), .edit (.remove ⟨0⟩ ⟨0⟩), .edit (.attach ⟨0⟩ ⟨0⟩)]
    let episodes : List (Episode String Nat) := calls.map fun c => .turn (.call c)
    let x : Automaton String Nat × Hub Nat := Automaton.create {} {}
    issuedOver x episodes = [⟨0⟩, ⟨1⟩, ⟨2⟩, ⟨3⟩] ∧
      (undergoAll x episodes).1.registry.toList = [(⟨0⟩, ⟨2⟩), (⟨1⟩, ⟨3⟩)] := by
  decide

end Session

end EventAutomata
