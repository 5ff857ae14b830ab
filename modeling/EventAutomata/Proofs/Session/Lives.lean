import EventAutomata.Proofs.Automaton.Turns
import EventAutomata.Session

/-!
# The machines of a session

A step of a session is about one place. Unless it exchanges nodes, the machine in any
place afterwards is the one that was there, a new one, or the one that was there after a
turn (`stems_perform`). So every machine of a session without exchanges has had a life
of its own, and what holds over a life holds in every session.
-/

namespace EventAutomata

namespace Session

variable {σ α : Type} {x : Session σ α} {m k : Nat} {b : Automaton σ α}

/-- Whole nodes change their place, maybe from one graph to another. -/
def Step.exchanges : Step σ α → Bool
  | .swapStates .. | .swapTransitions .. => true
  | _ => false

theorem machine?_empty (k : Nat) : (∅ : Session σ α).machine? k = none := rfl

theorem machine?_empty_ne (k : Nat) (a : Automaton σ α) :
    (∅ : Session σ α).machine? k ≠ some a := by
  rw [machine?_empty]
  nofun

theorem lt_size_of_machine? (hb : x.machine? k = some b) : k < x.machines.size := by
  simp only [machine?, Option.join_eq_some_iff] at hb
  exact (Array.getElem?_eq_some_iff.1 hb).1

theorem machine?_setMachine {a : Option (Automaton σ α)}
    (h : (x.setMachine m a).machine? k = some b) :
    (k = m ∧ a = some b) ∨ (k ≠ m ∧ x.machine? k = some b) := by
  simp only [machine?, setMachine, Array.getElem?_setIfInBounds] at h
  split at h
  next heq =>
    split at h
    next => exact .inl ⟨heq.symm, h⟩
    next => cases h
  next hne => exact .inr ⟨Ne.symm hne, h⟩

theorem machine?_setMachine_eq (x : Session σ α) (m k : Nat) (a : Option (Automaton σ α)) :
    (x.setMachine m a).machine? k =
      if m = k then (if m < x.machines.size then a else none) else x.machine? k := by
  simp only [machine?, setMachine, Array.getElem?_setIfInBounds]
  split
  · split <;> rfl
  · rfl

theorem setMachine_self (hb : x.machine? m = some b) : x.setMachine m (some b) = x := by
  have hget : x.machines[m]? = some (some b) := by
    simpa only [machine?, Option.join_eq_some_iff] using hb
  have hmachines : x.machines.setIfInBounds m (some b) = x.machines := by
    refine Array.ext_getElem? fun i => ?_
    rw [Array.getElem?_setIfInBounds]
    split
    next hi =>
      subst hi
      split
      next => exact hget.symm
      next hout => exact absurd (Array.getElem?_eq_some_iff.1 hget).1 hout
    next => rfl
  rw [setMachine, hmachines]

theorem machine?_push {a : Automaton σ α} {hub : Hub α}
    (h : ({ x with machines := x.machines.push (some a), hub } : Session σ α).machine? k = some b) :
    (k = x.machines.size ∧ a = b) ∨ x.machine? k = some b := by
  simp only [machine?, Array.getElem?_push] at h
  split at h
  next hk => exact .inl ⟨hk, Option.some.inj h⟩
  next => exact .inr h

theorem machine?_dropMachine (h : (x.dropMachine m).2.machine? k = some b) :
    k ≠ m ∧ x.machine? k = some b := by
  unfold dropMachine at h
  split at h
  next hnone =>
    refine ⟨?_, h⟩
    rintro rfl
    rw [hnone] at h
    cases h
  next =>
    rcases machine?_setMachine h with ⟨-, hnone⟩ | h
    · cases hnone
    · exact h

theorem machine?_create {config : AutomatonConfig}
    (h : (x.create m config).2.machine? k = some b) :
    (k = m ∧ ∃ hub, b = (Automaton.create config hub).1) ∨ (k ≠ m ∧ x.machine? k = some b) := by
  unfold create at h
  split at h
  next =>
    rcases machine?_setMachine h with ⟨hk, hb⟩ | ⟨-, h⟩
    · exact .inl ⟨hk, _, (Option.some.inj hb).symm⟩
    · exact .inr (machine?_dropMachine h)
  next hlt =>
    have hkept : x.machine? k = some b → k ≠ m ∧ x.machine? k = some b :=
      fun hb => ⟨fun heq => hlt (heq ▸ lt_size_of_machine? hb), hb⟩
    split at h
    next hm =>
      rcases machine?_push h with ⟨hk, hb⟩ | hb
      · exact .inl ⟨hk.trans hm.symm, _, hb.symm⟩
      · exact .inr (hkept hb)
    next => exact .inr (hkept h)

theorem machine?_exchange {other : Nat} {inside : Graph σ α → Option (Graph σ α)}
    {between : Graph σ α → Graph σ α → Option (Graph σ α × Graph σ α)}
    (h : (x.exchange m other inside between).2.machine? k = some b) :
    ∃ a graph, x.machine? k = some a ∧ b = { a with graph } := by
  have hkept : x.machine? k = some b → ∃ a graph, x.machine? k = some a ∧ b = { a with graph } :=
    fun hb => ⟨b, b.graph, hb, rfl⟩
  unfold exchange withMachine at h
  split at h
  next => exact hkept h
  next a ha =>
    dsimp only at h
    split at h
    next =>
      split at h
      next => exact hkept h
      next graph _ =>
        rcases machine?_setMachine h with ⟨rfl, hb⟩ | ⟨-, hb⟩
        · exact ⟨a, graph, ha, (Option.some.inj hb).symm⟩
        · exact hkept hb
    next =>
      split at h
      next => exact hkept h
      next c hc =>
        split at h
        next => exact hkept h
        next g₁ g₂ _ =>
          rcases machine?_setMachine h with ⟨rfl, hb⟩ | ⟨-, h⟩
          · exact ⟨c, g₂, hc, (Option.some.inj hb).symm⟩
          · rcases machine?_setMachine h with ⟨rfl, hb⟩ | ⟨-, hb⟩
            · exact ⟨a, g₁, ha, (Option.some.inj hb).symm⟩
            · exact hkept hb

variable [Payload σ]

/-- Where a machine that is found in a place after a step has come from. -/
inductive Stems (x : Session σ α) (k : Nat) (b : Automaton σ α) : Prop
  | kept : x.machine? k = some b → Stems x k b
  | created (config : AutomatonConfig) (hub : Hub α) :
      b = (Automaton.create config hub).1 → Stems x k b
  | turned {a : Automaton σ α} (hub : Hub α) (turn : Automaton.Turn σ α) :
      x.machine? k = some a → b = (Automaton.takeTurn (a, hub) turn).1 → Stems x k b

theorem stems_create {config : AutomatonConfig} (h : (x.create m config).2.machine? k = some b) :
    x.Stems k b := by
  rcases machine?_create h with ⟨-, hub, hb⟩ | ⟨-, hb⟩
  · exact .created config hub hb
  · exact .kept hb

theorem stems_call {c : Automaton.Call σ α} (h : (x.call m c).2.machine? k = some b) :
    x.Stems k b := by
  unfold call withMachine at h
  split at h
  next => exact .kept h
  next a ha =>
    rcases machine?_setMachine h with ⟨rfl, hb⟩ | h
    · exact .turned x.hub (.call c) ha (Option.some.inj hb).symm
    · exact .kept h.2

theorem stems_configure {setting : Graph.Setting (Plan α) α}
    (h : (x.configure m setting).2.machine? k = some b) : x.Stems k b := by
  unfold configure withMachine at h
  split at h
  next => exact .kept h
  next a ha =>
    dsimp only at h
    split at h
    next =>
      split at h
      next => exact .kept h
      next setting hub _ =>
        rcases machine?_setMachine h with ⟨rfl, hb⟩ | h
        · exact .turned hub (.call (.configure setting)) ha (Option.some.inj hb).symm
        · exact .kept h.2
    next => exact .kept h

theorem stems_perform [Inhabited σ] {step : Step σ α} (hstep : step.exchanges = false)
    (h : (x.perform m step).2.machine? k = some b) : x.Stems k b := by
  cases step with
  | create config => exact stems_create h
  | drop => exact .kept (machine?_dropMachine h).2
  | call c => exact stems_call h
  | configure setting => exact stems_configure h
  | signal t =>
    simp only [perform, withMachine] at h
    split at h
    next => exact .kept h
    next => split at h <;> exact .kept h
  | raise slot args =>
    simp only [perform, withSlot] at h
    split at h <;> exact .kept h
  | copySignal slot =>
    simp only [perform, withSlot] at h
    split at h <;> exact .kept h
  | describeSignal slot spread =>
    simp only [perform, withSlot] at h
    split at h <;> exact .kept h
  | swapStates | swapTransitions => cases hstep

-- ---------------------------------------------------------------------------
-- Lives
-- ---------------------------------------------------------------------------

/-- The automaton is what it has become in a life, from when it was made. -/
def Lived (a : Automaton σ α) : Prop :=
  ∃ config hub turns, a = (Automaton.live (Automaton.create config hub) turns).1

theorem Lived.takeTurn {a : Automaton σ α} (ha : Lived a) (hub : Hub α)
    (turn : Automaton.Turn σ α) : Lived (Automaton.takeTurn (a, hub) turn).1 := by
  obtain ⟨config, hub₀, turns, rfl⟩ := ha
  refine ⟨config, hub₀, turns ++ [.elsewhere hub, turn], ?_⟩
  simp [Automaton.live, List.foldl_append, Automaton.takeTurn]

theorem Stems.lived (h : x.Stems k b) (hx : ∀ a, x.machine? k = some a → Lived a) : Lived b := by
  cases h with
  | kept h => exact hx b h
  | created config hub h => exact ⟨config, hub, [], h⟩
  | turned hub turn ha hb => exact hb ▸ (hx _ ha).takeTurn hub turn

theorem lived_of_run [Inhabited σ] {steps : List (Nat × Step σ α)}
    (hsteps : ∀ e ∈ steps, e.2.exchanges = false)
    (hx : ∀ k a, x.machine? k = some a → Lived a) (h : (x.run steps).machine? k = some b) :
    Lived b := by
  induction steps generalizing x with
  | nil => exact hx k b h
  | cons e rest ih =>
    obtain ⟨m, step⟩ := e
    have hstep := hsteps (m, step) List.mem_cons_self
    refine ih (fun e he => hsteps e (List.mem_cons_of_mem _ he)) (fun k a ha => ?_) h
    exact (stems_perform hstep ha).lived (hx k)

theorem Lived.tracked {a : Automaton σ α} (ha : Lived a) : a.Tracked := by
  obtain ⟨config, hub, turns, rfl⟩ := ha
  exact Automaton.tracked_live config hub turns

/-- In every session in which no nodes are exchanged, a machine is subscribed to what can
be reached from its start state, and to nothing if it has none. -/
theorem subscriptions_track_reachability [Inhabited σ] {steps : List (Nat × Step σ α)}
    (hsteps : ∀ e ∈ steps, e.2.exchanges = false) {m : Nat} {a : Automaton σ α}
    (ha : (run ∅ steps).machine? m = some a) :
    (∀ s, a.start = some s →
        a.registry.transitions = a.graph.reachableTransitions s .withEpsilon) ∧
      (a.start = none → a.registry.transitions = ∅) := by
  have hlived : Lived a :=
    lived_of_run hsteps (fun k a h => by rw [machine?_empty] at h; cases h) ha
  have hregistry : a.registry.transitions = a.reachableFrom a.start := hlived.tracked.registry
  refine ⟨fun s hs => ?_, fun hs => ?_⟩
  · rw [hregistry, hs]
    rfl
  · rw [hregistry, hs]
    rfl

/-- A cycle is built, a delivery breaks down on entry, the start state moves along the
cycle and the cycle is cut open. -/
theorem subscriptions_track_reachability_of_cut_cycle :
    let steps : List (Nat × Step String Nat) :=
      [(0, .create { policy := .permissive }), (0, .call (.edit (.addState "idle"))),
        (0, .call (.edit (.addState "busy"))), (0, .call (.edit (.addState "done"))),
        (0, .call (.edit (.addTransition .input ⟨1⟩))),
        (0, .call (.edit (.addTransition .epsilon ⟨2⟩))),
        (0, .call (.edit (.addTransition .input ⟨0⟩))), (0, .call (.setStart (some ⟨0⟩))),
        (0, .call (.edit (.attach ⟨0⟩ ⟨0⟩))), (0, .call (.edit (.attachEpsilon ⟨1⟩ ⟨1⟩))),
        (0, .call (.edit (.attach ⟨2⟩ ⟨2⟩))), (0, .configure (.onEntry ⟨1⟩ [.panic "boom" none])),
        (0, .signal ⟨0⟩), (0, .raise 0 [7]), (0, .call .dispatchNext),
        (0, .call (.setStart (some ⟨1⟩))), (0, .call (.edit (.remove ⟨2⟩ ⟨2⟩)))]
    ∃ a, (run ∅ steps).machine? 0 = some a ∧ a.start = some ⟨1⟩ ∧
      a.registry.transitions = a.graph.reachableTransitions ⟨1⟩ .withEpsilon ∧
      a.registry.transitions.toList = [⟨1⟩] := by
  intro steps
  have hsteps : ∀ e ∈ steps, e.2.exchanges = false := by
    simp [steps, Step.exchanges]
  obtain ⟨a, ha⟩ : ∃ a, (run ∅ steps).machine? 0 = some a := Option.isSome_iff_exists.1 (by decide)
  have hstart : ((run ∅ steps).machine? 0).bind Automaton.start = some ⟨1⟩ := by decide
  have hlive : (((run ∅ steps).machine? 0).map (·.registry.transitions.toList)) = some [⟨1⟩] := by
    decide
  rw [ha] at hstart hlive
  exact ⟨a, ha, hstart, (subscriptions_track_reachability hsteps ha).1 _ hstart,
    Option.some.inj hlive⟩

end Session

end EventAutomata
