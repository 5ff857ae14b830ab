import EventAutomata.Proofs.Automaton.Dispatching
import EventAutomata.Proofs.Hub.Orderly
import EventAutomata.Proofs.Session.Lives

/-!
# Requests in a session

In every session the journal accounts for all requests, and every machine has a channel that
is open and that no other machine has (`Accounted`). A step works on the hub that there is,
and leaves to each machine the channel it had, or it closes the channel of the machine that
it drops, or it opens one for the machine that it makes (`Changed`).

So a machine gets what was raised for it, whoever has raised it, in the order in which it was
raised. Exchanged nodes take their callbacks with them, and do no harm to this.
-/

namespace EventAutomata

section Installing

variable {α : Type} {h h' : Hub α}

theorem Hub.traffic_newMeter (h : Hub α) (firings : Nat) :
    h.Traffic (h.newMeter firings).2 [] := Hub.traffic_of_same rfl rfl

theorem Hub.traffic_meterFor (h : Hub α) (times : Option Nat) :
    h.Traffic (h.meterFor times).2 [] := by
  cases times with
  | none => exact .refl
  | some times => exact h.traffic_newMeter times

theorem PlannedEffect.install?_traffic {slots : Array FireSignal} {e : PlannedEffect α}
    {effect : Effect α} (hi : e.install? slots h = some (effect, h')) : h.Traffic h' [] := by
  cases e with
  | log tag times | panic text times =>
    cases hi
    exact h.traffic_meterFor times
  | raise slot args times =>
    obtain ⟨signal, -, heq⟩ := Option.map_eq_some_iff.1 hi
    cases heq
    exact h.traffic_newMeter times
  | raiseRest slot times =>
    obtain ⟨signal, -, heq⟩ := Option.map_eq_some_iff.1 hi
    cases heq
    exact h.traffic_meterFor times

theorem Plan.install?_traffic {slots : Array FireSignal} {plan : Plan α} {script : Script α}
    (hi : plan.install? slots h = some (script, h')) : h.Traffic h' [] := by
  induction plan generalizing h script with
  | nil =>
    cases hi
    exact .refl
  | cons e rest ih =>
    simp only [Plan.install?] at hi
    split at hi
    next => cases hi
    next effect h₁ he =>
      obtain ⟨⟨script', h₂⟩, hrest, heq⟩ := Option.map_eq_some_iff.1 hi
      cases heq
      exact (PlannedEffect.install?_traffic he).trans (ih hrest)

theorem Graph.Setting.install?_traffic {slots : Array FireSignal}
    {setting : Graph.Setting (Plan α) α} {installed : Graph.Setting (Script α) α}
    (hi : setting.install? slots h = some (installed, h')) : h.Traffic h' [] := by
  cases setting with
  | terminal | guard =>
    cases hi
    exact .refl
  | onEntry s plan | onExit s plan | onTransit t plan =>
    obtain ⟨⟨script, h₁⟩, hplan, heq⟩ := Option.map_eq_some_iff.1 hi
    cases heq
    exact Plan.install?_traffic hplan

end Installing

namespace Session

variable {σ α : Type} {x y : Session σ α} {m : Nat} {events : List (Event α)}

-- ---------------------------------------------------------------------------
-- What a step changes
-- ---------------------------------------------------------------------------

def SameChannels (x y : Session σ α) : Prop :=
  ∀ k b, y.machine? k = some b → ∃ a, x.machine? k = some a ∧ a.channel = b.channel

theorem SameChannels.refl : x.SameChannels x := fun _ b hb => ⟨b, hb, rfl⟩

theorem SameChannels.setMachine {a b : Automaton σ α} (ha : x.machine? m = some a)
    (hchannel : b.channel = a.channel) (hub : Hub α) :
    x.SameChannels { x.setMachine m (some b) with hub } := by
  intro k c hc
  rcases machine?_setMachine hc with ⟨rfl, hb⟩ | ⟨-, hc⟩
  · cases hb
    exact ⟨a, ha, hchannel.symm⟩
  · exact ⟨c, hc, rfl⟩

/-- How one session comes from another, with the events that it has left in the journal. -/
inductive Changed : Session σ α → Session σ α → List (Event α) → Prop
  | worked {x y : Session σ α} {events : List (Event α)} :
      x.SameChannels y → x.hub.Traffic y.hub events → Changed x y events
  | dropped {x y : Session σ α} {m : Nat} {a : Automaton σ α} :
      x.machine? m = some a → y.hub = x.hub.close a.channel →
      (∀ k b, y.machine? k = some b → k ≠ m ∧ x.machine? k = some b) → Changed x y []
  | made {x y : Session σ α} {m : Nat} (config : AutomatonConfig) :
      y.hub = (Automaton.create (σ := σ) config x.hub).2 →
      (∀ k b, y.machine? k = some b →
        (k = m ∧ b = (Automaton.create config x.hub).1) ∨ x.machine? k = some b) →
      Changed x y []
  | andThen {x y z : Session σ α} {e₁ e₂ : List (Event α)} :
      Changed x y e₁ → Changed y z e₂ → Changed x z (e₁ ++ e₂)

theorem Changed.refl : Changed x x [] := .worked .refl .refl

theorem Changed.journal (h : Changed x y events) :
    y.hub.journal.toList = x.hub.journal.toList ++ events := by
  induction h with
  | worked _ ht => exact ht.journal
  | dropped _ hhub _ | made _ hhub _ =>
    rw [hhub, List.append_nil]
    rfl
  | andThen _ _ ih₁ ih₂ => rw [ih₂, ih₁, List.append_assoc]

theorem changed_dropMachine (x : Session σ α) (m : Nat) : Changed x (x.dropMachine m).2 [] := by
  have hfind : ∀ k b, (x.dropMachine m).2.machine? k = some b → k ≠ m ∧ x.machine? k = some b :=
    fun k b => machine?_dropMachine
  unfold dropMachine at hfind ⊢
  split at hfind
  next => exact .refl
  next a ha => exact .dropped ha rfl hfind

theorem changed_create (x : Session σ α) (m : Nat) (config : AutomatonConfig) :
    Changed x (x.create m config).2 [] := by
  unfold create
  split
  next =>
    refine .andThen (x.changed_dropMachine m) (.made (m := m) config rfl fun k b hb => ?_)
    rcases machine?_setMachine hb with ⟨rfl, hb⟩ | ⟨-, hb⟩
    · exact .inl ⟨rfl, (Option.some.inj hb).symm⟩
    · exact .inr hb
  next =>
    split
    next =>
      refine .made (m := x.machines.size) config rfl fun k b hb => ?_
      rcases machine?_push hb with ⟨rfl, hnew⟩ | hold
      · exact .inl ⟨rfl, hnew.symm⟩
      · exact .inr hold
    next => exact .refl

theorem changed_configure (x : Session σ α) (m : Nat) (setting : Graph.Setting (Plan α) α) :
    Changed x (x.configure m setting).2 [] := by
  unfold configure withMachine
  split
  next => exact .refl
  next a ha =>
    dsimp only
    split
    next =>
      split
      next => exact .refl
      next installed hub hi =>
        refine .worked (.setMachine ha ?_ hub) (Graph.Setting.install?_traffic hi)
        rfl
    next => exact .refl

theorem exchange_eq (x : Session σ α) (m other : Nat) (inside : Graph σ α → Option (Graph σ α))
    (between : Graph σ α → Graph σ α → Option (Graph σ α × Graph σ α)) :
    ∃ machines, (x.exchange m other inside between).2 = { x with machines } := by
  unfold exchange withMachine
  cases x.machine? m with
  | none => exact ⟨_, rfl⟩
  | some a =>
    dsimp only
    split
    next => cases inside a.graph <;> exact ⟨_, rfl⟩
    next =>
      cases x.machine? other with
      | none => exact ⟨_, rfl⟩
      | some c =>
        dsimp only
        cases between a.graph c.graph <;> exact ⟨_, rfl⟩

theorem hub_exchange (x : Session σ α) (m other : Nat) (inside : Graph σ α → Option (Graph σ α))
    (between : Graph σ α → Graph σ α → Option (Graph σ α × Graph σ α)) :
    (x.exchange m other inside between).2.hub = x.hub := by
  obtain ⟨machines, heq⟩ := x.exchange_eq m other inside between
  rw [heq]

theorem changed_exchange (x : Session σ α) (m other : Nat)
    (inside : Graph σ α → Option (Graph σ α))
    (between : Graph σ α → Graph σ α → Option (Graph σ α × Graph σ α)) :
    Changed x (x.exchange m other inside between).2 [] := by
  refine .worked (fun k b hb => ?_) ((x.hub_exchange m other inside between).symm ▸ .refl)
  obtain ⟨a, graph, ha, rfl⟩ := machine?_exchange hb
  exact ⟨a, ha, rfl⟩

-- ---------------------------------------------------------------------------
-- What is kept
-- ---------------------------------------------------------------------------

structure Accounted (x : Session σ α) : Prop where
  orderly : x.hub.Orderly
  isOpen : ∀ {m a}, x.machine? m = some a → x.hub.isOpen a.channel = true
  apart : ∀ {m n a b}, x.machine? m = some a → x.machine? n = some b →
    a.channel = b.channel → m = n

theorem accounted_empty : (∅ : Session σ α).Accounted where
  orderly := Hub.orderly_empty
  isOpen ha := absurd ha (machine?_empty_ne _ _)
  apart ha := absurd ha (machine?_empty_ne _ _)

theorem Accounted.changed (hx : x.Accounted) (h : Changed x y events) : y.Accounted := by
  induction h with
  | worked hm ht =>
    refine ⟨hx.orderly.traffic ht, fun {k b} hb => ?_, fun {k n b c} hb hc heq => ?_⟩
    · obtain ⟨a, ha, hchannel⟩ := hm k b hb
      rw [ht.isOpen, ← hchannel]
      exact hx.isOpen ha
    · obtain ⟨_, hb', hbb⟩ := hm k b hb
      obtain ⟨_, hc', hcc⟩ := hm n c hc
      exact hx.apart hb' hc' (hbb.trans (heq.trans hcc.symm))
  | @dropped x y m a ha hhub hm =>
    refine ⟨hhub ▸ hx.orderly.close a.channel, fun {k b} hb => ?_, fun hb hc => ?_⟩
    · obtain ⟨hne, hb⟩ := hm k b hb
      have hother : a.channel ≠ b.channel := fun heq => hne (hx.apart hb ha heq.symm)
      rw [hhub, Hub.isOpen, Hub.queue?_close_of_ne _ hother]
      exact hx.isOpen hb
    · exact hx.apart (hm _ _ hb).2 (hm _ _ hc).2
  | @made x y m config hhub hm =>
    -- Machines that were there have open channels, and a channel that is opened was not.
    have hnew : ∀ {k b}, x.machine? k = some b → b.channel ≠ x.hub.newChannel.1 := by
      intro k b hb heq
      have hopen := hx.isOpen hb
      rw [heq, x.hub.not_isOpen_newChannel] at hopen
      cases hopen
    refine ⟨hhub ▸ hx.orderly.newChannel, fun {k b} hb => ?_, fun {k n b c} hb hc heq => ?_⟩
    · rw [hhub]
      rcases hm k b hb with ⟨-, rfl⟩ | hb
      · exact x.hub.isOpen_newChannel_self
      · exact Hub.isOpen_newChannel_of_isOpen (hx.isOpen hb)
    · rcases hm k b hb with ⟨rfl, rfl⟩ | hb <;> rcases hm n c hc with ⟨rfl, rfl⟩ | hc
      · rfl
      · exact absurd heq.symm (hnew hc)
      · exact absurd heq (hnew hb)
      · exact hx.apart hb hc heq
  | andThen _ _ ih₁ ih₂ => exact ih₂ (ih₁ hx)

-- ---------------------------------------------------------------------------
-- What a step delivers
-- ---------------------------------------------------------------------------

variable [Payload σ]

/-- The deliveries that a step makes from a channel: those of a dispatch by the machine that
has the channel, and otherwise none. -/
inductive Step.Delivers (x : Session σ α) (c : ChannelId) (m : Nat) :
    Step σ α → List (Delivery α) → Prop
  | dispatch {a : Automaton σ α} {call : Automaton.Call σ α} {ds : List (Delivery α)} :
      x.machine? m = some a → a.channel = c → call.dispatches = true →
      Automaton.Deliveries (a, x.hub) ds (a.call x.hub call).2 → Delivers x c m (.call call) ds
  | none {step : Step σ α} :
      (∀ call a, step = .call call → call.dispatches = true → x.machine? m = some a →
        a.channel ≠ c) → Delivers x c m step []

/-- A step leaves its events in the journal, and takes out no more than what it delivers. -/
structure Step.Done (x : Session σ α) (m : Nat) (step : Step σ α) (y : Session σ α)
    (events : List (Event α)) : Prop where
  changed : Changed x y events
  delivers : ∀ c, ∃ ds, step.Delivers x c m ds ∧ takenFrom c events = ds.map Delivery.fired

theorem Step.Done.of_quiet {step : Step σ α} (hstep : ∀ call, step ≠ .call call)
    (hx : Changed x y events) (hnone : ∀ c, takenFrom c events = []) : step.Done x m y events where
  changed := hx
  delivers c := ⟨[], .none fun call _ heq => absurd heq (hstep call), hnone c⟩

theorem done_call (x : Session σ α) (m : Nat) (c : Automaton.Call σ α) :
    ∃ events, (Step.call c).Done x m (x.call m c).2 events := by
  unfold call withMachine
  split
  next hnone =>
    refine ⟨[], .refl, fun d => ⟨[], .none fun _ a _ _ ha => ?_, rfl⟩⟩
    rw [hnone] at ha
    cases ha
  next a ha =>
    obtain ⟨ds, events, hserves⟩ := a.serves_call x.hub c
    refine ⟨events, .worked (.setMachine ha (a.channel_call x.hub c) _) hserves.traffic,
      fun d => ?_⟩
    have htaken := hserves.taken d
    by_cases hd : c.dispatches = true ∧ a.channel = d
    · rw [if_pos hd.2] at htaken
      exact ⟨ds, .dispatch ha hd.2 hd.1 (hserves.deliveries hd.1), htaken⟩
    · refine ⟨[], .none fun call b heq hcall hb hchannel => ?_, ?_⟩
      · cases heq
        cases ha.symm.trans hb
        exact hd ⟨hcall, hchannel⟩
      · rw [htaken]
        split
        next hchannel =>
          have hquiet : c.dispatches = false := Bool.eq_false_iff.2 fun hcall => hd ⟨hcall, hchannel⟩
          rw [hserves.quiet hquiet]
        next => rfl

theorem done_perform [Inhabited σ] (x : Session σ α) (m : Nat) (step : Step σ α) :
    ∃ events, step.Done x m (x.perform m step).2 events := by
  cases step with
  | create config => exact ⟨[], .of_quiet (by simp) (x.changed_create m config) fun _ => rfl⟩
  | drop => exact ⟨[], .of_quiet (by simp) (x.changed_dropMachine m) fun _ => rfl⟩
  | call c => exact x.done_call m c
  | configure setting => exact ⟨[], .of_quiet (by simp) (x.changed_configure m setting) fun _ => rfl⟩
  | signal t =>
    refine ⟨[], .of_quiet (by simp) ?_ fun _ => rfl⟩
    simp only [perform, withMachine]
    split
    next => exact .refl
    next =>
      split
      next => exact .refl
      next => exact .worked .refl .refl
  | raise slot args =>
    simp only [perform, withSlot]
    split
    next => exact ⟨[], .of_quiet (by simp) .refl fun _ => rfl⟩
    next signal _ =>
      rcases x.hub.raise_cases signal args with ⟨-, -, htraffic⟩ | ⟨-, heq⟩
      · exact ⟨_, .of_quiet (by simp) (.worked .refl htraffic) fun _ => rfl⟩
      · rw [heq]
        exact ⟨[], .of_quiet (by simp) .refl fun _ => rfl⟩
  | copySignal slot =>
    refine ⟨[], .of_quiet (by simp) ?_ fun _ => rfl⟩
    simp only [perform, withSlot]
    split
    next => exact .refl
    next => exact .worked .refl .refl
  | describeSignal slot spread =>
    refine ⟨[], .of_quiet (by simp) ?_ fun _ => rfl⟩
    simp only [perform, withSlot]
    split <;> exact .refl
  | swapStates s u other =>
    exact ⟨[], .of_quiet (by simp) (x.changed_exchange m other _ _) fun _ => rfl⟩
  | swapTransitions t u other =>
    exact ⟨[], .of_quiet (by simp) (x.changed_exchange m other _ _) fun _ => rfl⟩

-- ---------------------------------------------------------------------------
-- Runs
-- ---------------------------------------------------------------------------

inductive Delivered [Inhabited σ] (c : ChannelId) :
    Session σ α → List (Nat × Step σ α) → List (Delivery α) → Prop
  | nil (x : Session σ α) : Delivered c x [] []
  | cons {x : Session σ α} {m : Nat} {step : Step σ α} {rest : List (Nat × Step σ α)}
      {ds ds' : List (Delivery α)} :
      step.Delivers x c m ds → Delivered c (x.perform m step).2 rest ds' →
      Delivered c x ((m, step) :: rest) (ds ++ ds')

theorem Accounted.run [Inhabited σ] (hx : x.Accounted) (steps : List (Nat × Step σ α)) :
    (x.run steps).Accounted := by
  induction steps generalizing x with
  | nil => exact hx
  | cons e rest ih =>
    obtain ⟨events, hdone⟩ := x.done_perform e.1 e.2
    exact ih (hx.changed hdone.changed)

theorem delivered_run [Inhabited σ] (c : ChannelId) (x : Session σ α)
    (steps : List (Nat × Step σ α)) :
    ∃ ds, Delivered c x steps ds ∧
      takenFrom c (x.run steps).hub.journal.toList =
        takenFrom c x.hub.journal.toList ++ ds.map Delivery.fired := by
  induction steps generalizing x with
  | nil => exact ⟨[], .nil x, (List.append_nil _).symm⟩
  | cons e rest ih =>
    obtain ⟨events, hdone⟩ := x.done_perform e.1 e.2
    obtain ⟨ds, hds, htaken⟩ := hdone.delivers c
    obtain ⟨ds', hds', hrest⟩ := ih (x.perform e.1 e.2).2
    refine ⟨ds ++ ds', .cons hds hds', ?_⟩
    show takenFrom c ((x.perform e.1 e.2).2.run rest).hub.journal.toList = _
    rw [hrest, hdone.changed.journal, takenFrom_append, htaken, List.map_append, List.append_assoc]

/-- In every session a channel is served in the order in which it was filled: what the
dispatches of its machine have delivered is the beginning of what was raised, and the rest
waits. Where a delivery breaks down it is the last of its dispatch, and nothing behind it is
lost. A dispatch of all that waits leaves nothing if it returns. -/
theorem requests_are_delivered_in_order [Inhabited σ] (steps : List (Nat × Step σ α)) :
    let x : Session σ α := run ∅ steps
    let log := x.hub.journal.toList
    (∀ c, ∃ ds, Delivered c ∅ steps ds ∧ takenFrom c log = ds.map Delivery.fired ∧
      ds.map Delivery.fired <+: queuedIn c log) ∧
    (∀ signal args,
      (x.hub.isOpen signal.channel = true ∧ (x.hub.raise signal args).1 = .ok () ∧
        x.hub.Traffic (x.hub.raise signal args).2
          [.raised signal.channel ⟨signal.transition, args⟩]) ∨
      (x.hub.isOpen signal.channel = false ∧
        x.hub.raise signal args = (.error (.signalClosed signal.transition), x.hub))) ∧
    ∀ m a, x.machine? m = some a →
      x.hub.isOpen a.channel = true ∧
      (∀ n b, x.machine? n = some b → b.channel = a.channel → n = m) ∧
      queuedIn a.channel log = takenFrom a.channel log ++ x.hub.queue a.channel ∧
      (∀ call : Automaton.Call σ α, ∃ ds events, call.Serves a x.hub ds events ∧
        x.hub.queue a.channel ++ queuedIn a.channel events =
          ds.map Delivery.fired ++ (a.call x.hub call).2.2.queue a.channel) ∧
      (∃ ds, Automaton.Drained (a, x.hub) 0 ds (a.dispatchPending x.hub)) ∧
      ((a.dispatchNext x.hub = (none, a, x.hub) ∧ x.hub.queue a.channel = []) ∨
        ∃ fired result, (a.dispatchNext x.hub).1 = some result ∧
          Automaton.Deliveries (a, x.hub) [⟨fired, result⟩] (a.dispatchNext x.hub).2) := by
  intro x log
  have hx : x.Accounted := accounted_empty.run steps
  refine ⟨fun c => ?_, fun signal args => x.hub.raise_cases signal args, fun m a ha => ?_⟩
  · obtain ⟨ds, hds, htaken⟩ := delivered_run c ∅ steps
    have hlog : takenFrom c log = ds.map Delivery.fired := htaken
    exact ⟨ds, hds, hlog, hlog ▸ hx.orderly.taken c⟩
  · have hopen := hx.isOpen ha
    refine ⟨hopen, fun n b hb heq => hx.apart hb ha heq, hx.orderly.waiting _ hopen,
      fun call => ?_, a.drained_dispatchPending x.hub, a.deliveries_dispatchNext x.hub⟩
    obtain ⟨ds, events, hserves⟩ := a.serves_call x.hub call
    have hqueue := hserves.traffic.queue a.channel
    rw [hserves.taken, if_pos rfl] at hqueue
    exact ⟨ds, events, hserves, hqueue⟩

/-- A delivery that raises its own signal again and then breaks down is consumed. What was
behind it is still ahead of what it has raised. -/
example :
    let steps : List (Nat × Step String Nat) :=
      [(0, .create {}), (0, .call (.edit (.addState "idle"))),
        (0, .call (.edit (.addTransition .input ⟨0⟩))), (0, .call (.setStart (some ⟨0⟩))),
        (0, .call (.edit (.attach ⟨0⟩ ⟨0⟩))), (0, .signal ⟨0⟩),
        (0, .configure (.onTransit ⟨0⟩ [.raiseRest 0 none, .panic "boom" none])),
        (0, .raise 0 [1, 2]), (0, .raise 0 [3]), (0, .call .dispatchNext)]
    let x := run ∅ steps
    takenFrom ⟨0⟩ x.hub.journal.toList = [⟨⟨0⟩, [1, 2]⟩] ∧
      x.hub.queue ⟨0⟩ = [⟨⟨0⟩, [3]⟩, ⟨⟨0⟩, [2]⟩] := by
  decide

end Session

end EventAutomata
