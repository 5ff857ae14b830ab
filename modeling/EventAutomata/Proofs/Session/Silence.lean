import EventAutomata.Proofs.Session.Channels
import EventAutomata.Proofs.Session.Logs
import EventAutomata.Proofs.Session.Recovery

/-!
# Silence after a teardown

An automaton that is torn down has no start state, so nothing belongs to it and nothing can be
attached or removed. It holds no subscription, so no request is delivered, however many are
raised. Only a new start state changes that (`SilentSince.call`). Under the permissive policy a
direct transit can still move it, and that does not make it hear signals again. Under the strict
policy it does not move either.

Edges stay in the graph and nodes may be exchanged; what silences the automaton is not the graph.
-/

namespace EventAutomata

variable {σ α : Type}

/-- Some requests are taken out of a channel, and nothing else happens on the hub. -/
structure Hub.Discards (h : Hub α) (c : ChannelId) (fired : List (Fired α)) (h' : Hub α) : Prop where
  traffic : h.Traffic h' (fired.map (.taken c))
  meters : h'.meters = h.meters
  clock : h'.clock = h.clock

namespace Hub.Discards

variable {h h₁ h₂ : Hub α} {c : ChannelId} {fired fired' : List (Fired α)}

theorem refl : h.Discards c [] h := ⟨.refl, rfl, rfl⟩

theorem trans (h₁₂ : h.Discards c fired h₁) (h₂₃ : h₁.Discards c fired' h₂) :
    h.Discards c (fired ++ fired') h₂ where
  traffic := by
    rw [List.map_append]
    exact h₁₂.traffic.trans h₂₃.traffic
  meters := h₂₃.meters.trans h₁₂.meters
  clock := h₂₃.clock.trans h₁₂.clock

theorem of_take? {f : Fired α} (ht : h.take? c = some (f, h₁)) : h.Discards c [f] h₁ := by
  refine ⟨Hub.traffic_take? ht, ?_, ?_⟩ <;>
  · unfold Hub.take? at ht
    split at ht <;> cases ht
    rfl

end Hub.Discards

namespace Automaton

variable {past a : Automaton σ α}

/-- What `past` is since it was torn down. -/
structure SilentSince (past a : Automaton σ α) : Prop where
  start : a.start = none
  unsubscribed : ∀ t, a.registry.contains t = false
  config : a.config = past.config
  idle : past.config.policy = .strict → a.current = none ∧ a.history = past.history

def Call.starts : Call σ α → Bool
  | .setStart (some _) => true
  | _ => false

theorem silentSince_teardown (a : Automaton σ α) : a.SilentSince a.teardown.2 := by
  rw [teardown_eq]
  exact ⟨rfl, fun _ => rfl, rfl, fun _ => ⟨rfl, rfl⟩⟩

namespace SilentSince

theorem states (hs : past.SilentSince a) : a.states = ∅ := by rw [Automaton.states, hs.start]

theorem transitions (hs : past.SilentSince a) : a.transitions = ∅ := by
  rw [Automaton.transitions, hs.start]
  rfl

theorem entries (hs : past.SilentSince a) : a.registry.entries = ∅ := by
  refine HandleMap.ext_get? fun t => ?_
  have hnone := hs.unsubscribed t
  rwa [Registry.contains_eq, Option.isSome_eq_false_iff, Option.isNone_iff_eq_none] at hnone

theorem withGraph (hs : past.SilentSince a) (graph : Graph σ α) :
    past.SilentSince { a with graph } :=
  ⟨hs.start, hs.unsubscribed, hs.config, hs.idle⟩

-- ---------------------------------------------------------------------------
-- Edits
-- ---------------------------------------------------------------------------

theorem attach?_eq_none (hs : past.SilentSince a) (s : StateId) (t : TransitionId) :
    a.attach? s t = none := by
  rw [attach?, hs.states, if_neg (HandleSet.not_mem_empty s)]

theorem remove?_eq_none (hs : past.SilentSince a) (s : StateId) (t : TransitionId) :
    a.remove? s t = none := by
  rw [remove?, hs.states, if_neg (HandleSet.not_mem_empty s)]

theorem attachEpsilon?_ne_some (hs : past.SilentSince a) (s : StateId) (t : TransitionId)
    (b : Automaton σ α) : a.attachEpsilon? s t ≠ .ok (some b) := by
  unfold attachEpsilon?
  cases a.graph.ensureEpsilon t <;> simp [Except.map, hs.attach?_eq_none]

theorem removeEpsilon?_ne_some (hs : past.SilentSince a) (s : StateId) (t : TransitionId)
    (b : Automaton σ α) : a.removeEpsilon? s t ≠ .ok (some b) := by
  unfold removeEpsilon?
  cases a.graph.ensureEpsilon t <;> simp [Except.map, hs.remove?_eq_none]

variable [Payload σ]

theorem edit (hs : past.SilentSince a) (e : Graph.Edit σ) :
    (a.edit e).1 ≠ .flag true ∧ ∃ graph, (a.edit e).2 = { a with graph } := by
  have hrefused : (Graph.accepted a none).1 ≠ .flag true ∧
      ∃ graph, (Graph.accepted a none).2 = { a with graph } := by
    refine ⟨?_, a.graph, rfl⟩
    simp [Graph.accepted]
  have hunless : ∀ new? : Except Misuse (Option (Automaton σ α)), (∀ b, new? ≠ .ok (some b)) →
      (Graph.acceptedUnless a new?).1 ≠ .flag true ∧
        ∃ graph, (Graph.acceptedUnless a new?).2 = { a with graph } := by
    intro new? hnew
    rcases new? with problem | _ | b
    · refine ⟨?_, a.graph, rfl⟩
      simp [Graph.acceptedUnless]
    · exact hrefused
    · exact absurd rfl (hnew b)
  -- Attaching and removing are refused where nothing belongs to the machine.
  cases e with
  | addState data =>
    refine ⟨?_, _, rfl⟩
    rintro heq
    cases heq
  | addTransition kind target =>
    simp only [Automaton.edit, addTransition]
    cases a.graph.addTransition kind target with
    | error problem =>
      refine ⟨?_, a.graph, rfl⟩
      rintro heq
      cases heq
    | ok made =>
      refine ⟨?_, made.2, rfl⟩
      rintro heq
      cases heq
  | attach s t =>
    rw [Automaton.edit, hs.attach?_eq_none]
    exact hrefused
  | remove s t =>
    rw [Automaton.edit, hs.remove?_eq_none]
    exact hrefused
  | attachEpsilon s t => exact hunless _ (hs.attachEpsilon?_ne_some s t)
  | removeEpsilon s t => exact hunless _ (hs.removeEpsilon?_ne_some s t)

-- ---------------------------------------------------------------------------
-- Deliveries and transits
-- ---------------------------------------------------------------------------

theorem deliver (hs : past.SilentSince a) (fired : Fired α) (h : Hub α) :
    a.deliver fired h = (.ok false, a, h) := by
  rw [Automaton.deliver, hs.unsubscribed]
  rfl

theorem drain (hs : past.SilentSince a) (h : Hub α) (taken : Nat) :
    ∃ h', a.drain h taken = (.ok taken, a, h') ∧
      h.Discards a.channel (h.queue a.channel) h' := by
  fun_induction Automaton.drain a h taken with
  | case1 a h taken ht =>
    refine ⟨h, rfl, ?_⟩
    rw [Hub.take?_eq_none ht]
    exact .refl
  | case2 a h taken fired h₁ ht fault a' h' hd =>
    rw [hs.deliver] at hd
    cases hd
  | case3 a h taken fired h₁ ht took a' h' hd ih =>
    rw [hs.deliver] at hd
    cases hd
    obtain ⟨h₂, heq, hrest⟩ := ih hs
    refine ⟨h₂, heq, ?_⟩
    rw [(Hub.take?_eq_some ht).1]
    exact (Hub.Discards.of_take? ht).trans hrest

theorem dispatchNext (hs : past.SilentSince a) (h : Hub α) :
    a.dispatchNext h = (none, a, h) ∨
      ∃ fired h', a.dispatchNext h = (some (.ok false), a, h') ∧ h.Discards a.channel [fired] h' := by
  unfold Automaton.dispatchNext
  split
  next => exact .inl rfl
  next fired h₁ ht =>
    refine .inr ⟨fired, h₁, ?_, .of_take? ht⟩
    rw [hs.deliver]

omit [Payload σ] in
theorem deliveryAttempts (hs : past.SilentSince a) (fired : Fired α) (h : Hub α) :
    a.deliveryAttempts fired h = [] := by
  rw [Automaton.deliveryAttempts, hs.unsubscribed]
  rfl

theorem pendingAttempts (hs : past.SilentSince a) (h : Hub α) : a.pendingAttempts h = [] := by
  fun_induction Automaton.pendingAttempts a h with
  | case1 => rfl
  | case2 a h fired h₁ ht ih =>
    rw [hs.deliveryAttempts, List.nil_append]
    split
    next => rfl
    next took b h₂ hd =>
      have hsame := hs.deliver fired h₁
      rw [hd] at hsame
      cases hsame
      exact ih false a h₁ hd hs

/-- Unless it is direct, a call does not get as far as to ask for a transit. -/
theorem attempts (hs : past.SilentSince a) (h : Hub α) {c : Call σ α} (hc : c.isDirect = false) :
    a.attempts h c = [] := by
  cases c with
  | transit | transitTimes => cases hc
  | deliver fired => exact hs.deliveryAttempts fired h
  | dispatchPending => exact hs.pendingAttempts h
  | dispatchNext =>
    simp only [Automaton.attempts]
    split
    next => rfl
    next fired h₁ _ => exact hs.deliveryAttempts fired h₁
  | _ => rfl

theorem transit (hs : past.SilentSince a) (t : TransitionId) (args : List α) (h : Hub α) :
    past.SilentSince (a.transit t args h).2.1 := by
  rcases a.transit_cases t args h with ⟨heq, -⟩ | ⟨edge, -, hpolicy, -, current, history, heq, -⟩
  · rw [heq]
    exact hs
  · rw [heq]
    refine ⟨hs.start, hs.unsubscribed, hs.config, fun hstrict => ?_⟩
    have hleaves := hpolicy (hs.config ▸ hstrict)
    simp [leavesCurrent, (hs.idle hstrict).1] at hleaves

theorem transitTimes (hs : past.SilentSince a) (t : TransitionId) (args : List α) (h : Hub α)
    (times taken : Nat) : past.SilentSince (a.transitTimes t args h times taken).2.1 :=
  transitTimes_keeps (P := fun x => past.SilentSince x.1) (fun _ h hb => hb.transit t args h) a h
    times taken hs

omit [Payload σ] in
theorem teardown (hs : past.SilentSince a) : past.SilentSince a.teardown.2 := by
  rw [teardown_eq]
  exact ⟨rfl, fun _ => rfl, hs.config, fun hstrict => ⟨rfl, (hs.idle hstrict).2⟩⟩

-- ---------------------------------------------------------------------------
-- Calls
-- ---------------------------------------------------------------------------

/-- Whatever is called, the automaton stays silent unless it is given a start state. -/
theorem call (hs : past.SilentSince a) (h : Hub α) {c : Call σ α} (hc : c.starts = false) :
    past.SilentSince (a.call h c).2.1 := by
  cases c with
  | edit e =>
    obtain ⟨-, graph, heq⟩ := hs.edit e
    show past.SilentSince (a.edit e).2
    rw [heq]
    exact hs.withGraph graph
  | configure setting => exact hs.withGraph _
  | setStart s =>
    cases s with
    | some s => cases hc
    | none =>
      have hsame : setStart.moveStart a none = a := if_pos hs.start
      rw [Automaton.call, setStart, hsame]
      exact hs
  | reset => exact ⟨hs.start, hs.unsubscribed, hs.config, fun hp => ⟨hs.start, (hs.idle hp).2⟩⟩
  | transit t args => exact hs.transit t args h
  | transitTimes t args times => exact hs.transitTimes t args h times 0
  | deliver fired =>
    rw [Automaton.call, hs.deliver]
    exact hs
  | dispatchPending =>
    obtain ⟨h', heq, -⟩ := hs.drain h 0
    rw [Automaton.call, dispatchPending, heq]
    exact hs
  | dispatchNext =>
    rw [call_dispatchNext]
    rcases hs.dispatchNext h with heq | ⟨fired, h', heq, -⟩
    · rw [heq]
      exact hs
    · rw [heq]
      exact hs
  | teardown | teardownDescribed => exact hs.teardown
  | _ => exact hs

end SilentSince

end Automaton

namespace Session

open Automaton
open EventAutomata.Time

/-- The machine that is addressed gets a start state, or it is not there any more. -/
def Step.restarts : Step σ α → Bool
  | .create _ | .drop => true
  | .call c => c.starts
  | _ => false

variable [Payload σ] [Inhabited σ] {x : Session σ α} {m : Nat} {past a : Automaton σ α}

theorem silentSince_move {mv : Move σ α} (hmv : mv.place = m → mv.step.restarts = false)
    (ha : x.machine? m = some a) (hs : past.SilentSince a) :
    ∃ b, (x.move mv).2.machine? m = some b ∧ past.SilentSince b := by
  have hreplaces : mv.place = m → mv.step.replaces = false := by
    intro hplace
    have hrestarts := hmv hplace
    cases hstep : mv.step with
    | create | drop => rw [hstep] at hrestarts; cases hrestarts
    | _ => rfl
  have hchannel := channel?_perform (x := x.atTime mv.time) hreplaces
  obtain ⟨b, hb, -⟩ := channel?_eq_some.1 (hchannel.trans (channel?_of_machine? ha))
  refine ⟨b, hb, ?_⟩
  have hbecame := became_perform hb
  generalize hstep : mv.step = step at hbecame
  cases hbecame with
  | created config hub hplace =>
    rw [hstep] at hmv
    cases hmv hplace.symm
  | @called a' c hplace ha' =>
    cases ha.symm.trans ha'
    rw [hstep] at hmv
    exact hs.call _ (hmv hplace.symm)
  | @kept a' step graph ha' =>
    cases ha.symm.trans ha'
    exact hs.withGraph graph

theorem silentSince_play {mvs : List (Move σ α)}
    (hmvs : ∀ mv ∈ mvs, mv.place = m → mv.step.restarts = false) (ha : x.machine? m = some a)
    (hs : past.SilentSince a) : ∃ b, (x.play mvs).machine? m = some b ∧ past.SilentSince b := by
  induction mvs generalizing x a with
  | nil => exact ⟨a, ha, hs⟩
  | cons mv rest ih =>
    obtain ⟨b, hb, hsb⟩ := silentSince_move (hmvs mv List.mem_cons_self) ha hs
    exact ih (fun mv hmv => hmvs mv (List.mem_cons_of_mem _ hmv)) hb hsb

theorem perform_call_of_same {c : Automaton.Call σ α} {answer : Answer} {hub : Hub α}
    (ha : x.machine? m = some a) (hc : a.call x.hub c = (answer, a, hub)) :
    x.perform m (.call c) = (answer, { x with hub }) := by
  rw [perform, call, withMachine, ha]
  simp only [hc, setMachine_self ha]

/-- From a teardown on, and until the machine gets a start state again, nothing belongs to it and
nothing is subscribed. Nothing can be attached or removed. Requests are consumed, but no transit
is asked for, so no callback runs and the machine is left as it is. Under the strict policy it
does not move at all. -/
theorem torn_down_stays_silent (ha : x.machine? m = some a) {mvs : List (Move σ α)}
    (hmvs : ∀ mv ∈ mvs, mv.place = m → mv.step.restarts = false) (time : Timestamp) :
    let y := ((x.perform m (.call .teardown)).2.play mvs).atTime time
    ∃ b, y.machine? m = some b ∧
      b.states = ∅ ∧ b.transitions = ∅ ∧ b.registry.entries = ∅ ∧
      (∀ e, (y.perform m (.call (.edit e))).1 ≠ .flag true) ∧
      (∀ fired, y.perform m (.call (.deliver fired)) = (.flag false, y)) ∧
      (∃ hub, y.perform m (.call .dispatchPending) = (.number 0, { y with hub }) ∧
        y.hub.Discards b.channel (y.hub.queue b.channel) hub) ∧
      (y.perform m (.call .dispatchNext) = (.pending, y) ∨
        ∃ fired hub, y.perform m (.call .dispatchNext) = (.flag false, { y with hub }) ∧
          y.hub.Discards b.channel [fired] hub) ∧
      (∀ c : Automaton.Call σ α, c.isDirect = false → b.attempts y.hub c = []) ∧
      (a.config.policy = .strict → b.current = none ∧ b.history = a.history) := by
  intro y
  have htorn : (x.perform m (.call .teardown)).2.machine? m = some a.teardown.2 := by
    simp only [perform, call, withMachine, ha]
    show (x.setMachine m (some a.teardown.2)).machine? m = _
    rw [machine?_setMachine_eq, if_pos rfl, if_pos (lt_size_of_machine? ha)]
  obtain ⟨b, hb, hs⟩ := silentSince_play hmvs htorn a.silentSince_teardown
  replace hb : y.machine? m = some b := hb
  refine ⟨b, hb, hs.states, hs.transitions, hs.entries, fun e => ?_, fun fired => ?_, ?_, ?_,
    fun c hc => hs.attempts y.hub hc, hs.idle⟩
  · simp only [perform, call, withMachine, hb]
    exact (hs.edit e).1
  · refine perform_call_of_same hb ?_
    rw [Automaton.call, hs.deliver]
    rfl
  · obtain ⟨hub, heq, hdiscards⟩ := hs.drain y.hub 0
    refine ⟨hub, perform_call_of_same hb ?_, hdiscards⟩
    rw [Automaton.call, dispatchPending, heq]
    rfl
  · rcases hs.dispatchNext y.hub with heq | ⟨fired, hub, heq, hdiscards⟩
    · refine .inl (perform_call_of_same hb ?_)
      rw [Automaton.call, heq]
      rfl
    · refine .inr ⟨fired, hub, perform_call_of_same hb ?_, hdiscards⟩
      rw [Automaton.call, heq]
      rfl

/-- Two permissive machines. The first one runs in a loop, with a callback that breaks down, and
a request waits for it. -/
def loopSteps : List (Nat × Step String Nat) :=
  [(0, .create { policy := .permissive }), (0, .call (.edit (.addState "idle"))),
    (0, .call (.edit (.addTransition .input ⟨0⟩))), (0, .call (.setStart (some ⟨0⟩))),
    (0, .call (.edit (.attach ⟨0⟩ ⟨0⟩))), (0, .signal ⟨0⟩),
    (0, .configure (.onTransit ⟨0⟩ [.panic "boom" none])), (0, .raise 0 [1]),
    (1, .create {}), (1, .call (.edit (.addState "busy"))),
    (1, .call (.edit (.addTransition .input ⟨0⟩))), (1, .call (.setStart (some ⟨0⟩))),
    (1, .call (.edit (.attach ⟨0⟩ ⟨0⟩)))]

/-- The state of the other machine takes the place of its own, a direct transit makes that state
current, and one more request is raised. -/
def loopMoves : List (Move String Nat) :=
  [(0, .swapStates ⟨0⟩ ⟨0⟩ 1), (1, .call (.setStart none)), (1, .call (.setStart (some ⟨0⟩))),
    (0, .call (.transit ⟨0⟩ [])), (0, .call (.edit (.attach ⟨0⟩ ⟨0⟩))), (0, .raise 0 [2])].map
    fun e => ⟨⟨0, 0⟩, e.1, e.2⟩

theorem torn_down_stays_silent_after_direct_transit :
    let x : Session String Nat := run ∅ loopSteps
    let y := ((x.perform 0 (.call .teardown)).2.play loopMoves).atTime ⟨1, 0⟩
    (x.machine? 0).isSome = true ∧
      (∀ mv ∈ loopMoves, mv.place = 0 → mv.step.restarts = false) ∧
      (y.machine? 0).map (·.current) = some (some ⟨0⟩) ∧
      y.hub.queue ⟨0⟩ = [⟨⟨0⟩, [1]⟩, ⟨⟨0⟩, [2]⟩] ∧
      ∃ hub, y.perform 0 (.call .dispatchPending) = (.number 0, { y with hub }) := by
  intro x y
  have hmvs : ∀ mv ∈ loopMoves, mv.place = 0 → mv.step.restarts = false := by decide
  have hsome : (x.machine? 0).isSome = true := by decide
  obtain ⟨a, ha⟩ := Option.isSome_iff_exists.1 hsome
  obtain ⟨b, -, -, -, -, -, -, ⟨hub, hpending, -⟩, -⟩ :=
    torn_down_stays_silent ha hmvs ⟨1, 0⟩
  exact ⟨hsome, hmvs, by decide, by decide, hub, hpending⟩

end Session

end EventAutomata
