import EventAutomata.Proofs.Automaton.Stages

/-!
# Deliveries in a row

A dispatch takes requests out of the channel and delivers each before it takes the next.
`Deliveries` is such a row, from the automaton and the hub before it to those after it; a
delivery that breaks down is the last one. The functions that dispatch are shown once to make
such rows, and everything later is said of rows.

What has been delivered and what still waits is, in this order, what waited before and what
was queued meanwhile (`Deliveries.traffic`). Since the row that `dispatchPending` makes cannot
go on, no row from the same start is longer (`Drained.longest`).
-/

namespace EventAutomata

variable {σ α : Type}

/-- A request that was taken out, and what came of it. -/
structure Delivery (α : Type) where
  fired : Fired α
  result : Except Fault Bool

namespace Delivery

def took (d : Delivery α) : Bool :=
  match d.result with
  | .ok took => took
  | .error _ => false

def Returned (d : Delivery α) : Prop := ∃ took, d.result = .ok took

end Delivery

namespace Automaton

variable [Payload σ]

inductive Deliveries : Automaton σ α × Hub α → List (Delivery α) → Automaton σ α × Hub α → Prop
  | none (x : Automaton σ α × Hub α) : Deliveries x [] x
  | next {x y z : Automaton σ α × Hub α} {fired : Fired α} {h : Hub α} {took : Bool}
      {ds : List (Delivery α)} :
      x.2.take? x.1.channel = some (fired, h) → x.1.deliver fired h = (.ok took, y) →
      Deliveries y ds z → Deliveries x (⟨fired, .ok took⟩ :: ds) z
  | fault {x y : Automaton σ α × Hub α} {fired : Fired α} {h : Hub α} {fault : Fault} :
      x.2.take? x.1.channel = some (fired, h) → x.1.deliver fired h = (.error fault, y) →
      Deliveries x [⟨fired, .error fault⟩] y

-- ---------------------------------------------------------------------------
-- One delivery
-- ---------------------------------------------------------------------------

theorem deliver_keeps (a : Automaton σ α) (fired : Fired α) (h : Hub α) :
    ∃ current history, (a.deliver fired h).2.1 = { a with current, history } := by
  rcases a.deliver_inTurn fired h with heq | ⟨edge, pages, stop, h', -, -, heq⟩
  · rw [heq]
    exact ⟨a.current, a.history, rfl⟩
  · rw [heq]
    exact ⟨_, _, rfl⟩

theorem channel_of_deliver {x y : Automaton σ α × Hub α} {fired : Fired α} {h : Hub α}
    {result : Except Fault Bool} (hd : x.1.deliver fired h = (result, y)) :
    y.1.channel = x.1.channel := by
  obtain ⟨_, _, hy⟩ := x.1.deliver_keeps fired h
  rw [hd] at hy
  rw [hy]

theorem transit_traffic (a : Automaton σ α) (t : TransitionId) (args : List α) (h : Hub α) :
    ∃ events, h.Traffic (a.transit t args h).2.2 events ∧ ∀ c, takenFrom c events = [] := by
  rcases a.transit_inTurn t args h with heq | ⟨edge, pages, stop, h', -, hturn, heq⟩
  · rw [heq]
    exact ⟨[], .refl, fun _ => rfl⟩
  · rw [heq]
    exact ⟨pages.flatten, hturn.traffic, hturn.takenFrom_eq_nil⟩

theorem deliver_traffic (a : Automaton σ α) (fired : Fired α) (h : Hub α) :
    ∃ events, h.Traffic (a.deliver fired h).2.2 events ∧ ∀ c, takenFrom c events = [] := by
  rcases a.deliver_cases fired h with heq | ⟨-, heq⟩
  · rw [heq]
    exact ⟨[], .refl, fun _ => rfl⟩
  · rw [heq]
    exact a.transit_traffic fired.transition fired.args h

theorem takeAndDeliver_traffic {x y : Automaton σ α × Hub α} {fired : Fired α} {h : Hub α}
    {result : Except Fault Bool} (ht : x.2.take? x.1.channel = some (fired, h))
    (hd : x.1.deliver fired h = (result, y)) :
    ∃ events, x.2.Traffic y.2 events ∧
      ∀ c, takenFrom c events = if x.1.channel = c then [fired] else [] := by
  obtain ⟨events, htraffic, hnone⟩ := x.1.deliver_traffic fired h
  rw [hd] at htraffic
  refine ⟨_, (Hub.traffic_take? ht).trans htraffic, fun c => ?_⟩
  rw [takenFrom_append, hnone, List.append_nil, takenFrom_taken]

-- ---------------------------------------------------------------------------
-- A row of deliveries
-- ---------------------------------------------------------------------------

namespace Deliveries

variable {x y : Automaton σ α × Hub α} {ds : List (Delivery α)}

theorem keeps (hd : Deliveries x ds y) :
    ∃ current history, y.1 = { x.1 with current, history } := by
  induction hd with
  | none x => exact ⟨x.1.current, x.1.history, rfl⟩
  | @next x y z fired h took ds _ hdel _ ih =>
    obtain ⟨current, history, hz⟩ := ih
    obtain ⟨_, _, hy⟩ := x.1.deliver_keeps fired h
    rw [hdel] at hy
    exact ⟨current, history, by rw [hz, hy]⟩
  | @fault x y fired h _ _ hdel =>
    have hy := x.1.deliver_keeps fired h
    rwa [hdel] at hy

theorem traffic (hd : Deliveries x ds y) :
    ∃ events, x.2.Traffic y.2 events ∧
      ∀ c, takenFrom c events = if x.1.channel = c then ds.map Delivery.fired else [] := by
  induction hd with
  | none => exact ⟨[], .refl, by simp⟩
  | @next x y z fired h took ds ht hdel hrest ih =>
    obtain ⟨first, hfirst, htaken⟩ := takeAndDeliver_traffic ht hdel
    obtain ⟨later, hlater, htaken'⟩ := ih
    refine ⟨first ++ later, hfirst.trans hlater, fun c => ?_⟩
    rw [takenFrom_append, htaken, htaken', channel_of_deliver hdel]
    split <;> rfl
  | fault ht hdel => exact takeAndDeliver_traffic ht hdel

end Deliveries

-- ---------------------------------------------------------------------------
-- Dispatching
-- ---------------------------------------------------------------------------

/-- One round of draining, and the rest if it does not break down. -/
theorem drain_eq (a : Automaton σ α) (h : Hub α) (taken : Nat) :
    a.drain h taken =
      match h.take? a.channel with
      | none => (.ok taken, a, h)
      | some (fired, h₁) =>
        match a.deliver fired h₁ with
        | (.error fault, a', h') => (.error fault, a', h')
        | (.ok took, a', h') => a'.drain h' (if took then taken + 1 else taken) := by
  rw [drain]
  split
  next ht => rw [ht]
  next ht =>
    rw [ht]
    dsimp only
    split <;> simp_all

/-- The row that a dispatch of all that waits has made from a start, with what it answers.
`taken` is the count it started with. -/
structure Drained (x : Automaton σ α × Hub α) (taken : Nat) (ds : List (Delivery α))
    (outcome : Except Fault Nat × Automaton σ α × Hub α) : Prop where
  deliveries : Deliveries x ds outcome.2
  longest : ∀ {ds' : List (Delivery α)} {y : Automaton σ α × Hub α}, Deliveries x ds' y → ds' <+: ds
  returned : ∀ n, outcome.1 = .ok n → n = taken + ds.countP Delivery.took ∧
    (∀ d ∈ ds, d.Returned) ∧ outcome.2.2.queue x.1.channel = []
  brokeDown : ∀ fault, outcome.1 = .error fault →
    ∃ done fired, ds = done ++ [⟨fired, .error fault⟩] ∧ ∀ d ∈ done, d.Returned

namespace Drained

variable {x y : Automaton σ α × Hub α} {fired : Fired α} {h : Hub α} {taken : Nat}

theorem nothing (ht : x.2.take? x.1.channel = none) : Drained x taken [] (.ok taken, x) where
  deliveries := .none x
  longest hd := by
    cases hd with
    | none => exact List.prefix_refl _
    | next ht' | fault ht' => rw [ht] at ht'; cases ht'
  returned n hn := by
    cases hn
    exact ⟨rfl, nofun, Hub.take?_eq_none ht⟩
  brokeDown := nofun

theorem fault {fault : Fault} (ht : x.2.take? x.1.channel = some (fired, h))
    (hdel : x.1.deliver fired h = (.error fault, y)) :
    Drained x taken [⟨fired, .error fault⟩] (.error fault, y) where
  deliveries := .fault ht hdel
  longest hd := by
    cases hd with
    | none => exact List.nil_prefix
    | next ht' hdel' =>
      cases ht.symm.trans ht'
      cases hdel.symm.trans hdel'
    | fault ht' hdel' =>
      cases ht.symm.trans ht'
      cases hdel.symm.trans hdel'
      exact List.prefix_refl _
  returned := nofun
  brokeDown f hf := by
    cases hf
    exact ⟨[], fired, rfl, nofun⟩

theorem next {took : Bool} {ds : List (Delivery α)}
    {outcome : Except Fault Nat × Automaton σ α × Hub α}
    (ht : x.2.take? x.1.channel = some (fired, h))
    (hdel : x.1.deliver fired h = (.ok took, y))
    (hds : Drained y (if took then taken + 1 else taken) ds outcome) :
    Drained x taken (⟨fired, .ok took⟩ :: ds) outcome where
  deliveries := .next ht hdel hds.deliveries
  longest hd := by
    cases hd with
    | none => exact List.nil_prefix
    | next ht' hdel' hrest =>
      cases ht.symm.trans ht'
      cases hdel.symm.trans hdel'
      exact List.cons_prefix_cons.2 ⟨rfl, hds.longest hrest⟩
    | fault ht' hdel' =>
      cases ht.symm.trans ht'
      cases hdel.symm.trans hdel'
  returned n hn := by
    obtain ⟨hcount, hall, hempty⟩ := hds.returned n hn
    refine ⟨?_, List.forall_mem_cons.2 ⟨⟨took, rfl⟩, hall⟩, channel_of_deliver hdel ▸ hempty⟩
    rw [hcount, List.countP_cons]
    cases took with
    | false => rfl
    | true => exact Nat.add_right_comm ..
  brokeDown f hf := by
    obtain ⟨done, last, rfl, hall⟩ := hds.brokeDown f hf
    exact ⟨⟨fired, .ok took⟩ :: done, last, rfl, List.forall_mem_cons.2 ⟨⟨took, rfl⟩, hall⟩⟩

end Drained

theorem drained_drain (a : Automaton σ α) (h : Hub α) (taken : Nat) :
    ∃ ds, Drained (a, h) taken ds (a.drain h taken) := by
  fun_induction drain a h taken with
  | case1 a h taken ht => exact ⟨[], .nothing ht⟩
  | case2 a h taken fired h₁ ht fault a' h' hdel => exact ⟨_, .fault ht hdel⟩
  | case3 a h taken fired h₁ ht took a' h' hdel ih =>
    obtain ⟨ds, hds⟩ := ih
    exact ⟨_, hds.next ht hdel⟩

theorem drained_dispatchPending (a : Automaton σ α) (h : Hub α) :
    ∃ ds, Drained (a, h) 0 ds (a.dispatchPending h) := a.drained_drain h 0

/-- A poll finds nothing and changes nothing, or makes one delivery. -/
theorem deliveries_dispatchNext (a : Automaton σ α) (h : Hub α) :
    (a.dispatchNext h = (none, a, h) ∧ h.queue a.channel = []) ∨
      ∃ fired result, (a.dispatchNext h).1 = some result ∧
        Deliveries (a, h) [⟨fired, result⟩] (a.dispatchNext h).2 := by
  unfold dispatchNext
  split
  next ht => exact .inl ⟨rfl, Hub.take?_eq_none ht⟩
  next fired h₁ ht =>
    refine .inr ⟨fired, (a.deliver fired h₁).1, rfl, ?_⟩
    cases hdel : a.deliver fired h₁ with
    | mk result y =>
      cases result with
      | ok took => exact .next (x := (a, h)) ht hdel (.none y)
      | error fault => exact .fault (x := (a, h)) ht hdel

-- ---------------------------------------------------------------------------
-- Calls
-- ---------------------------------------------------------------------------

def Call.dispatches : Call σ α → Bool
  | .dispatchPending | .dispatchNext => true
  | _ => false

/-- What a call does to the hub. Only a dispatch takes requests out, and it delivers them. -/
structure Call.Serves (a : Automaton σ α) (h : Hub α) (c : Call σ α) (ds : List (Delivery α))
    (events : List (Event α)) : Prop where
  traffic : h.Traffic (a.call h c).2.2 events
  taken : ∀ d, takenFrom d events = if a.channel = d then ds.map Delivery.fired else []
  deliveries : c.dispatches = true → Deliveries (a, h) ds (a.call h c).2
  quiet : c.dispatches = false → ds = []

theorem transitTimes_traffic (a : Automaton σ α) (t : TransitionId) (args : List α) (h : Hub α)
    (times taken : Nat) :
    ∃ events, h.Traffic (a.transitTimes t args h times taken).2.2 events ∧
      ∀ c, takenFrom c events = [] := by
  refine transitTimes_keeps
    (P := fun x => ∃ events, h.Traffic x.2 events ∧ ∀ c, takenFrom c events = [])
    (fun b k hk => ?_) a h times taken ⟨[], .refl, fun _ => rfl⟩
  obtain ⟨events, htraffic, hnone⟩ := hk
  obtain ⟨later, hlater, hnone'⟩ := b.transit_traffic t args k
  refine ⟨events ++ later, htraffic.trans hlater, fun c => ?_⟩
  rw [takenFrom_append, hnone, hnone', List.append_nil]

theorem Call.Serves.of_quiet {a : Automaton σ α} {h : Hub α} {c : Call σ α}
    {events : List (Event α)} (hc : c.dispatches = false)
    (ht : h.Traffic (a.call h c).2.2 events) (hnone : ∀ d, takenFrom d events = []) :
    c.Serves a h [] events where
  traffic := ht
  taken d := by rw [hnone, List.map_nil, ite_self]
  deliveries hd := by rw [hc] at hd; cases hd
  quiet _ := rfl

theorem Call.Serves.of_deliveries {a : Automaton σ α} {h : Hub α} {c : Call σ α}
    {ds : List (Delivery α)} (hc : c.dispatches = true)
    (hd : Deliveries (a, h) ds (a.call h c).2) : ∃ events, c.Serves a h ds events := by
  obtain ⟨events, htraffic, htaken⟩ := hd.traffic
  exact ⟨events, htraffic, htaken, fun _ => hd, fun hc' => by rw [hc] at hc'; cases hc'⟩

theorem serves_call (a : Automaton σ α) (h : Hub α) (c : Call σ α) :
    ∃ ds events, c.Serves a h ds events := by
  cases c with
  | setStart s =>
    have hsame : (a.call h (.setStart s)).2.2 = h := by
      simp only [call]
      split <;> rfl
    have htraffic : h.Traffic (a.call h (.setStart s)).2.2 [] := by
      rw [hsame]
      exact .refl
    exact ⟨[], [], .of_quiet rfl htraffic fun _ => rfl⟩
  | transit t args =>
    obtain ⟨events, htraffic, hnone⟩ := a.transit_traffic t args h
    exact ⟨[], events, .of_quiet rfl htraffic hnone⟩
  | transitTimes t args times =>
    obtain ⟨events, htraffic, hnone⟩ := a.transitTimes_traffic t args h times 0
    exact ⟨[], events, .of_quiet rfl htraffic hnone⟩
  | deliver fired =>
    obtain ⟨events, htraffic, hnone⟩ := a.deliver_traffic fired h
    exact ⟨[], events, .of_quiet rfl htraffic hnone⟩
  | dispatchPending =>
    obtain ⟨ds, hds⟩ := a.drained_dispatchPending h
    exact ⟨ds, Call.Serves.of_deliveries rfl hds.deliveries⟩
  | dispatchNext =>
    rcases a.deliveries_dispatchNext h with ⟨heq, -⟩ | ⟨fired, result, -, hd⟩
    · refine ⟨[], Call.Serves.of_deliveries rfl ?_⟩
      rw [call_dispatchNext, heq]
      exact .none (a, h)
    · rw [← call_dispatchNext] at hd
      exact ⟨_, Call.Serves.of_deliveries rfl hd⟩
  | _ => exact ⟨[], [], .of_quiet rfl .refl fun _ => rfl⟩

theorem Step.channel {direct : Prop} {a b : Automaton σ α} (h : Step direct a b) :
    b.channel = a.channel := by
  cases h with
  | remove hs h => unfold dropStrandedCursor; split <;> (try split) <;> rfl
  | transit hd ht hpolicy hmoved | deliver hsub ht hmoved =>
    obtain ⟨_, _, rfl, -⟩ := hmoved
    rfl
  | _ => rfl

theorem channel_of_steps {direct : Prop} {a b : Automaton σ α}
    (h : Relation.ReflTransGen (Step direct) a b) : b.channel = a.channel := by
  induction h with
  | refl => rfl
  | tail _ hstep ih => exact hstep.channel.trans ih

theorem channel_call (a : Automaton σ α) (h : Hub α) (c : Call σ α) :
    (a.call h c).2.1.channel = a.channel :=
  channel_of_steps (steps_call a h c fun _ => trivial)

/-- Dispatching comes to an end: there is a longest row of deliveries, and that is made. If
none of them broke down, all that waited and all that was raised meanwhile was consumed. -/
theorem dispatch_comes_to_an_end (a : Automaton σ α) (h : Hub α) :
    ∃ ds events, Deliveries (a, h) ds (a.dispatchPending h).2 ∧
      (∀ ds' y, Deliveries (a, h) ds' y → ds' <+: ds) ∧
      h.Traffic (a.dispatchPending h).2.2 events ∧
      takenFrom a.channel events = ds.map Delivery.fired ∧
      ∀ n, (a.dispatchPending h).1 = .ok n →
        ds.length = (h.queue a.channel).length + (queuedIn a.channel events).length := by
  obtain ⟨ds, hds⟩ := a.drained_dispatchPending h
  obtain ⟨events, htraffic, htaken⟩ := hds.deliveries.traffic
  have htaken' : takenFrom a.channel events = ds.map Delivery.fired := by
    rw [htaken, if_pos rfl]
  refine ⟨ds, events, hds.deliveries, fun _ _ hd => hds.longest hd, htraffic, htaken',
    fun n hn => ?_⟩
  have hqueue := htraffic.queue a.channel
  rw [(hds.returned n hn).2.2, List.append_nil, htaken'] at hqueue
  have hlength := congrArg List.length hqueue
  rw [List.length_append, List.length_map] at hlength
  exact hlength.symm

end Automaton

end EventAutomata
