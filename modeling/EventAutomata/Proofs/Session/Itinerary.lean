import EventAutomata.Proofs.Arena
import EventAutomata.Proofs.Automaton.Acceptance
import EventAutomata.Proofs.Automaton.Attempts
import EventAutomata.Proofs.Automaton.Cursor
import EventAutomata.Proofs.Session.Lives
import Mathlib.Data.List.Chain
import Mathlib.Data.List.Forall2

/-!
# Where the current state has been

A path is put together from the records that are left: where the oldest of them came from, and
then where each led. That is the end of what the current state has gone through, whatever the
limit has taken out before, as long as nothing but completed transits changes the current state.
Then each trip begins where the one before has ended (`Journey`), and dropping trips from the
front drops as many stops.

A call that takes transits does nothing to the automaton but what it attempts (`Tries`). Over a
life the attempts that were completed therefore lead from one current state to the next (`Route`).
What the records are of is read off the log that the history keeps (`keeps_live`).
-/

namespace EventAutomata

open List (Forall₂)
open Relation (ReflTransGen)

variable {σ α : Type}

-- ---------------------------------------------------------------------------
-- Journeys
-- ---------------------------------------------------------------------------

/-- Each trip begins where the one before has ended, and the stops are where they end. -/
inductive Journey : StateId → List Trip → List StateId → Prop
  | stay (c : StateId) : Journey c [] []
  | go {c : StateId} {trip : Trip} {log : List Trip} {stops : List StateId} :
      trip.source = some c → Journey trip.target log stops →
      Journey c (trip :: log) (trip.target :: stops)

namespace Journey

variable {c : StateId} {log : List Trip} {stops : List StateId}

theorem targets (hj : Journey c log stops) : log.map Trip.target = stops := by
  induction hj with
  | stay => rfl
  | go _ _ ih => rw [List.map_cons, ih]

theorem length_eq (hj : Journey c log stops) : log.length = stops.length := by
  rw [← hj.targets, List.length_map]

theorem isChain (hj : Journey c log stops) :
    log.IsChain fun trip next => next.source = some trip.target := by
  induction hj with
  | stay => exact .nil
  | go _ hrest ih =>
    cases hrest with
    | stay => exact .singleton _
    | go hnext _ => exact .cons_cons hnext ih

/-- What is left of a journey whose first trips are dropped begins at the stop that was
reached with them. -/
theorem drop (hj : Journey c log stops) {n : Nat} (hn : n ≤ stops.length) :
    ∃ d, (c :: stops).drop n = d :: stops.drop n ∧ Journey d (log.drop n) (stops.drop n) := by
  induction hj generalizing n with
  | stay c =>
    cases Nat.le_zero.1 hn
    exact ⟨c, rfl, .stay c⟩
  | @go c trip log stops hsource hrest ih =>
    cases n with
    | zero => exact ⟨c, rfl, .go hsource hrest⟩
    | succ n => exact ih (Nat.le_of_succ_le_succ hn)

theorem path_eq (hj : Journey c log stops) {h : History} (htrips : h.trips = log) :
    h.path = if stops = [] then [] else c :: stops := by
  rw [History.path_eq, htrips, hj.targets]
  cases hj with
  | stay => rfl
  | go hsource => simp [hsource]

/-- Where records were taken out, the path begins later, and it ends where it would have ended. -/
theorem path_of_keeps (hj : Journey c log stops) {h : History} {limit : Option Nat}
    (hk : h.Keeps limit log) :
    h.path = if stops = [] ∨ limit = some 0 then []
      else keepLast (limit.map (min stops.length · + 1)) (c :: stops) := by
  obtain ⟨-, htrips⟩ := hk
  cases limit with
  | none =>
    rw [hj.path_eq htrips]
    simp [keepLast]
  | some n =>
    have hlost : stops.length - n ≤ stops.length := Nat.sub_le _ _
    obtain ⟨d, hd, hrest⟩ := hj.drop hlost
    rw [keepLast, hj.length_eq] at htrips
    rw [hrest.path_eq htrips, ← hd]
    -- There is no record left if there was no trip, or if none may be kept.
    have hnone : stops.drop (stops.length - n) = [] ↔ stops = [] ∨ some n = some 0 := by
      rw [List.drop_eq_nil_iff, ← List.length_eq_zero_iff, Option.some.injEq]
      omega
    have hlength : (c :: stops).length - (min stops.length n + 1) = stops.length - n := by
      rw [List.length_cons]
      omega
    simp only [hnone, Option.map_some, keepLast, hlength]

end Journey

namespace Automaton

variable [Payload σ]

-- ---------------------------------------------------------------------------
-- Attempts
-- ---------------------------------------------------------------------------

namespace Attempt

def returns (p : Attempt σ α) : Bool :=
  (p.automaton.transit p.transition p.args p.hub).1.isOk

def completes (p : Attempt σ α) : Bool := p.trip?.isSome

/-- An attempt that completes is of an edge that the policy lets it take. -/
theorem trip?_eq_some {p : Attempt σ α} {trip : Trip} (h : p.trip? = some trip) :
    ∃ edge, p.automaton.graph.transition? p.transition = some edge ∧
      trip = ⟨p.automaton.current, edge.target, p.transition⟩ ∧
      p.outcome.current = some edge.target ∧
      (p.automaton.config.policy = .strict → p.automaton.leavesCurrent edge = true) := by
  obtain ⟨a, hub, t, args⟩ := p
  simp only [trip?, outcome] at h ⊢
  split at h
  next hok =>
    obtain ⟨edge, hx, rfl⟩ := Option.map_eq_some_iff.1 h
    refine ⟨edge, hx, rfl, ?_, fun hstrict => ?_⟩
    · rcases a.transit_inTurn t args hub with heq | ⟨edge', pages, stop, h', hx', -, heq⟩
      · rw [heq] at hok
        cases hok
      · cases hx.symm.trans hx'
        rw [heq] at hok ⊢
        cases stop with
        | none => rfl
        | some stop => cases hok
    · rcases a.transit_cases t args hub with ⟨heq, -⟩ | ⟨edge', hx', hpolicy, -, -⟩
      · rw [heq] at hok
        cases hok
      · cases hx.symm.trans hx'
        exact hpolicy hstrict
  next => cases h

theorem current_outcome_of_refused {p : Attempt σ α} (hr : p.returns = true)
    (h : p.completes = false) : p.outcome.current = p.automaton.current := by
  obtain ⟨a, hub, t, args⟩ := p
  simp only [returns, completes, trip?, outcome] at hr h ⊢
  rcases a.transit_inTurn t args hub with heq | ⟨edge, pages, stop, h', hx, -, heq⟩
  · rw [heq]
  · rw [heq] at hr h
    cases stop with
    | none => simp [answerAt, hx] at h
    | some stop => cases hr

end Attempt

theorem tries_call (a : Automaton σ α) (h : Hub α) (c : Call σ α) :
    a.attempts h c = [] ∨ Tries a (a.attempts h c) (a.call h c).2.1 := by
  cases c with
  | transit t args => exact .inr (a.tries_transit t args h)
  | transitTimes t args times => exact .inr (a.tries_transitTimes t args h times 0)
  | deliver fired => exact .inr (a.tries_deliver fired h)
  | dispatchPending => exact .inr (a.tries_drain h 0)
  | dispatchNext =>
    rw [call_dispatchNext]
    exact .inr (a.tries_dispatchNext h)
  | _ => exact .inl rfl

theorem Tries.frame {a b : Automaton σ α} {ps : List (Attempt σ α)} (h : Tries a ps b)
    {p : Attempt σ α} (hp : p ∈ ps) :
    p.automaton.graph = a.graph ∧ p.automaton.config = a.config := by
  induction h with
  | none => cases hp
  | @next q ps b _ ih =>
    rcases List.mem_cons.1 hp with rfl | hp
    · exact ⟨rfl, rfl⟩
    · obtain ⟨hgraph, hconfig⟩ := ih hp
      exact ⟨hgraph.trans (q.automaton.transit_frame q.transition q.args q.hub).1,
        hconfig.trans (config_of_steps (steps_transit trivial q.automaton q.transition q.args q.hub))⟩

-- ---------------------------------------------------------------------------
-- Routes
-- ---------------------------------------------------------------------------

/-- From one current state to the next by transits that were completed. -/
inductive Route : Option StateId → List (Attempt σ α) → Option StateId → Prop
  | stay (c : Option StateId) : Route c [] c
  | go {p : Attempt σ α} {ps : List (Attempt σ α)} {d : Option StateId} :
      p.completes = true → Route p.outcome.current ps d → Route p.automaton.current (p :: ps) d

theorem Route.append {c d e : Option StateId} {ps qs : List (Attempt σ α)} (h : Route c ps d)
    (h' : Route d qs e) : Route c (ps ++ qs) e := by
  induction h with
  | stay => exact h'
  | go hp _ ih => exact .go hp (ih h')

theorem Tries.route {a b : Automaton σ α} {ps : List (Attempt σ α)} (h : Tries a ps b)
    (hr : ∀ p ∈ ps, p.returns = true) : Route a.current (ps.filter (·.completes)) b.current := by
  induction h with
  | none => exact .stay _
  | @next p ps b _ ih =>
    obtain ⟨hp, hps⟩ := List.forall_mem_cons.1 hr
    cases hc : p.completes with
    | true =>
      rw [List.filter_cons_of_pos hc]
      exact .go hc (ih hps)
    | false =>
      rw [List.filter_cons_of_neg (by simp [hc]), ← p.current_outcome_of_refused hp hc]
      exact ih hps

/-- A route is a journey from stop to stop. Nothing comes between the end of one transit and
the beginning of the next. -/
theorem Route.journey {c : StateId} {d : Option StateId} {ps : List (Attempt σ α)}
    (h : Route (some c) ps d) :
    ∃ stops, Journey c (ps.filterMap Attempt.trip?) stops ∧
      ps.map (·.outcome.current) = stops.map some ∧
      ps.map (·.automaton.current) ++ [d] = (c :: stops).map some := by
  generalize hstart : some c = start at h
  induction h generalizing c with
  | stay =>
    subst hstart
    exact ⟨[], .stay c, rfl, rfl⟩
  | @go p ps d hp _ ih =>
    obtain ⟨trip, htrip⟩ := Option.isSome_iff_exists.1 hp
    obtain ⟨edge, hx, rfl, harrival, -⟩ := Attempt.trip?_eq_some htrip
    obtain ⟨stops, hj, hstops, hcurrents⟩ := ih harrival.symm
    refine ⟨edge.target :: stops, ?_, ?_, ?_⟩
    · rw [List.filterMap_cons_some htrip]
      exact .go hstart.symm hj
    · rw [List.map_cons, hstops, harrival, List.map_cons]
    · rw [List.map_cons, List.cons_append, hcurrents, ← hstart]
      rfl

-- ---------------------------------------------------------------------------
-- Lives
-- ---------------------------------------------------------------------------

def turnAttempts (x : Automaton σ α × Hub α) : Turn σ α → List (Attempt σ α)
  | .call c => x.1.attempts x.2 c
  | .elsewhere _ => []

def completedOver (x : Automaton σ α × Hub α) : List (Turn σ α) → List (Attempt σ α)
  | [] => []
  | turn :: rest => (turnAttempts x turn).filter (·.completes) ++ completedOver (takeTurn x turn) rest

/-- No callback breaks down, and nothing but completed transits changes the current state. -/
def Undisturbed (x : Automaton σ α × Hub α) : List (Turn σ α) → Prop
  | [] => True
  | turn :: rest =>
    (∀ p ∈ turnAttempts x turn, p.returns = true) ∧
      ((turnAttempts x turn).filter (·.completes) = [] →
        (takeTurn x turn).1.current = x.1.current) ∧
      Undisturbed (takeTurn x turn) rest

instance decidableUndisturbed :
    ∀ (x : Automaton σ α × Hub α) (turns : List (Turn σ α)), Decidable (Undisturbed x turns)
  | _, [] => .isTrue trivial
  | x, turn :: rest =>
    have := decidableUndisturbed (takeTurn x turn) rest
    inferInstanceAs (Decidable ((∀ p ∈ turnAttempts x turn, p.returns = true) ∧
      ((turnAttempts x turn).filter (·.completes) = [] →
        (takeTurn x turn).1.current = x.1.current) ∧
      Undisturbed (takeTurn x turn) rest))

variable {x : Automaton σ α × Hub α} {turns : List (Turn σ α)}

theorem live_append (x : Automaton σ α × Hub α) (before after : List (Turn σ α)) :
    live x (before ++ after) = live (live x before) after := List.foldl_append

theorem route_takeTurn {turn : Turn σ α} (hr : ∀ p ∈ turnAttempts x turn, p.returns = true)
    (hc : (turnAttempts x turn).filter (·.completes) = [] →
      (takeTurn x turn).1.current = x.1.current) :
    Route x.1.current ((turnAttempts x turn).filter (·.completes)) (takeTurn x turn).1.current := by
  have hnone : turnAttempts x turn = [] →
      Route x.1.current ((turnAttempts x turn).filter (·.completes))
        (takeTurn x turn).1.current := by
    intro hempty
    rw [hempty] at hc ⊢
    rw [hc rfl]
    exact .stay _
  cases turn with
  | elsewhere hub => exact hnone rfl
  | call c =>
    rcases x.1.tries_call x.2 c with hempty | htries
    · exact hnone hempty
    · exact htries.route hr

theorem route_live (hu : Undisturbed x turns) :
    Route x.1.current (completedOver x turns) (live x turns).1.current := by
  induction turns generalizing x with
  | nil => exact .stay _
  | cons turn rest ih => exact (route_takeTurn hu.1 hu.2.1).append (ih hu.2.2)

omit [Payload σ] in
theorem filterMap_filter_isSome {β γ : Type} (f : β → Option γ) (xs : List β) :
    (xs.filter fun b => (f b).isSome).filterMap f = xs.filterMap f := by
  rw [List.filterMap_filter]
  congr
  funext b
  cases f b <;> rfl

theorem keeps_live {limit : Option Nat} {log : List Trip} (hk : x.1.history.Keeps limit log)
    (turns : List (Turn σ α)) :
    (live x turns).1.history.Keeps limit
      (log ++ (completedOver x turns).filterMap Attempt.trip?) := by
  induction turns generalizing x log with
  | nil => exact hk.append_nil
  | cons turn rest ih =>
    rw [completedOver, List.filterMap_append, ← List.append_assoc]
    refine ih ?_
    have hsame : ((turnAttempts x turn).filter (·.completes)).filterMap Attempt.trip? =
        (turnAttempts x turn).filterMap Attempt.trip? := filterMap_filter_isSome _ _
    rw [hsame]
    cases turn with
    | call c => exact keeps_call hk x.2 c
    | elsewhere hub => exact hk.append_nil

theorem mem_completedOver {p : Attempt σ α} (hp : p ∈ completedOver x turns) :
    p.completes = true ∧ ∃ before after, turns = before ++ after ∧
      p.automaton.graph = (live x before).1.graph ∧
      p.automaton.config = (live x before).1.config := by
  induction turns generalizing x with
  | nil => cases hp
  | cons turn rest ih =>
    rcases List.mem_append.1 hp with hp | hp
    · obtain ⟨hmem, hc⟩ := List.mem_filter.1 hp
      refine ⟨hc, [], turn :: rest, rfl, ?_⟩
      cases turn with
      | elsewhere hub => cases hmem
      | call c =>
        rcases x.1.tries_call x.2 c with hempty | htries
        · rw [turnAttempts, hempty] at hmem
          cases hmem
        · exact htries.frame hmem
    · obtain ⟨hc, before, after, rfl, hframe⟩ := ih hp
      exact ⟨hc, turn :: before, after, rfl, hframe⟩

theorem forall₂_of_map_eq {β γ δ : Type} {f : β → δ} {g : γ → δ} {xs : List β} {ys : List γ}
    (h : xs.map f = ys.map g) : Forall₂ (fun b c => f b = g c) xs ys := by
  rw [← List.forall₂_eq_eq_eq] at h
  exact List.forall₂_map_right_iff.1 (List.forall₂_map_left_iff.1 h)

theorem recorded_of_keeps {limit : Option Nat} {h : History}
    (hk : h.Keeps limit ((completedOver x turns).filterMap Attempt.trip?)) :
    Forall₂ (fun p r => p.trip? = some r.trip) (keepLast limit (completedOver x turns)) h.records := by
  have hall : (completedOver x turns).map Attempt.trip? =
      ((completedOver x turns).filterMap Attempt.trip?).map some := by
    rw [List.map_filterMap_some_eq_filter_map_isSome, List.filter_eq_self.2]
    intro trip htrip
    obtain ⟨p, hp, rfl⟩ := List.mem_map.1 htrip
    exact (mem_completedOver hp).1
  refine forall₂_of_map_eq (f := Attempt.trip?) (g := some ∘ TransitRecord.trip) ?_
  calc (keepLast limit (completedOver x turns)).map Attempt.trip?
      = keepLast limit (((completedOver x turns).filterMap Attempt.trip?).map some) := by
        rw [keepLast_map, hall]
    _ = h.trips.map some := by rw [← keepLast_map, hk.2]
    _ = h.records.map (some ∘ TransitRecord.trip) := List.map_map

theorem target_of_completed {p : Attempt σ α} (hp : p ∈ completedOver x turns) {trip : Trip}
    (htrip : p.trip? = some trip) :
    ∃ edge, (live x turns).1.graph.transition? trip.transition = some edge ∧
      edge.target = trip.target := by
  obtain ⟨-, before, after, rfl, hgraph, -⟩ := mem_completedOver hp
  obtain ⟨edge, hx, rfl, -⟩ := Attempt.trip?_eq_some htrip
  rw [hgraph] at hx
  rw [live_append]
  have hpersists := Graph.persists_of_changes (changes_live (live x before) after)
  obtain ⟨edge', hx', htarget, -⟩ := hpersists.transition hx
  exact ⟨edge', hx', htarget⟩

/-- A strict automaton has asked for the owner. -/
theorem owner_of_completed (hstrict : x.1.config.policy = .strict) {p : Attempt σ α}
    (hp : p ∈ completedOver x turns) :
    ∃ s, p.automaton.current = some s ∧ p.automaton.graph.ownerOf p.transition = some s := by
  obtain ⟨hc, before, after, rfl, -, hconfig⟩ := mem_completedOver hp
  have hsteps : ReflTransGen (Step True) x.1 (live x before).1 :=
    steps_live True x before fun _ _ _ => trivial
  obtain ⟨trip, htrip⟩ := Option.isSome_iff_exists.1 hc
  obtain ⟨edge, hx, -, -, hleaves⟩ := Attempt.trip?_eq_some htrip
  rw [hconfig, config_of_steps hsteps] at hleaves
  obtain ⟨s, hs, howner⟩ := leavesCurrent_iff.1 (hleaves hstrict)
  exact ⟨s, hs, Graph.ownerOf_eq_some.2 ⟨edge, hx, howner⟩⟩

theorem wellFormed_of_completed {config : AutomatonConfig} {hub : Hub α}
    {earlier : List (Turn σ α)} {p : Attempt σ α}
    (hp : p ∈ completedOver (live (create config hub) earlier) turns) :
    p.automaton.graph.WellFormed := by
  obtain ⟨-, before, after, -, hgraph, -⟩ := mem_completedOver hp
  rw [hgraph, ← live_append]
  exact (tracked_live config hub (earlier ++ before)).graph

/-- The path is the end of what the current state has gone through since the history was empty.

The transits that were completed are found and left with one current state after the other, and
as many of these are on the path as there are records, and one more. The records are those of
the newest of these transits; each begins where the one before it has ended, and ends at the
target of its transition. Under the strict policy the state it begins at was the owner of the
transition, and had it among its outgoing ones, if no nodes have ever been exchanged. -/
theorem path_is_where_the_current_state_has_been {x : Automaton σ α × Hub α} {c₀ : StateId}
    {limit : Option Nat} {turns : List (Turn σ α)} (hcurrent : x.1.current = some c₀)
    (hempty : x.1.history = .withLimit limit) (hu : Undisturbed x turns) :
    let b := (live x turns).1
    let taken := completedOver x turns
    ∃ stops : List StateId,
      taken.map (·.automaton.current) ++ [b.current] = (c₀ :: stops).map some ∧
      taken.map (·.outcome.current) = stops.map some ∧
      b.history.path = (if stops = [] ∨ limit = some 0 then []
        else keepLast (limit.map (min stops.length · + 1)) (c₀ :: stops)) ∧
      Forall₂ (fun p r => p.trip? = some r.trip) (keepLast limit taken) b.history.records ∧
      b.history.records.IsChain (fun r next => next.source = some r.target) ∧
      (∀ r ∈ b.history.records,
        ∃ edge, b.graph.transition? r.transition = some edge ∧ edge.target = r.target) ∧
      (x.1.config.policy = .strict → ∀ p ∈ taken, ∃ s, p.automaton.current = some s ∧
        p.automaton.graph.ownerOf p.transition = some s ∧
        ((∃ config hub earlier, x = live (create config hub) earlier) →
          p.automaton.graph.Holds s p.transition)) := by
  intro b taken
  have hroute := route_live hu
  rw [hcurrent] at hroute
  obtain ⟨stops, hj, hstops, hcurrents⟩ := hroute.journey
  have hkeeps : b.history.Keeps limit (taken.filterMap Attempt.trip?) :=
    keeps_live (hempty ▸ History.keeps_withLimit limit) turns
  refine ⟨stops, hcurrents, hstops, hj.path_of_keeps hkeeps, recorded_of_keeps hkeeps, ?_,
    fun r hr => ?_, fun hstrict p hp => ?_⟩
  · have hchain := hj.isChain.suffix (keepLast_suffix limit _)
    rw [← hkeeps.2] at hchain
    exact (List.isChain_map TransitRecord.trip).1 hchain
  · have htrip : r.trip ∈ b.history.trips := List.mem_map_of_mem hr
    rw [hkeeps.2] at htrip
    obtain ⟨p, hp, htrip⟩ := List.mem_filterMap.1 ((keepLast_suffix limit _).subset htrip)
    exact target_of_completed hp htrip
  · obtain ⟨s, hs, howner⟩ := owner_of_completed hstrict hp
    refine ⟨s, hs, howner, ?_⟩
    rintro ⟨config, hub, earlier, rfl⟩
    exact ((wellFormed_of_completed hp).holds_iff _ _).2 howner

/-- Whoever is away is called home: the entry callback of the second state raises the signal that
leads back to the first. -/
def homeTurns : List (Turn String Nat) :=
  [.call (.edit (.addState "home")), .call (.edit (.addState "away")),
    .call (.edit (.addTransition .input ⟨1⟩)), .call (.edit (.addTransition .input ⟨0⟩)),
    .call (.setStart (some ⟨0⟩)), .call (.edit (.attach ⟨0⟩ ⟨0⟩)), .call (.edit (.attach ⟨1⟩ ⟨1⟩)),
    .call (.configure (.onEntry ⟨1⟩ [.raise ⟨⟨1⟩, ⟨0⟩⟩ [] ⟨0⟩]))]

/-- Three trips, on a graph that grows and shrinks meanwhile. Two transits are refused. -/
def outingTurns : List (Turn String Nat) :=
  [.call (.transit ⟨0⟩ []), .call (.transit ⟨0⟩ []), .call (.edit (.addState "abroad")),
    .call (.edit (.addTransition .input ⟨2⟩)), .call (.edit (.attach ⟨0⟩ ⟨2⟩)),
    .call .dispatchNext, .call (.edit (.remove ⟨0⟩ ⟨0⟩)), .call (.transitTimes ⟨2⟩ [] 2)]

/-- The first trip, to the second state, is not among the two that are kept. It is where the
oldest of these has begun. -/
theorem path_is_where_the_current_state_has_been_on_outing :
    let x := live (create { historyLimit := some 2 } { meters := #[1] }) homeTurns
    let b := (live x outingTurns).1
    let taken := completedOver x outingTurns
    x.1.current = some ⟨0⟩ ∧ x.1.history = .withLimit (some 2) ∧ Undisturbed x outingTurns ∧
      taken.map (·.outcome.current) = [some ⟨1⟩, some ⟨0⟩, some ⟨2⟩] ∧
      b.history.path = [⟨1⟩, ⟨0⟩, ⟨2⟩] ∧
      ∀ p ∈ taken, ∃ s, p.automaton.current = some s ∧ p.automaton.graph.Holds s p.transition := by
  intro x b taken
  have hcurrent : x.1.current = some ⟨0⟩ := by decide
  have hempty : x.1.history = .withLimit (some 2) := by decide
  have hu : Undisturbed x outingTurns := by decide
  obtain ⟨stops, -, hstops, hpath, -, -, -, hheld⟩ :=
    path_is_where_the_current_state_has_been hcurrent hempty hu
  have harrivals : taken.map (·.outcome.current) = [some ⟨1⟩, some ⟨0⟩, some ⟨2⟩] := by decide
  have hall : stops = [⟨1⟩, ⟨0⟩, ⟨2⟩] :=
    List.map_injective_iff.2 (fun _ _ => Option.some.inj) (hstops.symm.trans harrivals)
  refine ⟨hcurrent, hempty, hu, harrivals, ?_, fun p hp => ?_⟩
  · rw [hpath, hall]
    rfl
  · obtain ⟨s, hs, -, hholds⟩ := hheld rfl p hp
    exact ⟨s, hs, hholds ⟨_, _, _, rfl⟩⟩

/-- Two states are exchanged, and then the first is made the start state again. -/
def exchangedSteps : List (Nat × Session.Step String Nat) :=
  [(0, .create {}), (0, .call (.edit (.addState "idle"))), (0, .call (.edit (.addState "busy"))),
    (0, .call (.edit (.addTransition .input ⟨1⟩))), (0, .call (.setStart (some ⟨0⟩))),
    (0, .call (.edit (.attach ⟨0⟩ ⟨0⟩))), (0, .swapStates ⟨0⟩ ⟨1⟩ 0), (0, .call (.setStart none)),
    (0, .call (.setStart (some ⟨0⟩)))]

/-- The transition has gone to the other state, and its owner is still the first. So a strict
automaton takes it from there, though it is not among the outgoing ones. -/
theorem exchanged_transition_is_taken_by_its_owner :
    let x := (∅ : Session String Nat).run exchangedSteps
    let turns : List (Turn String Nat) := [.call (.transit ⟨0⟩ [])]
    ∃ a ∈ x.machine? 0, a.config.policy = .strict ∧ a.start = some ⟨0⟩ ∧ a.current = some ⟨0⟩ ∧
      a.history = .withLimit a.config.historyLimit ∧ Undisturbed (a, x.hub) turns ∧
      (live (a, x.hub) turns).1.history.trips = [⟨some ⟨0⟩, ⟨1⟩, ⟨0⟩⟩] ∧
      ¬ a.graph.Holds ⟨0⟩ ⟨0⟩ := by
  decide

end Automaton

end EventAutomata
