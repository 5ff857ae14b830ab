import EventAutomata.Proofs.Automaton.Dispatching
import EventAutomata.Proofs.Automaton.Tracking
import EventAutomata.Proofs.History.Eviction

/-!
# Attempts and completed transits

A call can ask for transits: once, again and again, or by deliveries. `attempts` lists every
point at which `transit` is asked, with the automaton as it is there; a delivery that finds
no subscription or no current state does not get that far. An attempt that runs to its end
makes a trip, which is what a record says apart from the time.

A call that takes transits does nothing to the automaton but what it attempts (`Tries`). So the
history keeps the log of all trips as far as its limit allows, however the calls have ended
(`keeps_call`).
-/

namespace EventAutomata

variable {σ α : Type}

-- ---------------------------------------------------------------------------
-- Logs and what is kept of them
-- ---------------------------------------------------------------------------

structure Trip where
  source : Option StateId
  target : StateId
  transition : TransitionId
  deriving DecidableEq, Repr

def TransitRecord.trip (r : TransitRecord) : Trip := ⟨r.source, r.target, r.transition⟩

namespace History

variable {h : History} {limit : Option Nat} {log : List Trip}

def trips (h : History) : List Trip := h.records.map TransitRecord.trip

theorem path_eq (h : History) :
    h.path = (h.trips.head?.bind Trip.source).toList ++ h.trips.map Trip.target := by
  unfold path trips
  cases h.records <;> simp [TransitRecord.trip]

/-- The history lists what the limit allows of a log. -/
def Keeps (h : History) (limit : Option Nat) (log : List Trip) : Prop :=
  h.limit = limit ∧ h.trips = keepLast limit log

theorem keeps_withLimit (limit : Option Nat) : (withLimit limit).Keeps limit [] := by
  refine ⟨rfl, ?_⟩
  cases limit <;> simp [trips, records, withLimit, keepLast]

theorem Keeps.append_nil (hk : h.Keeps limit log) : h.Keeps limit (log ++ []) := by
  rwa [List.append_nil]

theorem Keeps.record (hk : h.Keeps limit log) (r : TransitRecord) :
    (h.record r).Keeps limit (log ++ [r.trip]) := by
  obtain ⟨rfl, htrips⟩ := hk
  refine ⟨limit_record h r, ?_⟩
  by_cases hl : h.limit = some 0
  · rw [record_of_zero hl, htrips, hl]
    simp [keepLast]
  · rw [trips, records_record_of_ne_zero hl, keepLast_map, List.map_append, ← trips, htrips,
      keepLast_append_keepLast]
    rfl

end History

-- ---------------------------------------------------------------------------
-- Attempts
-- ---------------------------------------------------------------------------

namespace Automaton

/-- The transition exists, but the policy does not let it take one that leaves another state. -/
def refuses (a : Automaton σ α) (t : TransitionId) : Bool :=
  match a.graph.transition? t with
  | none => false
  | some edge => decide (a.config.policy = .strict) && !a.leavesCurrent edge

variable [Payload σ]

structure Attempt (σ α : Type) where
  automaton : Automaton σ α
  hub : Hub α
  transition : TransitionId
  args : List α

namespace Attempt

def refused (p : Attempt σ α) : Bool := p.automaton.refuses p.transition

def trip? (p : Attempt σ α) : Option Trip :=
  match (p.automaton.transit p.transition p.args p.hub).1 with
  | .ok true =>
    (p.automaton.graph.transition? p.transition).map fun edge =>
      ⟨p.automaton.current, edge.target, p.transition⟩
  | _ => none

def outcome (p : Attempt σ α) : Automaton σ α :=
  (p.automaton.transit p.transition p.args p.hub).2.1

end Attempt

omit [Payload σ] in
def deliveryAttempts (a : Automaton σ α) (fired : Fired α) (h : Hub α) : List (Attempt σ α) :=
  if a.registry.contains fired.transition && a.current.isSome then
    [⟨a, h, fired.transition, fired.args⟩]
  else []

def repeatedAttempts (a : Automaton σ α) (t : TransitionId) (args : List α) (h : Hub α) :
    Nat → List (Attempt σ α)
  | 0 => []
  | n + 1 =>
    [⟨a, h, t, args⟩] ++
      match a.transit t args h with
      | (.ok _, a, h) => repeatedAttempts a t args h n
      | (.error _, _, _) => []

def pendingAttempts (a : Automaton σ α) (h : Hub α) : List (Attempt σ α) :=
  match _ht : h.take? a.channel with
  | none => []
  | some (fired, h₁) =>
    a.deliveryAttempts fired h₁ ++
      match _hd : a.deliver fired h₁ with
      | (.error _, _, _) => []
      | (.ok _, a', h') => pendingAttempts a' h'
termination_by (h.firingsLeft, queueWeight a.graph.fanOut (h.queue a.channel))
decreasing_by
  rcases deliver_lighter _ht _hd with hlt | ⟨heq, hlt⟩
  · exact Prod.Lex.left _ _ hlt
  · rw [heq]
    exact Prod.Lex.right _ hlt

def attempts (a : Automaton σ α) (h : Hub α) : Call σ α → List (Attempt σ α)
  | .transit t args => [⟨a, h, t, args⟩]
  | .transitTimes t args times => a.repeatedAttempts t args h times
  | .deliver fired => a.deliveryAttempts fired h
  | .dispatchNext =>
    match h.take? a.channel with
    | none => []
    | some (fired, h) => a.deliveryAttempts fired h
  | .dispatchPending => a.pendingAttempts h
  | _ => []

def completed (a : Automaton σ α) (h : Hub α) (c : Call σ α) : List Trip :=
  (a.attempts h c).filterMap Attempt.trip?

-- ---------------------------------------------------------------------------
-- Nothing but attempts
-- ---------------------------------------------------------------------------

/-- The automaton makes these attempts, one after the other, and nothing else happens to it. -/
inductive Tries : Automaton σ α → List (Attempt σ α) → Automaton σ α → Prop
  | none (a : Automaton σ α) : Tries a [] a
  | next {p : Attempt σ α} {ps : List (Attempt σ α)} {b : Automaton σ α} :
      Tries p.outcome ps b → Tries p.automaton (p :: ps) b

variable {a : Automaton σ α}

theorem Tries.append {b c : Automaton σ α} {ps qs : List (Attempt σ α)} (h : Tries a ps b)
    (h' : Tries b qs c) : Tries a (ps ++ qs) c := by
  induction h with
  | none => exact h'
  | next _ ih => exact .next (ih h')

theorem tries_transit (a : Automaton σ α) (t : TransitionId) (args : List α) (h : Hub α) :
    Tries a [⟨a, h, t, args⟩] (a.transit t args h).2.1 :=
  .next (p := ⟨a, h, t, args⟩) (.none _)

theorem tries_deliver (a : Automaton σ α) (fired : Fired α) (h : Hub α) :
    Tries a (a.deliveryAttempts fired h) (a.deliver fired h).2.1 := by
  unfold deliver deliveryAttempts
  cases a.registry.contains fired.transition with
  | false => exact .none a
  | true =>
    cases a.current with
    | none => exact .none a
    | some c => exact a.tries_transit fired.transition fired.args h

theorem tries_transitTimes (a : Automaton σ α) (t : TransitionId) (args : List α) (h : Hub α)
    (times taken : Nat) :
    Tries a (a.repeatedAttempts t args h times) (a.transitTimes t args h times taken).2.1 := by
  induction times generalizing a h taken with
  | zero => exact .none a
  | succ times ih =>
    have hfirst := a.tries_transit t args h
    rw [transitTimes, repeatedAttempts]
    cases hr : a.transit t args h with
    | mk result y =>
      rw [hr] at hfirst
      cases result with
      | ok took => cases took <;> exact hfirst.append (ih _ _ _)
      | error fault => exact hfirst.append (.none _)

theorem pendingAttempts_of_none {h : Hub α} (ht : h.take? a.channel = none) :
    a.pendingAttempts h = [] := by
  rw [pendingAttempts]
  split
  next => rfl
  next ht' => rw [ht] at ht'; cases ht'

theorem pendingAttempts_of_some {h h₁ : Hub α} {fired : Fired α}
    (ht : h.take? a.channel = some (fired, h₁)) :
    a.pendingAttempts h = a.deliveryAttempts fired h₁ ++
      match a.deliver fired h₁ with
      | (.error _, _, _) => []
      | (.ok _, a', h') => a'.pendingAttempts h' := by
  rw [pendingAttempts]
  split
  next ht' => rw [ht] at ht'; cases ht'
  next ht' =>
    cases ht.symm.trans ht'
    split <;> simp_all

theorem tries_drain (a : Automaton σ α) (h : Hub α) (taken : Nat) :
    Tries a (a.pendingAttempts h) (a.drain h taken).2.1 := by
  fun_induction drain a h taken with
  | case1 a h taken ht =>
    rw [pendingAttempts_of_none ht]
    exact .none a
  | case2 a h taken fired h₁ ht fault a' h' hd =>
    have hfirst := a.tries_deliver fired h₁
    rw [hd] at hfirst
    rw [pendingAttempts_of_some ht, hd]
    exact hfirst.append (.none a')
  | case3 a h taken fired h₁ ht took a' h' hd ih =>
    have hfirst := a.tries_deliver fired h₁
    rw [hd] at hfirst
    rw [pendingAttempts_of_some ht, hd]
    exact hfirst.append ih

theorem tries_dispatchNext (a : Automaton σ α) (h : Hub α) :
    Tries a (a.attempts h .dispatchNext) (a.dispatchNext h).2.1 := by
  simp only [attempts, dispatchNext]
  cases h.take? a.channel with
  | none => exact .none a
  | some taken => exact a.tries_deliver taken.1 taken.2

-- ---------------------------------------------------------------------------
-- What the history keeps
-- ---------------------------------------------------------------------------

variable {limit : Option Nat} {log : List Trip}

theorem keeps_transit (hk : a.history.Keeps limit log) (t : TransitionId) (args : List α) (h : Hub α) :
    (a.transit t args h).2.1.history.Keeps limit
      (log ++ [(⟨a, h, t, args⟩ : Attempt σ α)].filterMap Attempt.trip?) := by
  rcases a.transit_inTurn t args h with heq | ⟨edge, pages, stop, h', hx, -, heq⟩
  · simpa [Attempt.trip?, heq] using hk
  · cases stop with
    | none =>
      have hrecord := hk.record ⟨a.current, edge.target, t, h'.clock⟩
      simpa [Attempt.trip?, heq, hx, answerAt, stoppedAt, TransitRecord.trip] using hrecord
    | some stop => simpa [Attempt.trip?, heq, answerAt, stoppedAt] using hk

theorem Tries.keeps {b : Automaton σ α} {ps : List (Attempt σ α)} (h : Tries a ps b)
    (hk : a.history.Keeps limit log) :
    b.history.Keeps limit (log ++ ps.filterMap Attempt.trip?) := by
  induction h generalizing log with
  | none => exact hk.append_nil
  | @next p ps b _ ih =>
    have hfirst := keeps_transit hk p.transition p.args p.hub
    have hrest := ih hfirst
    rwa [List.append_assoc, ← List.filterMap_append] at hrest

omit [Payload σ] in
theorem history_attach? {b : Automaton σ α} {s : StateId} {t : TransitionId}
    (hb : a.attach? s t = some b) : b.history = a.history := by
  obtain ⟨-, g, -, rfl⟩ := attach?_eq_some hb
  rfl

omit [Payload σ] in
theorem history_remove? {b : Automaton σ α} {s : StateId} {t : TransitionId}
    (hb : a.remove? s t = some b) : b.history = a.history := by
  obtain ⟨-, g, -, rfl⟩ := remove?_eq_some hb
  rw [dropStrandedCursor_eq]
  rfl

theorem history_edit (a : Automaton σ α) (e : Graph.Edit σ) : (a.edit e).2.history = a.history := by
  let P := fun b : Automaton σ α => b.history = a.history
  cases e with
  | addState data => rfl
  | addTransition kind target =>
    simp only [edit, addTransition]
    cases a.graph.addTransition kind target <;> rfl
  | attach s t => exact Graph.accepted_keeps (P := P) rfl fun b => history_attach?
  | remove s t => exact Graph.accepted_keeps (P := P) rfl fun b => history_remove?
  | attachEpsilon s t => exact Graph.acceptedUnless_keeps (P := P) rfl fun b => history_attach?
  | removeEpsilon s t => exact Graph.acceptedUnless_keeps (P := P) rfl fun b => history_remove?

omit [Payload σ] in
theorem history_setStart {b : Automaton σ α} {s : Option StateId} (hb : a.setStart s = .ok b) :
    b.history = a.history := by
  have hmove : (setStart.moveStart a s).history = a.history := by
    unfold setStart.moveStart
    split <;> rfl
  cases s with
  | none =>
    cases hb
    exact hmove
  | some x =>
    simp only [setStart] at hb
    split at hb
    next =>
      cases hb
      exact hmove
    next => cases hb

-- ---------------------------------------------------------------------------
-- Calls
-- ---------------------------------------------------------------------------

/-- However a call ends, what it has completed is added to the log. -/
theorem keeps_call (hk : a.history.Keeps limit log) (h : Hub α) (c : Call σ α) :
    (a.call h c).2.1.history.Keeps limit (log ++ a.completed h c) := by
  cases c with
  | transit t args => exact (a.tries_transit t args h).keeps hk
  | transitTimes t args times => exact (a.tries_transitTimes t args h times 0).keeps hk
  | deliver fired => exact (a.tries_deliver fired h).keeps hk
  | dispatchPending => exact (a.tries_drain h 0).keeps hk
  | dispatchNext =>
    rw [call_dispatchNext]
    exact (a.tries_dispatchNext h).keeps hk
  | edit e =>
    rw [← history_edit a e] at hk
    exact hk.append_nil
  | setStart s =>
    refine History.Keeps.append_nil ?_
    rw [call]
    split
    next heq => rwa [history_setStart heq]
    next => exact hk
  | _ => exact hk.append_nil

end Automaton

end EventAutomata
