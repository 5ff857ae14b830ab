import EventAutomata.Proofs.Automaton.Dispatching
import EventAutomata.Proofs.Session.Lives

/-!
# Dispatching at once and one by one

Whoever waits for requests polls: each poll delivers the oldest one, until none waits and the
poll is pending. Dispatching makes the same deliveries in one call. It counts the transits
instead of reporting them one by one, and what breaks down ends its round, so dispatching over
and over answers by rounds what polling answers by deliveries (`rounds`).

Draining is shown once to begin with what a poll does (`drain_eq_poll`). The rest is by
induction on what the polls have answered, in a session of which nothing but the automaton and
the hub takes part.
-/

namespace EventAutomata

variable {σ α : Type}

/-- The results of dispatching over and over, from those of the polls: transits are counted up
to the next fault, and from the last one to the end. `taken` is the count to go on with. -/
def rounds (taken : Nat) : List (Except Fault Bool) → List (Except Fault Nat)
  | [] => [.ok taken]
  | .ok took :: rest => rounds (if took then taken + 1 else taken) rest
  | .error fault :: rest => .error fault :: rounds 0 rest

def pollAnswer : Option (Except Fault Bool) → Answer
  | none => .pending
  | some result => .ofFault .flag result

theorem pollAnswer_injective : pollAnswer.Injective := by
  intro r s h
  cases r with
  | none => rcases s with _ | _ | _ <;> first | rfl | cases h
  | some r => cases r <;> rcases s with _ | _ | _ <;> first | cases h; rfl | cases h

namespace Automaton

variable [Payload σ] {x y : Automaton σ α × Hub α}

theorem call_dispatchNext_eq (x : Automaton σ α × Hub α) :
    x.1.call x.2 .dispatchNext = (pollAnswer (x.1.dispatchNext x.2).1, (x.1.dispatchNext x.2).2) := by
  rw [call]
  cases x.1.dispatchNext x.2 with
  | mk result y => cases result <;> rfl

theorem call_dispatchPending (a : Automaton σ α) (h : Hub α) :
    a.call h .dispatchPending = (.ofFault .number (a.drain h 0).1, (a.drain h 0).2) := rfl

theorem dispatchNext_none (h : x.1.dispatchNext x.2 = (none, y)) : y = x := by
  rcases x.1.deliveries_dispatchNext x.2 with ⟨heq, -⟩ | ⟨fired, result, heq, -⟩
  · exact congrArg Prod.snd (h.symm.trans heq)
  · rw [h] at heq
    cases heq

/-- Draining begins with what a poll does. -/
theorem drain_eq_poll (a : Automaton σ α) (h : Hub α) (taken : Nat) :
    a.drain h taken =
      match a.dispatchNext h with
      | (none, y) => (.ok taken, y)
      | (some (.ok took), y) => y.1.drain y.2 (if took then taken + 1 else taken)
      | (some (.error fault), y) => (.error fault, y) := by
  rw [drain_eq, dispatchNext]
  cases h.take? a.channel with
  | none => rfl
  | some p =>
    dsimp only
    rcases a.deliver p.1 p.2 with ⟨_ | _, y⟩ <;> rfl

end Automaton

namespace Session

open Automaton

variable {x y z : Session σ α} {m : Nat} {a : Automaton σ α} {p : Automaton σ α × Hub α}

def put (x : Session σ α) (m : Nat) (p : Automaton σ α × Hub α) : Session σ α :=
  { x.setMachine m (some p.1) with hub := p.2 }

theorem put_self (ha : x.machine? m = some a) : x.put m (a, x.hub) = x := by
  rw [put, setMachine_self ha]

@[simp] theorem put_put (x : Session σ α) (m : Nat) (p q : Automaton σ α × Hub α) :
    (x.put m p).put m q = x.put m q := by
  simp [put, setMachine]

theorem machine?_put (hm : m < x.machines.size) : (x.put m p).machine? m = some p.1 := by
  show (x.setMachine m (some p.1)).machine? m = some p.1
  rw [machine?_setMachine_eq, if_pos rfl, if_pos hm]

variable [Payload σ]

theorem call_put (hm : m < x.machines.size) (c : Call σ α) :
    (x.put m p).call m c = ((p.1.call p.2 c).1, x.put m (p.1.call p.2 c).2) := by
  rw [call, withMachine, machine?_put hm]
  exact Prod.ext rfl (x.put_put m p (p.1.call p.2 c).2)

theorem poll_put_iff (hm : m < x.machines.size) {r : Option (Except Fault Bool)} :
    (x.put m p).call m .dispatchNext = (pollAnswer r, y) ↔
      ∃ q, p.1.dispatchNext p.2 = (r, q) ∧ y = x.put m q := by
  rw [call_put hm, call_dispatchNext_eq]
  constructor
  · intro h
    obtain ⟨hresult, rfl⟩ := Prod.mk.inj h
    exact ⟨_, Prod.ext (pollAnswer_injective hresult) rfl, rfl⟩
  · rintro ⟨q, hq, rfl⟩
    rw [hq]

theorem poll_pending (hm : m < x.machines.size)
    (h : (x.put m p).call m .dispatchNext = (.pending, y)) :
    p.1.dispatchNext p.2 = (none, p) ∧ y = x.put m p := by
  obtain ⟨q, hq, hy⟩ := (poll_put_iff hm (r := none)).1 h
  cases dispatchNext_none hq
  exact ⟨hq, hy⟩

def callTimes (x : Session σ α) (m : Nat) (c : Call σ α) : Nat → List Answer × Session σ α
  | 0 => ([], x)
  | n + 1 =>
    let (answer, y) := x.call m c
    let (answers, z) := y.callTimes m c n
    (answer :: answers, z)

theorem callTimes_succ_iff {c : Call σ α} {n : Nat} {answer : Answer} {answers : List Answer} :
    x.callTimes m c (n + 1) = (answer :: answers, z) ↔
      ∃ y, x.call m c = (answer, y) ∧ y.callTimes m c n = (answers, z) := by
  simp only [callTimes, Prod.mk.injEq, List.cons.injEq]
  constructor
  · rintro ⟨⟨hfirst, hrest⟩, hleft⟩
    exact ⟨_, Prod.ext hfirst rfl, Prod.ext hrest hleft⟩
  · rintro ⟨y, hfirst, hrest⟩
    rw [hfirst, hrest]
    exact ⟨⟨rfl, rfl⟩, rfl⟩

theorem callTimes_concat_iff {c : Call σ α} {answers : List Answer} {answer : Answer} :
    x.callTimes m c (answers.length + 1) = (answers ++ [answer], z) ↔
      ∃ y, x.callTimes m c answers.length = (answers, y) ∧ y.call m c = (answer, z) := by
  induction answers generalizing x with
  | nil =>
    rw [List.length_nil, List.nil_append, callTimes_succ_iff]
    constructor
    · rintro ⟨y, hfirst, hrest⟩
      cases hrest
      exact ⟨x, rfl, hfirst⟩
    · rintro ⟨y, hfirst, hlast⟩
      cases hfirst
      exact ⟨z, hlast, rfl⟩
  | cons first rest ih =>
    rw [List.length_cons, List.cons_append, callTimes_succ_iff]
    constructor
    · rintro ⟨x₁, hfirst, hrest⟩
      obtain ⟨y, hy, hlast⟩ := ih.1 hrest
      exact ⟨y, callTimes_succ_iff.2 ⟨x₁, hfirst, hy⟩, hlast⟩
    · rintro ⟨y, hy, hlast⟩
      obtain ⟨x₁, hfirst, hrest⟩ := callTimes_succ_iff.1 hy
      exact ⟨x₁, hfirst, ih.2 ⟨y, hrest, hlast⟩⟩

-- ---------------------------------------------------------------------------
-- Polling
-- ---------------------------------------------------------------------------

/-- After polls that have come back, draining goes on from where they have left off. -/
theorem drain_of_polls (hm : m < x.machines.size) {flags : List Bool}
    (hpolls : (x.put m p).callTimes m .dispatchNext flags.length = (flags.map .flag, y))
    (taken : Nat) :
    ∃ q, y = x.put m q ∧ p.1.drain p.2 taken = q.1.drain q.2 (taken + flags.count true) := by
  induction flags generalizing p taken with
  | nil => exact ⟨p, (congrArg Prod.snd hpolls).symm, rfl⟩
  | cons took rest ih =>
    obtain ⟨z, hfirst, hrest⟩ := callTimes_succ_iff.1 hpolls
    obtain ⟨q, hq, rfl⟩ := (poll_put_iff hm (r := some (.ok took))).1 hfirst
    obtain ⟨r, rfl, hdrain⟩ := ih hrest (if took then taken + 1 else taken)
    refine ⟨r, rfl, ?_⟩
    rw [drain_eq_poll, hq]
    dsimp only
    rw [hdrain]
    cases took <;> simp [Nat.add_comm, Nat.add_left_comm]

/-- Where polls have come to an end, the round that is under way with `taken` transits does
too, and so do the rounds after it. -/
theorem rounds_of_polls (hm : m < x.machines.size) {results : List (Except Fault Bool)}
    (hpolls : (x.put m p).callTimes m .dispatchNext results.length =
      (results.map (.ofFault .flag), y))
    (hend : y.call m .dispatchNext = (.pending, z)) (taken : Nat) :
    ∃ later, rounds taken results = (p.1.drain p.2 taken).1 :: later ∧
      (x.put m (p.1.drain p.2 taken).2).callTimes m .dispatchPending later.length =
        (later.map (.ofFault .number), z) := by
  induction results generalizing p taken with
  | nil =>
    cases hpolls
    obtain ⟨hnone, rfl⟩ := poll_pending hm hend
    rw [drain_eq_poll, hnone]
    exact ⟨[], rfl, rfl⟩
  | cons result rest ih =>
    obtain ⟨_, hfirst, hrest⟩ := callTimes_succ_iff.1 hpolls
    obtain ⟨q, hq, rfl⟩ := (poll_put_iff hm (r := some result)).1 hfirst
    rw [drain_eq_poll, hq]
    cases result with
    | ok took => exact ih hrest _
    | error fault =>
      -- The round ends here with the fault, and the next begins to count anew.
      obtain ⟨later, hrounds, hlater⟩ := ih hrest 0
      refine ⟨_, rfl, ?_⟩
      rw [hrounds]
      exact callTimes_succ_iff.2 ⟨_, by rw [call_put hm, call_dispatchPending], hlater⟩

/-- Polling comes to an end, for the reason that draining does. -/
theorem exists_polls (hm : m < x.machines.size) (a : Automaton σ α) (h : Hub α) :
    ∃ (results : List (Except Fault Bool)) (y : Session σ α),
      (x.put m (a, h)).callTimes m .dispatchNext results.length =
        (results.map (.ofFault .flag), y) ∧
      y.call m .dispatchNext = (.pending, y) := by
  match ht : h.take? a.channel with
  | none =>
    refine ⟨[], _, rfl, (poll_put_iff hm (r := none)).2 ⟨(a, h), ?_, rfl⟩⟩
    simp only [dispatchNext, ht]
  | some (fired, h₁) =>
    match hd : a.deliver fired h₁ with
    | (result, a', h') =>
      obtain ⟨results, y, hpolls, hend⟩ := exists_polls hm a' h'
      refine ⟨result :: results, y, callTimes_succ_iff.2 ⟨_, ?_, hpolls⟩, hend⟩
      refine (poll_put_iff hm (r := some result)).2 ⟨(a', h'), ?_, rfl⟩
      simp only [dispatchNext, ht, hd]
termination_by (h.firingsLeft, queueWeight a.graph.fanOut (h.queue a.channel))
decreasing_by
  rcases deliver_lighter ht hd with hlt | ⟨heq, hlt⟩
  · exact Prod.Lex.left _ _ hlt
  · rw [heq]
    exact Prod.Lex.right _ hlt

theorem polls_then_iff {β : Type} {f : β → Answer} {results : List β} {answer : Answer} :
    x.callTimes m .dispatchNext (results.length + 1) = (results.map f ++ [answer], z) ↔
      ∃ y, x.callTimes m .dispatchNext results.length = (results.map f, y) ∧
        y.call m .dispatchNext = (answer, z) := by
  have hlength : results.length = (results.map f).length := (List.length_map f).symm
  rw [hlength]
  exact callTimes_concat_iff

-- ---------------------------------------------------------------------------
-- Dispatching
-- ---------------------------------------------------------------------------

/-- Dispatching is polling, in any session and with whatever waits there. Polling comes to an
end. Dispatching counts the transits that the polls report until one is pending, or stops at the
one that breaks down, and leaves the session that they leave: the automaton, the queues, the
meters and the journal. From there it makes no difference either how one goes on: until nothing
waits, dispatching over and over answers by rounds what the polls answer. A poll that is
pending changes nothing. -/
theorem dispatching_is_polling {x : Session σ α} {m : Nat} {a : Automaton σ α}
    (ha : x.machine? m = some a) :
    let polls := x.callTimes m .dispatchNext
    let dispatches := x.callTimes m .dispatchPending
    (∃ (results : List (Except Fault Bool)) (y : Session σ α),
      polls (results.length + 1) = (results.map (.ofFault .flag) ++ [.pending], y)) ∧
    (∀ (flags : List Bool) y,
      polls (flags.length + 1) = (flags.map .flag ++ [.pending], y) →
        x.call m .dispatchPending = (.number (flags.count true), y)) ∧
    (∀ (flags : List Bool) fault y,
      polls (flags.length + 1) = (flags.map .flag ++ [.fault fault], y) →
        x.call m .dispatchPending = (.fault fault, y)) ∧
    (∀ (results : List (Except Fault Bool)) y,
      polls (results.length + 1) = (results.map (.ofFault .flag) ++ [.pending], y) →
        let counts := rounds 0 results
        dispatches counts.length = (counts.map (.ofFault .number), y)) ∧
    ((x.call m .dispatchNext).1 = .pending → (x.call m .dispatchNext).2 = x) := by
  have hm : m < x.machines.size := lt_size_of_machine? ha
  have hself : x.put m (a, x.hub) = x := put_self ha
  -- The session is one with its own automaton and its own hub put in.
  rw [← hself]
  refine ⟨?_, fun flags y hpolls => ?_, fun flags fault y hpolls => ?_,
    fun results y hpolls => ?_, fun hend => ?_⟩
  · obtain ⟨results, y, hpolls, hend⟩ := exists_polls (x := x) hm a x.hub
    exact ⟨results, y, polls_then_iff.2 ⟨y, hpolls, hend⟩⟩
  · obtain ⟨_, hflags, hend⟩ := polls_then_iff.1 hpolls
    obtain ⟨q, rfl, hdrain⟩ := drain_of_polls hm hflags 0
    obtain ⟨hnone, rfl⟩ := poll_pending hm hend
    rw [drain_eq_poll q.1 q.2, hnone, Nat.zero_add] at hdrain
    rw [call_put hm, call_dispatchPending, hdrain]
    rfl
  · obtain ⟨_, hflags, hfault⟩ := polls_then_iff.1 hpolls
    obtain ⟨q, rfl, hdrain⟩ := drain_of_polls hm hflags 0
    obtain ⟨r, hr, rfl⟩ := (poll_put_iff hm (r := some (.error fault))).1 hfault
    rw [drain_eq_poll q.1 q.2, hr] at hdrain
    rw [call_put hm, call_dispatchPending, hdrain]
    rfl
  · obtain ⟨_, hresults, hend⟩ := polls_then_iff.1 hpolls
    obtain ⟨later, hrounds, hlater⟩ := rounds_of_polls hm hresults hend 0
    rw [hrounds]
    exact callTimes_succ_iff.2 ⟨_, by rw [call_put hm, call_dispatchPending], hlater⟩
  · exact (poll_pending hm (Prod.ext hend rfl)).2

/-- A door that asks to be closed when it is opened, and gets stuck the first time. -/
def stuckDoorSteps : List (Nat × Step String Nat) :=
  [(0, .create {}), (0, .call (.edit (.addState "closed"))), (0, .call (.edit (.addState "open"))),
    (0, .call (.edit (.addTransition .input ⟨1⟩))), (0, .call (.edit (.addTransition .input ⟨0⟩))),
    (0, .call (.setStart (some ⟨0⟩))), (0, .call (.edit (.attach ⟨0⟩ ⟨0⟩))),
    (0, .call (.edit (.attach ⟨1⟩ ⟨1⟩))), (0, .signal ⟨0⟩), (0, .signal ⟨1⟩),
    (0, .configure (.onEntry ⟨1⟩ [.raise 1 [] 1, .panic "stuck" (some 1)])), (0, .raise 0 [])]

/-- The request that was raised before the fault is delivered after it. -/
theorem dispatching_is_polling_of_stuck_door :
    let x := run ∅ stuckDoorSteps
    let polls := x.callTimes 0 .dispatchNext
    (polls 3).1 = [.fault ⟨"stuck"⟩, .flag true, .pending] ∧
    x.call 0 .dispatchPending = (.fault ⟨"stuck"⟩, (polls 1).2) ∧
    x.callTimes 0 .dispatchPending 2 = ([.fault ⟨"stuck"⟩, .number 1], (polls 3).2) := by
  intro x polls
  have hanswers : (polls 3).1 = [.fault ⟨"stuck"⟩, .flag true, .pending] := rfl
  obtain ⟨a, ha⟩ : ∃ a, x.machine? 0 = some a := Option.isSome_iff_exists.1 (by decide)
  obtain ⟨-, -, hfault, hrounds, -⟩ := dispatching_is_polling ha
  refine ⟨hanswers, ?_, ?_⟩
  · exact hfault [] ⟨"stuck"⟩ (polls 1).2 (Prod.ext rfl rfl)
  · exact hrounds [.error ⟨"stuck"⟩, .ok true] (polls 3).2 (Prod.ext hanswers rfl)

end Session

end EventAutomata
