import EventAutomata.Proofs.Automaton.Steps
import EventAutomata.Proofs.Hub.Traffic

/-!
# The stages of a transit

A transit runs up to three callbacks: the exit callback of the state that it leaves, the
callback of the transition and the entry callback of the target. `Automaton.callbacks` lists
those that are there with all that they are given, and `InTurn` runs such a list up to the
first fault. A transit that is not refused does just that. Where it stopped decides what
becomes of the automaton: it moves when the exit stage is over, and the record is added when
all stages are.

Each callback that ran has a page in the journal. All that is queued meanwhile is on these
pages, so it was raised by effects of callbacks that ran, and in their order.

A transit that loops is at its target even if the exit callback breaks down; in any other the
current state tells whether the exit stage was completed.
-/

namespace EventAutomata

variable {σ α : Type}

inductive Stage
  | exit
  | transit
  | entry
  deriving DecidableEq, Repr

structure Callback (α : Type) where
  stage : Stage
  site : Site α
  script : Script α

namespace Callback

def run (h : Hub α) (cb : Callback α) : Except Fault Unit × Hub α := Script.run cb.site h cb.script

def runIfThere (h : Hub α) : Option (Callback α) → Except Fault Unit × Hub α
  | none => (.ok (), h)
  | some cb => cb.run h

/-- The page is all that the callback has left on the hub. -/
structure Page (cb : Callback α) (h h' : Hub α) (page : List (Event α)) : Prop where
  traffic : h.Traffic h' page
  wrote : Script.Wrote cb.site cb.script page

theorem exists_page (cb : Callback α) (h : Hub α) : ∃ page, cb.Page h (cb.run h).2 page := by
  obtain ⟨page, htraffic, hwrote⟩ := Script.run_traffic cb.site h cb.script
  exact ⟨page, htraffic, hwrote⟩

end Callback

/-- Callbacks run one after the other, each on the hub that the one before it has left. A
fault ends it. There is one page for each that ran. -/
inductive InTurn : List (Callback α) → Hub α → List (List (Event α)) →
    Option (Stage × Fault) → Hub α → Prop
  | done (h : Hub α) : InTurn [] h [] none h
  | next {cb : Callback α} {rest : List (Callback α)} {h h₁ h' : Hub α} {page : List (Event α)}
      {pages : List (List (Event α))} {stop : Option (Stage × Fault)} :
      cb.run h = (.ok (), h₁) → cb.Page h h₁ page → InTurn rest h₁ pages stop h' →
      InTurn (cb :: rest) h (page :: pages) stop h'
  | fault {cb : Callback α} {rest : List (Callback α)} {h h' : Hub α} {page : List (Event α)}
      {fault : Fault} :
      cb.run h = (.error fault, h') → cb.Page h h' page →
      InTurn (cb :: rest) h [page] (some (cb.stage, fault)) h'

namespace InTurn

variable {cbs rest : List (Callback α)} {h h₁ h' : Hub α} {pages : List (List (Event α))}
  {stop : Option (Stage × Fault)} {cb? : Option (Callback α)}

theorem traffic (hr : InTurn cbs h pages stop h') : h.Traffic h' pages.flatten := by
  induction hr with
  | done => exact .refl
  | next _ hpage _ ih => exact hpage.traffic.trans ih
  | fault _ hpage => simpa using hpage.traffic

theorem takenFrom_eq_nil (hr : InTurn cbs h pages stop h') (c : ChannelId) :
    takenFrom c pages.flatten = [] := by
  induction hr with
  | done => rfl
  | next _ hpage _ ih => rw [List.flatten_cons, takenFrom_append, hpage.wrote.takenFrom, ih]; rfl
  | fault _ hpage => simpa using hpage.wrote.takenFrom c

theorem queue_eq (hr : InTurn cbs h pages stop h') (c : ChannelId) :
    h'.queue c = h.queue c ++ queuedIn c pages.flatten := by
  rw [hr.traffic.queue, hr.takenFrom_eq_nil, List.nil_append]

theorem andThen {u : Unit} (hrun : Callback.runIfThere h cb? = (.ok u, h₁))
    (hr : InTurn rest h₁ pages stop h') :
    ∃ pages, InTurn (cb?.toList ++ rest) h pages stop h' := by
  cases cb? with
  | none =>
    cases hrun
    exact ⟨pages, hr⟩
  | some cb =>
    obtain ⟨page, hpage⟩ := cb.exists_page h
    replace hrun : cb.run h = (.ok (), h₁) := hrun
    rw [hrun] at hpage
    exact ⟨_, .next hrun hpage hr⟩

theorem stopAt {fault : Fault} (hrun : Callback.runIfThere h cb? = (.error fault, h'))
    (rest : List (Callback α)) :
    ∃ cb pages, cb? = some cb ∧
      InTurn (cb?.toList ++ rest) h pages (some (cb.stage, fault)) h' := by
  cases cb? with
  | none => cases hrun
  | some cb =>
    obtain ⟨page, hpage⟩ := cb.exists_page h
    replace hrun : cb.run h = (.error fault, h') := hrun
    rw [hrun] at hpage
    exact ⟨cb, _, rfl, .fault hrun hpage⟩

end InTurn

-- ---------------------------------------------------------------------------
-- The callbacks of a transit
-- ---------------------------------------------------------------------------

namespace Automaton

variable [Payload σ]

def exitCallback? (a : Automaton σ α) (edge : TransitionNode α) (t : TransitionId) :
    Option (Callback α) := do
  let s ← a.current
  let node ← a.graph.state? s
  let script ← node.onExit
  some ⟨.exit, .exit s node.name ⟨a.current, edge.target, t, a.current⟩, script⟩

omit [Payload σ] in
def transitCallback? (a : Automaton σ α) (edge : TransitionNode α) (t : TransitionId)
    (args : List α) : Option (Callback α) := do
  let script ← edge.onTransit
  some ⟨.transit,
    .transit edge.id args.head? args.tail ⟨a.current, edge.target, t, some edge.target⟩, script⟩

def entryCallback? (a : Automaton σ α) (edge : TransitionNode α) (t : TransitionId) :
    Option (Callback α) := do
  let node ← a.graph.state? edge.target
  let script ← node.onEntry
  some ⟨.entry,
    .entry edge.target node.name ⟨a.current, edge.target, t, some edge.target⟩, script⟩

/-- The callbacks along an edge that are there, in the order in which they run. -/
def callbacks (a : Automaton σ α) (edge : TransitionNode α) (t : TransitionId) (args : List α) :
    List (Callback α) :=
  (a.exitCallback? edge t).toList ++ ((a.transitCallback? edge t args).toList ++
    ((a.entryCallback? edge t).toList ++ []))

variable {a : Automaton σ α} {edge : TransitionNode α} {t : TransitionId} {args : List α}
  {h : Hub α}

theorem runExit_eq : a.graph.runExit (.leaving a.current edge.target t) h =
    Callback.runIfThere h (a.exitCallback? edge t) := by
  unfold Graph.runExit exitCallback?
  cases hc : a.current with
  | none => rfl
  | some s =>
    cases hs : a.graph.state? s with
    | none => simp [TransitContext.leaving, hs, Callback.runIfThere]
    | some node =>
      cases hscript : node.onExit <;>
        simp [TransitContext.leaving, hs, hscript, Script.runIfSet, Callback.runIfThere,
          Callback.run]

omit [Payload σ] in
theorem runTransit_eq (hx : a.graph.transition? t = some edge) :
    a.graph.runTransit (TransitContext.leaving a.current edge.target t).arrived args h =
      Callback.runIfThere h (a.transitCallback? edge t args) := by
  unfold Graph.runTransit transitCallback?
  cases hscript : edge.onTransit <;>
    simp [TransitContext.leaving, TransitContext.arrived, hx, hscript, Script.runIfSet,
      Callback.runIfThere, Callback.run]

theorem runEntry_eq :
    a.graph.runEntry (TransitContext.leaving a.current edge.target t).arrived h =
      Callback.runIfThere h (a.entryCallback? edge t) := by
  unfold Graph.runEntry entryCallback?
  cases hs : a.graph.state? edge.target with
  | none => simp [TransitContext.leaving, TransitContext.arrived, hs, Callback.runIfThere]
  | some node =>
    cases hscript : node.onEntry <;>
      simp [TransitContext.leaving, TransitContext.arrived, hs, hscript, Script.runIfSet,
        Callback.runIfThere, Callback.run]

theorem stage_exitCallback? {cb : Callback α} (hcb : a.exitCallback? edge t = some cb) :
    cb.stage = .exit := by
  simp only [exitCallback?, Option.bind_eq_bind, Option.bind_eq_some_iff] at hcb
  obtain ⟨s, -, node, -, script, -, hcb⟩ := hcb
  cases hcb
  rfl

omit [Payload σ] in
theorem stage_transitCallback? {cb : Callback α} (hcb : a.transitCallback? edge t args = some cb) :
    cb.stage = .transit := by
  simp only [transitCallback?, Option.bind_eq_bind, Option.bind_eq_some_iff] at hcb
  obtain ⟨script, -, hcb⟩ := hcb
  cases hcb
  rfl

theorem stage_entryCallback? {cb : Callback α} (hcb : a.entryCallback? edge t = some cb) :
    cb.stage = .entry := by
  simp only [entryCallback?, Option.bind_eq_bind, Option.bind_eq_some_iff] at hcb
  obtain ⟨node, -, script, -, hcb⟩ := hcb
  cases hcb
  rfl

/-- The callback of the transition is told which one it is, and is given all the arguments:
the first one and those behind it. There are none behind where there is no first one. -/
theorem given_of_mem_callbacks {cb : Callback α} (hcb : cb ∈ a.callbacks edge t args)
    {x : TransitionId} {first : Option α} {rest : List α} {c : TransitContext}
    (hsite : cb.site = .transit x first rest c) :
    x = edge.id ∧ first.toList ++ rest = args ∧ (first = none → rest = []) := by
  simp only [callbacks, List.append_nil, List.mem_append, Option.mem_toList, exitCallback?,
    transitCallback?, entryCallback?, Option.bind_eq_bind, Option.bind_eq_some_iff,
    Option.some.injEq] at hcb
  rcases hcb with ⟨s, -, node, -, script, -, rfl⟩ | ⟨script, -, rfl⟩ | ⟨node, -, script, -, rfl⟩
  · cases hsite
  · cases hsite
    cases args with
    | nil => simp
    | cons arg rest => simp
  · cases hsite

-- ---------------------------------------------------------------------------
-- What becomes of the automaton
-- ---------------------------------------------------------------------------

/-- The automaton after a transit that stopped there, or nowhere. -/
def stoppedAt (a : Automaton σ α) (target : StateId) (t : TransitionId) (clock : Time.Timestamp)
    (stop : Option (Stage × Fault)) : Automaton σ α :=
  { a with
    current := if stop.map Prod.fst = some .exit then a.current else some target
    history := if stop = none then a.history.record ⟨a.current, target, t, clock⟩ else a.history }

def answerAt {β : Type} (answer : β) : Option (Stage × Fault) → Except Fault β
  | none => .ok answer
  | some (_, fault) => .error fault

theorem moveTo_inTurn (args : List α) (h : Hub α) (hx : a.graph.transition? t = some edge) :
    ∃ pages stop h', InTurn (a.callbacks edge t args) h pages stop h' ∧
      a.moveTo edge.target t args h =
        (answerAt () stop, a.stoppedAt edge.target t h'.clock stop, h') := by
  unfold moveTo callbacks
  simp only [runExit_eq, runTransit_eq hx, runEntry_eq]
  -- Split by the callback that breaks down: those before it have run.
  split
  next fault h₁ hexit =>
    obtain ⟨cb, pages, hcb, hturn⟩ := InTurn.stopAt hexit _
    rw [stage_exitCallback? hcb] at hturn
    exact ⟨pages, _, h₁, hturn, rfl⟩
  next h₁ hexit =>
    split
    next fault h₂ htransit =>
      obtain ⟨cb, pages, hcb, hturn⟩ := InTurn.stopAt htransit _
      rw [stage_transitCallback? hcb] at hturn
      obtain ⟨pages, hturn⟩ := hturn.andThen hexit
      exact ⟨pages, _, h₂, hturn, rfl⟩
    next h₂ htransit =>
      split
      next fault h₃ hentry =>
        obtain ⟨cb, pages, hcb, hturn⟩ := InTurn.stopAt hentry _
        rw [stage_entryCallback? hcb] at hturn
        obtain ⟨pages, hturn⟩ := hturn.andThen htransit
        obtain ⟨pages, hturn⟩ := hturn.andThen hexit
        exact ⟨pages, _, h₃, hturn, rfl⟩
      next h₃ hentry =>
        obtain ⟨pages, hturn⟩ := (InTurn.done h₃).andThen hentry
        obtain ⟨pages, hturn⟩ := hturn.andThen htransit
        obtain ⟨pages, hturn⟩ := hturn.andThen hexit
        exact ⟨pages, none, h₃, hturn, rfl⟩

/-- A transit is refused and changes nothing, or its callbacks run in turn. -/
theorem transit_inTurn (a : Automaton σ α) (t : TransitionId) (args : List α) (h : Hub α) :
    a.transit t args h = (.ok false, a, h) ∨
      ∃ edge pages stop h', a.graph.transition? t = some edge ∧
        InTurn (a.callbacks edge t args) h pages stop h' ∧
        a.transit t args h = (answerAt true stop, a.stoppedAt edge.target t h'.clock stop, h') := by
  unfold transit
  split
  next => exact .inl rfl
  next edge hx =>
    split
    next => exact .inl rfl
    next =>
      obtain ⟨pages, stop, h', hturn, hmove⟩ := moveTo_inTurn args h hx
      refine .inr ⟨edge, pages, stop, h', hx, hturn, ?_⟩
      rw [hmove]
      cases stop <;> rfl

theorem deliver_inTurn (a : Automaton σ α) (fired : Fired α) (h : Hub α) :
    a.deliver fired h = (.ok false, a, h) ∨
      ∃ edge pages stop h', a.graph.transition? fired.transition = some edge ∧
        InTurn (a.callbacks edge fired.transition fired.args) h pages stop h' ∧
        a.deliver fired h =
          (answerAt true stop, a.stoppedAt edge.target fired.transition h'.clock stop, h') := by
  rcases a.deliver_cases fired h with heq | ⟨-, heq⟩
  · exact .inl heq
  · rw [heq]
    exact a.transit_inTurn fired.transition fired.args h

omit [Payload σ] in
theorem current_stoppedAt_iff {target : StateId} {clock : Time.Timestamp}
    {stop : Option (Stage × Fault)} (hloop : a.current ≠ some target) :
    (a.stoppedAt target t clock stop).current = some target ↔
      ∀ fault, stop ≠ some (.exit, fault) := by
  rcases stop with _ | ⟨stage, fault⟩
  · simp [stoppedAt]
  · cases stage <;> simp [stoppedAt, hloop]

/-- Exit, move, transit, entry, record: a transit or a delivery that is not refused runs the
callbacks in turn, and the automaton and the hub are left as the last one that ran says. What
the callback of the transition gets are the first argument and the rest. -/
theorem transit_runs_in_stages (a : Automaton σ α) (t : TransitionId) (args : List α) (h : Hub α)
    (outcome : Except Fault Bool × Automaton σ α × Hub α)
    (hmade : outcome = a.transit t args h ∨ outcome = a.deliver ⟨t, args⟩ h)
    (haccepted : outcome.1 ≠ .ok false) :
    ∃ edge pages stop h', a.graph.transition? t = some edge ∧
      (∀ cb ∈ a.callbacks edge t args, ∀ x first rest c, cb.site = .transit x first rest c →
        x = edge.id ∧ first.toList ++ rest = args ∧ (first = none → rest = [])) ∧
      InTurn (a.callbacks edge t args) h pages stop h' ∧
      outcome = (answerAt true stop, a.stoppedAt edge.target t h'.clock stop, h') ∧
      (a.current ≠ some edge.target →
        (outcome.2.1.current = some edge.target ↔ ∀ fault, stop ≠ some (.exit, fault))) ∧
      h'.journal.toList = h.journal.toList ++ pages.flatten ∧
      ∀ c, h'.queue c = h.queue c ++ queuedIn c pages.flatten := by
  have hcases : outcome = (.ok false, a, h) ∨
      ∃ edge pages stop h', a.graph.transition? t = some edge ∧
        InTurn (a.callbacks edge t args) h pages stop h' ∧
        outcome = (answerAt true stop, a.stoppedAt edge.target t h'.clock stop, h') := by
    rcases hmade with rfl | rfl
    · exact a.transit_inTurn t args h
    · exact a.deliver_inTurn ⟨t, args⟩ h
  rcases hcases with rfl | ⟨edge, pages, stop, h', hx, hturn, rfl⟩
  · exact absurd rfl haccepted
  · refine ⟨edge, pages, stop, h', hx, ?_, hturn, rfl, current_stoppedAt_iff,
      hturn.traffic.journal, hturn.queue_eq⟩
    intro cb hcb x first rest c hsite
    exact given_of_mem_callbacks hcb hsite

/-- The exit callback raises the signal that is being delivered, the transit callback raises
it with the rest of the arguments, and the entry callback breaks down before its last note. -/
theorem transit_runs_in_stages_broken_entry :
    let calls : List (Call String Nat) :=
      [.edit (.addState "idle"), .edit (.addState "busy"), .edit (.addTransition .input ⟨1⟩),
        .setStart (some ⟨0⟩), .edit (.attach ⟨0⟩ ⟨0⟩),
        .configure (.onExit ⟨0⟩ [.raise ⟨⟨0⟩, ⟨0⟩⟩ [9] ⟨0⟩]),
        .configure (.onTransit ⟨0⟩ [.raiseRest ⟨⟨0⟩, ⟨0⟩⟩ none]),
        .configure (.onEntry ⟨1⟩ [.log "in" none, .panic "boom" none, .log "on" none])]
    let made := create {} { meters := #[1] }
    let x := run made.1 made.2 calls
    let outcome := x.1.deliver ⟨⟨0⟩, [1, 2, 3]⟩ x.2
    outcome.1 ≠ .ok false ∧ outcome.1 = .error ⟨"boom"⟩ ∧ outcome.2.1.current = some ⟨1⟩ ∧
      outcome.2.1.history.length = 0 ∧
      outcome.2.2.queue ⟨0⟩ = [⟨⟨0⟩, [9]⟩, ⟨⟨0⟩, [2, 3]⟩] ∧
      ∃ edge pages stop h', InTurn (x.1.callbacks edge ⟨0⟩ [1, 2, 3]) x.2 pages stop h' ∧
        outcome = (answerAt true stop, x.1.stoppedAt edge.target ⟨0⟩ h'.clock stop, h') := by
  intro calls made x outcome
  have haccepted : outcome.1 ≠ .ok false := by decide
  obtain ⟨edge, pages, stop, h', -, -, hturn, hout, -⟩ :=
    transit_runs_in_stages x.1 ⟨0⟩ [1, 2, 3] x.2 outcome (.inr rfl) haccepted
  exact ⟨haccepted, by decide, by decide, by decide, by decide, edge, pages, stop, h', hturn, hout⟩

/-- Without arguments there is nothing to raise a signal with. -/
example :
    let calls : List (Call String Nat) :=
      [.edit (.addState "idle"), .edit (.addTransition .input ⟨0⟩), .setStart (some ⟨0⟩),
        .edit (.attach ⟨0⟩ ⟨0⟩),
        .configure (.onTransit ⟨0⟩ [.log "seen" none, .raiseRest ⟨⟨0⟩, ⟨0⟩⟩ none])]
    let made := create {} {}
    let x := run made.1 made.2 calls
    let outcome := x.1.transit ⟨0⟩ [] x.2
    outcome.2.2.queue ⟨0⟩ = [] ∧
      outcome.2.2.journal.toList =
        [.noted (.transit ⟨0⟩ none [] ⟨some ⟨0⟩, ⟨0⟩, ⟨0⟩, some ⟨0⟩⟩) "seen"] := by
  decide

/-- A loop whose exit callback breaks down: the exit stage is not over, and yet the current
state is the target, as it was all along. -/
theorem looping_transit_is_at_target :
    let calls : List (Call String Nat) :=
      [.edit (.addState "idle"), .edit (.addTransition .input ⟨0⟩), .setStart (some ⟨0⟩),
        .edit (.attach ⟨0⟩ ⟨0⟩), .configure (.onExit ⟨0⟩ [.panic "boom" none])]
    let made := create {} {}
    let x := run made.1 made.2 calls
    let outcome := x.1.transit ⟨0⟩ [] x.2
    outcome.1 ≠ .ok false ∧ (x.1.graph.transition? ⟨0⟩).map (·.target) = some ⟨0⟩ ∧
      ¬ (outcome.2.1.current = some ⟨0⟩ ↔
        (x.1.graph.runExit (.leaving x.1.current ⟨0⟩ ⟨0⟩) x.2).1 = .ok ()) := by
  decide

end Automaton

end EventAutomata
