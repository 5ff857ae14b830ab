import EventAutomata.Proofs.Alike.Transits

/-!
# Calls on automata that are alike

A call on one automaton and the same call on one that is alike leave automata that are alike
(`Alike.call`). The answers are the same, unless the call looks at what may differ
(`Call.Answered`); then they say of each automaton what there is to say of it.

Settings of guards and terminal flags may differ from one automaton to the other where these
are not compared.
-/

namespace EventAutomata

variable {σ α : Type} {ℓ : Likeness}

-- ---------------------------------------------------------------------------
-- Requests that can be refused
-- ---------------------------------------------------------------------------

namespace Graph

variable {β : Type} {R : β → β → Prop} {old old' : β}

theorem accepted_rel (hold : R old old') {new? new?' : Option β} (hnew : Option.Rel R new? new?') :
    (accepted old new?).1 = (accepted old' new?').1 ∧
      R (accepted old new?).2 (accepted old' new?').2 := by
  cases hnew with
  | none => exact ⟨rfl, hold⟩
  | some hnew => exact ⟨rfl, hnew⟩

-- ---------------------------------------------------------------------------
-- Questions
-- ---------------------------------------------------------------------------

/-- The answer can depend on a guard or on a terminal flag. -/
def Query.unveils : Query α → Bool
  | .checkGuard .. | .stateInfo _ | .describe _ | .describeState .. => true
  | _ => false

theorem ask_veil [Payload σ] {seen : Bool} (g : Graph σ α) {q : Query α}
    (hq : q.unveils = false) : (g.veil seen).ask q = g.ask q := by
  cases q with
  | checkGuard | stateInfo | describe | describeState => cases hq
  | reachableTransitions s traversal => simp only [ask, reachableTransitions_veil]
  | reachableStates s traversal => simp only [ask, reachableStates_veil]
  | epsilonClosure seeds => simp only [ask, epsilonClosure_veil]
  | owner t => simp only [ask, ownerOf_veil]
  | counts => simp [ask, veil]
  | ensureEpsilon t => simp only [ask, ensureEpsilon_veil]
  | transitionInfo t =>
    rw [ask, ask, transition?_veil]
    cases g.transition? t with
    | none => rfl
    | some n => simp [Answer.ofOption, TransitionNode.veil]
  | holds s t =>
    rw [ask, ask, state?_veil]
    cases g.state? s <;> rfl
  | describeTransition t spread =>
    rw [ask, ask, transition?_veil]
    cases g.transition? t with
    | none => rfl
    | some n => simp [Answer.ofOption, TransitionNode.veil, EventAutomata.describe]
  | describeGuard t spread =>
    rw [ask, ask, guard?, guard?, transition?_veil]
    cases g.transition? t with
    | none => rfl
    | some n =>
      obtain ⟨id, target, kind, guard, onTransit, owner⟩ := n
      cases guard <;> rfl

end Graph

namespace Automaton

variable {a b : Automaton σ α}

-- ---------------------------------------------------------------------------
-- What belongs to an automaton
-- ---------------------------------------------------------------------------

namespace Alike

theorem withGraph (ha : a.Alike ℓ b) {g k : Graph σ α} (hg : g.Alike ℓ.seen k) :
    Alike ℓ { a with graph := g } { b with graph := k } :=
  { ha with graph := hg }

theorem reachableFrom (ha : a.Alike ℓ b) (s : Option StateId) :
    a.reachableFrom s = b.reachableFrom s := by
  cases s with
  | none => rfl
  | some s =>
    exact ha.graph.same (f := fun g => g.reachableTransitions s .withEpsilon) fun g =>
      g.reachableTransitions_veil s _

theorem transitions (ha : a.Alike ℓ b) : a.transitions = b.transitions := by
  rw [Automaton.transitions, Automaton.transitions, ha.start, ha.reachableFrom]

theorem reachableStates (ha : a.Alike ℓ b) (s : StateId) (traversal : Traversal) :
    a.graph.reachableStates s traversal = b.graph.reachableStates s traversal :=
  ha.graph.same (f := fun g => g.reachableStates s traversal) fun g =>
    g.reachableStates_veil s traversal

theorem states (ha : a.Alike ℓ b) : a.states = b.states := by
  unfold Automaton.states
  rw [ha.start]
  cases b.start with
  | none => rfl
  | some s => exact ha.reachableStates s .withEpsilon

theorem violations (ha : a.Alike ℓ b) : a.violations = b.violations := by
  have hcursor : a.cursorViolations = b.cursorViolations := by
    unfold cursorViolations
    simp only [ha.start, ha.current, ha.reachableStates]
  simp only [Automaton.violations, hcursor, ha.transitions, ha.registry]

theorem describe_eq [Payload σ] (ha : a.Alike ℓ b) (hlength : a.history.length = b.history.length) :
    describe b = describe { a with graph := b.graph, config := b.config } := by
  simp only [describe, hlength, ha.start, ha.current, ha.registry]

-- ---------------------------------------------------------------------------
-- Changes
-- ---------------------------------------------------------------------------

theorem rewire (ha : a.Alike ℓ b) {g k : Graph σ α} (hg : g.Alike ℓ.seen k) :
    (a.rewire g).Alike ℓ (b.rewire k) := by
  have hregistry : (a.rewire g).registry = (b.rewire k).registry := by
    have hafter := (ha.withGraph hg).transitions
    rw [Automaton.rewire, Automaton.rewire, hafter, ha.registry, ha.transitions]
  exact { ha.withGraph hg with registry := hregistry }

theorem dropStrandedCursor (ha : a.Alike ℓ b) :
    a.dropStrandedCursor.Alike ℓ b.dropStrandedCursor := by
  rw [dropStrandedCursor_eq, dropStrandedCursor_eq, ha.states, ha.current]
  exact { ha with current := rfl }

theorem attach? (ha : a.Alike ℓ b) (s : StateId) (t : TransitionId) :
    Option.Rel (Alike ℓ) (a.attach? s t) (b.attach? s t) := by
  unfold Automaton.attach?
  rw [ha.states]
  split
  next =>
    have hgraph := ha.graph.rel (f := fun g => g.attach? s t) fun g => g.attach?_veil s t
    exact hgraph.map fun _ _ hg => ha.rewire hg
  next => exact .none

theorem remove? (ha : a.Alike ℓ b) (s : StateId) (t : TransitionId) :
    Option.Rel (Alike ℓ) (a.remove? s t) (b.remove? s t) := by
  unfold Automaton.remove?
  rw [ha.states]
  split
  next =>
    have hgraph := ha.graph.rel (f := fun g => g.remove? s t) fun g => g.remove?_veil s t
    exact hgraph.map fun _ _ hg => (ha.rewire hg).dropStrandedCursor
  next => exact .none

theorem ensureEpsilon (ha : a.Alike ℓ b) (t : TransitionId) :
    a.graph.ensureEpsilon t = b.graph.ensureEpsilon t :=
  ha.graph.same (f := fun g => g.ensureEpsilon t) fun g => g.ensureEpsilon_veil t

theorem setStart (ha : a.Alike ℓ b) (s : Option StateId) :
    (∃ problem, a.setStart s = .error problem ∧ b.setStart s = .error problem) ∨
      ∃ a' b', a.setStart s = .ok a' ∧ b.setStart s = .ok b' ∧ a'.Alike ℓ b' := by
  have hmove : (setStart.moveStart a s).Alike ℓ (setStart.moveStart b s) := by
    unfold setStart.moveStart
    rw [ha.start]
    split
    next => exact ha
    next =>
      refine { ha with start := rfl, current := rfl, registry := ?_ }
      simp only [ha.registry, ha.reachableFrom]
  cases s with
  | none => exact .inr ⟨_, _, rfl, rfl, hmove⟩
  | some s =>
    simp only [Automaton.setStart, ha.graph.hasState]
    split
    next => exact .inr ⟨_, _, rfl, rfl, hmove⟩
    next => exact .inl ⟨_, rfl, rfl⟩

theorem reset (ha : a.Alike ℓ b) : a.reset.Alike ℓ b.reset := { ha with current := ha.start }

theorem teardown (ha : a.Alike ℓ b) :
    a.teardown.1 = b.teardown.1 ∧ a.teardown.2.Alike ℓ b.teardown.2 := by
  simp only [Automaton.teardown, ha.transitions, ha.registry]
  exact ⟨trivial, { ha with start := rfl, current := rfl, registry := rfl }⟩

theorem edit [Payload σ] (ha : a.Alike ℓ b) (e : Graph.Edit σ) :
    (a.edit e).1 = (b.edit e).1 ∧ (a.edit e).2.Alike ℓ (b.edit e).2 := by
  have hunless : ∀ t {new? new?' : Option (Automaton σ α)}, Option.Rel (Alike ℓ) new? new?' →
      let x := Graph.acceptedUnless a ((a.graph.ensureEpsilon t).map fun _ => new?)
      let y := Graph.acceptedUnless b ((b.graph.ensureEpsilon t).map fun _ => new?')
      x.1 = y.1 ∧ x.2.Alike ℓ y.2 := by
    intro t new? new?' hnew
    rw [ha.ensureEpsilon]
    cases b.graph.ensureEpsilon t with
    | error problem => exact ⟨rfl, ha⟩
    | ok u => exact Graph.accepted_rel ha hnew
  cases e with
  | addState data =>
    obtain ⟨hs, hg⟩ := ha.graph.addState data
    exact ⟨congrArg Answer.state hs, ha.withGraph hg⟩
  | addTransition kind target =>
    rcases ha.graph.addTransition kind target with
      ⟨problem, hx, hy⟩ | ⟨t, g', k', hx, hy, hg⟩
    · simp only [Automaton.edit, Automaton.addTransition, hx, hy]
      exact ⟨rfl, ha⟩
    · simp only [Automaton.edit, Automaton.addTransition, hx, hy]
      exact ⟨rfl, ha.withGraph hg⟩
  | attach s t => exact Graph.accepted_rel ha (ha.attach? s t)
  | remove s t => exact Graph.accepted_rel ha (ha.remove? s t)
  | attachEpsilon s t => exact hunless t (ha.attach? s t)
  | removeEpsilon s t => exact hunless t (ha.remove? s t)

end Alike

-- ---------------------------------------------------------------------------
-- Calls
-- ---------------------------------------------------------------------------

/-- The calls differ at most in a setting of what is not compared. -/
inductive Call.Alike (seen : Bool) : Call σ α → Call σ α → Prop
  | same (c : Call σ α) : Alike seen c c
  | configure {c d : Graph.Setting (Script α) α} :
      c.Alike seen d → Alike seen (.configure c) (.configure d)

variable [Payload σ]

inductive Call.Answered (ℓ : Likeness) : Call σ α → Answer → Answer → Prop
  | same (c : Call σ α) (answer : Answer) : Answered ℓ c answer answer
  | canTransit (t : TransitionId) (args : List α) (x y : Answer) :
      ℓ.seen = false → Answered ℓ (.canTransit t args) x y
  | checkGuard (t : TransitionId) (args : List α) (x y : Answer) :
      ℓ.seen = false → Answered ℓ (.query (.checkGuard t args)) x y
  | stateInfo (s : StateId) (info : StateInfo) (flag : Bool) :
      ℓ.seen = false → Answered ℓ (.query (.stateInfo s)) (.stateInfo info)
        (.stateInfo { info with isTerminal := flag })
  | describeState (s : StateId) (n : StateNode σ α) (flag spread : Bool) :
      ℓ.seen = false → Answered ℓ (.query (.describeState s spread))
        (.text ((EventAutomata.describe n).render spread))
        (.text ((EventAutomata.describe { n with isTerminal := flag }).render spread))
  | describeGraph {g k : Graph σ α} (spread : Bool) :
      g.Alike ℓ.seen k → Answered ℓ (.query (.describe spread))
        (.text ((EventAutomata.describe g).render spread))
        (.text ((EventAutomata.describe k).render spread))
  | describe {a b : Automaton σ α} (spread : Bool) :
      a.Alike ℓ b → Answered ℓ (.describe spread)
        (.text ((EventAutomata.describe a).render spread))
        (.text ((EventAutomata.describe b).render spread))
  | path {h k : History} :
      ℓ.history h k → Answered ℓ .path (.states h.path) (.states k.path)
  | history {h k : History} :
      ℓ.history h k → Answered ℓ .history (.history h) (.history k)
  | config {c d : AutomatonConfig} :
      ℓ.config c d → Answered ℓ .config (.config c) (.config d)
  | describeConfig {c d : AutomatonConfig} (spread : Bool) :
      ℓ.config c d → Answered ℓ (.describeConfig spread)
        (.text ((EventAutomata.describe c).render spread))
        (.text ((EventAutomata.describe d).render spread))

theorem Alike.ask (ha : a.Alike ℓ b) (q : Graph.Query α) :
    Call.Answered ℓ (.query q : Call σ α) (a.graph.ask q) (b.graph.ask q) := by
  have hsame : a.graph.ask q = b.graph.ask q →
      Call.Answered ℓ (.query q : Call σ α) (a.graph.ask q) (b.graph.ask q) := fun h => by
    rw [h]
    exact .same _ _
  cases hseen : ℓ.seen with
  | true =>
    have hg := ha.graph
    rw [hseen] at hg
    exact hsame (congrArg (·.ask q) hg.eq)
  | false =>
    cases hq : q.unveils with
    | false => exact hsame (ha.graph.same (f := fun g => g.ask q) fun g => g.ask_veil hq)
    | true =>
      cases q with
      | checkGuard t args => exact .checkGuard t args _ _ hseen
      | describe spread => exact .describeGraph spread ha.graph
      | stateInfo s =>
        rcases (ha.graph.state? s).none_or_some with ⟨hx, hy⟩ | ⟨n, m, hx, hy, hn⟩ <;>
          simp only [Graph.ask, hx, hy]
        · exact .same _ _
        · rw [StateNode.eq_of_veil_eq hn]
          exact .stateInfo s ⟨n.name, _, n.isTerminal, n.outgoing⟩ m.isTerminal hseen
      | describeState s spread =>
        rcases (ha.graph.state? s).none_or_some with ⟨hx, hy⟩ | ⟨n, m, hx, hy, hn⟩ <;>
          simp only [Graph.ask, hx, hy]
        · exact .same _ _
        · rw [StateNode.eq_of_veil_eq hn]
          exact .describeState s n m.isTerminal spread hseen
      | _ => cases hq

theorem Alike.answered_canTransit (ha : a.Alike ℓ b) (t : TransitionId) (args : List α) :
    Call.Answered ℓ (.canTransit t args : Call σ α) (.ofFault .flag (a.canTransit t args))
      (.ofFault .flag (b.canTransit t args)) := by
  cases hseen : ℓ.seen with
  | false => exact .canTransit t args _ _ hseen
  | true =>
    have hg := ha.graph
    rw [hseen] at hg
    have hsame : a.canTransit t args = b.canTransit t args := by
      have hleaves : a.leavesCurrent = b.leavesCurrent := by
        funext edge
        rw [leavesCurrent, leavesCurrent, ha.current]
      rw [canTransit, canTransit, hg.eq, hleaves]
    rw [hsame]
    exact .same _ _

/-- A call finds automata that are alike and leaves such. -/
theorem Alike.call {h k : Hub α} {c d : Call σ α} (ha : a.Alike ℓ b) (hk : h.Alike ℓ.timed k)
    (hcd : c.Alike ℓ.seen d) (hc : a.Concur b (a.attempts h c)) :
    c.Answered ℓ (a.call h c).1 (b.call k d).1 ∧
      (a.call h c).2.1.Alike ℓ (b.call k d).2.1 ∧
      (a.call h c).2.2.Alike ℓ.timed (b.call k d).2.2 := by
  cases hcd with
  | configure hsetting =>
    obtain ⟨hanswer, hg⟩ := ha.graph.configure hsetting
    refine ⟨?_, ha.withGraph hg, hk⟩
    simp only [Automaton.call, Automaton.configure, hanswer]
    exact .same _ _
  | same =>
    cases c with
    | edit e =>
      obtain ⟨hanswer, hab⟩ := ha.edit e
      refine ⟨?_, hab, hk⟩
      simp only [Automaton.call, hanswer]
      exact .same _ _
    | configure setting =>
      obtain ⟨hanswer, hg⟩ := ha.graph.configure (.same setting)
      refine ⟨?_, ha.withGraph hg, hk⟩
      simp only [Automaton.call, Automaton.configure, hanswer]
      exact .same _ _
    | query q => exact ⟨ha.ask q, ha, hk⟩
    | setStart s =>
      rcases ha.setStart s with ⟨problem, hx, hy⟩ | ⟨a', b', hx, hy, hab⟩
      · simp only [Automaton.call, hx, hy]
        exact ⟨.same _ _, ha, hk⟩
      · simp only [Automaton.call, hx, hy]
        exact ⟨.same _ _, hab, hk⟩
    | reset => exact ⟨.same _ _, ha.reset, hk⟩
    | canTransit t args => exact ⟨ha.answered_canTransit t args, ha, hk⟩
    | transit t args =>
      obtain ⟨result, a', h', b', k', hx, hy, hab, hk'⟩ := ha.transit hk t args hc
      simp only [Automaton.call, hx, hy]
      exact ⟨.same _ _, hab, hk'⟩
    | transitTimes t args times =>
      obtain ⟨result, a', h', b', k', hx, hy, hab, hk'⟩ := ha.transitTimes hk t args times 0 hc
      simp only [Automaton.call, hx, hy]
      exact ⟨.same _ _, hab, hk'⟩
    | deliver fired =>
      obtain ⟨result, a', h', b', k', hx, hy, hab, hk'⟩ := ha.deliver hk fired hc
      simp only [Automaton.call, hx, hy]
      exact ⟨.same _ _, hab, hk'⟩
    | dispatchPending =>
      obtain ⟨result, a', h', b', k', hx, hy, hab, hk'⟩ := ha.drain hk 0 hc
      simp only [Automaton.call, dispatchPending, hx, hy]
      exact ⟨.same _ _, hab, hk'⟩
    | dispatchNext =>
      obtain ⟨result, a', h', b', k', hx, hy, hab, hk'⟩ := ha.dispatchNext hk hc
      simp only [Automaton.call, hx, hy]
      cases result <;> exact ⟨.same _ _, hab, hk'⟩
    | teardown =>
      obtain ⟨hreport, hab⟩ := ha.teardown
      simp only [Automaton.call, hreport]
      exact ⟨.same _ _, hab, hk⟩
    | teardownDescribed spread =>
      obtain ⟨hreport, hab⟩ := ha.teardown
      simp only [Automaton.call, hreport]
      exact ⟨.same _ _, hab, hk⟩
    | validate =>
      simp only [Automaton.call, Automaton.errors_validate Validation.accumulates_collect,
        ha.violations]
      exact ⟨.same _ _, ha, hk⟩
    | subscription t =>
      simp only [Automaton.call, subscription?, ha.registry]
      exact ⟨.same _ _, ha, hk⟩
    | states =>
      simp only [Automaton.call, ha.states]
      exact ⟨.same _ _, ha, hk⟩
    | transitions =>
      simp only [Automaton.call, ha.transitions]
      exact ⟨.same _ _, ha, hk⟩
    | path => exact ⟨.path ha.history, ha, hk⟩
    | history => exact ⟨.history ha.history, ha, hk⟩
    | config => exact ⟨.config ha.config, ha, hk⟩
    | describe spread => exact ⟨.describe spread ha, ha, hk⟩
    | describeRegistry spread =>
      simp only [Automaton.call, ha.registry]
      exact ⟨.same _ _, ha, hk⟩
    | describeConfig spread => exact ⟨.describeConfig spread ha.config, ha, hk⟩

end Automaton

end EventAutomata
