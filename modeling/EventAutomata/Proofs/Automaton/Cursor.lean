import EventAutomata.Automaton.Integrity
import EventAutomata.Proofs.Automaton.Turns

/-!
# The current state stays in the automaton

Three gates keep the current state among the states that can be reached. A transit under
the strict policy asks who owns the transition, a delivery asks whether it is subscribed,
and removing a transition looks at what can still be reached. Each alone would do only
if the owners, the registry and the graph agree, which is what `Tracked` says. Only a
direct transit under the permissive policy asks nothing.
-/

namespace EventAutomata

open Relation (ReflTransGen)

namespace Automaton

variable {σ α : Type} {a b : Automaton σ α}

/-- The current state, if there is one, can be reached from the start state. -/
def CursorInside (a : Automaton σ α) : Prop := ∀ c, a.current = some c → c ∈ a.states

theorem mem_states {c : StateId} :
    c ∈ a.states ↔ ∃ s, a.start = some s ∧ c ∈ a.graph.reachableStates s .withEpsilon := by
  unfold states
  split
  next hs => simp [hs]
  next s hs => simp [hs]

theorem mem_states_of_edge {u v : StateId} {t : TransitionId} (hu : u ∈ a.states)
    (he : a.graph.Edge u t v) : v ∈ a.states := by
  obtain ⟨s, hs, hmem⟩ := mem_states.1 hu
  exact mem_states.2 ⟨s, hs, Graph.mem_reachableStates_of_edge hmem he⟩

theorem mem_transitions {t : TransitionId} :
    t ∈ a.transitions ↔ ∃ u ∈ a.states, ∃ v, a.graph.Edge u t v := by
  unfold transitions reachableFrom states
  split
  next => simp
  next s hs => exact Graph.mem_reachableTransitions_withEpsilon

theorem Tracked.start_mem_states (ht : a.Tracked) {s : StateId} (hs : a.start = some s) :
    s ∈ a.states :=
  mem_states.2 ⟨s, hs, Graph.mem_reachableStates_self (ht.start hs)⟩

theorem Tracked.contains_iff (ht : a.Tracked) {t : TransitionId} :
    a.registry.contains t = true ↔ t ∈ a.transitions := by
  rw [← ht.registry, Registry.mem_transitions]

theorem edge_of_holds {u : StateId} {t : TransitionId} {edge : TransitionNode α}
    (hheld : a.graph.Holds u t) (ht : a.graph.transition? t = some edge) :
    a.graph.Edge u t edge.target :=
  ⟨hheld, edge, ht, rfl⟩

theorem leavesCurrent_iff {edge : TransitionNode α} :
    a.leavesCurrent edge = true ↔ ∃ c, a.current = some c ∧ edge.owner = some c := by
  unfold leavesCurrent
  split <;> simp_all

theorem cursorInside_create (config : AutomatonConfig) (hub : Hub α) :
    (create config hub : Automaton σ α × Hub α).1.CursorInside := nofun

theorem cursorViolations_eq_nil (hc : a.CursorInside) : a.cursorViolations = [] := by
  unfold cursorViolations
  split
  next => rfl
  next hs hcur =>
    obtain ⟨s, hs', -⟩ := mem_states.1 (hc _ hcur)
    rw [hs] at hs'
    cases hs'
  next hs hcur =>
    obtain ⟨s, hs', hmem⟩ := mem_states.1 (hc _ hcur)
    cases hs.symm.trans hs'
    exact if_pos hmem

theorem violations_eq_nil_of_registry (hr : a.registry.transitions = a.transitions)
    (hc : a.CursorInside) : a.violations = [] := by
  have hdiff : (a.transitions \ a.transitions).toList = [] :=
    List.eq_nil_iff_forall_not_mem.2 fun t ht => by
      have hmem := HandleSet.mem_diff.1 (HandleSet.mem_def.2 ht)
      exact hmem.2 hmem.1
  simp only [violations, cursorViolations_eq_nil hc, hr, hdiff]
  rfl

theorem violations_eq_nil (ht : a.Tracked) (hc : a.CursorInside) : a.violations = [] :=
  violations_eq_nil_of_registry ht.registry hc

-- ---------------------------------------------------------------------------
-- One step
-- ---------------------------------------------------------------------------

/-- A transition that leaves the current state leads to a state that can be reached. -/
theorem Tracked.target_mem_states (ht : a.Tracked) (hc : a.CursorInside) {t : TransitionId}
    {edge : TransitionNode α} (hx : a.graph.transition? t = some edge)
    (hleaves : a.leavesCurrent edge = true) : edge.target ∈ a.states := by
  obtain ⟨c, hcur, howner⟩ := leavesCurrent_iff.1 hleaves
  have hheld : a.graph.Holds c t :=
    (ht.graph.holds_iff c t).2 (Graph.ownerOf_eq_some.2 ⟨edge, hx, howner⟩)
  exact mem_states_of_edge (hc c hcur) (edge_of_holds hheld hx)

theorem Tracked.target_mem_states_of_subscribed (ht : a.Tracked) {t : TransitionId}
    {edge : TransitionNode α} (hx : a.graph.transition? t = some edge)
    (hsub : a.registry.contains t = true) : edge.target ∈ a.states := by
  obtain ⟨u, hu, v, hheld, -⟩ := mem_transitions.1 (ht.contains_iff.1 hsub)
  exact mem_states_of_edge hu (edge_of_holds hheld hx)

theorem CursorInside.moved {target : StateId} (hc : a.CursorInside) (h : a.MovedTo target b)
    (htarget : target ∈ a.states) : b.CursorInside := by
  obtain ⟨current, history, rfl, rfl | rfl⟩ := h
  · exact hc
  · intro c hcur
    cases hcur
    exact htarget

variable [Payload σ] {direct : Prop}

theorem CursorInside.extend {g : Graph σ α} (hc : a.CursorInside) (ht : a.Tracked)
    (h : a.graph.Extends g) : CursorInside { a with graph := g } := by
  intro c hcur
  obtain ⟨s, hs, hmem⟩ := mem_states.1 (hc c hcur)
  refine mem_states.2 ⟨s, hs, ?_⟩
  rwa [← (reachable_extend h ht.graph (ht.start hs)).1] at hmem

theorem CursorInside.attach {g : Graph σ α} {s : StateId} {t : TransitionId} (hc : a.CursorInside)
    (h : a.graph.attach? s t = some g) : (a.rewire g).CursorInside := by
  intro c hcur
  obtain ⟨x, hx, hmem⟩ := mem_states.1 (hc c hcur)
  have hkeep := (Graph.Change.attach h).persists
  exact mem_states.2 ⟨x, hx, Graph.reachableStates_mono hkeep.hasState
    (fun _ _ _ => Graph.edge_attach? h) hmem⟩

theorem CursorInside.step (hc : a.CursorInside) (ht : a.Tracked)
    (hpolicy : direct → a.config.policy = .strict) (h : Step direct a b) : b.CursorInside := by
  cases h with
  | extend h => exact hc.extend ht h
  | attach hs h => exact hc.attach h
  | @remove s t g hs h =>
    intro c hcur
    rw [dropStrandedCursor_eq] at hcur ⊢
    exact of_decide_eq_true (Option.filter_eq_some_iff.1 hcur).2
  | @setStart start hs =>
    intro c hcur
    exact mem_states.2 ⟨c, hcur, Graph.mem_reachableStates_self (hs c hcur)⟩
  | reset => exact fun c hcur => ht.start_mem_states hcur
  | transit hd hx hleaves hmoved =>
    exact hc.moved hmoved (ht.target_mem_states hc hx (hleaves (hpolicy hd)))
  | deliver hsub hx hmoved => exact hc.moved hmoved (ht.target_mem_states_of_subscribed hx hsub)
  | teardown => exact nofun

-- ---------------------------------------------------------------------------
-- Whole runs
-- ---------------------------------------------------------------------------

theorem CursorInside.steps (hc : a.CursorInside) (ht : a.Tracked)
    (hpolicy : direct → a.config.policy = .strict) (h : ReflTransGen (Step direct) a b) :
    b.CursorInside := by
  induction h with
  | refl => exact hc
  | @tail b c hab hbc ih =>
    have hconfig : b.config = a.config := config_of_steps hab
    exact ih.step (ht.steps hab) (fun hd => hconfig ▸ hpolicy hd) hbc

theorem cursorInside_live {config : AutomatonConfig} {hub : Hub α} {turns : List (Turn σ α)}
    (h : config.policy = .strict ∨ ∀ c, .call c ∈ turns → c.isDirect = false) :
    (live (create config hub) turns).1.CursorInside := by
  refine (cursorInside_create config hub).steps (tracked_create config hub) id
    (steps_live (config.policy = .strict) _ turns fun c hc hd => ?_)
  exact h.resolve_right fun hno => by simp [hno c hc] at hd

/-- Under the strict policy, or if only signals move it, the current state is always one
of the automaton, and validation finds nothing. -/
theorem cursor_stays_inside (config : AutomatonConfig) (hub : Hub α) (turns : List (Turn σ α))
    (h : config.policy = .strict ∨ ∀ c, .call c ∈ turns → c.isDirect = false) :
    let a := (live (create config hub) turns).1
    (∀ c, a.current = some c →
        a.start.isSome ∧ a.graph.hasState c = true ∧ c ∈ a.states) ∧
      a.violations = [] := by
  intro a
  have ht : a.Tracked := tracked_live config hub turns
  have hc : a.CursorInside := cursorInside_live h
  refine ⟨fun c hcur => ?_, violations_eq_nil ht hc⟩
  obtain ⟨s, hs, hmem⟩ := mem_states.1 (hc c hcur)
  exact ⟨by simp [hs], ht.graph.hasState_of_reachable hmem, hc c hcur⟩

/-- A signal moves a permissive automaton, and the entry callback breaks down. -/
theorem cursor_stays_inside_broken_entry :
    let turns : List (Turn String Nat) :=
      [.call (.edit (.addState "idle")), .call (.edit (.addState "busy")),
        .call (.edit (.addTransition .input ⟨1⟩)), .call (.setStart (some ⟨0⟩)),
        .call (.edit (.attach ⟨0⟩ ⟨0⟩)), .call (.configure (.onEntry ⟨1⟩ [.panic "boom" none])),
        .call (.deliver ⟨⟨0⟩, []⟩)]
    let a := (live (create { policy := .permissive } {}) turns).1
    (∀ c, .call c ∈ turns → c.isDirect = false) ∧ a.current = some ⟨1⟩ ∧ a.history.length = 0 ∧
      ⟨1⟩ ∈ a.states ∧ a.violations = [] := by
  intro turns a
  have hno : ∀ c, .call c ∈ turns → c.isDirect = false := by
    intro c hc
    simp only [turns, List.mem_cons, List.not_mem_nil, or_false, Turn.call.injEq] at hc
    rcases hc with rfl | rfl | rfl | rfl | rfl | rfl | rfl <;> rfl
  have hcur : a.current = some ⟨1⟩ := by decide
  have hlen : a.history.length = 0 := by decide
  obtain ⟨hinside, hvalid⟩ := cursor_stays_inside _ _ turns (.inr hno)
  exact ⟨hno, hcur, hlen, (hinside _ hcur).2.2, hvalid⟩

end Automaton

end EventAutomata
