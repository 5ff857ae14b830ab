import EventAutomata.Proofs.Automaton.Cursor
import EventAutomata.Proofs.Automaton.Subscriptions
import EventAutomata.Proofs.Graph.Surgery

/-!
# What an edge brings and takes

An automaton that attaches a transition gains what the target of the transition reaches, and
one that removes a transition keeps what can be reached without it. The registry is told the
difference only. So the subscriptions that change are those of the transitions that are gained
or lost, and no others.
-/

namespace EventAutomata

namespace Automaton

variable {σ α : Type} {a b : Automaton σ α} {r s u v : StateId} {t x : TransitionId}

-- ---------------------------------------------------------------------------
-- Reach
-- ---------------------------------------------------------------------------

theorem states_of_start (hr : a.start = some r) :
    a.states = a.graph.reachableStates r .withEpsilon := by
  simp [states, hr]

theorem transitions_of_start (hr : a.start = some r) :
    a.transitions = a.graph.reachableTransitions r .withEpsilon := by
  simp [transitions, reachableFrom, hr]

theorem Tracked.reach_attach? (ha : a.Tracked) (h : a.attach? s t = some b) :
    ∃ edge, a.graph.transition? t = some edge ∧
      b.states = a.states ∪ a.graph.reachableStates edge.target .withEpsilon ∧
      b.transitions =
        (a.transitions ∪ a.graph.reachableTransitions edge.target .withEpsilon).insert t := by
  obtain ⟨hs, g, hg, rfl⟩ := attach?_eq_some h
  obtain ⟨r, hr, hreach⟩ := mem_states.1 hs
  obtain ⟨-, edge, -, ht, -⟩ := Graph.attach?_eq_some hg
  have htarget := ha.graph.target_exists ht
  have hr' : (a.rewire g).start = some r := hr
  refine ⟨edge, ht, ?_, ?_⟩
  · rw [states_of_start hr, states_of_start hr']
    exact Graph.reachableStates_attach? hg ht htarget hreach
  · rw [transitions_of_start hr, transitions_of_start hr']
    exact Graph.reachableTransitions_attach? hg ht htarget hreach

theorem Tracked.subset_attach? (ha : a.Tracked) (h : a.attach? s t = some b) :
    a.transitions ⊆ b.transitions := by
  obtain ⟨edge, -, -, htransitions⟩ := ha.reach_attach? h
  intro x hx
  simp [htransitions, hx]

/-- What can be reached after a removal is what trails lead to without the transition. -/
theorem Tracked.mem_states_remove? (ha : a.Tracked) (h : a.remove? s t = some b) :
    v ∈ b.states ↔
      ∃ r ts, a.start = some r ∧ a.graph.Trail Traversal.withEpsilon.follows r ts v ∧
        ¬ t ∈ ts := by
  obtain ⟨-, g, hg, rfl⟩ := remove?_eq_some h
  rw [dropStrandedCursor_eq, mem_states]
  refine exists_congr fun r => ?_
  constructor
  · rintro ⟨hr, hv⟩
    obtain ⟨-, ts, htrail, hnot⟩ := (Graph.mem_reachableStates_remove? ha.graph hg).1 hv
    exact ⟨ts, hr, htrail, hnot⟩
  · rintro ⟨ts, hr, htrail, hnot⟩
    have hstart : a.graph.hasState r = true := ha.start hr
    exact ⟨hr, (Graph.mem_reachableStates_remove? ha.graph hg).2 ⟨hstart, ts, htrail, hnot⟩⟩

theorem Tracked.states_remove?_subset (ha : a.Tracked) (h : a.remove? s t = some b)
    (hv : v ∈ b.states) : v ∈ a.states := by
  obtain ⟨r, ts, hr, htrail, -⟩ := (ha.mem_states_remove? h).1 hv
  exact mem_states.2 ⟨r, hr, Graph.mem_reachableStates_iff_trail.2 ⟨ha.start hr, ts, htrail⟩⟩

theorem Tracked.mem_transitions_iff_owner (ha : a.Tracked) :
    x ∈ a.transitions ↔ ∃ u ∈ a.states, a.graph.ownerOf x = some u := by
  cases hr : a.start with
  | none => simp [transitions, reachableFrom, states, hr]
  | some r =>
    rw [transitions_of_start hr, states_of_start hr]
    exact ha.graph.mem_reachableTransitions_iff_owner

theorem ownerOf_of_remove? (h : a.remove? s t = some b) (x : TransitionId) :
    b.graph.ownerOf x = if x = t then none else a.graph.ownerOf x := by
  obtain ⟨-, g, hg, rfl⟩ := remove?_eq_some h
  rw [dropStrandedCursor_eq]
  exact Graph.ownerOf_remove? hg x

-- ---------------------------------------------------------------------------
-- Subscriptions
-- ---------------------------------------------------------------------------

/-- The second automaton has the subscriptions of the first, and besides them one for each
transition of a set. -/
structure SubscribedBesides (a b : Automaton σ α) (more : HandleSet .transition) : Prop where
  added : ∀ x ∈ more, a.subscription? x = none ∧ ∃ id, b.subscription? x = some id
  same : ∀ x, ¬ x ∈ more → b.subscription? x = a.subscription? x

theorem Tracked.subscription?_eq_none (ha : a.Tracked) (hx : ¬ x ∈ a.transitions) :
    a.subscription? x = none :=
  Option.eq_none_iff_forall_ne_some.2 fun id hid => hx (ha.subscribed_iff.2 ⟨id, hid⟩)

theorem Tracked.subscribedBesides (ha : a.Tracked) (hb : b.Tracked)
    (hsame : ∀ x ∈ a.transitions, b.subscription? x = a.subscription? x) :
    a.SubscribedBesides b (b.transitions \ a.transitions) where
  added x hx := by
    obtain ⟨hnew, hold⟩ := HandleSet.mem_diff.1 hx
    exact ⟨ha.subscription?_eq_none hold, hb.subscribed_iff.1 hnew⟩
  same x hx := by
    by_cases hold : x ∈ a.transitions
    · exact hsame x hold
    · have hnew : ¬ x ∈ b.transitions := fun hnew => hx (HandleSet.mem_diff.2 ⟨hnew, hold⟩)
      rw [ha.subscription?_eq_none hold, hb.subscription?_eq_none hnew]

theorem Tracked.subscription?_eq (ha : a.Tracked) (hb : b.Tracked) (hab : a.TurnsOver b)
    (hx : x ∈ a.transitions) (hx' : x ∈ b.transitions) : b.subscription? x = a.subscription? x := by
  obtain ⟨id, hid, hid'⟩ := ha.subscription_kept hb hab hx hx'
  rw [hid, hid']

variable [Payload σ]

theorem Tracked.attach? (ha : a.Tracked) (h : a.attach? s t = some b) : b.Tracked := by
  have hab : Relation.ReflTransGen (Step True) a b := steps_attach? h
  exact ha.steps hab

theorem Tracked.remove? (ha : a.Tracked) (h : a.remove? s t = some b) : b.Tracked := by
  have hab : Relation.ReflTransGen (Step True) a b := steps_remove? h
  exact ha.steps hab

theorem Tracked.gained_attach? (ha : a.Tracked) (h : a.attach? s t = some b) :
    a.SubscribedBesides b (b.transitions \ a.transitions) :=
  ha.subscribedBesides (ha.attach? h) fun x hx =>
    ha.subscription?_eq (ha.attach? h) (turnsOver_attach? h) hx (ha.subset_attach? h x hx)

theorem Tracked.mem_transitions_remove? (ha : a.Tracked) (h : a.remove? s t = some b) :
    x ∈ b.transitions ↔ x ≠ t ∧ ∃ u ∈ b.states, a.graph.ownerOf x = some u := by
  rw [(ha.remove? h).mem_transitions_iff_owner, ownerOf_of_remove? h]
  by_cases hx : x = t <;> simp [hx]

theorem Tracked.remove?_subset (ha : a.Tracked) (h : a.remove? s t = some b) :
    b.transitions ⊆ a.transitions := by
  intro x hx
  obtain ⟨-, u, hu, howner⟩ := (ha.mem_transitions_remove? h).1 hx
  exact ha.mem_transitions_iff_owner.2 ⟨u, ha.states_remove?_subset h hu, howner⟩

theorem Tracked.lost_remove? (ha : a.Tracked) (h : a.remove? s t = some b) :
    b.SubscribedBesides a (a.transitions \ b.transitions) :=
  (ha.remove? h).subscribedBesides ha fun x hx =>
    (ha.subscription?_eq (ha.remove? h) (turnsOver_remove? h) (ha.remove?_subset h x hx) hx).symm

-- ---------------------------------------------------------------------------
-- Both
-- ---------------------------------------------------------------------------

/-- An edge that is attached brings what its target reached before, and one that is removed
takes what could not be reached without it, states, transitions and subscriptions alike. -/
theorem one_edge_changes_reach_exactly (config : AutomatonConfig) (hub : Hub α)
    (turns : List (Turn σ α)) (s : StateId) (t : TransitionId) :
    let a := (live (create config hub) turns).1
    (∀ b, a.edit (.attach s t) = (.flag true, b) →
      ∃ edge, a.graph.transition? t = some edge ∧
        b.states = a.states ∪ a.graph.reachableStates edge.target .withEpsilon ∧
        b.transitions =
          (a.transitions ∪ a.graph.reachableTransitions edge.target .withEpsilon).insert t ∧
        a.SubscribedBesides b (b.transitions \ a.transitions)) ∧
    ∀ b, a.edit (.remove s t) = (.flag true, b) →
      (∀ v, v ∈ b.states ↔
        ∃ r ts, a.start = some r ∧ a.graph.Trail Traversal.withEpsilon.follows r ts v ∧
          ¬ t ∈ ts) ∧
      (∀ x, x ∈ b.transitions ↔ x ≠ t ∧ ∃ u ∈ b.states, a.graph.ownerOf x = some u) ∧
      b.SubscribedBesides a (a.transitions \ b.transitions) := by
  intro a
  have ha : a.Tracked := tracked_live config hub turns
  constructor
  · intro b hb
    have h := Graph.accepted_eq_true.1 hb
    obtain ⟨edge, ht, hstates, htransitions⟩ := ha.reach_attach? h
    exact ⟨edge, ht, hstates, htransitions, ha.gained_attach? h⟩
  · intro b hb
    have h := Graph.accepted_eq_true.1 hb
    exact ⟨fun _ => ha.mem_states_remove? h, fun _ => ha.mem_transitions_remove? h,
      ha.lost_remove? h⟩

def cycleTurns : List (Turn String Nat) :=
  [.call (.edit (.addState "idle")), .call (.edit (.addState "busy")),
    .call (.edit (.addState "done")), .call (.edit (.addTransition .input ⟨1⟩)),
    .call (.edit (.addTransition .epsilon ⟨2⟩)), .call (.edit (.addTransition .input ⟨1⟩)),
    .call (.setStart (some ⟨0⟩)), .call (.edit (.attach ⟨0⟩ ⟨0⟩)),
    .call (.edit (.attach ⟨1⟩ ⟨1⟩)), .call (.edit (.attach ⟨2⟩ ⟨2⟩))]

def cutTurn : Turn String Nat := .call (.edit (.remove ⟨0⟩ ⟨0⟩))

def mendTurn : Turn String Nat := .call (.edit (.attach ⟨0⟩ ⟨0⟩))

def afterTurns (turns : List (Turn String Nat)) : Automaton String Nat :=
  (live (create {} {}) turns).1

theorem edit_afterTurns {turns : List (Turn String Nat)} {e : Graph.Edit String}
    (h : ((afterTurns turns).edit e).1 = .flag true) :
    (afterTurns turns).edit e = (.flag true, afterTurns (turns ++ [.call (.edit e)])) := by
  refine Prod.ext h ?_
  simp only [afterTurns, live_append_call, call]

/-- The cycle is cut off, though it still leads to itself, and brought back as a whole. -/
theorem one_edge_changes_reach_exactly_of_cycle :
    let whole := afterTurns cycleTurns
    let cut := afterTurns (cycleTurns ++ [cutTurn])
    let mended := afterTurns (cycleTurns ++ [cutTurn] ++ [mendTurn])
    whole.edit (.remove ⟨0⟩ ⟨0⟩) = (.flag true, cut) ∧
      (∃ ts, whole.graph.Trail Traversal.withEpsilon.follows ⟨0⟩ ts ⟨2⟩) ∧
      (∀ ts, whole.graph.Trail Traversal.withEpsilon.follows ⟨0⟩ ts ⟨2⟩ → ⟨0⟩ ∈ ts) ∧
      cut.states = .ofList [⟨0⟩] ∧ cut.subscription? ⟨2⟩ = none ∧
      cut.edit (.attach ⟨0⟩ ⟨0⟩) = (.flag true, mended) ∧
      mended.states = cut.states ∪ cut.graph.reachableStates ⟨1⟩ .withEpsilon := by
  intro whole cut mended
  have hremovable : (whole.remove? ⟨0⟩ ⟨0⟩).isSome = true := by decide +kernel
  have hattachable : (cut.attach? ⟨0⟩ ⟨0⟩).isSome = true := by decide +kernel
  have hcut : whole.edit (.remove ⟨0⟩ ⟨0⟩) = (.flag true, cut) :=
    edit_afterTurns ((Graph.accepted_answer ..).trans (congrArg _ hremovable))
  have hmend : cut.edit (.attach ⟨0⟩ ⟨0⟩) = (.flag true, mended) :=
    edit_afterTurns ((Graph.accepted_answer ..).trans (congrArg _ hattachable))
  obtain ⟨-, hremove⟩ := one_edge_changes_reach_exactly {} {} cycleTurns ⟨0⟩ ⟨0⟩
  obtain ⟨hattach, -⟩ := one_edge_changes_reach_exactly {} {} (cycleTurns ++ [cutTurn]) ⟨0⟩ ⟨0⟩
  obtain ⟨hstates, -, hlost⟩ := hremove cut hcut
  obtain ⟨edge, ht, hgained, -⟩ := hattach mended hmend
  have hstart : whole.start = some ⟨0⟩ := by decide +kernel
  have hreach : ⟨2⟩ ∈ whole.graph.reachableStates ⟨0⟩ .withEpsilon := by decide +kernel
  have hlone : cut.states = .ofList [⟨0⟩] := by decide +kernel
  have hgone : ¬ ⟨2⟩ ∈ cut.states := by decide +kernel
  have hx : ⟨2⟩ ∈ whole.transitions \ cut.transitions := by decide +kernel
  have htarget : (cut.graph.transition? ⟨0⟩).map TransitionNode.target = some ⟨1⟩ := by
    decide +kernel
  have hedge : edge.target = ⟨1⟩ := Option.some.inj ((congrArg _ ht).symm.trans htarget)
  rw [hedge] at hgained
  refine ⟨hcut, (Graph.mem_reachableStates_iff_trail.1 hreach).2, fun ts htrail => ?_, hlone,
    (hlost.added ⟨2⟩ hx).1, hmend, hgained⟩
  by_contra hnot
  exact hgone ((hstates ⟨2⟩).2 ⟨⟨0⟩, ts, hstart, htrail, hnot⟩)

end Automaton

end EventAutomata
