import EventAutomata.Graph.Worklist
import EventAutomata.Proofs.Graph.Paths
import Mathlib.Order.Bounds.Defs

/-!
# What walks find

A trail is a path with the transitions along it. Each transition of a trail exists and
leaves a state that exists and holds it, to where it leads. Whatever a graph is like, a walk
finds exactly what trails lead to (`walks_are_exact`). Handles that name nothing are no
obstacle: a transition that does not exist is no part of a trail, and at a state that does
not exist a trail ends.

The closure of some seeds under epsilon transitions is found in the same way. It is the
least set that holds the seeds and is closed (`epsilonClosure_is_least`).

A walk marks a state in each of its rounds, so it is over when there have been as many as
there are states, and later rounds would change nothing (`explore_of_enough`).
-/

namespace EventAutomata

namespace Graph

variable {σ α : Type} {g : Graph σ α} {follows : TransitionNode α → Bool} {s u v w : StateId}
  {t : TransitionId} {ts : List TransitionId}

-- ---------------------------------------------------------------------------
-- Trails
-- ---------------------------------------------------------------------------

def Leg (g : Graph σ α) (follows : TransitionNode α → Bool) (u : StateId) (t : TransitionId)
    (v : StateId) : Prop :=
  g.Holds u t ∧ ∃ edge, g.transition? t = some edge ∧ follows edge = true ∧ edge.target = v

/-- The transitions lead from the first state to the last, one behind the other. -/
inductive Trail (g : Graph σ α) (follows : TransitionNode α → Bool) :
    StateId → List TransitionId → StateId → Prop
  | nil {u : StateId} : Trail g follows u [] u
  | cons {u v w : StateId} {t : TransitionId} {ts : List TransitionId} :
      g.Leg follows u t v → Trail g follows v ts w → Trail g follows u (t :: ts) w

theorem step_iff_leg : g.Step follows u v ↔ ∃ t, g.Leg follows u t v := by
  constructor
  · rintro ⟨node, t, edge, hu, ht, hedge, hf, htarget⟩
    exact ⟨t, ⟨node, hu, ht⟩, edge, hedge, hf, htarget⟩
  · rintro ⟨t, ⟨node, hu, ht⟩, edge, hedge, hf, htarget⟩
    exact ⟨node, t, edge, hu, ht, hedge, hf, htarget⟩

theorem leg_withEpsilon : g.Leg Traversal.withEpsilon.follows u t v ↔ g.Edge u t v := by
  simp [Leg, Edge, Traversal.follows]

theorem Trail.snoc (h : g.Trail follows u ts v) (hleg : g.Leg follows v t w) :
    g.Trail follows u (ts ++ [t]) w := by
  induction h with
  | nil => exact .cons hleg .nil
  | cons hfirst _ ih => exact .cons hfirst (ih hleg)

theorem Trail.reaches (h : g.Trail follows u ts v) : g.Reaches follows u v := by
  induction h with
  | nil => exact .refl
  | cons hfirst _ ih => exact (Reaches.tail .refl (step_iff_leg.2 ⟨_, hfirst⟩)).trans ih

theorem reaches_iff_trail : g.Reaches follows u v ↔ ∃ ts, g.Trail follows u ts v := by
  constructor
  · intro h
    induction h with
    | refl => exact ⟨[], .nil⟩
    | tail _ hstep ih =>
      obtain ⟨ts, hts⟩ := ih
      obtain ⟨t, hleg⟩ := step_iff_leg.1 hstep
      exact ⟨ts ++ [t], hts.snoc hleg⟩
  · rintro ⟨ts, hts⟩
    exact hts.reaches

-- ---------------------------------------------------------------------------
-- Rounds
-- ---------------------------------------------------------------------------

theorem explore_of_full {seen : Marks .state} (hfull : seen.freeCount = 0) (n : Nat)
    (todo : List StateId) : g.explore follows n seen todo = seen := by
  cases n with
  | zero => rfl
  | succ n =>
    simp only [explore]
    split
    next => rfl
    next s rest hd =>
      have hcount := Marks.freeCount_mark (free_of_dropWhile hd)
      omega

/-- Once there is a round for each free place, more rounds change nothing. -/
theorem explore_of_enough {m n : Nat} {seen : Marks .state} {todo : List StateId}
    (hm : seen.freeCount ≤ m) (hn : seen.freeCount ≤ n) :
    g.explore follows m seen todo = g.explore follows n seen todo := by
  induction m generalizing n seen todo with
  | zero =>
    have hfull : seen.freeCount = 0 := Nat.le_zero.1 hm
    rw [explore_of_full hfull, explore_of_full hfull]
  | succ m ih =>
    cases n with
    | zero =>
      have hfull : seen.freeCount = 0 := Nat.le_zero.1 hn
      rw [explore_of_full hfull, explore_of_full hfull]
    | succ n =>
      simp only [explore]
      split
      next => rfl
      next s rest hd =>
        have hcount := Marks.freeCount_mark (free_of_dropWhile hd)
        exact ih (by omega) (by omega)

theorem visited_of_enough {rounds : Nat} (h : g.states.size ≤ rounds) (seeds : List StateId) :
    (g.explore follows rounds (.none g.states.size) seeds).toSet = g.visited follows seeds := by
  have hfree : (Marks.none g.states.size : Marks .state).freeCount ≤ g.states.size := by
    simpa using Marks.freeCount_le_size (.none g.states.size : Marks .state)
  rw [visited, explore_of_enough (Nat.le_trans hfree h) hfree]

-- ---------------------------------------------------------------------------
-- Walks from one state
-- ---------------------------------------------------------------------------

variable {traversal : Traversal}

theorem mem_reachableStates_iff_trail :
    v ∈ g.reachableStates s traversal ↔
      g.hasState s = true ∧ ∃ ts, g.Trail traversal.follows s ts v := by
  rw [mem_reachableStates, reaches_iff_trail]

theorem mem_reachableTransitions_iff_leg :
    t ∈ g.reachableTransitions s traversal ↔
      ∃ u ∈ g.reachableStates s traversal, ∃ v, g.Leg traversal.follows u t v := by
  rw [mem_reachableTransitions]
  simp only [mem_exits]
  constructor
  · rintro ⟨u, hu, edge, node, hnode, ht, hedge, hf⟩
    exact ⟨u, hu, edge.target, ⟨node, hnode, ht⟩, edge, hedge, hf, rfl⟩
  · rintro ⟨u, hu, v, ⟨node, hnode, ht⟩, edge, hedge, hf, -⟩
    exact ⟨u, hu, edge, node, hnode, ht, hedge, hf⟩

/-- A walk comes to an end in any graph. From a state that does not exist it finds nothing,
and from one that does it finds the states that trails lead to and the transitions by which
it can leave those. The loop over a stack finds the same. -/
theorem walks_are_exact (g : Graph σ α) (s : StateId) (traversal : Traversal) :
    (∀ rounds seeds, g.states.size ≤ rounds →
      (g.explore traversal.follows rounds (.none g.states.size) seeds).toSet =
        g.visited traversal.follows seeds) ∧
    (g.hasState s = false →
      g.reachableStates s traversal = ∅ ∧ g.reachableTransitions s traversal = ∅) ∧
    (g.hasState s = true →
      (∀ v, v ∈ g.reachableStates s traversal ↔ ∃ ts, g.Trail traversal.follows s ts v) ∧
      ∀ t, t ∈ g.reachableTransitions s traversal ↔
        ∃ ts u v, g.Trail traversal.follows s ts u ∧ g.Leg traversal.follows u t v) ∧
    g.walk s traversal = (g.reachableStates s traversal, g.reachableTransitions s traversal) := by
  refine ⟨fun rounds seeds h => visited_of_enough h seeds, fun hs => ?_,
    fun hs => ⟨fun v => ?_, fun t => ?_⟩, g.walk_eq s traversal⟩
  · have hstates : g.reachableStates s traversal = ∅ :=
      HandleSet.ext_mem fun v => by simp [mem_reachableStates, hs]
    refine ⟨hstates, HandleSet.ext_mem fun t => ?_⟩
    simp [mem_reachableTransitions, hstates]
  · simp [mem_reachableStates_iff_trail, hs]
  · rw [mem_reachableTransitions_iff_leg]
    constructor
    · rintro ⟨u, hu, v, hleg⟩
      obtain ⟨-, ts, hts⟩ := mem_reachableStates_iff_trail.1 hu
      exact ⟨ts, u, v, hts, hleg⟩
    · rintro ⟨ts, u, v, hts, hleg⟩
      exact ⟨u, mem_reachableStates_iff_trail.2 ⟨hs, ts, hts⟩, v, hleg⟩

/-- Two states lead to each other, and one of them to itself. A transition is held that does
not exist, another leads to a state that does not. -/
def looseGraph : Graph String Nat where
  states := #[
    { data := "idle", isTerminal := false, outgoing := .ofList [⟨0⟩, ⟨1⟩, ⟨9⟩] },
    { data := "busy", isTerminal := false, outgoing := .ofList [⟨2⟩, ⟨3⟩] },
    { data := "done", isTerminal := true, outgoing := .ofList [⟨4⟩] }]
  transitions := #[
    { id := ⟨0⟩, target := ⟨1⟩, kind := .input }, { id := ⟨1⟩, target := ⟨0⟩, kind := .epsilon },
    { id := ⟨2⟩, target := ⟨0⟩, kind := .input }, { id := ⟨3⟩, target := ⟨7⟩, kind := .epsilon },
    { id := ⟨4⟩, target := ⟨0⟩, kind := .input }]

theorem walks_are_exact_in_loose_graph :
    looseGraph.hasState ⟨0⟩ = true ∧
      (∃ ts, looseGraph.Trail Traversal.withEpsilon.follows ⟨0⟩ ts ⟨7⟩) ∧
      (¬ ∃ ts, looseGraph.Trail Traversal.inputOnly.follows ⟨0⟩ ts ⟨7⟩) ∧
      looseGraph.hasState ⟨7⟩ = false ∧ looseGraph.reachableStates ⟨7⟩ .withEpsilon = ∅ := by
  have hidle : looseGraph.hasState ⟨0⟩ = true := by decide
  have hnone : looseGraph.hasState ⟨7⟩ = false := by decide
  obtain ⟨-, -, hall, -⟩ := walks_are_exact looseGraph ⟨0⟩ .withEpsilon
  obtain ⟨-, -, hinput, -⟩ := walks_are_exact looseGraph ⟨0⟩ .inputOnly
  obtain ⟨-, hempty, -⟩ := walks_are_exact looseGraph ⟨7⟩ .withEpsilon
  refine ⟨hidle, ((hall hidle).1 ⟨7⟩).1 (by decide), fun h => ?_, hnone, (hempty hnone).1⟩
  exact absurd (((hinput hidle).1 ⟨7⟩).2 h) (by decide)

-- ---------------------------------------------------------------------------
-- The closure of some seeds
-- ---------------------------------------------------------------------------

variable {seeds others : List StateId} {K : Set StateId}

/-- The set holds the seeds that exist, and with a state that exists all that epsilon
transitions lead to from it. -/
structure EpsilonClosed (g : Graph σ α) (seeds : List StateId) (K : Set StateId) : Prop where
  seeds : ∀ s ∈ seeds, g.hasState s = true → s ∈ K
  targets : ∀ u ∈ K, ∀ t v, g.Leg TransitionNode.isEpsilon u t v → v ∈ K

theorem mem_epsilonClosure :
    v ∈ g.epsilonClosure seeds ↔
      ∃ s ∈ seeds, g.hasState s = true ∧ g.Reaches TransitionNode.isEpsilon s v := by
  simp [epsilonClosure, mem_closure, and_assoc]

theorem EpsilonClosed.mem_of_reaches (hK : g.EpsilonClosed seeds K) (hu : u ∈ K)
    (h : g.Reaches TransitionNode.isEpsilon u v) : v ∈ K := by
  induction h with
  | refl => exact hu
  | tail _ hstep ih =>
    obtain ⟨t, hleg⟩ := step_iff_leg.1 hstep
    exact hK.targets _ ih t _ hleg

theorem epsilonClosed_epsilonClosure (g : Graph σ α) (seeds : List StateId) :
    g.EpsilonClosed seeds {v | v ∈ g.epsilonClosure seeds} where
  seeds s hs hex := mem_epsilonClosure.2 ⟨s, hs, hex, .refl⟩
  targets u hu t v hleg := closed_closure _ u hu v (step_iff_leg.2 ⟨t, hleg⟩)

theorem isLeast_epsilonClosure (g : Graph σ α) (seeds : List StateId) :
    IsLeast {K | g.EpsilonClosed seeds K} {v | v ∈ g.epsilonClosure seeds} := by
  refine ⟨g.epsilonClosed_epsilonClosure seeds, ?_⟩
  intro K hK v hv
  obtain ⟨s, hs, hex, hsv⟩ := mem_epsilonClosure.1 hv
  exact EpsilonClosed.mem_of_reaches hK (hK.seeds s hs hex) hsv

theorem epsilonClosure_congr (h : ∀ s, g.hasState s = true → (s ∈ seeds ↔ s ∈ others)) :
    g.epsilonClosure seeds = g.epsilonClosure others := by
  refine HandleSet.ext_mem fun v => ?_
  rw [mem_epsilonClosure, mem_epsilonClosure]
  constructor
  · rintro ⟨s, hs, hex, hsv⟩
    exact ⟨s, (h s hex).1 hs, hex, hsv⟩
  · rintro ⟨s, hs, hex, hsv⟩
    exact ⟨s, (h s hex).2 hs, hex, hsv⟩

theorem epsilonClosure_append (g : Graph σ α) (seeds others : List StateId) :
    g.epsilonClosure (seeds ++ others) = g.epsilonClosure seeds ∪ g.epsilonClosure others := by
  refine HandleSet.ext_mem fun v => ?_
  simp only [HandleSet.mem_union, mem_epsilonClosure, List.mem_append, or_and_right, exists_or]

/-- A state of the closure that does not exist is no seed any more, but what leads to it is. -/
theorem epsilonClosure_idem (g : Graph σ α) (seeds : List StateId) :
    g.epsilonClosure (g.epsilonClosure seeds).toList = g.epsilonClosure seeds := by
  refine HandleSet.ext_mem fun v => ?_
  constructor
  · intro hv
    obtain ⟨u, hu, -, huv⟩ := mem_epsilonClosure.1 hv
    exact mem_of_reaches (closed_closure _) (HandleSet.mem_def.2 hu) huv
  · intro hv
    obtain ⟨s, hs, hex, hsv⟩ := mem_epsilonClosure.1 hv
    have hmem : s ∈ g.epsilonClosure seeds := mem_epsilonClosure.2 ⟨s, hs, hex, .refl⟩
    exact mem_epsilonClosure.2 ⟨s, HandleSet.mem_def.1 hmem, hex, hsv⟩

theorem Reaches.mono {more : TransitionNode α → Bool}
    (hmore : ∀ edge, follows edge = true → more edge = true) (h : g.Reaches follows u v) :
    g.Reaches more u v := by
  induction h with
  | refl => exact .refl
  | tail _ hstep ih =>
    obtain ⟨node, t, edge, hu, ht, hedge, hf, htarget⟩ := hstep
    exact ih.tail ⟨node, t, edge, hu, ht, hedge, hmore edge hf, htarget⟩

theorem reachable_of_mem_epsilonClosure (h : v ∈ g.epsilonClosure seeds) :
    ∃ s ∈ seeds, g.hasState s = true ∧ v ∈ g.reachableStates s .withEpsilon := by
  obtain ⟨s, hs, hex, hsv⟩ := mem_epsilonClosure.1 h
  exact ⟨s, hs, hex, mem_reachableStates.2 ⟨hex, hsv.mono fun _ _ => rfl⟩⟩

/-- The closure of some seeds is the least closed set, in any graph. So it depends only on
which seeds there are, to close it again adds nothing, seeds can be closed apart from each
other, and what is in it can be reached from a seed. The loop over a stack finds the same. -/
theorem epsilonClosure_is_least (g : Graph σ α) (seeds : List StateId) :
    (∀ rounds starts, g.states.size ≤ rounds →
      (g.explore TransitionNode.isEpsilon rounds (.none g.states.size) starts).toSet =
        g.visited TransitionNode.isEpsilon starts) ∧
    IsLeast {K | g.EpsilonClosed seeds K} {v | v ∈ g.epsilonClosure seeds} ∧
    (∀ others, (∀ s, s ∈ others ↔ s ∈ seeds) → g.epsilonClosure others = g.epsilonClosure seeds) ∧
    g.epsilonClosure (g.epsilonClosure seeds).toList = g.epsilonClosure seeds ∧
    (∀ others, g.epsilonClosure (seeds ++ others) =
      g.epsilonClosure seeds ∪ g.epsilonClosure others) ∧
    (∀ v ∈ g.epsilonClosure seeds,
      ∃ s ∈ seeds, g.hasState s = true ∧ v ∈ g.reachableStates s .withEpsilon) ∧
    g.settle seeds = g.epsilonClosure seeds :=
  ⟨fun _ starts h => visited_of_enough h starts, g.isLeast_epsilonClosure seeds,
    fun _ h => epsilonClosure_congr fun s _ => h s, g.epsilonClosure_idem seeds,
    g.epsilonClosure_append seeds, fun _ => reachable_of_mem_epsilonClosure, g.settle_eq seeds⟩

/-- The last seed does not exist. What the second one leads to does not exist either, but it
is in the closure, and it stays there when the closure is taken again. -/
example :
    looseGraph.epsilonClosure [⟨1⟩, ⟨0⟩, ⟨1⟩, ⟨5⟩] = .ofList [⟨0⟩, ⟨1⟩, ⟨7⟩] ∧
      looseGraph.epsilonClosure [⟨7⟩, ⟨1⟩, ⟨0⟩] = .ofList [⟨0⟩, ⟨1⟩, ⟨7⟩] := by
  decide

end Graph

end EventAutomata
