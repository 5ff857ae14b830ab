import EventAutomata.Graph
import EventAutomata.Handle.Marks

/-!
# Reachability

Which states and transitions can be reached from a state. A walk follows the
transitions that a state holds, those that exist and are of a kind that the walk
follows; a state that does not exist can be reached but leads nowhere.

`explore` marks the states that exist, one at a time, together with a list of
states that are still to be looked at. Each round marks a state, so there need not
be more rounds than states. `closure` adds what the marked states lead to without
its existing. `Reaches` says the same as a relation, by paths.
-/

namespace EventAutomata

inductive Traversal
  | withEpsilon
  | inputOnly
  deriving DecidableEq, Repr, Inhabited

variable {σ α : Type}

def Traversal.follows : Traversal → TransitionNode α → Bool
  | .withEpsilon, _ => true
  | .inputOnly, edge => edge.kind == .input

namespace Graph

def exits (g : Graph σ α) (follows : TransitionNode α → Bool) (s : StateId) :
    List (TransitionId × TransitionNode α) :=
  match g.state? s with
  | none => []
  | some node =>
    node.outgoing.toList.filterMap fun t =>
      match g.transition? t with
      | some edge => if follows edge then some (t, edge) else none
      | none => none

def targets (g : Graph σ α) (follows : TransitionNode α → Bool) (s : StateId) : List StateId :=
  (g.exits follows s).map fun e => e.2.target

/-- Marks what can be reached from the states to be looked at, in at most `rounds`
rounds. -/
def explore (g : Graph σ α) (follows : TransitionNode α → Bool) :
    Nat → Marks .state → List StateId → Marks .state
  | 0, seen, _ => seen
  | rounds + 1, seen, todo =>
    match todo.dropWhile fun s => !seen.free s with
    | [] => seen
    | s :: rest => g.explore follows rounds (seen.mark s) (g.targets follows s ++ rest)

def visited (g : Graph σ α) (follows : TransitionNode α → Bool) (seeds : List StateId) :
    HandleSet .state :=
  (g.explore follows g.states.size (.none g.states.size) seeds).toSet

def closure (g : Graph σ α) (follows : TransitionNode α → Bool) (seeds : HandleSet .state) :
    HandleSet .state :=
  let inside := g.visited follows seeds.toList
  inside.insertAll
    ((seeds.toList ++ inside.toList.flatMap (g.targets follows)).filter fun s => !g.hasState s)

def reachableStates (g : Graph σ α) (s : StateId) (traversal : Traversal) : HandleSet .state :=
  if g.hasState s then g.closure traversal.follows (.ofList [s]) else ∅

def reachableTransitions (g : Graph σ α) (s : StateId) (traversal : Traversal) :
    HandleSet .transition :=
  ((Marks.none g.transitions.size).markAll <|
    (g.reachableStates s traversal).toList.flatMap fun u =>
      (g.exits traversal.follows u).map Prod.fst).toSet

/-- The states that epsilon transitions alone lead to from the seeds. A seed that
does not exist is dropped. -/
def epsilonClosure (g : Graph σ α) (seeds : List StateId) : HandleSet .state :=
  g.closure TransitionNode.isEpsilon (.ofList (seeds.filter g.hasState))

-- ---------------------------------------------------------------------------
-- Paths
-- ---------------------------------------------------------------------------

def Step (g : Graph σ α) (follows : TransitionNode α → Bool) (u v : StateId) : Prop :=
  ∃ node t edge, g.state? u = some node ∧ t ∈ node.outgoing ∧ g.transition? t = some edge ∧
    follows edge = true ∧ edge.target = v

inductive Reaches (g : Graph σ α) (follows : TransitionNode α → Bool) (u : StateId) :
    StateId → Prop
  | refl : Reaches g follows u u
  | tail {v w : StateId} : Reaches g follows u v → g.Step follows v w → Reaches g follows u w

variable {g : Graph σ α} {follows : TransitionNode α → Bool}

theorem Reaches.trans {u v w : StateId} (huv : g.Reaches follows u v)
    (hvw : g.Reaches follows v w) : g.Reaches follows u w := by
  induction hvw with
  | refl => exact huv
  | tail _ hstep ih => exact .tail ih hstep

theorem mem_exits {s : StateId} {e : TransitionId × TransitionNode α} :
    e ∈ g.exits follows s ↔
      ∃ node, g.state? s = some node ∧ e.1 ∈ node.outgoing ∧ g.transition? e.1 = some e.2 ∧
        follows e.2 = true := by
  unfold exits
  cases hs : g.state? s with
  | none => simp
  | some node =>
    simp only [List.mem_filterMap, Option.some.injEq, exists_eq_left', HandleSet.mem_def]
    constructor
    · rintro ⟨t, ht, he⟩
      split at he
      next edge hedge =>
        split at he
        next hf =>
          simp only [Option.some.injEq] at he
          subst he
          exact ⟨ht, hedge, hf⟩
        next => cases he
      next => cases he
    · rintro ⟨ht, hedge, hf⟩
      exact ⟨e.1, ht, by simp [hedge, hf]⟩

theorem mem_targets {u v : StateId} : v ∈ g.targets follows u ↔ g.Step follows u v := by
  rw [targets, List.mem_map]
  constructor
  · rintro ⟨⟨t, edge⟩, he, rfl⟩
    obtain ⟨node, hu, ht, hedge, hf⟩ := mem_exits.1 he
    exact ⟨node, t, edge, hu, ht, hedge, hf, rfl⟩
  · rintro ⟨node, t, edge, hu, ht, hedge, hf, rfl⟩
    exact ⟨(t, edge), mem_exits.2 ⟨node, hu, ht, hedge, hf⟩, rfl⟩

theorem Step.hasState {u v : StateId} (h : g.Step follows u v) : g.hasState u = true := by
  obtain ⟨node, _, _, hu, _⟩ := h
  simp [Graph.hasState, hu]

-- ---------------------------------------------------------------------------
-- What is explored is what paths reach
-- ---------------------------------------------------------------------------

/-- What a marked state leads to is marked or still to be looked at, if it exists. -/
def Explored (g : Graph σ α) (follows : TransitionNode α → Bool) (seen : Marks .state)
    (todo : List StateId) : Prop :=
  ∀ u v, seen.marked u = true → g.Step follows u v → g.hasState v = true →
    seen.marked v = true ∨ v ∈ todo

theorem free_of_dropWhile {seen : Marks .state} {todo rest : List StateId} {s : StateId}
    (hd : todo.dropWhile (fun s => !seen.free s) = s :: rest) : seen.free s = true := by
  have hhead := List.head?_dropWhile_not (fun s => !seen.free s) todo
  rw [hd] at hhead
  simpa using hhead

/-- The states in front of the first free one are marked, if they exist. -/
theorem marked_of_mem_takeWhile {seen : Marks .state} {todo : List StateId} {v : StateId}
    (hsize : seen.size = g.states.size) (hv : v ∈ todo.takeWhile fun s => !seen.free s)
    (hex : g.hasState v = true) : seen.marked v = true := by
  have hfree := List.all_eq_true.1 List.all_takeWhile v hv
  exact Marks.marked_of_not_free (hsize ▸ (hasState_iff g v).1 hex) (by simpa using hfree)

theorem explore_complete {n : Nat} {seen : Marks .state} {todo : List StateId}
    (hsize : seen.size = g.states.size) (hn : seen.freeCount ≤ n)
    (h : g.Explored follows seen todo) :
    let final := g.explore follows n seen todo
    (∀ v, seen.marked v = true ∨ v ∈ todo → g.hasState v = true → final.marked v = true) ∧
      g.Explored follows final [] := by
  -- On the rounds: each marks a free state, and `Explored` goes on to hold.
  induction n generalizing seen todo with
  | zero =>
    have hall : ∀ v, g.hasState v = true → seen.marked v = true := fun v hex =>
      Marks.marked_of_freeCount_eq_zero (Nat.le_zero.1 hn) (hsize ▸ (hasState_iff g v).1 hex)
    exact ⟨fun v _ hex => hall v hex, fun u v _ _ hex => .inl (hall v hex)⟩
  | succ n ih =>
    simp only [explore]
    have hsplit := List.takeWhile_append_dropWhile (p := fun s => !seen.free s) (l := todo)
    cases hd : todo.dropWhile (fun s => !seen.free s) with
    | nil =>
      rw [hd, List.append_nil] at hsplit
      have hmarked : ∀ v ∈ todo, g.hasState v = true → seen.marked v = true := fun v hv hex =>
        marked_of_mem_takeWhile hsize (hsplit.symm ▸ hv) hex
      exact ⟨fun v hv hex => hv.elim id fun hv => hmarked v hv hex,
        fun u v hu hstep hex => .inl ((h u v hu hstep hex).elim id fun hv => hmarked v hv hex)⟩
    | cons s rest =>
      have hfree : seen.free s = true := free_of_dropWhile hd
      have hcases : ∀ v, seen.marked v = true ∨ v ∈ todo → g.hasState v = true →
          (seen.mark s).marked v = true ∨ v ∈ g.targets follows s ++ rest := by
        intro v hv hex
        rcases hv with hv | hv
        · exact .inl (Marks.marked_mark.2 (.inr hv))
        · rw [← hsplit, hd, List.mem_append, List.mem_cons] at hv
          rcases hv with hv | rfl | hv
          · exact .inl (Marks.marked_mark.2 (.inr (marked_of_mem_takeWhile hsize hv hex)))
          · exact .inl (Marks.marked_mark.2 (.inl ⟨rfl, hsize ▸ (hasState_iff g v).1 hex⟩))
          · exact .inr (List.mem_append_right _ hv)
      have hnext : g.Explored follows (seen.mark s) (g.targets follows s ++ rest) := by
        intro u v hu hstep hex
        rcases Marks.marked_mark.1 hu with ⟨rfl, _⟩ | hu
        · exact .inr (List.mem_append_left _ (mem_targets.2 hstep))
        · exact hcases v (h u v hu hstep hex) hex
      have hcount := Marks.freeCount_mark hfree
      obtain ⟨hfinal, hexplored⟩ := ih (by simpa using hsize) (by omega) hnext
      exact ⟨fun v hv hex => hfinal v (hcases v hv hex) hex, hexplored⟩

theorem reaches_of_marked_explore {n : Nat} {seen : Marks .state} {todo : List StateId}
    {v : StateId} (hv : (g.explore follows n seen todo).marked v = true) :
    seen.marked v = true ∨ ∃ u ∈ todo, g.Reaches follows u v := by
  induction n generalizing seen todo with
  | zero => exact .inl hv
  | succ n ih =>
    simp only [explore] at hv
    split at hv
    next => exact .inl hv
    next s rest hd =>
      have hsub : ∀ u ∈ s :: rest, u ∈ todo := fun u hu =>
        (List.dropWhile_sublist fun s => !seen.free s).subset (hd ▸ hu)
      rcases ih hv with hv | ⟨u, hu, huv⟩
      · rcases Marks.marked_mark.1 hv with ⟨rfl, _⟩ | hv
        · exact .inr ⟨v, hsub v List.mem_cons_self, .refl⟩
        · exact .inl hv
      · rcases List.mem_append.1 hu with hu | hu
        · exact .inr ⟨s, hsub s List.mem_cons_self,
            (Reaches.tail .refl (mem_targets.1 hu)).trans huv⟩
        · exact .inr ⟨u, hsub u (List.mem_cons_of_mem _ hu), huv⟩

theorem size_explore (n : Nat) (seen : Marks .state) (todo : List StateId) :
    (g.explore follows n seen todo).size = seen.size := by
  induction n generalizing seen todo with
  | zero => rfl
  | succ n ih =>
    simp only [explore]
    split
    · rfl
    · rw [ih, Marks.size_mark]

theorem mem_visited {seeds : List StateId} {v : StateId} :
    v ∈ g.visited follows seeds ↔ g.hasState v = true ∧ ∃ u ∈ seeds, g.Reaches follows u v := by
  rw [visited, Marks.mem_toSet]
  obtain ⟨hfinal, hexplored⟩ :=
    @explore_complete σ α g follows g.states.size (.none g.states.size) seeds (by simp)
      (Nat.le_trans (Marks.freeCount_le_size _) (by simp)) (fun u v hu => by simp at hu)
  constructor
  · intro hv
    refine ⟨?_, (reaches_of_marked_explore hv).resolve_left (by simp)⟩
    have hlt := Marks.lt_size_of_marked hv
    rw [size_explore, Marks.size_none] at hlt
    exact (hasState_iff g v).2 hlt
  · rintro ⟨hex, u, hu, huv⟩
    induction huv with
    | refl => exact hfinal u (.inr hu) hex
    | tail _ hstep ih => exact (hexplored _ _ (ih hstep.hasState) hstep hex).resolve_right (by simp)

theorem mem_closure {seeds : HandleSet .state} {v : StateId} :
    v ∈ g.closure follows seeds ↔ ∃ u ∈ seeds, g.Reaches follows u v := by
  simp only [closure, HandleSet.mem_insertAll, List.mem_filter, List.mem_append,
    List.mem_flatMap, mem_targets, Bool.not_eq_true']
  constructor
  · rintro (⟨hv | ⟨w, hw, hstep⟩, _⟩ | hv)
    · exact ⟨v, hv, .refl⟩
    · obtain ⟨_, u, hu, huw⟩ := mem_visited.1 hw
      exact ⟨u, hu, .tail huw hstep⟩
    · exact (mem_visited.1 hv).2
  · rintro ⟨u, hu, huv⟩
    cases hex : g.hasState v with
    | true => exact .inr (mem_visited.2 ⟨hex, u, hu, huv⟩)
    | false =>
      refine .inl ⟨?_, rfl⟩
      cases huv with
      | refl => exact .inl hu
      | tail huw hstep => exact .inr ⟨_, mem_visited.2 ⟨hstep.hasState, u, hu, huw⟩, hstep⟩

def Closed (g : Graph σ α) (follows : TransitionNode α → Bool) (reached : HandleSet .state) : Prop :=
  ∀ u ∈ reached, ∀ v, g.Step follows u v → v ∈ reached

theorem closed_closure (seeds : HandleSet .state) : g.Closed follows (g.closure follows seeds) := by
  intro w hw v hstep
  obtain ⟨u, hu, huw⟩ := mem_closure.1 hw
  exact mem_closure.2 ⟨u, hu, .tail huw hstep⟩

theorem mem_of_reaches {reached : HandleSet .state} {u v : StateId}
    (hc : g.Closed follows reached) (hu : u ∈ reached) (h : g.Reaches follows u v) :
    v ∈ reached := by
  induction h with
  | refl => exact hu
  | tail _ hstep ih => exact hc _ ih _ hstep

theorem mem_reachableTransitions {s : StateId} {traversal : Traversal} {t : TransitionId} :
    t ∈ g.reachableTransitions s traversal ↔
      ∃ u ∈ g.reachableStates s traversal, ∃ edge, (t, edge) ∈ g.exits traversal.follows u := by
  rw [reachableTransitions, Marks.mem_toSet, Marks.marked_markAll, Marks.not_marked_none,
    List.mem_flatMap]
  simp only [List.mem_map, Bool.false_eq_true, or_false, HandleSet.mem_def]
  constructor
  · rintro ⟨⟨u, hu, ⟨_, edge⟩, he, rfl⟩, _⟩
    exact ⟨u, hu, edge, he⟩
  · rintro ⟨u, hu, edge, he⟩
    obtain ⟨_, _, _, hedge, _⟩ := mem_exits.1 he
    exact ⟨⟨u, hu, _, he, rfl⟩, by simpa using (Array.getElem?_eq_some_iff.1 hedge).1⟩

end Graph

end EventAutomata
