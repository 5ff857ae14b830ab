import EventAutomata.Graph.Reachability

/-!
# Work lists

Two loops over a stack of states that are still to be looked at: `walk` collects the states
and the transitions on its way, `settle` the states alone. A state is marked as visited when
it is put on the stack, so it is put there once. A target that does not exist is put there
too, and leads nowhere.

A state is only put on the stack where a transition had a target that was not visited yet,
so each pop leaves fewer of these or a shorter stack (`cost`), and the loops come to an end.
`walk_eq` and `settle_eq`: what they collect is what `reachableStates`,
`reachableTransitions` and `epsilonClosure` hold.
-/

namespace EventAutomata

variable {σ α : Type}

/-- The states that have been visited, and those of them that are still to be looked at, the
next one in front. -/
structure Worklist where
  visited : HandleSet .state
  stack : List StateId

structure Search extends Worklist where
  found : HandleSet .transition

def Worklist.enter (w : Worklist) (s : StateId) : Worklist :=
  if s ∈ w.visited then w else ⟨w.visited.insert s, s :: w.stack⟩

def Search.take (x : Search) (t : TransitionId) (target : StateId) : Search :=
  { toWorklist := x.toWorklist.enter target, found := x.found.insert t }

namespace Graph

def look (g : Graph σ α) (follows : TransitionNode α → Bool) (x : Search) (t : TransitionId) :
    Search :=
  match g.transition? t with
  | none => x
  | some edge => if follows edge then x.take t edge.target else x

def search (g : Graph σ α) (follows : TransitionNode α → Bool) : Nat → Search → Search
  | 0, x => x
  | pops + 1, x =>
    match x.stack with
    | [] => x
    | s :: rest =>
      match g.state? s with
      | none => g.search follows pops { x with stack := rest }
      | some node =>
        g.search follows pops
          (node.outgoing.toList.foldl (g.look follows) { x with stack := rest })

/-- The states that a walk from a state visits, and the transitions that it finds. -/
def walk (g : Graph σ α) (start : StateId) (traversal : Traversal) :
    HandleSet .state × HandleSet .transition :=
  if g.hasState start then
    let x := g.search traversal.follows (g.transitions.size + 1)
      ⟨⟨HandleSet.empty.insert start, [start]⟩, ∅⟩
    (x.visited, x.found)
  else (∅, ∅)

def settleLoop (g : Graph σ α) (follows : TransitionNode α → Bool) : Nat → Worklist → Worklist
  | 0, w => w
  | pops + 1, w =>
    match w.stack with
    | [] => w
    | s :: rest =>
      match g.state? s with
      | none => g.settleLoop follows pops { w with stack := rest }
      | some node =>
        let targets :=
          ((node.outgoing.toList.filterMap g.transition?).filter follows).map (·.target)
        g.settleLoop follows pops (targets.foldl Worklist.enter { w with stack := rest })

/-- The seeds that exist, with all that epsilon transitions lead to from them. The greatest
seed is looked at first. -/
def settle (g : Graph σ α) (seeds : List StateId) : HandleSet .state :=
  let inside : HandleSet .state := .ofList (seeds.filter g.hasState)
  (g.settleLoop TransitionNode.isEpsilon (inside.size + g.transitions.size)
    ⟨inside, inside.toList.reverse⟩).visited

end Graph

-- ---------------------------------------------------------------------------
-- Putting states on the stack
-- ---------------------------------------------------------------------------

namespace Worklist

variable {w : Worklist} {s v : StateId} {targets : List StateId}

theorem mem_visited_enter : v ∈ (w.enter s).visited ↔ v = s ∨ v ∈ w.visited := by
  unfold enter
  split
  next hs =>
    constructor
    · intro hv
      exact .inr hv
    · rintro (rfl | hv)
      · exact hs
      · exact hv
  next => simp

theorem mem_stack_enter :
    v ∈ (w.enter s).stack ↔ v ∈ w.stack ∨ v = s ∧ ¬ s ∈ w.visited := by
  unfold enter
  split
  next hs => simp [hs]
  next hs => simp [hs, or_comm]

theorem mem_visited_foldl_enter :
    v ∈ (targets.foldl enter w).visited ↔ v ∈ targets ∨ v ∈ w.visited := by
  induction targets generalizing w with
  | nil => simp
  | cons s rest ih =>
    rw [List.foldl_cons, ih, mem_visited_enter, List.mem_cons, or_left_comm, or_assoc]

theorem mem_stack_foldl_enter :
    v ∈ (targets.foldl enter w).stack ↔ v ∈ w.stack ∨ v ∈ targets ∧ ¬ v ∈ w.visited := by
  induction targets generalizing w with
  | nil => simp
  | cons s rest ih =>
    rw [List.foldl_cons, ih, mem_stack_enter, mem_visited_enter, List.mem_cons]
    grind

end Worklist

namespace Graph

variable {g : Graph σ α} {follows : TransitionNode α → Bool} {seeds : HandleSet .state}
  {s : StateId} {x : Search} {w : Worklist}

/-- The states on the stack, and the transitions to states that have not been visited. -/
def cost (g : Graph σ α) (w : Worklist) : Nat :=
  w.stack.length + g.transitions.toList.countP fun edge => !decide (edge.target ∈ w.visited)

/-- Where a target is visited for the first time, its transition pays for the stack. -/
theorem cost_enter {edge : TransitionNode α} (hedge : edge ∈ g.transitions.toList) :
    g.cost (w.enter edge.target) ≤ g.cost w := by
  unfold Worklist.enter
  split
  next => exact Nat.le_refl _
  next hs =>
    obtain ⟨before, after, hsplit⟩ := List.append_of_mem hedge
    have hfewer : ∀ edges : List (TransitionNode α),
        edges.countP (fun e => !decide (e.target ∈ w.visited.insert edge.target)) ≤
          edges.countP fun e => !decide (e.target ∈ w.visited) := by
      intro edges
      apply List.countP_mono_left
      intro e _ he
      simp only [HandleSet.mem_insert, not_or, Bool.not_eq_true', decide_eq_false_iff_not] at he ⊢
      exact he.2
    have hbefore := hfewer before
    have hafter := hfewer after
    simp only [cost, hsplit, List.countP_append, List.length_cons]
    rw [List.countP_cons_of_neg (by simp), List.countP_cons_of_pos (by simpa using hs)]
    omega

theorem cost_foldl_enter {edges : List (TransitionNode α)}
    (hedges : ∀ edge ∈ edges, edge ∈ g.transitions.toList) :
    g.cost ((edges.map (·.target)).foldl Worklist.enter w) ≤ g.cost w := by
  induction edges generalizing w with
  | nil => exact Nat.le_refl _
  | cons edge rest ih =>
    obtain ⟨hedge, hrest⟩ := List.forall_mem_cons.1 hedges
    exact Nat.le_trans (ih hrest) (cost_enter hedge)

-- ---------------------------------------------------------------------------
-- Looking at a state
-- ---------------------------------------------------------------------------

def expand (g : Graph σ α) (follows : TransitionNode α → Bool) (s : StateId) (x : Search) :
    Search :=
  (g.exits follows s).foldl (fun x e => x.take e.1 e.2.target) x

theorem foldl_look {node : StateNode σ α} (hs : g.state? s = some node) :
    node.outgoing.toList.foldl (g.look follows) x = g.expand follows s x := by
  simp only [expand, exits, hs, List.foldl_filterMap]
  congr 1
  funext x t
  unfold look
  cases g.transition? t with
  | none => rfl
  | some edge => cases hf : follows edge <;> simp [hf]

theorem search_cons (pops : Nat) {rest : List StateId} (hx : x.stack = s :: rest) :
    g.search follows (pops + 1) x =
      g.search follows pops (g.expand follows s { x with stack := rest }) := by
  rw [search, hx]
  cases hs : g.state? s with
  | none => simp [expand, exits, hs]
  | some node => simp only [hs, foldl_look hs]

theorem targets_of_state? {node : StateNode σ α} (hs : g.state? s = some node) :
    ((node.outgoing.toList.filterMap g.transition?).filter follows).map (·.target) =
      g.targets follows s := by
  simp only [targets, exits, hs]
  induction node.outgoing.toList with
  | nil => rfl
  | cons t rest ih =>
    cases ht : g.transition? t with
    | none => simpa [ht] using ih
    | some edge => cases hf : follows edge <;> simpa [ht, hf] using ih

theorem settleLoop_cons (pops : Nat) {rest : List StateId} (hw : w.stack = s :: rest) :
    g.settleLoop follows (pops + 1) w =
      g.settleLoop follows pops
        ((g.targets follows s).foldl Worklist.enter { w with stack := rest }) := by
  rw [settleLoop, hw]
  cases hs : g.state? s with
  | none => simp [targets, exits, hs]
  | some node => simp only [hs, targets_of_state? hs]

theorem toWorklist_expand :
    (g.expand follows s x).toWorklist =
      (g.targets follows s).foldl Worklist.enter x.toWorklist := by
  unfold expand targets
  generalize g.exits follows s = es
  induction es generalizing x with
  | nil => rfl
  | cons e rest ih => exact ih

theorem mem_found_expand {t : TransitionId} :
    t ∈ (g.expand follows s x).found ↔
      (∃ edge, (t, edge) ∈ g.exits follows s) ∨ t ∈ x.found := by
  unfold expand
  generalize g.exits follows s = es
  induction es generalizing x with
  | nil => simp
  | cons e rest ih =>
    rw [List.foldl_cons, ih]
    simp only [Search.take, HandleSet.mem_insert, List.mem_cons, exists_or, or_assoc]
    grind

theorem mem_visited_expand {v : StateId} :
    v ∈ (g.expand follows s x).visited ↔ g.Step follows s v ∨ v ∈ x.visited := by
  rw [toWorklist_expand, Worklist.mem_visited_foldl_enter, mem_targets]

theorem mem_stack_expand {v : StateId} :
    v ∈ (g.expand follows s x).stack ↔
      v ∈ x.stack ∨ g.Step follows s v ∧ ¬ v ∈ x.visited := by
  rw [toWorklist_expand, Worklist.mem_stack_foldl_enter, mem_targets]

theorem cost_expand : g.cost (g.expand follows s x).toWorklist ≤ g.cost x.toWorklist := by
  rw [toWorklist_expand, targets]
  have hmap : (g.exits follows s).map (fun e => e.2.target) =
      ((g.exits follows s).map Prod.snd).map (·.target) := by
    rw [List.map_map]
    rfl
  rw [hmap]
  apply cost_foldl_enter
  intro edge hedge
  obtain ⟨⟨t, edge⟩, he, rfl⟩ := List.mem_map.1 hedge
  obtain ⟨-, -, -, ht, -⟩ := mem_exits.1 he
  obtain ⟨hlt, hget⟩ := Array.getElem?_eq_some_iff.1 ht
  exact Array.mem_toList_iff.2 (Array.mem_of_getElem hget)

-- ---------------------------------------------------------------------------
-- Looking at all states
-- ---------------------------------------------------------------------------

/-- How far a search from the seeds has got: what was visited can be reached, and what was
visited and is no longer on the stack has been left by each of its transitions. -/
structure Underway (g : Graph σ α) (follows : TransitionNode α → Bool)
    (seeds : HandleSet .state) (x : Search) : Prop where
  begun : ∀ s ∈ seeds, s ∈ x.visited
  reached : ∀ v ∈ x.visited, ∃ u ∈ seeds, g.Reaches follows u v
  pending : ∀ v ∈ x.stack, v ∈ x.visited
  left : ∀ u ∈ x.visited, u ∈ x.stack ∨
    (∀ v, g.Step follows u v → v ∈ x.visited) ∧
      ∀ t edge, (t, edge) ∈ g.exits follows u → t ∈ x.found
  found : ∀ t ∈ x.found, ∃ u ∈ x.visited, ∃ edge, (t, edge) ∈ g.exits follows u

theorem underway_start {stack : List StateId} (h : ∀ s, s ∈ stack ↔ s ∈ seeds) :
    g.Underway follows seeds ⟨⟨seeds, stack⟩, ∅⟩ where
  begun _ hs := hs
  reached v hv := ⟨v, hv, .refl⟩
  pending v hv := (h v).1 hv
  left u hu := .inl ((h u).2 hu)
  found t ht := absurd ht (HandleSet.not_mem_empty t)

theorem Underway.expand {rest : List StateId} (hx : g.Underway follows seeds x)
    (hstack : x.stack = s :: rest) :
    g.Underway follows seeds (g.expand follows s { x with stack := rest }) where
  begun v hv := mem_visited_expand.2 (.inr (hx.begun v hv))
  reached v hv := by
    rcases mem_visited_expand.1 hv with hstep | hv
    · obtain ⟨u, hu, hreach⟩ := hx.reached s (hx.pending s (by simp [hstack]))
      exact ⟨u, hu, hreach.tail hstep⟩
    · exact hx.reached v hv
  pending v hv := by
    rcases mem_stack_expand.1 hv with hv | ⟨hstep, -⟩
    · exact mem_visited_expand.2 (.inr (hx.pending v (hstack ▸ List.mem_cons_of_mem s hv)))
    · exact mem_visited_expand.2 (.inl hstep)
  left u hu := by
    -- Only the state that was popped has come off the stack.
    by_cases hs : u = s
    · subst hs
      right
      constructor
      · intro v hstep
        exact mem_visited_expand.2 (.inl hstep)
      · intro t edge he
        exact mem_found_expand.2 (.inl ⟨edge, he⟩)
    · by_cases hold : u ∈ x.visited
      · rcases hx.left u hold with hu | ⟨hsteps, hexits⟩
        · rw [hstack, List.mem_cons] at hu
          exact .inl (mem_stack_expand.2 (.inl (hu.resolve_left hs)))
        · right
          constructor
          · intro v hstep
            exact mem_visited_expand.2 (.inr (hsteps v hstep))
          · intro t edge he
            exact mem_found_expand.2 (.inr (hexits t edge he))
      · have hstep := (mem_visited_expand.1 hu).resolve_right hold
        exact .inl (mem_stack_expand.2 (.inr ⟨hstep, hold⟩))
  found t ht := by
    rcases mem_found_expand.1 ht with ⟨edge, he⟩ | ht
    · exact ⟨s, mem_visited_expand.2 (.inr (hx.pending s (by simp [hstack]))), edge, he⟩
    · obtain ⟨u, hu, edge, he⟩ := hx.found t ht
      exact ⟨u, mem_visited_expand.2 (.inr hu), edge, he⟩

/-- With as many pops as a search can cost, it is carried to its end. -/
theorem Underway.search {pops : Nat} (hx : g.Underway follows seeds x)
    (hcost : g.cost x.toWorklist ≤ pops) :
    g.Underway follows seeds (g.search follows pops x) ∧ (g.search follows pops x).stack = [] := by
  induction pops generalizing x with
  | zero =>
    refine ⟨hx, List.eq_nil_of_length_eq_zero ?_⟩
    unfold cost at hcost
    show x.stack.length = 0
    omega
  | succ pops ih =>
    cases hstack : x.stack with
    | nil =>
      rw [Graph.search, hstack]
      exact ⟨hx, hstack⟩
    | cons s rest =>
      rw [search_cons pops hstack]
      apply ih (hx.expand hstack)
      have hle : g.cost (g.expand follows s { x with stack := rest }).toWorklist ≤
          g.cost ⟨x.visited, rest⟩ := cost_expand
      have hpop : g.cost ⟨x.visited, rest⟩ + 1 = g.cost x.toWorklist := by
        simp only [cost, hstack, List.length_cons]
        omega
      omega

theorem Underway.visited_eq (hx : g.Underway follows seeds x) (hend : x.stack = []) :
    x.visited = g.closure follows seeds := by
  apply HandleSet.ext_mem
  intro v
  rw [mem_closure]
  constructor
  · exact hx.reached v
  · rintro ⟨u, hu, hreach⟩
    apply mem_of_reaches ?_ (hx.begun u hu) hreach
    intro u hu v hstep
    rcases hx.left u hu with hu | ⟨hsteps, -⟩
    · simp [hend] at hu
    · exact hsteps v hstep

theorem Underway.mem_found_iff (hx : g.Underway follows seeds x) (hend : x.stack = [])
    {t : TransitionId} :
    t ∈ x.found ↔ ∃ u ∈ x.visited, ∃ edge, (t, edge) ∈ g.exits follows u := by
  constructor
  · exact hx.found t
  · rintro ⟨u, hu, edge, he⟩
    rcases hx.left u hu with hu | ⟨-, hexits⟩
    · simp [hend] at hu
    · exact hexits t edge he

theorem cost_le (g : Graph σ α) (w : Worklist) : g.cost w ≤ w.stack.length + g.transitions.size :=
  Nat.add_le_add_left List.countP_le_length _

theorem walk_eq (g : Graph σ α) (s : StateId) (traversal : Traversal) :
    g.walk s traversal = (g.reachableStates s traversal, g.reachableTransitions s traversal) := by
  unfold walk
  split
  next hs =>
    have hstart : g.Underway traversal.follows (.ofList [s])
        ⟨⟨HandleSet.empty.insert s, [s]⟩, ∅⟩ :=
      underway_start (by simp)
    have hcost : g.cost ⟨HandleSet.empty.insert s, [s]⟩ ≤ g.transitions.size + 1 := by
      simpa [Nat.add_comm] using g.cost_le ⟨HandleSet.empty.insert s, [s]⟩
    obtain ⟨hend, hstack⟩ := hstart.search hcost
    have hstates := hend.visited_eq hstack
    have hreach : g.reachableStates s traversal = g.closure traversal.follows (.ofList [s]) := by
      simp [reachableStates, hs]
    apply Prod.ext
    · rw [hreach]
      exact hstates
    · apply HandleSet.ext_mem
      intro t
      show t ∈ (g.search _ _ _).found ↔ _
      rw [hend.mem_found_iff hstack, mem_reachableTransitions, hreach, hstates]
  next hs =>
    have hstates : g.reachableStates s traversal = ∅ := by simp [reachableStates, hs]
    apply Prod.ext
    · exact hstates.symm
    · apply HandleSet.ext_mem
      intro t
      simp [mem_reachableTransitions, hstates]

/-- Where the transitions are not collected the states are visited all the same. -/
theorem settleLoop_eq (pops : Nat) (x : Search) :
    g.settleLoop follows pops x.toWorklist = (g.search follows pops x).toWorklist := by
  induction pops generalizing x with
  | zero => rfl
  | succ pops ih =>
    cases hstack : x.stack with
    | nil => rw [settleLoop, search, hstack]
    | cons s rest =>
      rw [search_cons pops hstack, settleLoop_cons pops hstack, ← ih, toWorklist_expand]

theorem settle_eq (g : Graph σ α) (seeds : List StateId) :
    g.settle seeds = g.epsilonClosure seeds := by
  let inside : HandleSet .state := .ofList (seeds.filter g.hasState)
  have hstart : g.Underway TransitionNode.isEpsilon inside ⟨⟨inside, inside.toList.reverse⟩, ∅⟩ :=
    underway_start (by simp [HandleSet.mem_def])
  have hcost : g.cost ⟨inside, inside.toList.reverse⟩ ≤ inside.size + g.transitions.size := by
    simpa [HandleSet.size] using g.cost_le ⟨inside, inside.toList.reverse⟩
  obtain ⟨hend, hstack⟩ := hstart.search hcost
  rw [settle, epsilonClosure, ← hend.visited_eq hstack]
  exact congrArg Worklist.visited (settleLoop_eq _ ⟨⟨inside, inside.toList.reverse⟩, ∅⟩)

end Graph

end EventAutomata
