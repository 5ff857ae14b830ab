import EventAutomata.Proofs.Graph.Changes
import Mathlib.Logic.Equiv.Basic

/-!
# States that change places

Two states of a graph can change places, each with all that it has: payload, callbacks and the
set of transitions that it holds. Nobody tells the transitions. Their owners stay what they were,
so from then on the owner of a transition may be another state than the one that holds it, and the
graph is not well formed any more.

What is left of it is `Exclusive`: a transition has an owner exactly if a state holds it, no two
states hold it, and nothing dangles. To attach a transition the graph asks only whether it has an
owner, and to remove one only whether the state holds it; the owner that is cleared then may be
another state. For both that is enough to keep the graph exclusive.
-/

namespace EventAutomata

namespace Graph

variable {σ α : Type} {g g' : Graph σ α}

inductive Act (σ α : Type)
  | edit (edit : Edit σ)
  | configure (setting : Setting (Script α) α)
  /-- Two states change places. -/
  | swapStates (a b : StateId)

def act [Payload σ] (g : Graph σ α) : Act σ α → Answer × Graph σ α
  | .edit e => g.edit e
  | .configure setting => g.configure setting
  | .swapStates a b => accepted g (g.swapStates? a b)

def actAll [Payload σ] (g : Graph σ α) (acts : List (Act σ α)) : Graph σ α :=
  acts.foldl (fun g e => (g.act e).2) g

-- ---------------------------------------------------------------------------
-- Exclusive graphs
-- ---------------------------------------------------------------------------

/-- A transition has an owner exactly if it is held, and it is held by one state at most. The
owner need not be that state. Every handle that the graph keeps names a node. -/
structure Exclusive (g : Graph σ α) : Prop where
  holder_unique : ∀ {s u t}, g.Holds s t → g.Holds u t → s = u
  owned_iff : ∀ t, (g.ownerOf t).isSome = true ↔ ∃ s, g.Holds s t
  owner_exists : ∀ {s t}, g.ownerOf t = some s → g.hasState s = true
  target_exists : ∀ {t edge}, g.transition? t = some edge → g.hasState edge.target = true

theorem WellFormed.exclusive (hg : g.WellFormed) : g.Exclusive where
  holder_unique := hg.holder_unique
  owned_iff t := by simp only [hg.holds_iff, Option.isSome_iff_exists]
  owner_exists := hg.owner_exists
  target_exists := hg.target_exists

namespace Exclusive

variable {s : StateId} {t : TransitionId}

theorem ownerOf_isSome (hg : g.Exclusive) (h : g.Holds s t) : (g.ownerOf t).isSome = true :=
  (hg.owned_iff t).2 ⟨s, h⟩

theorem not_holds (hg : g.Exclusive) (h : g.ownerOf t = none) : ¬ g.Holds s t := by
  intro hheld
  have hsome := hg.ownerOf_isSome hheld
  rw [h] at hsome
  cases hsome

theorem held_exists (hg : g.Exclusive) (h : g.Holds s t) : (g.transition? t).isSome = true := by
  obtain ⟨u, hu⟩ := Option.isSome_iff_exists.1 (hg.ownerOf_isSome h)
  obtain ⟨edge, ht, -⟩ := ownerOf_eq_some.1 hu
  exact Option.isSome_of_eq_some ht

theorem existsUnique_iff (hg : g.Exclusive) (t : TransitionId) :
    (g.ownerOf t).isSome = true ↔ ∃! s, g.Holds s t := by
  rw [hg.owned_iff]
  constructor
  · rintro ⟨s, hs⟩
    exact ⟨s, hs, fun u hu => hg.holder_unique hu hs⟩
  · exact ExistsUnique.exists

/-- What a state holds, no state can get. -/
theorem attach?_eq_none (hg : g.Exclusive) (h : g.Holds s t) (u : StateId) :
    g.attach? u t = none := by
  refine Option.eq_none_iff_forall_ne_some.2 fun g' hg' => ?_
  exact hg.not_holds (ownerOf_eq_none_of_attach? hg') h

theorem attachEpsilon?_ne_some (hg : g.Exclusive) (h : g.Holds s t) (u : StateId)
    (g' : Graph σ α) : g.attachEpsilon? u t ≠ .ok (some g') := by
  rw [attachEpsilon?, hg.attach?_eq_none h u]
  cases g.ensureEpsilon t <;> exact nofun

-- ---------------------------------------------------------------------------
-- Changes
-- ---------------------------------------------------------------------------

variable [Payload σ]

theorem change_holder (hg : g.Exclusive) (h : g.Change g') {u : StateId} (hs : g'.Holds s t)
    (hu : g'.Holds u t) : s = u := by
  cases h with
  | extend h => exact hg.holder_unique (h.holds_iff.1 hs) (h.holds_iff.1 hu)
  | attach h =>
    -- The transition that is attached was not owned, so nobody held it before.
    have hfree := ownerOf_eq_none_of_attach? h
    rcases (holds_attach? h).1 hs with ⟨hs', ht⟩ | hs' <;>
      rcases (holds_attach? h).1 hu with ⟨hu', ht'⟩ | hu'
    · exact hs'.trans hu'.symm
    · exact absurd (ht ▸ hu') (hg.not_holds hfree)
    · exact absurd (ht' ▸ hs') (hg.not_holds hfree)
    · exact hg.holder_unique hs' hu'
  | remove h => exact hg.holder_unique ((holds_remove? h).1 hs).1 ((holds_remove? h).1 hu).1

theorem change_owned (hg : g.Exclusive) (h : g.Change g') (t : TransitionId) :
    (g'.ownerOf t).isSome = true ↔ ∃ s, g'.Holds s t := by
  cases h with
  | extend h => simp only [h.ownerOf_eq, h.holds_iff, hg.owned_iff]
  | @attach s x _ h =>
    rw [ownerOf_attach? h]
    simp only [holds_attach? h]
    by_cases ht : t = x
    · simp [ht]
    · simp [ht, hg.owned_iff]
  | @remove s x _ h =>
    rw [ownerOf_remove? h]
    simp only [holds_remove? h]
    by_cases ht : t = x
    · -- Nobody but `s` held the transition, whoever its owner was.
      subst ht
      simp only [if_true, Option.isSome_none, Bool.false_eq_true, false_iff, not_exists]
      rintro u ⟨hu, hne⟩
      exact hne ⟨hg.holder_unique hu (holds_of_remove? h), trivial⟩
    · simp [ht, hg.owned_iff]

theorem change_owner (hg : g.Exclusive) (h : g.Change g') (ho : g'.ownerOf t = some s) :
    g'.hasState s = true := by
  refine h.persists.hasState ?_
  cases h with
  | extend h => exact hg.owner_exists (h.ownerOf_eq t ▸ ho)
  | @attach u x _ h =>
    rw [ownerOf_attach? h] at ho
    split at ho
    next =>
      cases ho
      obtain ⟨node, edge, hs, -⟩ := attach?_eq_some h
      exact hasState_of_state? hs
    next => exact hg.owner_exists ho
  | @remove u x _ h =>
    rw [ownerOf_remove? h] at ho
    split at ho
    next => cases ho
    next => exact hg.owner_exists ho

theorem change (hg : g.Exclusive) (h : g.Change g') : g'.Exclusive where
  holder_unique := hg.change_holder h
  owned_iff := hg.change_owned h
  owner_exists := hg.change_owner h
  target_exists ht := by
    refine h.persists.hasState ?_
    rcases h.origin ht with ⟨edge, hx, -, htarget, -⟩ | ⟨kind, target, htarget, rfl⟩
    · rw [htarget]
      exact hg.target_exists hx
    · exact htarget

end Exclusive

-- ---------------------------------------------------------------------------
-- Changing places
-- ---------------------------------------------------------------------------

theorem swapStates?_eq_some {a b : StateId} (h : g.swapStates? a b = some g') :
    ∃ m n, g.state? a = some m ∧ g.state? b = some n ∧ g' = (g.setState a n).setState b m := by
  unfold swapStates? at h
  split at h
  next m n ha hb => exact ⟨m, n, ha, hb, (Option.some.inj h).symm⟩
  next => cases h

theorem hasState_swapStates? {a b : StateId} (h : g.swapStates? a b = some g') (s : StateId) :
    g'.hasState s = g.hasState s := by
  obtain ⟨m, n, -, -, rfl⟩ := swapStates?_eq_some h
  rw [Bool.eq_iff_iff, hasState_iff, hasState_iff, size_states_setState, size_states_setState]

theorem ownerOf_swapStates? {a b : StateId} (h : g.swapStates? a b = some g') (t : TransitionId) :
    g'.ownerOf t = g.ownerOf t := by
  obtain ⟨m, n, -, -, rfl⟩ := swapStates?_eq_some h
  rfl

theorem state?_swapStates? {a b : StateId} (h : g.swapStates? a b = some g') (s : StateId) :
    g'.state? s = g.state? (Equiv.swap a b s) := by
  obtain ⟨m, n, ha, hb, rfl⟩ := swapStates?_eq_some h
  have hb' : (g.setState a n).hasState b = g.hasState b := by
    rw [Bool.eq_iff_iff, hasState_iff, hasState_iff, size_states_setState]
  rw [state?_setState, hb', hasState_of_state? hb, state?_setState_of_some ha,
    Equiv.swap_apply_def]
  grind

/-- The sets of transitions go along with the states. -/
theorem holds_swapStates? {a b : StateId} (h : g.swapStates? a b = some g') (s : StateId)
    (t : TransitionId) : g'.Holds s t ↔ g.Holds (Equiv.swap a b s) t := by
  simp only [Holds, state?_swapStates? h]

theorem Exclusive.swapStates? (hg : g.Exclusive) {a b : StateId}
    (h : g.swapStates? a b = some g') : g'.Exclusive where
  holder_unique hs hu :=
    (Equiv.swap a b).injective
      (hg.holder_unique ((holds_swapStates? h _ _).1 hs) ((holds_swapStates? h _ _).1 hu))
  owned_iff t := by
    simp only [ownerOf_swapStates? h, holds_swapStates? h, hg.owned_iff]
    exact (Equiv.swap a b).surjective.exists
  owner_exists ho := by
    rw [ownerOf_swapStates? h] at ho
    rw [hasState_swapStates? h]
    exact hg.owner_exists ho
  target_exists ht := by
    obtain ⟨m, n, -, -, rfl⟩ := swapStates?_eq_some h
    rw [hasState_swapStates? h]
    exact hg.target_exists ht

-- ---------------------------------------------------------------------------
-- Whole runs
-- ---------------------------------------------------------------------------

variable [Payload σ]

theorem Exclusive.act (hg : g.Exclusive) (e : Act σ α) : (g.act e).2.Exclusive := by
  cases e with
  | edit e => exact hg.change (change_edit g e)
  | configure setting => exact hg.change (.extend (extends_configure g setting))
  | swapStates a b => exact accepted_keeps hg fun g' h => hg.swapStates? h

theorem Exclusive.actAll (hg : g.Exclusive) (acts : List (Act σ α)) :
    (g.actAll acts).Exclusive := by
  induction acts generalizing g with
  | nil => exact hg
  | cons e rest ih => exact ih (hg.act e)

/-- However a graph is edited and its states change places, no transition is ever held by two
states, and it has an owner exactly if one state holds it. Every handle in the graph names a node.
What some state holds cannot be attached to any state. -/
theorem attachment_stays_exclusive (acts : List (Act σ α)) :
    let g : Graph σ α := actAll ∅ acts
    (∀ s u t, g.Holds s t → g.Holds u t → s = u) ∧
    (∀ t, (g.ownerOf t).isSome = true ↔ ∃! s, g.Holds s t) ∧
    (∀ s t, g.Holds s t → (g.transition? t).isSome = true) ∧
    (∀ s t, g.ownerOf t = some s → g.hasState s = true) ∧
    (∀ t edge, g.transition? t = some edge → g.hasState edge.target = true) ∧
    ∀ s t, g.Holds s t → ∀ u,
      g.attach? u t = none ∧ ∀ g', g.attachEpsilon? u t ≠ .ok (some g') := by
  intro g
  have hg : g.Exclusive := wellFormed_empty.exclusive.actAll acts
  exact ⟨fun s u t => hg.holder_unique, hg.existsUnique_iff, fun s t => hg.held_exists,
    fun s t => hg.owner_exists, fun t edge => hg.target_exists,
    fun s t h u => ⟨hg.attach?_eq_none h u, hg.attachEpsilon?_ne_some h u⟩⟩

/-- The owner stays behind when the state that holds the transition is moved, and removing the
transition there frees it. -/
example :
    let acts : List (Act String Nat) :=
      [.edit (.addState "idle"), .edit (.addState "busy"), .edit (.addTransition .input ⟨0⟩),
        .edit (.attach ⟨0⟩ ⟨0⟩), .swapStates ⟨0⟩ ⟨1⟩]
    let g := actAll ∅ acts
    (g.state? ⟨1⟩).map (·.outgoing.toList) = some [⟨0⟩] ∧ g.ownerOf ⟨0⟩ = some ⟨0⟩ ∧
      (g.act (.edit (.remove ⟨1⟩ ⟨0⟩))).2.ownerOf ⟨0⟩ = none := by
  decide

end Graph

end EventAutomata
