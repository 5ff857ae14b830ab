import EventAutomata.Proofs.Automaton.Acceptance
import EventAutomata.Proofs.Automaton.Cursor
import EventAutomata.Proofs.Graph.Walks
import Mathlib.Tactic.ByContra

/-!
# What validation reports

However the checks of a validation are put together, as long as no failure is lost, its report
is everything that is wrong (`Wrong`), each thing once and in a fixed order
(`Violation.Before`).

None of it takes for granted that the graph, the registry and the current state agree.
-/

namespace EventAutomata

-- ---------------------------------------------------------------------------
-- The order of a report
-- ---------------------------------------------------------------------------

namespace Violation

def part : Violation → Nat
  | .currentWithoutStart _ | .unreachableCurrent .. => 0
  | .orphanedSubscription _ => 1
  | .missingSubscription _ => 2

/-- The violation comes earlier in a report. There is no place for two that are about the
current state. -/
def Before : Violation → Violation → Prop
  | .orphanedSubscription t, .orphanedSubscription u => t < u
  | .missingSubscription t, .missingSubscription u => t < u
  | v, w => v.part < w.part

theorem before_of_part_lt {v w : Violation} (h : v.part < w.part) : v.Before w := by
  cases v <;> cases w <;> first | exact h | exact absurd h (Nat.lt_irrefl _)

theorem Before.ne {v w : Violation} (h : v.Before w) : v ≠ w := by
  rintro rfl
  cases v with
  | orphanedSubscription t | missingSubscription t => exact Handle.lt_irrefl t h
  | currentWithoutStart | unreachableCurrent => exact Nat.lt_irrefl _ h

end Violation

namespace Automaton

variable {σ α : Type} {a : Automaton σ α} {v : Violation}

/-- A path leads to the current state, if there is one, from the start state. -/
def CursorLedTo (a : Automaton σ α) : Prop :=
  ∀ c, a.current = some c → ∃ s, a.start = some s ∧ a.graph.hasState s = true ∧
    ∃ ts, a.graph.Trail Traversal.withEpsilon.follows s ts c

/-- What is wrong with an automaton, in whatever state it is. -/
inductive Wrong (a : Automaton σ α) : Violation → Prop
  | withoutStart {c : StateId} :
      a.current = some c → a.start = none → Wrong a (.currentWithoutStart c)
  | unreachable {c s : StateId} :
      a.current = some c → a.start = some s →
      ¬ (a.graph.hasState s = true ∧
        ∃ ts, a.graph.Trail Traversal.withEpsilon.follows s ts c) →
      Wrong a (.unreachableCurrent c s)
  | orphaned {t : TransitionId} :
      t ∈ a.registry.transitions → ¬ t ∈ a.transitions → Wrong a (.orphanedSubscription t)
  | missing {t : TransitionId} :
      t ∈ a.transitions → ¬ t ∈ a.registry.transitions → Wrong a (.missingSubscription t)

-- ---------------------------------------------------------------------------
-- What the report holds
-- ---------------------------------------------------------------------------

theorem mem_cursorViolations : v ∈ a.cursorViolations ↔ v.part = 0 ∧ a.Wrong v := by
  constructor
  · intro h
    unfold cursorViolations at h
    split at h
    next => cases h
    next hs hc =>
      cases List.mem_singleton.1 h
      exact ⟨rfl, .withoutStart hc hs⟩
    next hs hc =>
      split at h
      next => cases h
      next hout =>
        cases List.mem_singleton.1 h
        exact ⟨rfl, .unreachable hc hs fun hled =>
          hout (Graph.mem_reachableStates_iff_trail.2 hled)⟩
  · rintro ⟨hpart, hv⟩
    cases hv with
    | withoutStart hc hs => simp [cursorViolations, hs, hc]
    | unreachable hc hs hout =>
      simp [cursorViolations, hs, hc, Graph.mem_reachableStates_iff_trail, hout]
    | orphaned | missing => cases hpart

/-- The report is sound and complete. -/
theorem mem_violations : v ∈ a.violations ↔ a.Wrong v := by
  simp only [violations, List.mem_append, List.mem_map, mem_cursorViolations,
    ← HandleSet.mem_def, HandleSet.mem_diff]
  constructor
  · rintro ((⟨-, hv⟩ | ⟨t, ⟨ht, hnot⟩, rfl⟩) | ⟨t, ⟨ht, hnot⟩, rfl⟩)
    · exact hv
    · exact .orphaned ht hnot
    · exact .missing ht hnot
  · intro hv
    cases hv with
    | withoutStart hc hs => exact .inl (.inl ⟨rfl, .withoutStart hc hs⟩)
    | unreachable hc hs hout => exact .inl (.inl ⟨rfl, .unreachable hc hs hout⟩)
    | orphaned ht hnot => exact .inl (.inr ⟨_, ⟨ht, hnot⟩, rfl⟩)
    | missing ht hnot => exact .inr ⟨_, ⟨ht, hnot⟩, rfl⟩

theorem pairwise_cursorViolations (a : Automaton σ α) :
    a.cursorViolations.Pairwise Violation.Before := by
  unfold cursorViolations
  split
  next => exact .nil
  next => exact List.pairwise_singleton _ _
  next => split <;> simp

theorem pairwise_violations (a : Automaton σ α) : a.violations.Pairwise Violation.Before := by
  refine List.pairwise_append.2 ⟨List.pairwise_append.2
    ⟨a.pairwise_cursorViolations, ?orphaned, fun v hv w hw => ?_⟩, ?missing, fun v hv w hw => ?_⟩
  case orphaned => exact List.pairwise_map.2 (HandleSet.ascending _)
  case missing => exact List.pairwise_map.2 (HandleSet.ascending _)
  · obtain ⟨t, -, rfl⟩ := List.mem_map.1 hw
    refine Violation.before_of_part_lt ?_
    rw [(mem_cursorViolations.1 hv).1]
    exact Nat.one_pos
  · obtain ⟨t, -, rfl⟩ := List.mem_map.1 hw
    refine Violation.before_of_part_lt ?_
    rcases List.mem_append.1 hv with hv | hv
    · rw [(mem_cursorViolations.1 hv).1]
      exact Nat.two_pos
    · obtain ⟨u, -, rfl⟩ := List.mem_map.1 hv
      exact Nat.one_lt_two

theorem cursorInside_iff_ledTo : a.CursorInside ↔ a.CursorLedTo := by
  simp only [CursorInside, CursorLedTo, mem_states, Graph.mem_reachableStates_iff_trail]

theorem violations_eq_nil_iff :
    a.violations = [] ↔ a.CursorLedTo ∧ a.registry.transitions = a.transitions := by
  constructor
  · intro hnone
    have hright : ∀ v, ¬ a.Wrong v := fun v hv => by
      rw [← mem_violations, hnone] at hv
      cases hv
    refine ⟨fun c hc => ?_, HandleSet.ext_mem fun t => ⟨fun ht => ?_, fun ht => ?_⟩⟩
    · cases hs : a.start with
      | none => exact absurd (.withoutStart hc hs) (hright _)
      | some s =>
        by_contra hout
        exact hright _ (.unreachable hc hs fun hled => hout ⟨s, rfl, hled⟩)
    · by_contra hnot
      exact hright _ (.orphaned ht hnot)
    · by_contra hnot
      exact hright _ (.missing ht hnot)
  · rintro ⟨hcursor, hsame⟩
    exact violations_eq_nil_of_registry hsame (cursorInside_iff_ledTo.2 hcursor)

variable [Payload σ]

/-- A validation succeeds if the current state can be reached and the subscriptions are those of
what can be reached. Otherwise it reports all that is wrong and nothing else, in order and
nothing twice, whatever has become of the automaton. -/
theorem validation_reports_exactly_what_is_wrong
    (all : List (Validation Unit Violation) → Validation (List Unit) Violation)
    (hall : Validation.Accumulates all) (a : Automaton σ α) (h : Hub α) :
    let outcome := a.validate all
    a.call h .validate = (.violations outcome.errors, a, h) ∧
      (outcome = .success () ↔ a.CursorLedTo ∧ a.registry.transitions = a.transitions) ∧
      (∀ v, v ∈ outcome.errors ↔ a.Wrong v) ∧
      outcome.errors.Pairwise Violation.Before ∧ outcome.errors.Nodup := by
  intro outcome
  have herrors : outcome.errors = a.violations := errors_validate hall a
  rw [Validation.eq_success_iff, herrors, call, errors_validate Validation.accumulates_collect]
  exact ⟨rfl, violations_eq_nil_iff, fun _ => mem_violations, a.pairwise_violations,
    a.pairwise_violations.imp Violation.Before.ne⟩

/-- Nothing of it fits together: the current state is nowhere, a transition that does not exist
is subscribed, and one that can be reached is not. -/
def adrift : Automaton String Nat :=
  { tangled with
    current := some ⟨4⟩
    registry := { entries := ((∅ : HandleMap _ _).insert ⟨3⟩ ⟨0⟩).insert ⟨8⟩ ⟨1⟩, nextId := 2 } }

theorem validation_reports_exactly_what_is_wrong_with_adrift :
    adrift.validate Validation.collect =
        .failure (.unreachableCurrent ⟨4⟩ ⟨0⟩)
          [.orphanedSubscription ⟨8⟩, .missingSubscription ⟨0⟩] ∧
      adrift.Wrong (.orphanedSubscription ⟨8⟩) ∧
      ¬ adrift.Wrong (.orphanedSubscription ⟨3⟩) := by
  obtain ⟨-, -, hwrong, -, -⟩ := validation_reports_exactly_what_is_wrong
    Validation.collect Validation.accumulates_collect adrift {}
  have hreport : adrift.validate Validation.collect =
      .failure (.unreachableCurrent ⟨4⟩ ⟨0⟩)
        [.orphanedSubscription ⟨8⟩, .missingSubscription ⟨0⟩] := by
    rfl
  rw [hreport] at hwrong
  exact ⟨hreport, by simp [← hwrong], by simp [← hwrong]⟩

end Automaton

end EventAutomata
