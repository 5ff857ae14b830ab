import EventAutomata.Automaton

/-!
# Integrity

What should hold of an automaton: its current state can be reached from its start
state, and the transitions that are subscribed are those that can be reached.
Permissive transits and exchanged nodes can break either.

A validation makes a list of checks, each of which succeeds or fails on its own,
and has them put together (`validate`). Of what puts them together no more is
asked than that it keeps every failure, in order (`Accumulates`). `violations`
lists what the failures are then (`errors_validate`): the current state first,
then subscriptions that should not be, then those that are missing, in ascending
order.
-/

namespace EventAutomata

inductive Violation
  | currentWithoutStart (current : StateId)
  | unreachableCurrent (current start : StateId)
  | orphanedSubscription (transition : TransitionId)
  | missingSubscription (transition : TransitionId)
  deriving DecidableEq, Repr

namespace Violation

def name : Violation → String
  | .currentWithoutStart _ => "CurrentWithoutStart"
  | .unreachableCurrent .. => "UnreachableCurrent"
  | .orphanedSubscription _ => "OrphanedSubscription"
  | .missingSubscription _ => "MissingSubscription"

def message : Violation → String
  | .currentWithoutStart c =>
    "Current state " ++ c.label ++ " is set but there is no start state"
  | .unreachableCurrent c s =>
    "Current state " ++ c.label ++ " is not reachable from start state " ++ s.label
  | .orphanedSubscription t =>
    "Transition " ++ t.label ++ " is subscribed but not reachable from the start state"
  | .missingSubscription t =>
    "Transition " ++ t.label ++ " is reachable from the start state but not subscribed"

instance : Describe Violation where
  describe v :=
    match v with
    | .currentWithoutStart c => .record v.name [("current", describe c)]
    | .unreachableCurrent c s => .record v.name [("current", describe c), ("start", describe s)]
    | .orphanedSubscription t | .missingSubscription t => .tuple v.name [describe t]

end Violation

-- ---------------------------------------------------------------------------
-- Checks
-- ---------------------------------------------------------------------------

inductive Validation (τ ε : Type)
  | success (value : τ)
  | failure (first : ε) (more : List ε)

namespace Validation

variable {τ υ ε : Type}

def fail (e : ε) : Validation τ ε := .failure e []

def map (f : τ → υ) : Validation τ ε → Validation υ ε
  | .success value => .success (f value)
  | .failure first more => .failure first more

def errors : Validation τ ε → List ε
  | .success _ => []
  | .failure first more => first :: more

@[simp] theorem errors_success (value : τ) : (success value : Validation τ ε).errors = [] := rfl

@[simp] theorem errors_failure (first : ε) (more : List ε) :
    (failure first more : Validation τ ε).errors = first :: more := rfl

@[simp] theorem errors_fail (e : ε) : (fail e : Validation τ ε).errors = [e] := rfl

@[simp] theorem errors_map (f : τ → υ) (check : Validation τ ε) :
    (check.map f).errors = check.errors := by
  cases check <;> rfl

theorem flatMap_errors_fail {κ : Type} (f : κ → ε) (ks : List κ) :
    (ks.map fun k => (fail (f k) : Validation τ ε)).flatMap errors = ks.map f := by
  induction ks with
  | nil => rfl
  | cons k ks ih => simp [ih]

theorem eq_success_iff {check : Validation Unit ε} :
    check = .success () ↔ check.errors = [] := by
  cases check <;> simp

/-- Checks are put together without losing a failure. Where none has failed this is a success. -/
def Accumulates (all : List (Validation τ ε) → Validation (List τ) ε) : Prop :=
  ∀ checks, (all checks).errors = checks.flatMap errors

def collect : List (Validation τ ε) → Validation (List τ) ε
  | [] => .success []
  | .success value :: checks => (collect checks).map (value :: ·)
  | .failure first more :: checks => .failure first (more ++ (collect checks).errors)

theorem accumulates_collect : Accumulates (collect : List (Validation τ ε) → _) := by
  intro checks
  induction checks with
  | nil => rfl
  | cons check checks ih => cases check <;> simp [collect, ih]

end Validation

namespace Automaton

variable {σ α : Type}

def cursorViolations (a : Automaton σ α) : List Violation :=
  match a.start, a.current with
  | _, none => []
  | none, some c => [.currentWithoutStart c]
  | some s, some c =>
    if c ∈ a.graph.reachableStates s .withEpsilon then [] else [.unreachableCurrent c s]

def violations (a : Automaton σ α) : List Violation :=
  let live := a.transitions
  let subscribed := a.registry.transitions
  a.cursorViolations ++ (subscribed \ live).toList.map .orphanedSubscription ++
    (live \ subscribed).toList.map .missingSubscription

def cursorChecks (a : Automaton σ α) : List (Validation Unit Violation) :=
  match a.start, a.current with
  | _, none => []
  | none, some c => [.fail (.currentWithoutStart c)]
  | some s, some c =>
    [if c ∈ a.graph.reachableStates s .withEpsilon then .success ()
      else .fail (.unreachableCurrent c s)]

def checks (a : Automaton σ α) : List (Validation Unit Violation) :=
  let live := a.transitions
  let subscribed := a.registry.transitions
  a.cursorChecks ++ (subscribed \ live).toList.map (fun t => .fail (.orphanedSubscription t)) ++
    (live \ subscribed).toList.map fun t => .fail (.missingSubscription t)

def validate (all : List (Validation Unit Violation) → Validation (List Unit) Violation)
    (a : Automaton σ α) : Validation Unit Violation :=
  (all a.checks).map fun _ => ()

-- ---------------------------------------------------------------------------
-- From the checks to the report
-- ---------------------------------------------------------------------------

theorem errors_cursorChecks (a : Automaton σ α) :
    a.cursorChecks.flatMap Validation.errors = a.cursorViolations := by
  cases hs : a.start with
  | none => cases hc : a.current <;> simp [cursorChecks, cursorViolations, hs, hc]
  | some s =>
    cases hc : a.current with
    | none => simp [cursorChecks, cursorViolations, hs, hc]
    | some c =>
      by_cases hin : c ∈ a.graph.reachableStates s .withEpsilon <;>
        simp [cursorChecks, cursorViolations, hs, hc, hin]

theorem errors_checks (a : Automaton σ α) :
    a.checks.flatMap Validation.errors = a.violations := by
  simp only [checks, violations, List.flatMap_append, errors_cursorChecks,
    Validation.flatMap_errors_fail]

theorem errors_validate {all : List (Validation Unit Violation) → Validation (List Unit) Violation}
    (hall : Validation.Accumulates all) (a : Automaton σ α) :
    (a.validate all).errors = a.violations := by
  rw [validate, Validation.errors_map, hall, errors_checks]

end Automaton

end EventAutomata
