import EventAutomata.Graph.Workbench
import EventAutomata.Proofs.Automaton.Turns

/-!
# Graphs in use

A graph is used alone, on a workbench, or as the graph of an automaton. Either way
everything that happens to it is a chain of changes, so it stays well formed and its
handles keep their meaning. Handles come from edits only; `Made` says what they are
promised to name.
-/

namespace EventAutomata

open Relation (ReflTransGen)

variable {σ α : Type}

namespace Graph

variable {g g' : Graph σ α}

/-- A handle that an edit was answered with names the node that was asked for. -/
def Made (g : Graph σ α) (e : Edit σ) (answer : Answer) : Prop :=
  match e with
  | .addState data => ∃ s n, answer = .state s ∧ g.state? s = some n ∧ n.data = data
  | .addTransition kind target =>
    answer = .misuse (.unknownState target) ∨
      ∃ t e, answer = .transition t ∧ g.transition? t = some e ∧ e.kind = kind ∧ e.target = target
  | _ => True

theorem Persists.made (h : g.Persists g') {e : Edit σ} {answer : Answer} (hm : g.Made e answer) :
    g'.Made e answer := by
  cases e with
  | addState data =>
    obtain ⟨s, n, rfl, hs, rfl⟩ := hm
    obtain ⟨n', hs', hdata⟩ := h.state hs
    exact ⟨s, n', rfl, hs', hdata⟩
  | addTransition kind target =>
    rcases hm with hm | ⟨t, e, rfl, ht, rfl, rfl⟩
    · exact .inl hm
    · obtain ⟨e', ht', htarget, hkind⟩ := h.transition ht
      exact .inr ⟨t, e', rfl, ht', hkind, htarget⟩
  | _ => trivial

theorem made_addTransition {kind : TransitionKind} {target : StateId} {t : TransitionId}
    (h : g.addTransition kind target = .ok (t, g')) :
    g'.Made (.addTransition kind target) (.transition t) := by
  obtain ⟨-, -, -, ht⟩ := addTransition_eq_ok h
  exact .inr ⟨t, { id := t, target, kind }, rfl, by simp [ht], rfl, rfl⟩

theorem made_of_addTransition_error {kind : TransitionKind} {target : StateId} {problem : Misuse}
    (h : g.addTransition kind target = .error problem) :
    g.Made (.addTransition kind target) (.misuse problem) := by
  unfold addTransition at h
  split at h
  next => cases h
  next => cases h; exact .inl rfl

variable [Payload σ]

theorem persists_of_changes (h : ReflTransGen Change g g') : g.Persists g' := by
  induction h with
  | refl => exact .refl
  | tail _ h ih => exact ih.trans h.persists

theorem WellFormed.changes (hg : g.WellFormed) (h : ReflTransGen Change g g') :
    g'.WellFormed := by
  induction h with
  | refl => exact hg
  | tail _ h ih => exact h.wellFormed ih

theorem made_addState (g : Graph σ α) (data : σ) :
    (g.addState data).2.Made (.addState data) (.state (g.addState data).1) :=
  ⟨_, .ofData data, rfl, by simp [state?_addState], rfl⟩

theorem made_edit (g : Graph σ α) (e : Edit σ) : (g.edit e).2.Made e (g.edit e).1 := by
  cases e with
  | addState data => exact made_addState g data
  | addTransition kind target =>
    simp only [edit]
    split
    next t g' h => exact made_addTransition h
    next problem h => exact made_of_addTransition_error h
  | _ => trivial

-- ---------------------------------------------------------------------------
-- On a workbench
-- ---------------------------------------------------------------------------

namespace Workbench

theorem change_perform (w : Workbench σ α) (request : Request σ α) :
    w.graph.Change (w.perform request).2.graph := by
  cases request with
  | ask query => exact .extend .same
  | edit e => exact change_edit w.graph e
  | configure setting =>
    simp only [perform]
    split
    next =>
      split
      next => exact .extend .same
      next setting hub h => exact .extend (extends_configure w.graph setting)
    next => exact .extend .same

theorem changes_run (w : Workbench σ α) (requests : List (Request σ α)) :
    ReflTransGen Change w.graph (w.run requests).graph := by
  induction requests generalizing w with
  | nil => exact .refl
  | cons request rest ih => exact .head (w.change_perform request) (ih _)

end Workbench

end Graph

-- ---------------------------------------------------------------------------
-- In an automaton
-- ---------------------------------------------------------------------------

namespace Automaton

variable [Payload σ]

theorem changes_of_steps {direct : Prop} {a b : Automaton σ α}
    (h : ReflTransGen (Step direct) a b) : ReflTransGen Graph.Change a.graph b.graph :=
  h.lift graph fun _ _ => Step.change

theorem changes_live (x : Automaton σ α × Hub α) (turns : List (Turn σ α)) :
    ReflTransGen Graph.Change x.1.graph (live x turns).1.graph :=
  changes_of_steps (steps_live True x turns fun _ _ _ => trivial)

theorem made_edit (a : Automaton σ α) (e : Graph.Edit σ) :
    (a.edit e).2.graph.Made e (a.edit e).1 := by
  cases e with
  | addState data => exact Graph.made_addState a.graph data
  | addTransition kind target =>
    simp only [edit, addTransition]
    cases h : a.graph.addTransition kind target with
    | ok made => exact Graph.made_addTransition h
    | error problem => exact Graph.made_of_addTransition_error h
  | _ => trivial

end Automaton

-- ---------------------------------------------------------------------------
-- Both
-- ---------------------------------------------------------------------------

/-- A graph in use is well formed at any time. Later on its handles still name what they
did, and an edit has been given what it asked for. -/
theorem arena_wellFormed_and_handles_persist [Payload σ] (config : AutomatonConfig) (hub : Hub α)
    (e : Graph.Edit σ) :
    (∀ before after : List (Graph.Request σ α),
      let w := Graph.Workbench.run ⟨∅, hub⟩ before
      let made := w.perform (.edit e)
      let later := made.2.run after
      w.graph.WellFormed ∧ w.graph.Persists later.graph ∧ later.graph.Made e made.1) ∧
    ∀ before after : List (Automaton.Turn σ α),
      let x := Automaton.live (Automaton.create config hub) before
      let made := x.1.call x.2 (.edit e)
      let later := Automaton.live made.2 after
      x.1.graph.WellFormed ∧ x.1.graph.Persists later.1.graph ∧ later.1.graph.Made e made.1 := by
  constructor
  · intro before after w made later
    have hbefore : ReflTransGen Graph.Change ∅ w.graph :=
      Graph.Workbench.changes_run ⟨∅, hub⟩ before
    have hafter : ReflTransGen Graph.Change made.2.graph later.graph := made.2.changes_run after
    have hedit : w.graph.Change made.2.graph := w.change_perform (.edit e)
    exact ⟨Graph.wellFormed_empty.changes hbefore,
      Graph.persists_of_changes (hafter.head hedit),
      (Graph.persists_of_changes hafter).made (Graph.made_edit w.graph e)⟩
  · intro before after x made later
    have hbefore : ReflTransGen Graph.Change ∅ x.1.graph :=
      Automaton.changes_live (Automaton.create config hub) before
    have hafter : ReflTransGen Graph.Change made.2.1.graph later.1.graph :=
      Automaton.changes_live made.2 after
    have hsteps : ReflTransGen (Automaton.Step True) x.1 made.2.1 := Automaton.steps_edit x.1 e
    have hedit : ReflTransGen Graph.Change x.1.graph made.2.1.graph :=
      Automaton.changes_of_steps hsteps
    exact ⟨Graph.wellFormed_empty.changes hbefore,
      Graph.persists_of_changes (hedit.trans hafter),
      (Graph.persists_of_changes hafter).made (Automaton.made_edit x.1 e)⟩

end EventAutomata
