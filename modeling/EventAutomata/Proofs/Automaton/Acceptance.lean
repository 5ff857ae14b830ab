import EventAutomata.Proofs.Automaton.Tracking
import Mathlib.Tactic.MkIffOfInductiveProp

/-!
# Which edits are accepted

Three layers have a say in an edit. An epsilon variant looks at the kind of the transition, the
automaton at what it can reach, and the graph at its two records of who holds what. Nodes that
were exchanged whole can make these disagree: a state can be reached that does not exist, a
transition can have an owner that does not hold it, or be held without one. So each condition
is stated by itself, and nothing is assumed of the automaton.

An edit that is refused changes nothing (`edit_eq_of_isRefusal`).
-/

namespace EventAutomata

def Answer.isRefusal : Answer → Bool
  | .flag done => !done
  | .misuse _ => true
  | _ => false

namespace Graph

variable {σ α : Type} {g g' : Graph σ α} {s : StateId} {t : TransitionId}

instance (g : Graph σ α) (s : StateId) (t : TransitionId) : Decidable (g.Holds s t) :=
  inferInstanceAs (Decidable (∃ node ∈ g.state? s, t ∈ node.outgoing))

theorem attach?_isSome_iff :
    (g.attach? s t).isSome = true ↔
      g.hasState s = true ∧ (g.transition? t).isSome = true ∧ g.ownerOf t = none ∧
        ¬ g.Holds s t := by
  cases hs : g.state? s <;> cases ht : g.transition? t <;>
    simp [attach?, hasState, ownerOf, Holds, hs, ht]

theorem remove?_isSome_iff : (g.remove? s t).isSome = true ↔ g.Holds s t := by
  constructor
  · intro h
    obtain ⟨g', hg⟩ := Option.isSome_iff_exists.1 h
    exact holds_of_remove? hg
  · rintro ⟨node, hs, hmem⟩
    cases ht : g.transition? t <;> simp [remove?, hs, hmem, ht]

/-- The set of one state is changed, and the owner of one transition. Nothing else is. -/
structure Relinked (g g' : Graph σ α) (s : StateId) (t : TransitionId)
    (change : HandleSet .transition → HandleSet .transition) (owner : Option StateId) : Prop where
  state : ∀ u, g'.state? u =
    if u = s then (g.state? s).map fun node => { node with outgoing := change node.outgoing }
    else g.state? u
  transition : ∀ x, g'.transition? x =
    if x = t then (g.transition? t).map ({ · with owner }) else g.transition? x

theorem relinked_attach? (h : g.attach? s t = some g') :
    g.Relinked g' s t (·.insert t) (some s) := by
  obtain ⟨node, edge, hs, ht, -, -, hs', ht'⟩ := attach?_eq_some h
  constructor
  · simp [hs', hs]
  · simp [ht', ht]

theorem relinked_remove? (h : g.remove? s t = some g') : g.Relinked g' s t (·.erase t) none := by
  obtain ⟨node, hs, -, hs', ht'⟩ := remove?_eq_some h
  constructor
  · simp [hs', hs]
  · exact ht'

theorem accepted_eq_of_isRefusal {β : Type} {old : β} {new? : Option β}
    (hr : (accepted old new?).1.isRefusal = true) : (accepted old new?).2 = old := by
  cases new? with
  | none => rfl
  | some new => cases hr

theorem acceptedUnless_eq_of_isRefusal {β : Type} {old : β} {new? : Except Misuse (Option β)}
    (hr : (acceptedUnless old new?).1.isRefusal = true) : (acceptedUnless old new?).2 = old := by
  cases new? with
  | ok new? => exact accepted_eq_of_isRefusal hr
  | error problem => rfl

end Graph

namespace Automaton

variable {σ α : Type} {a b : Automaton σ α} {s : StateId} {t : TransitionId}

-- ---------------------------------------------------------------------------
-- Attaching and removing
-- ---------------------------------------------------------------------------

/-- The state belongs to the automaton and exists. The transition exists, nobody owns it, and
the state does not have it in its set. -/
@[mk_iff]
structure Attachable (a : Automaton σ α) (s : StateId) (t : TransitionId) : Prop where
  reachable : s ∈ a.states
  state : a.graph.hasState s = true
  transition : (a.graph.transition? t).isSome = true
  free : a.graph.ownerOf t = none
  apart : ¬ a.graph.Holds s t

/-- The state belongs to the automaton and exists, and the transition is in its set. Whether
the transition exists, and who is its owner, does not matter. -/
@[mk_iff]
structure Removable (a : Automaton σ α) (s : StateId) (t : TransitionId) : Prop where
  reachable : s ∈ a.states
  state : a.graph.hasState s = true
  held : a.graph.Holds s t

instance (a : Automaton σ α) (s : StateId) (t : TransitionId) : Decidable (a.Attachable s t) :=
  decidable_of_iff _ (attachable_iff a s t).symm

instance (a : Automaton σ α) (s : StateId) (t : TransitionId) : Decidable (a.Removable s t) :=
  decidable_of_iff _ (removable_iff a s t).symm

/-- Besides the graph only the registry is different; it is told of what can be reached now. -/
structure Attached (a b : Automaton σ α) (s : StateId) (t : TransitionId) : Prop where
  graph : a.graph.Relinked b.graph s t (·.insert t) (some s)
  frame : b = { a with
    graph := b.graph
    registry := a.registry.reconcile a.transitions b.transitions }

/-- As `Attached`, but a current state that has been cut off is given up. -/
structure Detached (a b : Automaton σ α) (s : StateId) (t : TransitionId) : Prop where
  graph : a.graph.Relinked b.graph s t (·.erase t) none
  frame : b = { a with
    graph := b.graph
    registry := a.registry.reconcile a.transitions b.transitions
    current := a.current.filter (· ∈ b.states) }

theorem attach?_isSome_iff : (a.attach? s t).isSome = true ↔ a.Attachable s t := by
  constructor
  · intro h
    obtain ⟨b, hb⟩ := Option.isSome_iff_exists.1 h
    obtain ⟨hreach, g, hg, -⟩ := attach?_eq_some hb
    obtain ⟨hs, ht, hfree, hapart⟩ := Graph.attach?_isSome_iff.1 (Option.isSome_of_eq_some hg)
    exact ⟨hreach, hs, ht, hfree, hapart⟩
  · rintro ⟨hreach, hs, ht, hfree, hapart⟩
    rw [attach?, if_pos hreach, Option.isSome_map]
    exact Graph.attach?_isSome_iff.2 ⟨hs, ht, hfree, hapart⟩

theorem remove?_isSome_iff : (a.remove? s t).isSome = true ↔ a.Removable s t := by
  constructor
  · intro h
    obtain ⟨b, hb⟩ := Option.isSome_iff_exists.1 h
    obtain ⟨hreach, g, hg, -⟩ := remove?_eq_some hb
    have hheld := Graph.holds_of_remove? hg
    exact ⟨hreach, hheld.hasState, hheld⟩
  · rintro ⟨hreach, -, hheld⟩
    rw [remove?, if_pos hreach, Option.isSome_map]
    exact Graph.remove?_isSome_iff.2 hheld

theorem attached_attach? (h : a.attach? s t = some b) : a.Attached b s t := by
  obtain ⟨-, g, hg, rfl⟩ := attach?_eq_some h
  exact ⟨Graph.relinked_attach? hg, rfl⟩

theorem detached_remove? (h : a.remove? s t = some b) : a.Detached b s t := by
  obtain ⟨-, g, hg, rfl⟩ := remove?_eq_some h
  rw [dropStrandedCursor_eq]
  exact ⟨Graph.relinked_remove? hg, rfl⟩

-- ---------------------------------------------------------------------------
-- Answers
-- ---------------------------------------------------------------------------

variable [Payload σ] {h : Hub α} {c : Call σ α}

/-- The call does what it is for if that is possible. Otherwise it is answered with `false`,
and nothing changes. The hub stays the same in both cases. -/
structure Decides (a : Automaton σ α) (h : Hub α) (c : Call σ α) (possible : Prop)
    (effect : Automaton σ α → Prop) : Prop where
  done : possible → ∃ b, a.call h c = (.flag true, b, h) ∧ effect b
  refused : ¬ possible → a.call h c = (.flag false, a, h)

theorem decides_of_accepted {new? : Option (Automaton σ α)} {possible : Prop}
    {effect : Automaton σ α → Prop}
    (hcall : a.call h c = ((Graph.accepted a new?).1, (Graph.accepted a new?).2, h))
    (hpossible : new?.isSome = true ↔ possible) (heffect : ∀ b, new? = some b → effect b) :
    a.Decides h c possible effect := by
  cases new? with
  | none => exact ⟨fun hp => by simpa using hpossible.2 hp, fun _ => hcall⟩
  | some b => exact ⟨fun _ => ⟨b, hcall, heffect b rfl⟩, fun hp => absurd (hpossible.1 rfl) hp⟩

/-- An edit of an epsilon transition, and the edit that does the same with any transition. -/
inductive EpsilonVariant (t : TransitionId) : Graph.Edit σ → Graph.Edit σ → Prop
  | attach (s : StateId) : EpsilonVariant t (.attachEpsilon s t) (.attach s t)
  | remove (s : StateId) : EpsilonVariant t (.removeEpsilon s t) (.remove s t)

theorem EpsilonVariant.answer_plain {eps plain : Graph.Edit σ} (hv : EpsilonVariant t eps plain)
    (a : Automaton σ α) : ∃ done, (a.edit plain).1 = .flag done := by
  cases hv with
  | attach s => exact ⟨_, Graph.accepted_answer a (a.attach? s t)⟩
  | remove s => exact ⟨_, Graph.accepted_answer a (a.remove? s t)⟩

theorem EpsilonVariant.edit_cases {eps plain : Graph.Edit σ} (hv : EpsilonVariant t eps plain)
    (a : Automaton σ α) :
    (a.graph.transition? t = none ∧ a.edit eps = (.misuse (.unknownTransition t), a)) ∨
      ∃ edge, a.graph.transition? t = some edge ∧
        ((edge.kind = .input ∧ a.edit eps = (.misuse (.notEpsilon t), a)) ∨
          (edge.kind = .epsilon ∧ a.edit eps = a.edit plain)) := by
  have hcheck : a.edit eps =
      match a.graph.ensureEpsilon t with
      | .ok _ => a.edit plain
      | .error problem => (.misuse problem, a) := by
    cases hv with
    | attach s => simp only [edit, attachEpsilon?]; cases a.graph.ensureEpsilon t <;> rfl
    | remove s => simp only [edit, removeEpsilon?]; cases a.graph.ensureEpsilon t <;> rfl
  cases ht : a.graph.transition? t with
  | none => exact .inl ⟨rfl, by simp [hcheck, Graph.ensureEpsilon, ht]⟩
  | some edge =>
    refine .inr ⟨edge, rfl, ?_⟩
    cases hkind : edge.kind with
    | input =>
      exact .inl ⟨rfl, by simp [hcheck, Graph.ensureEpsilon, ht, TransitionNode.isEpsilon, hkind]⟩
    | epsilon =>
      exact .inr ⟨rfl, by simp [hcheck, Graph.ensureEpsilon, ht, TransitionNode.isEpsilon, hkind]⟩

theorem EpsilonVariant.answer_iff {eps plain : Graph.Edit σ} (hv : EpsilonVariant t eps plain)
    (a : Automaton σ α) :
    ((a.edit eps).1 = .misuse (.unknownTransition t) ↔ a.graph.transition? t = none) ∧
      ((a.edit eps).1 = .misuse (.notEpsilon t) ↔
        ∃ edge, a.graph.transition? t = some edge ∧ edge.kind = .input) ∧
      ∀ edge, a.graph.transition? t = some edge → edge.kind = .epsilon →
        a.edit eps = a.edit plain := by
  obtain ⟨done, hdone⟩ := hv.answer_plain a
  rcases hv.edit_cases a with ⟨ht, heq⟩ | ⟨edge, ht, ⟨hkind, heq⟩ | ⟨hkind, heq⟩⟩
  · simp [heq, ht]
  · simp [heq, ht, hkind]
  · simp [heq, ht, hkind, hdone]

theorem answer_setStart (a : Automaton σ α) (h : Hub α) (r : StateId) :
    (a.call h (.setStart (some r))).1 =
      if a.graph.hasState r then .flag true else .misuse (.unknownState r) := by
  simp only [call, setStart]
  cases a.graph.hasState r <;> rfl

theorem answer_setStart_iff {start : Option StateId} :
    (a.call h (.setStart start)).1 = .misuse (.unknownState s) ↔
      start = some s ∧ a.graph.hasState s = false := by
  cases start with
  | none => simp [call, setStart]
  | some r =>
    rw [answer_setStart]
    grind

theorem answer_addTransition (a : Automaton σ α) (kind : TransitionKind) (target : StateId) :
    (a.edit (.addTransition kind target)).1 =
      if a.graph.hasState target then .transition ⟨a.graph.transitions.size⟩
      else .misuse (.unknownState target) := by
  simp only [edit, addTransition, Graph.addTransition]
  cases a.graph.hasState target <;> rfl

theorem answer_addTransition_iff {kind : TransitionKind} {target : StateId} :
    (a.edit (.addTransition kind target)).1 = .misuse (.unknownState s) ↔
      target = s ∧ a.graph.hasState s = false := by
  rw [answer_addTransition]
  grind

-- ---------------------------------------------------------------------------
-- Refusals
-- ---------------------------------------------------------------------------

def Call.isStructural : Call σ α → Bool
  | .edit _ | .setStart _ => true
  | _ => false

theorem edit_eq_of_isRefusal {e : Graph.Edit σ} (hr : (a.edit e).1.isRefusal = true) :
    (a.edit e).2 = a := by
  cases e with
  | addState data => cases hr
  | addTransition kind target =>
    simp only [edit] at hr ⊢
    cases hmade : a.addTransition kind target with
    | error problem => rfl
    | ok made =>
      rw [hmade] at hr
      cases hr
  | attach s t => exact Graph.accepted_eq_of_isRefusal hr
  | remove s t => exact Graph.accepted_eq_of_isRefusal hr
  | attachEpsilon s t => exact Graph.acceptedUnless_eq_of_isRefusal hr
  | removeEpsilon s t => exact Graph.acceptedUnless_eq_of_isRefusal hr

theorem call_eq_of_isRefusal (hc : c.isStructural = true)
    (hr : (a.call h c).1.isRefusal = true) : (a.call h c).2 = (a, h) := by
  cases c with
  | edit e => exact congrArg (·, h) (edit_eq_of_isRefusal hr)
  | setStart start =>
    cases hmoved : a.setStart start with
    | ok b => simp [call, hmoved, Answer.isRefusal] at hr
    | error problem => simp [call, hmoved]
  | _ => cases hc

-- ---------------------------------------------------------------------------
-- All of it
-- ---------------------------------------------------------------------------

/-- Edits and new start states are accepted on these conditions and no others, also where whole
nodes have been exchanged, and one that is refused leaves everything as it was. -/
theorem edits_are_accepted_exactly (a : Automaton σ α) (h : Hub α) :
    (∀ s t, a.Decides h (.edit (.attach s t)) (a.Attachable s t) fun b => a.Attached b s t) ∧
    (∀ s t, a.Decides h (.edit (.remove s t)) (a.Removable s t) fun b => a.Detached b s t) ∧
    (∀ t eps plain, EpsilonVariant t eps plain →
      ((a.call h (.edit eps)).1 = .misuse (.unknownTransition t) ↔
        a.graph.transition? t = none) ∧
      ((a.call h (.edit eps)).1 = .misuse (.notEpsilon t) ↔
        ∃ edge, a.graph.transition? t = some edge ∧ edge.kind = .input) ∧
      ∀ edge, a.graph.transition? t = some edge → edge.kind = .epsilon →
        a.call h (.edit eps) = a.call h (.edit plain)) ∧
    (∀ start s, (a.call h (.setStart start)).1 = .misuse (.unknownState s) ↔
      start = some s ∧ a.graph.hasState s = false) ∧
    (∀ kind target s,
      (a.call h (.edit (.addTransition kind target))).1 = .misuse (.unknownState s) ↔
        target = s ∧ a.graph.hasState s = false) ∧
    ∀ c, c.isStructural = true → (a.call h c).1.isRefusal = true → (a.call h c).2 = (a, h) := by
  refine ⟨fun s t => ?_, fun s t => ?_, fun t eps plain hv => ?_, fun start s => ?_,
    fun kind target s => ?_, fun c => call_eq_of_isRefusal⟩
  · exact decides_of_accepted rfl attach?_isSome_iff fun b => attached_attach?
  · exact decides_of_accepted rfl remove?_isSome_iff fun b => detached_remove?
  · obtain ⟨hunknown, hinput, hplain⟩ := hv.answer_iff a
    refine ⟨hunknown, hinput, fun edge ht hkind => ?_⟩
    simp only [call, hplain edge ht hkind]
  · exact answer_setStart_iff
  · exact answer_addTransition_iff

/-- What exchanges can leave behind. The first state has three transitions: one that nobody owns
and whose target does not exist, one that the second state owns, and one that does not exist.
The second state exists and is reached; it holds nothing. The owner of transition 1 does not
exist, and transition 2 is free. -/
def tangled : Automaton String Nat where
  graph :=
    { states := #[
        { data := "idle", isTerminal := false, outgoing := .ofList [⟨0⟩, ⟨3⟩, ⟨9⟩] },
        { data := "busy", isTerminal := false, outgoing := ∅ }]
      transitions := #[
        { id := ⟨0⟩, target := ⟨7⟩, kind := .epsilon },
        { id := ⟨1⟩, target := ⟨1⟩, kind := .input, owner := some ⟨5⟩ },
        { id := ⟨2⟩, target := ⟨1⟩, kind := .epsilon },
        { id := ⟨3⟩, target := ⟨1⟩, kind := .input, owner := some ⟨1⟩ }] }
  start := some ⟨0⟩
  current := some ⟨1⟩
  registry := ∅
  history := .withLimit none
  config := {}
  channel := ⟨0⟩

theorem edits_are_accepted_exactly_of_tangled :
    let a := tangled
    let h : Hub Nat := {}
    ⟨7⟩ ∈ a.states ∧ a.call h (.edit (.attach ⟨7⟩ ⟨2⟩)) = (.flag false, a, h) ∧
      a.graph.ownerOf ⟨0⟩ = none ∧ a.call h (.edit (.attach ⟨0⟩ ⟨0⟩)) = (.flag false, a, h) ∧
      (∃ b, a.call h (.edit (.attach ⟨1⟩ ⟨2⟩)) = (.flag true, b, h) ∧ a.Attached b ⟨1⟩ ⟨2⟩) ∧
      a.graph.ownerOf ⟨3⟩ = some ⟨1⟩ ∧
      a.call h (.edit (.remove ⟨1⟩ ⟨3⟩)) = (.flag false, a, h) ∧
      (∃ b, a.call h (.edit (.remove ⟨0⟩ ⟨3⟩)) = (.flag true, b, h) ∧ a.Detached b ⟨0⟩ ⟨3⟩) ∧
      (∃ b, a.call h (.edit (.remove ⟨0⟩ ⟨9⟩)) = (.flag true, b, h) ∧ a.Detached b ⟨0⟩ ⟨9⟩) ∧
      (a.call h (.edit (.removeEpsilon ⟨0⟩ ⟨9⟩))).1 = .misuse (.unknownTransition ⟨9⟩) ∧
      (a.call h (.edit (.removeEpsilon ⟨0⟩ ⟨9⟩))).2 = (a, h) := by
  intro a h
  obtain ⟨hattach, hremove, hepsilon, -, -, hrefused⟩ := edits_are_accepted_exactly a h
  obtain ⟨hunknown, -⟩ := hepsilon ⟨9⟩ _ _ (.remove ⟨0⟩)
  have hmisuse := hunknown.2 rfl
  refine ⟨by decide, (hattach ⟨7⟩ ⟨2⟩).refused (by decide), rfl,
    (hattach ⟨0⟩ ⟨0⟩).refused (by decide), (hattach ⟨1⟩ ⟨2⟩).done (by decide), rfl,
    (hremove ⟨1⟩ ⟨3⟩).refused (by decide), (hremove ⟨0⟩ ⟨3⟩).done (by decide),
    (hremove ⟨0⟩ ⟨9⟩).done (by decide), hmisuse, hrefused _ rfl ?_⟩
  rw [hmisuse]
  rfl

end Automaton

end EventAutomata
