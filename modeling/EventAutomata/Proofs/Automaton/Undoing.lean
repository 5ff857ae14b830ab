import EventAutomata.Proofs.Automaton.Acceptance
import EventAutomata.Proofs.Automaton.CutOff

/-!
# Attaching and removing undo each other

A transition that is attached can be removed at once, and one that is removed can be attached
again at once: no path to the state that holds it needs it. The graph is then what it was
(`Relinked.undone`). So is what can be reached, and with it the set of what is subscribed.

The other parts come back as far as they have been kept. After a removal nothing tells which
subscriptions there had been, nor where the current state was.
-/

namespace EventAutomata

namespace Graph

variable {σ α : Type} {g g' g'' : Graph σ α} {s u : StateId} {t : TransitionId}
  {ts : List TransitionId}

theorem ext_named (hs : ∀ s, g'.state? s = g.state? s)
    (ht : ∀ t, g'.transition? t = g.transition? t) : g' = g := by
  obtain ⟨states, transitions⟩ := g
  obtain ⟨states', transitions'⟩ := g'
  have hstates : states' = states := Array.ext_getElem? fun i => hs ⟨i⟩
  have htransitions : transitions' = transitions := Array.ext_getElem? fun i => ht ⟨i⟩
  rw [hstates, htransitions]

/-- The set and the owner are changed, and changed back. -/
theorem Relinked.undone {change back : HandleSet .transition → HandleSet .transition}
    {owner : Option StateId} (h : g.Relinked g' s t change owner)
    (h' : g'.Relinked g'' s t back (g.ownerOf t))
    (hback : ∀ node, g.state? s = some node → back (change node.outgoing) = node.outgoing) :
    g'' = g := by
  refine ext_named (fun u => ?_) fun x => ?_
  · simp only [h'.state, h.state]
    by_cases hu : u = s
    · subst hu
      cases hs : g.state? u with
      | none => simp
      | some node => simp [hback node hs]
    · simp [hu]
  · simp only [h'.transition, h.transition]
    by_cases hx : x = t
    · subst hx
      cases ht : g.transition? x <;> simp [ht, ownerOf]
    · simp [hx]

theorem remove?_attach? (h : g.attach? s t = some g') : g'.remove? s t = some g := by
  have hheld : g'.Holds s t := (holds_attach? h).2 (.inl ⟨rfl, rfl⟩)
  obtain ⟨g'', hg⟩ := Option.isSome_iff_exists.1 (remove?_isSome_iff.2 hheld)
  have hback := relinked_remove? hg
  rw [← ownerOf_eq_none_of_attach? h] at hback
  rw [hg, (relinked_attach? h).undone hback]
  intro node hs
  obtain ⟨node', -, hs', -, -, hnot, -⟩ := attach?_eq_some h
  cases hs.symm.trans hs'
  exact HandleSet.erase_insert hnot

theorem WellFormed.attach?_remove? (hg : g.WellFormed) (h : g.remove? s t = some g') :
    g'.attach? s t = some g := by
  have hheld := holds_of_remove? h
  have hgone := relinked_remove? h
  have hexists : (g'.transition? t).isSome = true := by
    simpa [hgone.transition] using hg.held_exists hheld
  have hfree : ¬ g'.Holds s t := fun hagain => ((holds_remove? h).1 hagain).2 ⟨rfl, rfl⟩
  obtain ⟨g'', hg'⟩ := Option.isSome_iff_exists.1 (attach?_isSome_iff.2
    ⟨(hasState_remove? h s).trans hheld.hasState, hexists, by simp [ownerOf_remove? h], hfree⟩)
  have hback := relinked_attach? hg'
  rw [← (hg.holds_iff s t).1 hheld] at hback
  rw [hg', hgone.undone hback]
  intro node hs
  obtain ⟨node', hs', hmem, -⟩ := remove?_eq_some h
  cases hs.symm.trans hs'
  exact HandleSet.insert_erase hmem

/-- A trail that takes the transition has been at the state that holds it before. -/
theorem Trail.exists_without {follows : TransitionNode α → Bool} (h : g.Trail follows u ts s)
    (hg : g.WellFormed) (hheld : g.Holds s t) : ∃ ts', g.Trail follows u ts' s ∧ ¬ t ∈ ts' := by
  induction h with
  | nil => exact ⟨[], .nil, List.not_mem_nil⟩
  | @cons u v w x ts hleg _ ih =>
    by_cases hx : x = t
    · subst hx
      rw [hg.holder_unique hleg.1 hheld]
      exact ⟨[], .nil, List.not_mem_nil⟩
    · obtain ⟨ts', htrail, hnot⟩ := ih hheld
      exact ⟨x :: ts', .cons hleg htrail, by simp [Ne.symm hx, hnot]⟩

end Graph

theorem Registry.nextId_reconcile_of_subset {before after : HandleSet .transition} (r : Registry)
    (h : after ⊆ before) : (r.reconcile before after).nextId = r.nextId := by
  have hnone : (after \ before).toList = [] := by
    refine List.eq_nil_iff_forall_not_mem.2 fun x hx => ?_
    obtain ⟨hafter, hbefore⟩ := HandleSet.mem_diff.1 (HandleSet.mem_def.2 hx)
    exact hbefore (h x hafter)
  rw [reconcile, hnone]
  exact (r.unsubscribeAll_eq _).1

namespace Automaton

variable {σ α : Type} {a b : Automaton σ α} {s : StateId} {t x : TransitionId}

theorem attach?_of_graph {g : Graph σ α} (hs : s ∈ a.states) (hg : a.graph.attach? s t = some g) :
    a.attach? s t = some (a.rewire g) := by
  simp [Automaton.attach?, hs, hg]

theorem remove?_of_graph {g : Graph σ α} (hs : s ∈ a.states) (hg : a.graph.remove? s t = some g) :
    a.remove? s t = some (a.rewire g).dropStrandedCursor := by
  simp [Automaton.remove?, hs, hg]

theorem CursorInside.filter_current (hc : a.CursorInside) :
    a.current.filter (· ∈ a.states) = a.current := by
  cases hcur : a.current with
  | none => rfl
  | some c => simp [hc c hcur]

/-- The entries are those of before if all that can be reached has kept its subscription. -/
theorem Tracked.entries_eq (ha : a.Tracked) (hb : b.Tracked)
    (hreach : b.transitions = a.transitions)
    (hsame : ∀ x ∈ a.transitions, b.subscription? x = a.subscription? x) :
    b.registry.entries = a.registry.entries := by
  refine HandleMap.ext_get? fun x => ?_
  by_cases hx : x ∈ a.transitions
  · exact hsame x hx
  · have hx' : ¬ x ∈ b.transitions := by rwa [hreach]
    exact (hb.subscription?_eq_none hx').trans (ha.subscription?_eq_none hx).symm

theorem Tracked.bounds_of_gained {id : SubscriptionId} (ha : a.Tracked)
    (h : a.attach? s t = some b) (hx : ¬ x ∈ a.transitions) (hid : b.subscription? x = some id) :
    a.registry.nextId ≤ id.number ∧ id.number < b.registry.nextId := by
  obtain ⟨ts, hts⟩ := turnsOver_attach? h
  rcases hts.kept hid with hold | hnew
  · exact absurd (ha.subscribed_iff.2 ⟨id, hold⟩) hx
  · rw [hts.nextId]
    exact Registry.bounds_of_mem_numbered hnew

-- ---------------------------------------------------------------------------
-- What a removal leaves within reach
-- ---------------------------------------------------------------------------

theorem Tracked.holder_mem_states_remove? (ha : a.Tracked) (h : a.remove? s t = some b) :
    s ∈ b.states := by
  obtain ⟨hs, g, hg, -⟩ := remove?_eq_some h
  obtain ⟨r, hr, hreach⟩ := mem_states.1 hs
  obtain ⟨-, ts, htrail⟩ := Graph.mem_reachableStates_iff_trail.1 hreach
  obtain ⟨ts', htrail', hnot⟩ := htrail.exists_without ha.graph (Graph.holds_of_remove? hg)
  exact (ha.mem_states_remove? h).2 ⟨r, ts', hr, htrail', hnot⟩

/-- A transition stays within reach if a state that holds it does not hang by the other one. -/
def StaysWithout (a : Automaton σ α) (t x : TransitionId) : Prop :=
  x ≠ t ∧ ∃ u, a.graph.Holds u x ∧ ¬ a.HangsBy t u

variable [Payload σ]

theorem Tracked.staysWithout_iff (ha : a.Tracked) (h : a.remove? s t = some b) :
    a.StaysWithout t x ↔ x ∈ b.transitions := by
  rw [ha.mem_transitions_remove? h]
  refine and_congr_right fun _ => exists_congr fun u => ?_
  rw [ha.graph.holds_iff, ← ha.not_mem_states_remove? h, not_not, and_comm]

theorem Tracked.nextId_remove? (ha : a.Tracked) (h : a.remove? s t = some b) :
    b.registry.nextId = a.registry.nextId := by
  have hframe := congrArg Automaton.registry (detached_remove? h).frame
  rw [hframe]
  exact a.registry.nextId_reconcile_of_subset (ha.remove?_subset h)

-- ---------------------------------------------------------------------------
-- Attached and removed
-- ---------------------------------------------------------------------------

theorem Tracked.nextId_lt_attach? (ha : a.Tracked) (h : a.attach? s t = some b) :
    a.registry.nextId < b.registry.nextId := by
  obtain ⟨edge, -, -, htransitions⟩ := ha.reach_attach? h
  obtain ⟨-, g, hg, -⟩ := attach?_eq_some h
  have ht : ¬ t ∈ a.transitions := by
    simp [ha.mem_transitions_iff_owner, Graph.ownerOf_eq_none_of_attach? hg]
  have ht' : t ∈ b.transitions := by simp [htransitions]
  obtain ⟨id, hid⟩ := (ha.attach? h).subscribed_iff.1 ht'
  obtain ⟨hle, hlt⟩ := ha.bounds_of_gained h ht hid
  exact Nat.lt_of_le_of_lt hle hlt

/-- The current state was inside, so it is found inside again. -/
theorem Tracked.remove?_attach? (ha : a.Tracked) (hc : a.CursorInside)
    (h : a.attach? s t = some b) :
    b.remove? s t =
      some { a with registry := { a.registry with nextId := b.registry.nextId } } := by
  have hb : b.Tracked := ha.attach? h
  obtain ⟨registry, current, hz⟩ :
      ∃ registry current, b.remove? s t = some { a with registry, current } := by
    obtain ⟨edge, -, hstates, -⟩ := ha.reach_attach? h
    obtain ⟨hs, g, hg, rfl⟩ := attach?_eq_some h
    have hs' : s ∈ (a.rewire g).states := by simp [hstates, hs]
    rw [remove?_of_graph hs' (Graph.remove?_attach? hg), dropStrandedCursor_eq]
    exact ⟨_, _, rfl⟩
  have hcurrent : current = a.current := by
    have hkept : b.current = a.current := by rw [(attached_attach? h).frame]
    have hfiltered := current_remove? hz
    rw [hkept] at hfiltered
    exact hfiltered.trans hc.filter_current
  have hentries : registry.entries = a.registry.entries := by
    refine ha.entries_eq (hb.remove? hz) rfl fun x hx => ?_
    have hx' := ha.subset_attach? h x hx
    rw [hb.subscription?_eq (hb.remove? hz) (turnsOver_remove? hz) hx' hx,
      ha.subscription?_eq hb (turnsOver_attach? h) hx hx']
  have hregistry : registry = { a.registry with nextId := b.registry.nextId } :=
    Registry.ext hentries (hb.nextId_remove? hz)
  rw [hz, hcurrent, hregistry]

-- ---------------------------------------------------------------------------
-- Removed and attached
-- ---------------------------------------------------------------------------

/-- What the second automaton has of the first one, of which a transition was removed and
attached again when the numbers listed had been given. -/
structure Mended (a m : Automaton σ α) (t : TransitionId) (given : List SubscriptionId) :
    Prop where
  frame : m = { a with registry := m.registry, current := m.current }
  subscribed : m.registry.transitions = a.registry.transitions
  kept : ∀ x, a.StaysWithout t x → m.subscription? x = a.subscription? x
  renewed : ∀ x id, ¬ a.StaysWithout t x → m.subscription? x = some id → ∀ old ∈ given, old < id
  idle : a.current = none → m.current = none
  cursor : ∀ c, a.current = some c →
    (a.HangsBy t c ∧ m.current = none) ∨ (¬ a.HangsBy t c ∧ m.current = some c)

theorem Tracked.attach?_remove? {given : List SubscriptionId} (ha : a.Tracked)
    (h : a.remove? s t = some b) (hgiven : ∀ id ∈ given, id.number < b.registry.nextId) :
    ∃ m, b.attach? s t = some m ∧ a.Mended m t given := by
  have hb : b.Tracked := ha.remove? h
  obtain ⟨registry, hm⟩ :
      ∃ registry, b.attach? s t = some { a with registry, current := b.current } := by
    have hs := ha.holder_mem_states_remove? h
    obtain ⟨-, g, hg, rfl⟩ := remove?_eq_some h
    rw [dropStrandedCursor_eq] at hs ⊢
    rw [attach?_of_graph hs (ha.graph.attach?_remove? hg)]
    exact ⟨_, rfl⟩
  have hcurrent := current_remove? h
  refine ⟨_, hm, rfl, ?_, fun x hx => ?_, fun x id hx hid old hold => ?_, fun hnone => ?_,
    fun c hc => ?_⟩
  · exact (hb.attach? hm).registry.trans ha.registry.symm
  · have hin := (ha.staysWithout_iff h).1 hx
    have hin' := ha.remove?_subset h x hin
    rw [hb.subscription?_eq (hb.attach? hm) (turnsOver_attach? hm) hin hin',
      ha.subscription?_eq hb (turnsOver_remove? h) hin' hin]
  · have hout : ¬ x ∈ b.transitions := fun hin => hx ((ha.staysWithout_iff h).2 hin)
    exact Nat.lt_of_lt_of_le (hgiven old hold) (hb.bounds_of_gained hm hout hid).1
  · simp [hcurrent, hnone]
  · rw [← ha.not_mem_states_remove? h]
    by_cases hin : c ∈ b.states
    · exact .inr ⟨not_not.2 hin, by simp [hcurrent, hc, hin]⟩
    · exact .inl ⟨hin, by simp [hcurrent, hc, hin]⟩

-- ---------------------------------------------------------------------------
-- In a life
-- ---------------------------------------------------------------------------

theorem call_edit_accepted {h k : Hub α} {e : Graph.Edit σ} {new? : Option (Automaton σ α)}
    (he : a.edit e = Graph.accepted a new?) :
    a.call h (.edit e) = (.flag true, b, k) ↔ new? = some b ∧ k = h := by
  have hnew : Graph.accepted a new? = (.flag true, b) ↔ new? = some b := Graph.accepted_eq_true
  simp only [call, he]
  rw [← hnew, Prod.ext_iff, Prod.ext_iff, Prod.ext_iff]
  grind

theorem answer_edit_accepted {h : Hub α} {e : Graph.Edit σ} {new? : Option (Automaton σ α)}
    (hnew : new?.isSome = true) (he : a.edit e = Graph.accepted a new?) :
    (a.call h (.edit e)).1 = .flag true := by
  simp [call, he, Graph.accepted_answer, hnew]

/-- To attach a transition and then remove it changes the next number only, and to remove one
and then attach it mends the automaton. Either can be undone at once. -/
theorem attach_and_remove_undo_each_other (config : AutomatonConfig) (hub : Hub α)
    (turns : List (Turn σ α)) (hc : (live (create config hub) turns).1.CursorInside)
    (s : StateId) (t : TransitionId) :
    let x := live (create config hub) turns
    let a := x.1
    (∀ b k, a.call x.2 (.edit (.attach s t)) = (.flag true, b, k) →
      a.registry.nextId < b.registry.nextId ∧
      b.call k (.edit (.remove s t)) =
        (.flag true, { a with registry := { a.registry with nextId := b.registry.nextId } },
          x.2)) ∧
    ∀ b k, a.call x.2 (.edit (.remove s t)) = (.flag true, b, k) →
      ∃ m, b.call k (.edit (.attach s t)) = (.flag true, m, x.2) ∧
        a.Mended m t (issuedOver (create config hub)
          ((turns ++ [Turn.call (.edit (.remove s t))]).map .turn)) := by
  intro x a
  have ha : a.Tracked := tracked_live config hub turns
  constructor
  · intro b k hb
    obtain ⟨h, rfl⟩ := (call_edit_accepted rfl).1 hb
    exact ⟨ha.nextId_lt_attach? h, (call_edit_accepted rfl).2 ⟨ha.remove?_attach? hc h, rfl⟩⟩
  · intro b k hb
    obtain ⟨h, rfl⟩ := (call_edit_accepted rfl).1 hb
    have hgiven : ∀ id ∈ issuedOver (create config hub)
        ((turns ++ [Turn.call (.edit (.remove s t))]).map .turn), id.number < b.registry.nextId := by
      intro id hid
      have hlt := mem_issuedOver_create.1 hid
      rwa [← live_eq_undergoAll, live_append_call, hb] at hlt
    obtain ⟨m, hm, hmended⟩ := ha.attach?_remove? h hgiven
    exact ⟨m, (call_edit_accepted rfl).2 ⟨hm, rfl⟩, hmended⟩

def drivenTurns : List (Turn String Nat) := cycleTurns ++ [.call (.transit ⟨0⟩ [])]

def cutOffTurns : List (Turn String Nat) := drivenTurns ++ [cutTurn]

/-- The way to the cycle is taken away, given back, and taken away again. -/
theorem attach_and_remove_undo_each_other_on_cycle :
    let whole := live (create {} {}) drivenTurns
    let cut := live (create {} {}) cutOffTurns
    let mended := live (create {} {}) (cutOffTurns ++ [mendTurn])
    whole.1.current = some ⟨1⟩ ∧
      whole.1.call whole.2 (.edit (.remove ⟨0⟩ ⟨0⟩)) = (.flag true, cut) ∧
      cut.1.call cut.2 (.edit (.attach ⟨0⟩ ⟨0⟩)) = (.flag true, mended) ∧
      whole.1.Mended mended.1 ⟨0⟩ (issuedOver (create {} {}) (cutOffTurns.map .turn)) ∧
      mended.1.current = none ∧
      mended.1.registry.toList = [(⟨0⟩, ⟨3⟩), (⟨1⟩, ⟨4⟩), (⟨2⟩, ⟨5⟩)] ∧
      mended.1.call mended.2 (.edit (.remove ⟨0⟩ ⟨0⟩)) =
        (.flag true, { cut.1 with registry := { cut.1.registry with nextId := 6 } }, cut.2) := by
  intro whole cut mended
  have hremovable : (whole.1.remove? ⟨0⟩ ⟨0⟩).isSome = true := by decide +kernel
  have hattachable : (cut.1.attach? ⟨0⟩ ⟨0⟩).isSome = true := by decide +kernel
  have hcut : whole.1.call whole.2 (.edit (.remove ⟨0⟩ ⟨0⟩)) = (.flag true, cut) :=
    call_live (answer_edit_accepted hremovable rfl)
  have hmend : cut.1.call cut.2 (.edit (.attach ⟨0⟩ ⟨0⟩)) = (.flag true, mended) :=
    call_live (answer_edit_accepted hattachable rfl)
  have hinside : whole.1.CursorInside := cursorInside_live (.inl rfl)
  have hinside' : cut.1.CursorInside := cursorInside_live (.inl rfl)
  obtain ⟨-, hremoved⟩ := attach_and_remove_undo_each_other {} {} drivenTurns hinside ⟨0⟩ ⟨0⟩
  obtain ⟨hattached, -⟩ := attach_and_remove_undo_each_other {} {} cutOffTurns hinside' ⟨0⟩ ⟨0⟩
  obtain ⟨m, hm, hmended⟩ := hremoved cut.1 cut.2 hcut
  obtain ⟨-, hback⟩ := hattached mended.1 mended.2 hmend
  have hsame : m = mended.1 := congrArg (·.2.1) (hm.symm.trans hmend)
  have hnext : mended.1.registry.nextId = 6 := by decide +kernel
  rw [hnext] at hback
  exact ⟨by decide +kernel, hcut, hmend, hsame ▸ hmended, by decide +kernel, by decide +kernel,
    hback⟩

end Automaton

end EventAutomata
