import EventAutomata.Registry

/-!
# Reconciling a registry

What reconciling does to the set of transitions that are subscribed, for any registry
and any two sets: what only the first holds is taken away, what only the second holds
is put in, and all else stays as it was (`mem_transitions_reconcile`). A registry that
was right for the first set is right for the second afterwards.
-/

namespace EventAutomata

namespace Registry

variable {r : Registry} {t x : TransitionId} {ts : List TransitionId}

theorem contains_subscribe : (r.subscribe t).2.contains x = true ↔ x = t ∨ r.contains x = true := by
  simp only [contains_eq, get?_subscribe]
  by_cases hx : x = t
  · subst hx
    by_cases hc : (r.get? x).isSome = true <;> simp [hc]
  · simp [hx]

theorem contains_unsubscribe :
    (r.unsubscribe t).2.contains x = true ↔ x ≠ t ∧ r.contains x = true := by
  simp only [contains_eq, get?_unsubscribe]
  by_cases hx : x = t <;> simp [hx]

theorem contains_subscribeAll :
    (r.subscribeAll ts).contains x = true ↔ x ∈ ts ∨ r.contains x = true := by
  induction ts generalizing r with
  | nil => simp [subscribeAll]
  | cons t ts ih =>
    have hstep : r.subscribeAll (t :: ts) = (r.subscribe t).2.subscribeAll ts := rfl
    rw [hstep, ih, contains_subscribe, List.mem_cons]
    grind

theorem contains_unsubscribeAll :
    (r.unsubscribeAll ts).contains x = true ↔ ¬ x ∈ ts ∧ r.contains x = true := by
  induction ts generalizing r with
  | nil => simp [unsubscribeAll]
  | cons t ts ih =>
    have hstep : r.unsubscribeAll (t :: ts) = (r.unsubscribe t).2.unsubscribeAll ts := rfl
    rw [hstep, ih, contains_unsubscribe, List.mem_cons]
    grind

theorem mem_transitions_reconcile {before after : HandleSet .transition} :
    t ∈ (r.reconcile before after).transitions ↔
      (t ∈ r.transitions ∧ ¬ (t ∈ before ∧ ¬ t ∈ after)) ∨ (t ∈ after ∧ ¬ t ∈ before) := by
  rw [reconcile, mem_transitions, mem_transitions, contains_subscribeAll, contains_unsubscribeAll,
    ← HandleSet.mem_def, ← HandleSet.mem_def, HandleSet.mem_diff, HandleSet.mem_diff]
  grind

theorem transitions_reconcile (after : HandleSet .transition) :
    (r.reconcile r.transitions after).transitions = after := by
  refine HandleSet.ext_mem fun t => ?_
  rw [mem_transitions_reconcile]
  grind

end Registry

end EventAutomata
