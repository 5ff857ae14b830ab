import EventAutomata.Proofs.Automaton.Rewiring
import EventAutomata.Proofs.Automaton.Validation

/-!
# What a teardown reports

A teardown releases in two passes: the transitions that can be reached, one after the other,
and then whatever is left. The passes read different things, the first the graph and the
second the registry, and the two may have drifted apart. Nonetheless every subscription is
reported by one pass and by no other (`Registry.Lists.append_perm`). Something is left for
the second pass only if nodes have been exchanged.
-/

namespace EventAutomata

namespace Registry

variable {r : Registry} {keep : TransitionId → Prop} {t : TransitionId} {id : SubscriptionId}
  {ts : List TransitionId} {xs ys : List (TransitionId × SubscriptionId)}

/-- The subscriptions of some transitions, each listed once, in ascending order. -/
structure Lists (r : Registry) (keep : TransitionId → Prop)
    (xs : List (TransitionId × SubscriptionId)) : Prop where
  ascending : xs.Pairwise fun e f => e.1 < f.1
  mem_iff : ∀ {t id}, (t, id) ∈ xs ↔ r.get? t = some id ∧ keep t

theorem Lists.congr {keep' : TransitionId → Prop} (h : r.Lists keep xs)
    (hkeep : ∀ t, keep t ↔ keep' t) : r.Lists keep' xs :=
  ⟨h.ascending, by simp only [h.mem_iff, hkeep, implies_true]⟩

theorem Lists.nodup (h : r.Lists keep xs) : xs.Nodup :=
  h.ascending.imp fun hlt heq => Handle.ne_of_lt hlt (congrArg Prod.fst heq)

/-- Nothing is listed twice, and nothing is lost, between those that are kept and the rest. -/
theorem Lists.append_perm (hxs : r.Lists keep xs) (hys : r.Lists (fun t => ¬ keep t) ys) :
    (xs ++ ys).Perm r.toList := by
  have hall : r.Lists (fun _ => True) r.toList :=
    ⟨r.entries.ascending, HandleMap.mem_toList.trans (iff_of_eq (and_true _).symm)⟩
  have hnodup : (xs ++ ys).Nodup := by
    refine List.nodup_append.2 ⟨hxs.nodup, hys.nodup, ?_⟩
    rintro ⟨t, id⟩ hx e hy rfl
    exact (hys.mem_iff.1 hy).2 (hxs.mem_iff.1 hx).2
  refine (List.perm_ext_iff_of_nodup hnodup hall.nodup).2 fun ⟨t, id⟩ => ?_
  rw [List.mem_append, hxs.mem_iff, hys.mem_iff, hall.mem_iff]
  grind

theorem fst_release_cons (r : Registry) (t : TransitionId) (ts : List TransitionId) :
    (r.release (t :: ts)).1 =
      ((r.get? t).map fun id => (t, id)).toList ++ ((r.unsubscribe t).2.release ts).1 := rfl

theorem mem_release : (t, id) ∈ (r.release ts).1 ↔ r.get? t = some id ∧ t ∈ ts := by
  induction ts generalizing r with
  | nil => simp [release]
  | cons x ts ih =>
    rw [fst_release_cons, List.mem_append, ih, get?_unsubscribe, List.mem_cons]
    by_cases hx : t = x
    · subst hx
      cases r.get? t <;> simp [eq_comm]
    · simp [hx, Ne.symm hx]

theorem release_sublist (r : Registry) (ts : List TransitionId) :
    ((r.release ts).1.map Prod.fst).Sublist ts := by
  induction ts generalizing r with
  | nil => exact .slnil
  | cons t ts ih =>
    rw [fst_release_cons]
    cases r.get? t with
    | none => exact (ih _).cons t
    | some id => exact (ih _).cons_cons t

theorem lists_release (r : Registry) (ts : HandleSet .transition) :
    r.Lists (· ∈ ts) (r.release ts.toList).1 :=
  ⟨List.pairwise_map.1 (ts.ascending.sublist (r.release_sublist _)), mem_release⟩

theorem lists_drain_release (r : Registry) (ts : HandleSet .transition) :
    r.Lists (¬ · ∈ ts) (r.release ts.toList).2.drain.1 := by
  refine ⟨HandleMap.ascending _, fun {t id} => ?_⟩
  rw [snd_release]
  refine HandleMap.mem_toList.trans ?_
  show (r.unsubscribeAll ts.toList).get? t = some id ↔ _
  rw [(r.unsubscribeAll_eq _).2, HandleSet.mem_def]
  split <;> simp_all

end Registry

namespace Automaton

variable {σ α : Type} {a : Automaton σ α} {t : TransitionId}

def InReach (a : Automaton σ α) (t : TransitionId) : Prop :=
  ∃ s, a.start = some s ∧ t ∈ a.graph.reachableTransitions s .withEpsilon

theorem mem_transitions_iff_inReach : t ∈ a.transitions ↔ a.InReach t := by
  unfold transitions reachableFrom InReach
  cases a.start <;> simp

/-- The two lists of a report divide the registry. -/
theorem lists_teardown (a : Automaton σ α) :
    a.registry.Lists a.InReach a.teardown.1.released ∧
      a.registry.Lists (¬ a.InReach ·) a.teardown.1.orphaned :=
  ⟨(a.registry.lists_release a.transitions).congr fun _ => mem_transitions_iff_inReach,
    (a.registry.lists_drain_release a.transitions).congr fun _ =>
      not_congr mem_transitions_iff_inReach⟩

theorem Tracked.orphaned_teardown (ha : a.Tracked) : a.teardown.1.orphaned = [] := by
  refine List.eq_nil_iff_forall_not_mem.2 fun ⟨t, id⟩ he => ?_
  obtain ⟨hid, hout⟩ := a.lists_teardown.2.mem_iff.1 he
  exact hout (mem_transitions_iff_inReach.1 (ha.subscribed_iff.2 ⟨id, hid⟩))

theorem Tracked.count_teardown (ha : a.Tracked) :
    a.teardown.1.count = a.transitions.size := by
  have hperm := a.lists_teardown.1.append_perm a.lists_teardown.2
  rw [TeardownReport.count, ← List.length_append, hperm.length_eq, ← ha.registry]
  exact (List.length_map _).symm

theorem teardown_teardown (a : Automaton σ α) : a.teardown.2.teardown = ({}, a.teardown.2) := by
  rw [teardown_eq]
  rfl

variable [Payload σ]

/-- A teardown reports every subscription with its number: first those of the transitions that
can be reached and then the others, each in ascending order. It leaves an empty registry, no
start state and no current one, and everything else as it was. A second one does nothing.
Without exchanged nodes there are no others. -/
theorem teardown_reports_whole_registry (a : Automaton σ α) (h : Hub α) :
    ∃ report b, a.call h .teardown = (.report report, b, h) ∧
      a.registry.Lists a.InReach report.released ∧
      a.registry.Lists (¬ a.InReach ·) report.orphaned ∧
      (report.released ++ report.orphaned).Perm a.registry.toList ∧
      b = { a with start := none, current := none, registry := { nextId := a.registry.nextId } } ∧
      b.call h .teardown = (.report {}, b, h) ∧
      ∀ config hub turns, a = (live (create config hub) turns).1 →
        report.orphaned = [] ∧ report.count = a.transitions.size := by
  refine ⟨a.teardown.1, a.teardown.2, rfl, a.lists_teardown.1, a.lists_teardown.2,
    a.lists_teardown.1.append_perm a.lists_teardown.2, a.teardown_eq, ?_, ?_⟩
  · simp only [call, teardown_teardown]
  · rintro config hub turns rfl
    have ha := tracked_live config hub turns
    exact ⟨ha.orphaned_teardown, ha.count_teardown⟩

/-- One subscription is released on the way, one is left over. After a life without exchanged
nodes all three are released on the way. -/
theorem teardown_reports_whole_registry_of_adrift :
    (∃ b, adrift.call {} .teardown = (.report ⟨[(⟨3⟩, ⟨0⟩)], [(⟨8⟩, ⟨1⟩)]⟩, b, {}) ∧
      b.registry.toList = [] ∧ b.registry.nextId = 2 ∧
      b.call {} .teardown = (.report {}, b, {})) ∧
    ∃ report b, (afterTurns cycleTurns).call {} .teardown = (.report report, b, {}) ∧
      report.orphaned = [] ∧ report.count = 3 := by
  obtain ⟨report, b, hcall, -, -, -, hb, hagain, -⟩ := teardown_reports_whole_registry adrift {}
  obtain ⟨report', b', hcall', -, -, -, -, -, hlived⟩ :=
    teardown_reports_whole_registry (afterTurns cycleTurns) {}
  obtain ⟨horphaned, hcount⟩ := hlived {} {} cycleTurns rfl
  have hanswer : (adrift.call {} .teardown).1 = .report ⟨[(⟨3⟩, ⟨0⟩)], [(⟨8⟩, ⟨1⟩)]⟩ := rfl
  have hsize : (afterTurns cycleTurns).transitions.size = 3 := by decide +kernel
  rw [hcall] at hanswer
  cases hanswer
  exact ⟨⟨b, hcall, by rw [hb]; rfl, by rw [hb]; rfl, hagain⟩,
    report', b', hcall', horphaned, hcount.trans hsize⟩

end Automaton

end EventAutomata
