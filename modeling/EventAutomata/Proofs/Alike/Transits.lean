import EventAutomata.Proofs.Alike.Graphs
import EventAutomata.Proofs.Alike.Hubs
import EventAutomata.Proofs.Automaton.Attempts

/-!
# Transits of automata that are alike

Automata are alike in the sense of a `Likeness` if they agree on all that a transit goes by:
the graph behind its veil, the start and the current state, the registry and the channel. In
configuration and history they may differ as the likeness says, and it must be one that adding
records respects.

A transit of one is then matched by the same transit of the other, callback by callback
(`Alike.transit`), and so are deliveries and everything that is made of them. Only the
policy can come between them: where one automaton refuses what the other takes they part.
-/

namespace EventAutomata

open EventAutomata.Time
open List (Forall₂)
open Relation (ReflTransGen)

def TransitRecord.Alike (timed : Bool) (r s : TransitRecord) : Prop :=
  r.trip = s.trip ∧ (timed = true → r.timestamp = s.timestamp)

theorem TransitRecord.map_trip_eq {timed : Bool} {rs ss : List TransitRecord}
    (h : Forall₂ (TransitRecord.Alike timed) rs ss) : rs.map trip = ss.map trip := by
  induction h with
  | nil => rfl
  | cons hr _ ih => rw [List.map_cons, List.map_cons, hr.1, ih]

theorem keepLast_rel {β γ : Type} {R : β → γ → Prop} {xs : List β} {ys : List γ}
    (limit : Option Nat) (h : Forall₂ R xs ys) : Forall₂ R (keepLast limit xs) (keepLast limit ys) := by
  cases limit with
  | none => exact h
  | some n =>
    rw [keepLast, keepLast, h.length_eq]
    exact List.forall₂_drop _ h

namespace History

variable {timed : Bool} {h k : History}

/-- The histories have the same limit and list the same trips, at the same times if these are
compared. -/
structure Alike (timed : Bool) (h k : History) : Prop where
  limit : h.limit = k.limit
  records : Forall₂ (TransitRecord.Alike timed) h.records k.records

theorem Alike.refl (h : History) : h.Alike timed h :=
  ⟨rfl, List.forall₂_same.2 fun _ _ => ⟨rfl, fun _ => rfl⟩⟩

theorem Alike.length_eq (hk : Alike timed h k) : h.length = k.length := by
  simpa using hk.records.length_eq

theorem Alike.trips_eq (hk : Alike timed h k) : h.trips = k.trips :=
  TransitRecord.map_trip_eq hk.records

theorem Alike.path_eq (hk : Alike timed h k) : h.path = k.path := by
  rw [History.path_eq, History.path_eq, hk.trips_eq]

theorem Alike.record (hk : Alike timed h k) {r s : TransitRecord} (hr : r.Alike timed s) :
    (h.record r).Alike timed (k.record s) := by
  refine ⟨?_, ?_⟩
  · rw [limit_record, limit_record, hk.limit]
  · by_cases hl : h.limit = some 0
    · rw [record_of_zero hl, record_of_zero (hk.limit ▸ hl)]
      exact hk.records
    · rw [records_record_of_ne_zero hl, records_record_of_ne_zero (hk.limit ▸ hl), hk.limit]
      exact keepLast_rel _ (List.rel_append hk.records (.cons hr .nil))

end History

/-- In what automata that are alike may differ. -/
structure Likeness where
  /-- Guards and terminal flags are compared. -/
  seen : Bool
  /-- Times are compared. -/
  timed : Bool
  config : AutomatonConfig → AutomatonConfig → Prop
  history : History → History → Prop
  config_refl : ∀ c, config c c
  policy : ∀ {c d}, config c d → c.policy = d.policy ∨ d.policy = .permissive
  fresh : ∀ {c d}, config c d → history (.withLimit c.historyLimit) (.withLimit d.historyLimit)
  record : ∀ {h k r s}, history h k → r.Alike timed s → history (h.record r) (k.record s)

variable {σ α : Type} {ℓ : Likeness}

namespace Automaton

structure Alike (ℓ : Likeness) (a b : Automaton σ α) : Prop where
  graph : a.graph.Alike ℓ.seen b.graph
  start : a.start = b.start
  current : a.current = b.current
  registry : a.registry = b.registry
  channel : a.channel = b.channel
  config : ℓ.config a.config b.config
  history : ℓ.history a.history b.history

def Matched (ℓ : Likeness) {β : Type} (x y : β × Automaton σ α × Hub α) : Prop :=
  ∃ result a h b k, x = (result, a, h) ∧ y = (result, b, k) ∧ a.Alike ℓ b ∧ h.Alike ℓ.timed k

theorem alike_create {c d : AutomatonConfig} {h k : Hub α} (hc : ℓ.config c d)
    (hk : h.Alike ℓ.timed k) :
    let x : Automaton σ α × Hub α := create c h
    let y := create d k
    x.1.Alike ℓ y.1 ∧ x.2.Alike ℓ.timed y.2 := by
  obtain ⟨channel, h', k', hh, hk, hhub⟩ := hk.map (f := Hub.newChannel) Hub.newChannel_atTime
  simp only [create, hh, hk]
  exact ⟨⟨.refl _, rfl, rfl, rfl, rfl, hc, ℓ.fresh hc⟩, hhub⟩

end Automaton

namespace Graph

variable [Payload σ] {g g' : Graph σ α} {seen : Bool} {timed : Bool}
  {h k : Hub α}

theorem Alike.runExit (hg : g.Alike seen g') (hk : h.Alike timed k) (c : TransitContext) :
    ∃ result h' k', g.runExit c h = (result, h') ∧ g'.runExit c k = (result, k') ∧
      h'.Alike timed k' := by
  have hsame : g.runExit c = g'.runExit c := hg.same (f := fun g => g.runExit c) fun g => by
    funext h
    unfold Graph.runExit
    cases c.source with
    | none => rfl
    | some s =>
      dsimp only
      rw [state?_veil]
      cases g.state? s <;> rfl
  rw [← hsame]
  refine hk.map fun h time => ?_
  unfold Graph.runExit
  split
  · rfl
  · split
    · rfl
    · exact Script.runIfSet_atTime ..

omit [Payload σ] in
theorem Alike.runTransit (hg : g.Alike seen g') (hk : h.Alike timed k) (c : TransitContext)
    (args : List α) :
    ∃ result h' k', g.runTransit c args h = (result, h') ∧ g'.runTransit c args k = (result, k') ∧
      h'.Alike timed k' := by
  have hsame : g.runTransit c args = g'.runTransit c args :=
    hg.same (f := fun g => g.runTransit c args) fun g => by
      funext h
      unfold Graph.runTransit
      rw [transition?_veil]
      cases g.transition? c.transition <;> rfl
  rw [← hsame]
  refine hk.map fun h time => ?_
  unfold Graph.runTransit
  split
  · rfl
  · exact Script.runIfSet_atTime ..

theorem Alike.runEntry (hg : g.Alike seen g') (hk : h.Alike timed k) (c : TransitContext) :
    ∃ result h' k', g.runEntry c h = (result, h') ∧ g'.runEntry c k = (result, k') ∧
      h'.Alike timed k' := by
  have hsame : g.runEntry c = g'.runEntry c := hg.same (f := fun g => g.runEntry c) fun g => by
    funext h
    unfold Graph.runEntry
    rw [state?_veil]
    cases g.state? c.target <;> rfl
  rw [← hsame]
  refine hk.map fun h time => ?_
  unfold Graph.runEntry
  split
  · rfl
  · exact Script.runIfSet_atTime ..

end Graph

namespace Automaton

variable [Payload σ] {a b : Automaton σ α} {h k : Hub α}

theorem Alike.moveTo (ha : a.Alike ℓ b) (hk : h.Alike ℓ.timed k) (target : StateId)
    (t : TransitionId) (args : List α) :
    Matched ℓ (a.moveTo target t args h) (b.moveTo target t args k) := by
  unfold Automaton.moveTo
  rw [← ha.current]
  dsimp only
  obtain ⟨result, h₁, k₁, hx, hy, hk⟩ := ha.graph.runExit hk (.leaving a.current target t)
  rw [hx, hy]
  cases result with
  | error fault => exact ⟨_, _, _, _, _, rfl, rfl, ha, hk⟩
  | ok u =>
    obtain ⟨result, h₂, k₂, hx, hy, hk⟩ :=
      ha.graph.runTransit hk (TransitContext.leaving a.current target t).arrived args
    dsimp only
    rw [hx, hy]
    have hmoved : Alike ℓ { a with current := some target } { b with current := some target } :=
      { ha with current := rfl }
    cases result with
    | error fault => exact ⟨_, _, _, _, _, rfl, rfl, hmoved, hk⟩
    | ok u =>
      obtain ⟨result, h₃, k₃, hx, hy, hk⟩ :=
        ha.graph.runEntry hk (TransitContext.leaving a.current target t).arrived
      dsimp only
      rw [hx, hy]
      cases result with
      | error fault => exact ⟨_, _, _, _, _, rfl, rfl, hmoved, hk⟩
      | ok u =>
        exact ⟨_, _, _, _, _, rfl, rfl,
          { hmoved with history := ℓ.record ha.history ⟨rfl, hk.clock⟩ }, hk⟩

omit [Payload σ] in
/-- Their policies are the same, or it makes no difference to these attempts. -/
def Concur (a b : Automaton σ α) (ps : List (Attempt σ α)) : Prop :=
  a.config.policy = b.config.policy ∨ ∀ p ∈ ps, p.refused = false

omit [Payload σ] in
instance (a b : Automaton σ α) (ps : List (Attempt σ α)) : Decidable (a.Concur b ps) :=
  inferInstanceAs (Decidable (a.config.policy = b.config.policy ∨ ∀ p ∈ ps, p.refused = false))

theorem config_transit (a : Automaton σ α) (t : TransitionId) (args : List α) (h : Hub α) :
    (a.transit t args h).2.1.config = a.config :=
  config_of_steps (steps_transit trivial a t args h : ReflTransGen (Step True) _ _)

theorem config_deliver (a : Automaton σ α) (fired : Fired α) (h : Hub α) :
    (a.deliver fired h).2.1.config = a.config :=
  config_of_steps (steps_deliver a fired h : ReflTransGen (Step True) _ _)

/-- The second automaton takes whatever the first one takes. What the first one refuses it must
not take, which only a different policy could make it do. -/
theorem Alike.transit (ha : a.Alike ℓ b) (hk : h.Alike ℓ.timed k) (t : TransitionId) (args : List α)
    (hc : a.Concur b [⟨a, h, t, args⟩]) :
    Matched ℓ (a.transit t args h) (b.transit t args k) := by
  unfold Automaton.transit
  rcases (ha.graph.transition? t).none_or_some with ⟨hx, hy⟩ | ⟨edge, edge', hx, hy, hn⟩ <;>
    rw [hx, hy]
  · exact ⟨_, _, _, _, _, rfl, rfl, ha, hk⟩
  · simp only [TransitionNode.veil, TransitionNode.mk.injEq] at hn
    obtain ⟨-, htarget, -, -, -, howner⟩ := hn
    have hleaves : b.leavesCurrent edge' = a.leavesCurrent edge := by
      simp only [leavesCurrent, ha.current, howner]
    have hrefused : b.config.policy = .strict ∧ a.leavesCurrent edge = false ↔
        a.config.policy = .strict ∧ a.leavesCurrent edge = false := by
      rcases hc with hsame | hnone
      · rw [hsame]
      · -- the first one takes it, so the second one must not be the only strict one
        have htaken : ¬ (a.config.policy = .strict ∧ a.leavesCurrent edge = false) := by
          simpa [Attempt.refused, refuses, hx] using hnone
        rcases ℓ.policy ha.config with hsame | hpermissive
        · rw [hsame]
        · simp [htaken, hpermissive]
    dsimp only
    rw [hleaves, ← htarget]
    by_cases hcase : a.config.policy = .strict ∧ a.leavesCurrent edge = false
    · rw [if_pos hcase, if_pos (hrefused.2 hcase)]
      exact ⟨_, _, _, _, _, rfl, rfl, ha, hk⟩
    · rw [if_neg hcase, if_neg (mt hrefused.1 hcase)]
      obtain ⟨result, a', h', b', k', hx, hy, ha, hk⟩ := ha.moveTo hk edge.target t args
      rw [hx, hy]
      cases result <;> exact ⟨_, _, _, _, _, rfl, rfl, ha, hk⟩

theorem Alike.deliver (ha : a.Alike ℓ b) (hk : h.Alike ℓ.timed k) (fired : Fired α)
    (hc : a.Concur b (a.deliveryAttempts fired h)) :
    Matched ℓ (a.deliver fired h) (b.deliver fired k) := by
  unfold Automaton.deliver
  unfold deliveryAttempts at hc
  rw [← ha.registry, ← ha.current]
  cases hsub : a.registry.contains fired.transition with
  | false => exact ⟨_, _, _, _, _, rfl, rfl, ha, hk⟩
  | true =>
    cases hcur : a.current with
    | none => exact ⟨_, _, _, _, _, rfl, rfl, ha, hk⟩
    | some c =>
      rw [hsub, hcur] at hc
      exact ha.transit hk fired.transition fired.args hc

omit [Payload σ] in
theorem Concur.later {a' b' : Automaton σ α} {ps qs : List (Attempt σ α)}
    (hc : a.Concur b (ps ++ qs)) (ha : a'.config = a.config) (hb : b'.config = b.config) :
    a'.Concur b' qs := by
  rw [Concur, ha, hb]
  exact hc.imp_right fun hall p hp => hall p (List.mem_append_right ps hp)

omit [Payload σ] in
theorem Concur.first {ps qs : List (Attempt σ α)} (hc : a.Concur b (ps ++ qs)) :
    a.Concur b ps :=
  hc.imp_right fun hall p hp => hall p (List.mem_append_left qs hp)

theorem Alike.transitTimes (ha : a.Alike ℓ b) (hk : h.Alike ℓ.timed k) (t : TransitionId)
    (args : List α) (times taken : Nat) (hc : a.Concur b (a.repeatedAttempts t args h times)) :
    Matched ℓ (a.transitTimes t args h times taken) (b.transitTimes t args k times taken) := by
  induction times generalizing a b h k taken with
  | zero => exact ⟨_, _, _, _, _, rfl, rfl, ha, hk⟩
  | succ times ih =>
    rw [repeatedAttempts] at hc
    have hconfig := a.config_transit t args h
    have hconfig' := b.config_transit t args k
    obtain ⟨result, a', h', b', k', hx, hy, ha', hk'⟩ := ha.transit hk t args hc.first
    rw [hx] at hconfig hc
    rw [hy] at hconfig'
    rw [Automaton.transitTimes, Automaton.transitTimes, hx, hy]
    cases result with
    | error fault => exact ⟨_, _, _, _, _, rfl, rfl, ha', hk'⟩
    | ok took =>
      have hlater := hc.later hconfig hconfig'
      cases took with
      | true => exact ih ha' hk' (taken + 1) hlater
      | false => exact ih ha' hk' taken hlater

theorem Alike.drain (ha : a.Alike ℓ b) (hk : h.Alike ℓ.timed k) (taken : Nat)
    (hc : a.Concur b (a.pendingAttempts h)) :
    Matched ℓ (a.drain h taken) (b.drain k taken) := by
  fun_induction Automaton.drain a h taken generalizing b k with
  | case1 a h taken ht =>
    rw [drain_eq b, ← ha.channel, hk.take?_of_none ht]
    exact ⟨_, _, _, _, _, rfl, rfl, ha, hk⟩
  | case2 a h taken fired h₁ ht fault a' h' hd =>
    obtain ⟨k₁, ht', hk₁⟩ := hk.take?_of_some ht
    rw [pendingAttempts_of_some ht] at hc
    obtain ⟨result, _, _, b', k', hx, hy, ha', hk'⟩ := ha.deliver hk₁ fired hc.first
    cases hd.symm.trans hx
    rw [drain_eq b, ← ha.channel, ht']
    dsimp only
    rw [hy]
    exact ⟨_, _, _, _, _, rfl, rfl, ha', hk'⟩
  | case3 a h taken fired h₁ ht took a' h' hd ih =>
    obtain ⟨k₁, ht', hk₁⟩ := hk.take?_of_some ht
    rw [pendingAttempts_of_some ht] at hc
    have hconfig := a.config_deliver fired h₁
    have hconfig' := b.config_deliver fired k₁
    obtain ⟨result, _, _, b', k', hx, hy, ha', hk'⟩ := ha.deliver hk₁ fired hc.first
    cases hd.symm.trans hx
    rw [hd] at hconfig hc
    rw [hy] at hconfig'
    rw [drain_eq b, ← ha.channel, ht']
    dsimp only
    rw [hy]
    exact ih ha' hk' (hc.later hconfig hconfig')

theorem Alike.dispatchNext (ha : a.Alike ℓ b) (hk : h.Alike ℓ.timed k)
    (hc : a.Concur b (a.attempts h .dispatchNext)) :
    Matched ℓ (a.dispatchNext h) (b.dispatchNext k) := by
  unfold Automaton.dispatchNext
  simp only [attempts] at hc
  rcases hk.take? a.channel with ⟨hx, hy⟩ | ⟨fired, h₁, k₁, hx, hy, hk₁⟩
  · rw [← ha.channel, hx, hy]
    exact ⟨_, _, _, _, _, rfl, rfl, ha, hk⟩
  · rw [← ha.channel, hx, hy]
    rw [hx] at hc
    obtain ⟨result, a', h', b', k', hx, hy, ha', hk'⟩ := ha.deliver hk₁ fired hc
    dsimp only
    rw [hx, hy]
    exact ⟨_, _, _, _, _, rfl, rfl, ha', hk'⟩

end Automaton



end EventAutomata
