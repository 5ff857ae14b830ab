import EventAutomata.Proofs.Reconcile

/-!
# Turnover of subscriptions

What is done to a registry releases subscriptions, and then gives the next numbers there are
to transitions that had none, in ascending order of the transitions (`Turnover`). What was
subscribed and is not released keeps its number. So a registry in which all numbers are
below the next one and no two are equal stays one (`Sound`), and a number that was taken
back is not seen again.

Reconciling releases and gives no more than the two sets differ in, whatever the registry holds
(`reconcile_is_an_exact_patch`). Numbers have no end here.
-/

namespace EventAutomata

namespace Registry

variable {r r' : Registry} {t u : TransitionId} {id : SubscriptionId} {n : Nat}
  {ts : List TransitionId}

-- ---------------------------------------------------------------------------
-- Numbers in a row
-- ---------------------------------------------------------------------------

def numbered (n : Nat) : List TransitionId → List (TransitionId × SubscriptionId)
  | [] => []
  | t :: ts => (t, ⟨n⟩) :: numbered (n + 1) ts

theorem map_fst_numbered (n : Nat) (ts : List TransitionId) : (numbered n ts).map Prod.fst = ts := by
  induction ts generalizing n with
  | nil => rfl
  | cons t ts ih => rw [numbered, List.map_cons, ih]

theorem map_snd_numbered (n : Nat) (ts : List TransitionId) :
    (numbered n ts).map Prod.snd = (List.range' n ts.length).map SubscriptionId.mk := by
  induction ts generalizing n with
  | nil => rfl
  | cons t ts ih => rw [numbered, List.map_cons, ih, List.length_cons, List.range'_succ, List.map_cons]

theorem bounds_of_mem_numbered (h : (t, id) ∈ numbered n ts) :
    n ≤ id.number ∧ id.number < n + ts.length := by
  have hid : id ∈ (numbered n ts).map Prod.snd := List.mem_map_of_mem h
  rw [map_snd_numbered, List.mem_map] at hid
  obtain ⟨k, hk, rfl⟩ := hid
  exact List.mem_range'_1.1 hk

theorem mem_of_mem_numbered (h : (t, id) ∈ numbered n ts) : t ∈ ts := by
  have ht : t ∈ (numbered n ts).map Prod.fst := List.mem_map_of_mem h
  rwa [map_fst_numbered] at ht

theorem eq_of_mem_numbered (ht : (t, id) ∈ numbered n ts) (hu : (u, id) ∈ numbered n ts) :
    t = u := by
  induction ts generalizing n with
  | nil => cases ht
  | cons x ts ih =>
    have hlater : ∀ {v}, (v, id) ∈ numbered (n + 1) ts → id ≠ ⟨n⟩ := by
      rintro v hv rfl
      exact Nat.lt_irrefl n (bounds_of_mem_numbered hv).1
    rcases List.mem_cons.1 ht with hxt | ht <;> rcases List.mem_cons.1 hu with hxu | hu
    · exact (Prod.ext_iff.1 hxt).1.trans (Prod.ext_iff.1 hxu).1.symm
    · exact absurd (Prod.ext_iff.1 hxt).2 (hlater hu)
    · exact absurd (Prod.ext_iff.1 hxu).2 (hlater ht)
    · exact ih ht hu

-- ---------------------------------------------------------------------------
-- Turnover
-- ---------------------------------------------------------------------------

/-- The second registry comes from the first when some subscriptions are released and
then `ts` are subscribed. -/
structure Turnover (r r' : Registry) (ts : List TransitionId) : Prop where
  ascending : ts.Pairwise (· < ·)
  fresh : ∀ t ∈ ts, r.get? t = none
  nextId : r'.nextId = r.nextId + ts.length
  given : ∀ {t id}, (t, id) ∈ numbered r.nextId ts → r'.get? t = some id
  kept : ∀ {t id}, r'.get? t = some id → r.get? t = some id ∨ (t, id) ∈ numbered r.nextId ts

theorem Turnover.refl (r : Registry) : r.Turnover r [] :=
  ⟨.nil, nofun, rfl, nofun, .inl⟩

theorem turnover_empty (r : Registry) : r.Turnover { r with entries := ∅ } [] :=
  ⟨.nil, nofun, rfl, nofun, nofun⟩

theorem unsubscribeAll_eq (r : Registry) (ts : List TransitionId) :
    (r.unsubscribeAll ts).nextId = r.nextId ∧
      ∀ x, (r.unsubscribeAll ts).get? x = if x ∈ ts then none else r.get? x := by
  induction ts generalizing r with
  | nil => exact ⟨rfl, fun x => by simp [unsubscribeAll]⟩
  | cons t ts ih =>
    obtain ⟨hnext, hget⟩ := ih (r.unsubscribe t).2
    refine ⟨hnext, fun x => ?_⟩
    have hstep : r.unsubscribeAll (t :: ts) = (r.unsubscribe t).2.unsubscribeAll ts := rfl
    rw [hstep, hget, get?_unsubscribe]
    by_cases hx : x = t <;> simp [hx]

theorem snd_release (r : Registry) (ts : List TransitionId) :
    (r.release ts).2 = r.unsubscribeAll ts := by
  induction ts generalizing r with
  | nil => rfl
  | cons t ts ih => exact ih _

/-- Of transitions in ascending order, those that were not subscribed are numbered. -/
theorem subscribeAll_eq (r : Registry) (hts : ts.Pairwise (· < ·)) :
    (r.subscribeAll ts).nextId = r.nextId + (ts.filter fun t => r.get? t = none).length ∧
      ∀ x id, (r.subscribeAll ts).get? x = some id ↔
        r.get? x = some id ∨ (x, id) ∈ numbered r.nextId (ts.filter fun t => r.get? t = none) := by
  induction ts generalizing r with
  | nil => exact ⟨rfl, fun x id => by simp [subscribeAll, numbered]⟩
  | cons t ts ih =>
    obtain ⟨hlt, hts⟩ := List.pairwise_cons.1 hts
    have hstep : r.subscribeAll (t :: ts) = (r.subscribe t).2.subscribeAll ts := rfl
    rw [hstep]
    cases ht : r.get? t with
    | some id =>
      have hsame : (r.subscribe t).2 = r := by simp [subscribe, contains_eq, ht]
      rw [hsame, List.filter_cons_of_neg (by simp [ht])]
      exact ih r hts
    | none =>
      have hget : ∀ x, (r.subscribe t).2.get? x = if x = t then some ⟨r.nextId⟩ else r.get? x := by
        intro x
        rw [get?_subscribe, contains_eq, ht]
        simp
      have hnext : (r.subscribe t).2.nextId = r.nextId + 1 := by simp [subscribe, contains_eq, ht]
      -- The ones behind `t` are greater, so those of them that were new still are.
      have hfilter : (ts.filter fun x => (r.subscribe t).2.get? x = none) =
          ts.filter fun x => r.get? x = none := by
        refine List.filter_congr fun x hx => ?_
        rw [hget, if_neg (Handle.ne_of_lt (hlt x hx)).symm]
      obtain ⟨ihnext, ihget⟩ := ih (r.subscribe t).2 hts
      rw [hfilter, hnext] at ihnext ihget
      rw [List.filter_cons_of_pos (by simp [ht])]
      refine ⟨by rw [ihnext, List.length_cons]; omega, fun x id => ?_⟩
      rw [ihget, hget, numbered, List.mem_cons, Prod.mk.injEq]
      by_cases hx : x = t
      · subst hx
        simp [ht, eq_comm]
      · simp [hx]

/-- Reconciling numbers what is subscribed anew, after all that is released. -/
theorem turnover_reconcile (r : Registry) (before after : HandleSet .transition) :
    ∃ ts, r.Turnover (r.reconcile before after) ts := by
  obtain ⟨hnext, hget⟩ := r.unsubscribeAll_eq (before \ after).toList
  obtain ⟨hnext', hget'⟩ :=
    (r.unsubscribeAll (before \ after).toList).subscribeAll_eq (after \ before).ascending
  rw [hnext] at hnext' hget'
  refine ⟨_, (after \ before).ascending.filter _, fun t ht => ?_, hnext', fun hid => ?_,
    fun {t id} hid => ?_⟩
  · -- What is subscribed anew was not in the set that the releases are taken from.
    obtain ⟨hnew, hnone⟩ := List.mem_filter.1 ht
    have hold : ¬ t ∈ (before \ after).toList := by
      intro hmem
      exact (HandleSet.mem_diff.1 hnew).2 (HandleSet.mem_diff.1 hmem).1
    rw [hget, if_neg hold] at hnone
    exact of_decide_eq_true hnone
  · exact (hget' _ _).2 (.inr hid)
  · refine ((hget' t id).1 hid).imp_left fun hold => ?_
    rw [hget] at hold
    split at hold
    next => cases hold
    next => exact hold

namespace Turnover

theorem le (h : r.Turnover r' ts) : r.nextId ≤ r'.nextId := h.nextId ▸ Nat.le_add_right _ _

theorem get?_eq (h : r.Turnover r' ts) {id' : SubscriptionId} (ht : r.get? t = some id)
    (ht' : r'.get? t = some id') : id' = id := by
  rcases h.kept ht' with hold | hnew
  · exact (Option.some.inj (ht.symm.trans hold)).symm
  · rw [h.fresh t (mem_of_mem_numbered hnew)] at ht
    cases ht

/-- A number that has been given before is held only by what has held it before. -/
theorem get?_of_lt (h : r.Turnover r' ts) (ht : r'.get? t = some id)
    (hid : id.number < r.nextId) : r.get? t = some id := by
  rcases h.kept ht with hold | hnew
  · exact hold
  · exact absurd (bounds_of_mem_numbered hnew).1 (Nat.not_le_of_lt hid)

end Turnover

-- ---------------------------------------------------------------------------
-- What has been issued
-- ---------------------------------------------------------------------------

def issued (r r' : Registry) : List (TransitionId × SubscriptionId) :=
  r'.toList.filter fun e => r.get? e.1 ≠ some e.2

theorem mem_issued : (t, id) ∈ issued r r' ↔ r'.get? t = some id ∧ r.get? t ≠ some id := by
  rw [issued, List.mem_filter, decide_eq_true_eq]
  exact and_congr_left' HandleMap.mem_toList

theorem Turnover.issued_eq (h : r.Turnover r' ts) : issued r r' = numbered r.nextId ts := by
  have hissued : (issued r r').Pairwise fun a b => a.1 < b.1 := r'.entries.ascending.filter _
  have hnumbered : (numbered r.nextId ts).Pairwise fun a b => a.1 < b.1 := by
    rw [← List.pairwise_map, map_fst_numbered]
    exact h.ascending
  have hmem : ∀ t id, (t, id) ∈ issued r r' ↔ (t, id) ∈ numbered r.nextId ts := by
    intro t id
    rw [mem_issued]
    constructor
    · rintro ⟨hnew, hold⟩
      exact (h.kept hnew).resolve_left hold
    · intro hid
      have hnone := h.fresh t (mem_of_mem_numbered hid)
      exact ⟨h.given hid, by rw [hnone]; nofun⟩
  refine HandleMap.eq_of_find? hissued hnumbered fun t => Option.ext fun id => ?_
  rw [← HandleMap.mem_iff_find? hissued, ← HandleMap.mem_iff_find? hnumbered, hmem]

-- ---------------------------------------------------------------------------
-- Sound registries
-- ---------------------------------------------------------------------------

structure Sound (r : Registry) : Prop where
  below : ∀ {t id}, r.get? t = some id → id.number < r.nextId
  apart : ∀ {t u id}, r.get? t = some id → r.get? u = some id → t = u

theorem sound_empty : (∅ : Registry).Sound := ⟨nofun, nofun⟩

theorem Sound.turnover (hr : r.Sound) (h : r.Turnover r' ts) : r'.Sound where
  below ht := by
    rw [h.nextId]
    rcases h.kept ht with hold | hnew
    · exact Nat.lt_add_right _ (hr.below hold)
    · exact (bounds_of_mem_numbered hnew).2
  apart ht hu := by
    rcases h.kept ht with hold | hnew <;> rcases h.kept hu with hold' | hnew'
    · exact hr.apart hold hold'
    · exact absurd (hr.below hold) (Nat.not_lt_of_le (bounds_of_mem_numbered hnew').1)
    · exact absurd (hr.below hold') (Nat.not_lt_of_le (bounds_of_mem_numbered hnew).1)
    · exact eq_of_mem_numbered hnew hnew'

-- ---------------------------------------------------------------------------
-- Exact patches
-- ---------------------------------------------------------------------------

theorem mem_transitions_iff_get? : t ∈ r.transitions ↔ ∃ id, r.get? t = some id := by
  rw [mem_transitions, contains_eq, Option.isSome_iff_exists]

namespace Turnover

theorem eq_fresh (h : r.Turnover r' ts) : ts = (r'.transitions \ r.transitions).toList := by
  refine HandleSet.eq_of_mem_iff h.ascending (HandleSet.ascending _) fun t => ?_
  rw [← HandleSet.mem_def, HandleSet.mem_diff, mem_transitions_iff_get?, mem_transitions_iff_get?]
  constructor
  · intro ht
    rw [← map_fst_numbered r.nextId ts, List.mem_map] at ht
    obtain ⟨⟨t, id⟩, hid, rfl⟩ := ht
    exact ⟨⟨id, h.given hid⟩, by simp [h.fresh t (mem_of_mem_numbered hid)]⟩
  · rintro ⟨⟨id, hid⟩, hnone⟩
    rcases h.kept hid with hold | hnew
    · exact absurd ⟨id, hold⟩ hnone
    · exact mem_of_mem_numbered hnew

theorem eq_of_transitions (h : r.Turnover r' ts) (hsame : r'.transitions = r.transitions) :
    r' = r := by
  have hnone : ts = [] := by
    rw [h.eq_fresh, hsame]
    refine List.eq_nil_iff_forall_not_mem.2 fun t ht => ?_
    obtain ⟨hin, hout⟩ := HandleSet.mem_diff.1 (HandleSet.mem_def.2 ht)
    exact hout hin
  subst hnone
  refine Registry.ext (HandleMap.ext_get? fun t => Option.ext fun id => ?_) h.nextId
  show r'.get? t = some id ↔ r.get? t = some id
  constructor
  · intro hid
    exact (h.kept hid).resolve_right nofun
  · intro hid
    have hmem : t ∈ r'.transitions := hsame ▸ mem_transitions_iff_get?.2 ⟨id, hid⟩
    obtain ⟨id', hid'⟩ := mem_transitions_iff_get?.1 hmem
    rw [hid', h.get?_eq hid hid']

end Turnover

theorem reconcile_reconcile (r : Registry) (before after : HandleSet .transition) :
    (r.reconcile before after).reconcile before after = r.reconcile before after := by
  obtain ⟨ts, hts⟩ := (r.reconcile before after).turnover_reconcile before after
  refine hts.eq_of_transitions (HandleSet.ext_mem fun t => ?_)
  simp only [mem_transitions_reconcile]
  grind

/-- Reconciling patches any registry, also one that has nothing to do with the two sets. It takes
away what only the first set holds and puts in what only the second holds. What is subscribed
before and afterwards keeps its number. What is subscribed anew gets the next numbers there are,
in ascending order, and none is left out. To reconcile once more changes nothing. -/
theorem reconcile_is_an_exact_patch (r : Registry) (before after : HandleSet .transition) :
    let r' := r.reconcile before after
    let fresh := r'.transitions \ r.transitions
    r'.transitions = (r.transitions \ (before \ after)) ∪ (after \ before) ∧
    fresh = (after \ before) \ r.transitions ∧
    (∀ t, t ∈ r.transitions → t ∈ r'.transitions → r'.get? t = r.get? t) ∧
    issued r r' = numbered r.nextId fresh.toList ∧
    (issued r r').map Prod.snd = (List.range' r.nextId fresh.size).map SubscriptionId.mk ∧
    r'.nextId = r.nextId + fresh.size ∧
    (r.transitions = before → r'.transitions = after) ∧
    r'.reconcile before after = r' := by
  intro r' fresh
  obtain ⟨ts, hts⟩ := r.turnover_reconcile before after
  have hfresh : ts = fresh.toList := hts.eq_fresh
  subst hfresh
  have htransitions : r'.transitions = (r.transitions \ (before \ after)) ∪ (after \ before) := by
    refine HandleSet.ext_mem fun t => ?_
    rw [mem_transitions_reconcile, HandleSet.mem_union, HandleSet.mem_diff, HandleSet.mem_diff,
      HandleSet.mem_diff]
  refine ⟨htransitions, ?_, fun t ht ht' => ?_, hts.issued_eq, ?_, hts.nextId, ?_,
    r.reconcile_reconcile before after⟩
  · refine HandleSet.ext_mem fun t => ?_
    show t ∈ r'.transitions \ r.transitions ↔ _
    rw [htransitions]
    simp only [HandleSet.mem_diff, HandleSet.mem_union]
    grind
  · obtain ⟨id, hid⟩ := mem_transitions_iff_get?.1 ht
    obtain ⟨id', hid'⟩ := mem_transitions_iff_get?.1 ht'
    rw [hid, hid', hts.get?_eq hid hid']
  · rw [hts.issued_eq, map_snd_numbered]
    rfl
  · rintro rfl
    exact transitions_reconcile after

/-- Of what the second set adds one transition is there already, and of what it lacks one is not. -/
example :
    let r : Registry := ⟨⟨[(⟨1⟩, ⟨4⟩), (⟨2⟩, ⟨0⟩), (⟨5⟩, ⟨3⟩)], by decide⟩, 7⟩
    (r.reconcile (.ofList [⟨2⟩, ⟨3⟩]) (.ofList [⟨0⟩, ⟨5⟩, ⟨9⟩])).toList =
      [(⟨0⟩, ⟨7⟩), (⟨1⟩, ⟨4⟩), (⟨5⟩, ⟨3⟩), (⟨9⟩, ⟨8⟩)] := by
  decide

end Registry

end EventAutomata
