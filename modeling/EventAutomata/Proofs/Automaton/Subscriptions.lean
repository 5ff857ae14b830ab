import EventAutomata.Proofs.Automaton.Dispatching
import EventAutomata.Proofs.Automaton.Turns
import EventAutomata.Proofs.Turnover

/-!
# Subscription numbers over a life

A call reconciles the registry once, releases all of it, or leaves it alone
(`turnover_call`). An exchange of nodes leaves it alone too, though it may leave any graph at
all: then the registry no longer tracks what can be reached, but the numbers stay in order.
So whatever an automaton goes through, the numbers it gives are those from zero on, each
given once.

Numbers are not bounded here. They are those of a counter of any width for as long as the
counter has not wrapped around.
-/

namespace EventAutomata

open Registry (issued)

namespace Automaton

variable {σ α : Type} {a b : Automaton σ α} {t : TransitionId}

-- ---------------------------------------------------------------------------
-- One call
-- ---------------------------------------------------------------------------

/-- The registry of the second automaton comes from that of the first in one turnover. -/
def TurnsOver (a b : Automaton σ α) : Prop := ∃ ts, a.registry.Turnover b.registry ts

theorem TurnsOver.of_same (h : b.registry = a.registry) : a.TurnsOver b :=
  ⟨[], h.symm ▸ .refl _⟩

theorem turnsOver_attach? {s : StateId} (h : a.attach? s t = some b) :
    a.TurnsOver b := by
  obtain ⟨-, g, -, rfl⟩ := attach?_eq_some h
  exact Registry.turnover_reconcile ..

theorem turnsOver_remove? {s : StateId} (h : a.remove? s t = some b) :
    a.TurnsOver b := by
  obtain ⟨-, g, -, rfl⟩ := remove?_eq_some h
  rw [dropStrandedCursor_eq]
  exact Registry.turnover_reconcile ..

theorem turnsOver_setStart {s : Option StateId} (h : a.setStart s = .ok b) : a.TurnsOver b := by
  have hmove : a.TurnsOver (setStart.moveStart a s) := by
    unfold setStart.moveStart
    split
    next => exact .of_same rfl
    next => exact Registry.turnover_reconcile ..
  cases s with
  | none =>
    cases h
    exact hmove
  | some x =>
    simp only [setStart] at h
    split at h
    next =>
      cases h
      exact hmove
    next => cases h

theorem teardown_eq (a : Automaton σ α) :
    a.teardown.2 = { a with start := none, current := none, registry := a.registry.drain.2 } := by
  have hnext := (a.registry.unsubscribeAll_eq a.transitions.toList).1
  simp only [teardown, Registry.drain, Registry.snd_release, hnext]

theorem turnsOver_teardown (a : Automaton σ α) : a.TurnsOver a.teardown.2 := by
  rw [teardown_eq]
  exact ⟨[], a.registry.turnover_empty⟩

namespace Tracked

theorem subscribed_iff (ha : a.Tracked) :
    t ∈ a.transitions ↔ ∃ id, a.registry.get? t = some id := by
  rw [← ha.registry]
  exact Registry.mem_transitions_iff_get?

theorem subscription_kept (ha : a.Tracked) (hb : b.Tracked) (hab : a.TurnsOver b)
    (ht : t ∈ a.transitions) (ht' : t ∈ b.transitions) :
    ∃ id, a.subscription? t = some id ∧ b.subscription? t = some id := by
  obtain ⟨id, hid⟩ := ha.subscribed_iff.1 ht
  obtain ⟨id', hid'⟩ := hb.subscribed_iff.1 ht'
  obtain ⟨ts, hts⟩ := hab
  rw [hts.get?_eq hid hid'] at hid'
  exact ⟨id, hid, hid'⟩

end Tracked

variable [Payload σ]

theorem turnsOver_edit (a : Automaton σ α) (e : Graph.Edit σ) : a.TurnsOver (a.edit e).2 := by
  have hsame : a.TurnsOver a := .of_same rfl
  cases e with
  | addState data => exact hsame
  | addTransition kind target =>
    simp only [edit, addTransition]
    cases a.graph.addTransition kind target <;> exact hsame
  | attach s t => exact Graph.accepted_keeps hsame fun b => turnsOver_attach?
  | remove s t => exact Graph.accepted_keeps hsame fun b => turnsOver_remove?
  | attachEpsilon s t => exact Graph.acceptedUnless_keeps hsame fun b => turnsOver_attach?
  | removeEpsilon s t => exact Graph.acceptedUnless_keeps hsame fun b => turnsOver_remove?

theorem registry_transit (a : Automaton σ α) (t : TransitionId) (args : List α) (h : Hub α) :
    (a.transit t args h).2.1.registry = a.registry := by
  rcases a.transit_cases t args h with ⟨heq, -⟩ | ⟨edge, -, -, -, _, _, heq, -⟩
  · rw [heq]
  · rw [heq]

theorem registry_transitTimes (a : Automaton σ α) (t : TransitionId) (args : List α) (h : Hub α)
    (times taken : Nat) : (a.transitTimes t args h times taken).2.1.registry = a.registry :=
  transitTimes_keeps (P := fun x => x.1.registry = a.registry)
    (fun b k hb => (b.registry_transit t args k).trans hb) a h times taken rfl

theorem Deliveries.registry_eq {x y : Automaton σ α × Hub α} {ds : List (Delivery α)}
    (hd : Deliveries x ds y) : y.1.registry = x.1.registry := by
  obtain ⟨_, _, hy⟩ := hd.keeps
  rw [hy]

theorem registry_dispatchNext (a : Automaton σ α) (h : Hub α) :
    (a.dispatchNext h).2.1.registry = a.registry := by
  rcases a.deliveries_dispatchNext h with ⟨heq, -⟩ | ⟨fired, result, -, hd⟩
  · rw [heq]
  · exact hd.registry_eq

/-- Whatever a call does, the registry turns over at most once. -/
theorem turnsOver_call (a : Automaton σ α) (h : Hub α) (c : Call σ α) :
    a.TurnsOver (a.call h c).2.1 := by
  cases c with
  | edit e => exact a.turnsOver_edit e
  | setStart s =>
    simp only [call]
    split
    next heq => exact turnsOver_setStart heq
    next => exact .of_same rfl
  | transit t args => exact .of_same (a.registry_transit t args h)
  | transitTimes t args times => exact .of_same (a.registry_transitTimes t args h times 0)
  | deliver fired =>
    obtain ⟨_, _, heq⟩ := a.deliver_keeps fired h
    exact .of_same (by rw [call, heq])
  | dispatchPending =>
    obtain ⟨ds, hds⟩ := a.drained_dispatchPending h
    exact .of_same hds.deliveries.registry_eq
  | dispatchNext =>
    rw [call_dispatchNext]
    exact .of_same (a.registry_dispatchNext h)
  | teardown | teardownDescribed => exact a.turnsOver_teardown
  | _ => exact .of_same rfl

-- ---------------------------------------------------------------------------
-- Episodes
-- ---------------------------------------------------------------------------

/-- Something that happens to an automaton. An exchange of nodes leaves some graph. -/
inductive Episode (σ α : Type)
  | turn (turn : Turn σ α)
  | exchange (graph : Graph σ α)

def undergo (x : Automaton σ α × Hub α) : Episode σ α → Automaton σ α × Hub α
  | .turn turn => takeTurn x turn
  | .exchange graph => ({ x.1 with graph }, x.2)

def undergoAll (x : Automaton σ α × Hub α) (episodes : List (Episode σ α)) :
    Automaton σ α × Hub α :=
  episodes.foldl undergo x

def issuedOver (x : Automaton σ α × Hub α) : List (Episode σ α) → List SubscriptionId
  | [] => []
  | e :: rest =>
    (issued x.1.registry (undergo x e).1.registry).map Prod.snd ++ issuedOver (undergo x e) rest

variable {x : Automaton σ α × Hub α} {id : SubscriptionId}

theorem turnsOver_undergo (x : Automaton σ α × Hub α) (e : Episode σ α) :
    x.1.TurnsOver (undergo x e).1 := by
  cases e with
  | turn turn =>
    cases turn with
    | call c => exact x.1.turnsOver_call x.2 c
    | elsewhere hub => exact .of_same rfl
  | exchange graph => exact .of_same rfl

theorem sound_undergoAll (hx : x.1.registry.Sound) (episodes : List (Episode σ α)) :
    (undergoAll x episodes).1.registry.Sound := by
  induction episodes generalizing x with
  | nil => exact hx
  | cons e rest ih =>
    obtain ⟨ts, hts⟩ := turnsOver_undergo x e
    exact ih (hx.turnover hts)

theorem nextId_le_undergoAll (x : Automaton σ α × Hub α) (episodes : List (Episode σ α)) :
    x.1.registry.nextId ≤ (undergoAll x episodes).1.registry.nextId := by
  induction episodes generalizing x with
  | nil => exact Nat.le_refl _
  | cons e rest ih =>
    obtain ⟨ts, hts⟩ := turnsOver_undergo x e
    exact Nat.le_trans hts.le (ih (undergo x e))

/-- A number that was given before is held only by what has held it since. -/
theorem get?_of_undergoAll {episodes : List (Episode σ α)}
    (ht : (undergoAll x episodes).1.registry.get? t = some id)
    (hid : id.number < x.1.registry.nextId) : x.1.registry.get? t = some id := by
  induction episodes generalizing x with
  | nil => exact ht
  | cons e rest ih =>
    obtain ⟨ts, hts⟩ := turnsOver_undergo x e
    exact hts.get?_of_lt (ih ht (Nat.lt_of_lt_of_le hid hts.le)) hid

theorem issuedOver_eq (x : Automaton σ α × Hub α) (episodes : List (Episode σ α)) :
    issuedOver x episodes =
      (List.range' x.1.registry.nextId
        ((undergoAll x episodes).1.registry.nextId - x.1.registry.nextId)).map
          SubscriptionId.mk := by
  induction episodes generalizing x with
  | nil =>
    show [] = (List.range' _ (x.1.registry.nextId - x.1.registry.nextId)).map _
    rw [Nat.sub_self]
    rfl
  | cons e rest ih =>
    obtain ⟨ts, hts⟩ := turnsOver_undergo x e
    have hle := nextId_le_undergoAll (undergo x e) rest
    have hcount : (undergoAll (undergo x e) rest).1.registry.nextId - x.1.registry.nextId =
        ts.length + ((undergoAll (undergo x e) rest).1.registry.nextId -
          (undergo x e).1.registry.nextId) := by
      have hnext := hts.nextId
      omega
    rw [issuedOver, hts.issued_eq, Registry.map_snd_numbered, ih, ← List.map_append, hts.nextId,
      List.range'_append_1, ← hts.nextId, ← hcount]
    rfl

theorem live_eq_undergoAll (x : Automaton σ α × Hub α) (turns : List (Turn σ α)) :
    live x turns = undergoAll x (turns.map .turn) := by
  rw [undergoAll, List.foldl_map]
  rfl

theorem Tracked.live (hx : x.1.Tracked) (turns : List (Turn σ α)) :
    (Automaton.live x turns).1.Tracked :=
  hx.steps (steps_live True x turns fun _ _ _ => trivial)

/-- A transition that was out of reach for a while has a larger number than before. -/
theorem subscription_renewed {away back : List (Turn σ α)} (hx : x.1.Tracked)
    (hsound : x.1.registry.Sound) (ht : t ∈ x.1.transitions)
    (hgone : ¬ t ∈ (live x away).1.transitions)
    (ht' : t ∈ (live (live x away) back).1.transitions) :
    ∃ id id', x.1.subscription? t = some id ∧
      (live (live x away) back).1.subscription? t = some id' ∧ id < id' := by
  have haway : (live x away).1.Tracked := hx.live away
  obtain ⟨id, hid⟩ := hx.subscribed_iff.1 ht
  obtain ⟨id', hid'⟩ := (haway.live back).subscribed_iff.1 ht'
  refine ⟨id, id', hid, hid', ?_⟩
  rw [live_eq_undergoAll (live x away)] at hid'
  rcases Nat.lt_or_ge id'.number (live x away).1.registry.nextId with hold | hnew
  · exact absurd (haway.subscribed_iff.2 ⟨id', get?_of_undergoAll hid' hold⟩) hgone
  · have hle := nextId_le_undergoAll x (away.map .turn)
    rw [← live_eq_undergoAll] at hle
    exact Nat.lt_of_lt_of_le (hsound.below hid) (Nat.le_trans hle hnew)

-- ---------------------------------------------------------------------------
-- From when it was made
-- ---------------------------------------------------------------------------

variable {config : AutomatonConfig} {hub : Hub α} {episodes : List (Episode σ α)}

theorem sound_of_create :
    (undergoAll (create config hub) episodes).1.registry.Sound :=
  sound_undergoAll Registry.sound_empty episodes

theorem issuedOver_create :
    issuedOver (create config hub) episodes =
      (List.range (undergoAll (create config hub) episodes).1.registry.nextId).map
        SubscriptionId.mk := by
  rw [issuedOver_eq, List.range_eq_range']
  rfl

theorem mem_issuedOver_create :
    id ∈ issuedOver (create config hub) episodes ↔
      id.number < (undergoAll (create config hub) episodes).1.registry.nextId := by
  rw [issuedOver_create, List.mem_map]
  constructor
  · rintro ⟨n, hn, rfl⟩
    exact List.mem_range.1 hn
  · intro hid
    exact ⟨id.number, List.mem_range.2 hid, rfl⟩

end Automaton

end EventAutomata
