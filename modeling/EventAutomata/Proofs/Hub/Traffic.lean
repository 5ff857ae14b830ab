import EventAutomata.Script
import Mathlib.Data.List.Forall2

/-!
# Traffic on the hub

Whatever works on a hub leaves events in its journal, and the events account for the
queues: what waited in a channel and what was queued meanwhile is, in this order, what was
taken out and what waits afterwards (`Hub.Traffic`). No channel is opened or closed by such
work, and nothing is queued in a closed one.

A callback never takes a request out. Its events are those of some of its effects, in the
order of the script (`Script.Wrote`).
-/

namespace EventAutomata

variable {α : Type}

namespace Event

def queued? (c : ChannelId) : Event α → Option (Fired α)
  | .raised d fired => if d = c then some fired else none
  | _ => none

def taken? (c : ChannelId) : Event α → Option (Fired α)
  | .taken d fired => if d = c then some fired else none
  | _ => none

end Event

/-- What was put in a channel, oldest first. -/
def queuedIn (c : ChannelId) (events : List (Event α)) : List (Fired α) :=
  events.filterMap (Event.queued? c)

/-- What was taken out of a channel, oldest first. -/
def takenFrom (c : ChannelId) (events : List (Event α)) : List (Fired α) :=
  events.filterMap (Event.taken? c)

@[simp] theorem queuedIn_nil (c : ChannelId) : queuedIn c ([] : List (Event α)) = [] := rfl

@[simp] theorem takenFrom_nil (c : ChannelId) : takenFrom c ([] : List (Event α)) = [] := rfl

@[simp] theorem queuedIn_append (c : ChannelId) (xs ys : List (Event α)) :
    queuedIn c (xs ++ ys) = queuedIn c xs ++ queuedIn c ys := List.filterMap_append

@[simp] theorem takenFrom_append (c : ChannelId) (xs ys : List (Event α)) :
    takenFrom c (xs ++ ys) = takenFrom c xs ++ takenFrom c ys := List.filterMap_append

theorem queuedIn_raised (c d : ChannelId) (fired : Fired α) :
    queuedIn c [.raised d fired] = if d = c then [fired] else [] := by
  simp only [queuedIn, Event.queued?, List.filterMap_cons, List.filterMap_nil]
  split <;> simp_all

theorem takenFrom_taken (c d : ChannelId) (fired : Fired α) :
    takenFrom c [.taken d fired] = if d = c then [fired] else [] := by
  simp only [takenFrom, Event.taken?, List.filterMap_cons, List.filterMap_nil]
  split <;> simp_all

namespace Hub

variable {h h₁ h₂ : Hub α} {c d : ChannelId}

structure Traffic (h h' : Hub α) (events : List (Event α)) : Prop where
  journal : h'.journal.toList = h.journal.toList ++ events
  queue : ∀ c, h.queue c ++ queuedIn c events = takenFrom c events ++ h'.queue c
  isOpen : ∀ c, h'.isOpen c = h.isOpen c
  closed : ∀ c, h.isOpen c = false → queuedIn c events = []
  size : h'.channels.size = h.channels.size

theorem Traffic.refl : h.Traffic h [] := by
  constructor <;> simp

theorem Traffic.trans {e₁ e₂ : List (Event α)} (h₁₂ : h.Traffic h₁ e₁) (h₂₃ : h₁.Traffic h₂ e₂) :
    h.Traffic h₂ (e₁ ++ e₂) where
  journal := by rw [h₂₃.journal, h₁₂.journal, List.append_assoc]
  queue c := by
    rw [queuedIn_append, takenFrom_append, ← List.append_assoc, h₁₂.queue, List.append_assoc,
      h₂₃.queue, List.append_assoc]
  isOpen c := (h₂₃.isOpen c).trans (h₁₂.isOpen c)
  closed c hc := by
    rw [queuedIn_append, h₁₂.closed c hc, h₂₃.closed c ((h₁₂.isOpen c).trans hc), List.append_nil]
  size := h₂₃.size.trans h₁₂.size

theorem traffic_of_same (hc : h₁.channels = h.channels) (hj : h₁.journal = h.journal) :
    h.Traffic h₁ [] := by
  constructor <;> simp [queue, queue?, Hub.isOpen, hc, hj]

theorem traffic_note {e : Event α} (hq : ∀ c, e.queued? c = none) (ht : ∀ c, e.taken? c = none) :
    h.Traffic (h.note e) [e] := by
  have hqueued : ∀ c, queuedIn c [e] = [] := fun c => by simp [queuedIn, hq]
  have htaken : ∀ c, takenFrom c [e] = [] := fun c => by simp [takenFrom, ht]
  refine ⟨Fifo.toList_push _ _, fun c => ?_, fun _ => rfl, fun c _ => hqueued c, rfl⟩
  rw [hqueued, htaken, List.append_nil]
  rfl

theorem queue_of_queue? {q : Fifo (Fired α)} (hq : h.queue? c = some q) : h.queue c = q.toList := by
  simp [queue, hq]

theorem queue_setQueue_of_open {q q' : Fifo (Fired α)} (hq : h.queue? c = some q) :
    (h.setQueue c (some q')).queue d = if c = d then q'.toList else h.queue d := by
  simp only [queue, queue?_setQueue_of_open hq]
  split <;> rfl

theorem isOpen_setQueue_of_open {q q' : Fifo (Fired α)} (hq : h.queue? c = some q) :
    (h.setQueue c (some q')).isOpen d = h.isOpen d := by
  simp only [Hub.isOpen, queue?_setQueue_of_open hq]
  split
  next heq => rw [← heq, hq]; rfl
  next => rfl

/-- Raising succeeds exactly if the channel is open, and then the request is queued. -/
theorem raise_cases (h : Hub α) (signal : FireSignal) (args : List α) :
    (h.isOpen signal.channel = true ∧ (h.raise signal args).1 = .ok () ∧
        h.Traffic (h.raise signal args).2 [.raised signal.channel ⟨signal.transition, args⟩]) ∨
      (h.isOpen signal.channel = false ∧
        h.raise signal args = (.error (.signalClosed signal.transition), h)) := by
  unfold raise
  cases hq : h.queue? signal.channel with
  | none => exact .inr ⟨by simp [Hub.isOpen, hq], rfl⟩
  | some q =>
    refine .inl ⟨by simp [Hub.isOpen, hq], rfl, Fifo.toList_push _ _, fun c => ?_,
      fun c => isOpen_setQueue_of_open hq, fun c hc => ?_, by simp [note, setQueue]⟩
    · rw [queuedIn_raised]
      show _ = [] ++ (h.setQueue signal.channel _).queue c
      rw [queue_setQueue_of_open hq, List.nil_append]
      split
      next heq => rw [← heq, queue_of_queue? hq, Fifo.toList_push]
      next => rw [List.append_nil]
    · rw [queuedIn_raised, if_neg]
      rintro rfl
      simp [Hub.isOpen, hq] at hc

theorem traffic_take? {fired : Fired α} (ht : h.take? c = some (fired, h₁)) :
    h.Traffic h₁ [.taken c fired] := by
  unfold take? at ht
  split at ht
  next f rest hbind =>
    obtain ⟨q, hq, hpop⟩ := Option.bind_eq_some_iff.1 hbind
    simp only [Option.some.injEq, Prod.mk.injEq] at ht
    obtain ⟨rfl, rfl⟩ := ht
    refine ⟨Fifo.toList_push _ _, fun d => ?_, fun d => isOpen_setQueue_of_open hq,
      fun _ _ => rfl, by simp [note, setQueue]⟩
    rw [takenFrom_taken]
    show h.queue d ++ [] = _ ++ (h.setQueue c _).queue d
    rw [queue_setQueue_of_open hq, List.append_nil]
    split
    next heq => rw [← heq, queue_of_queue? hq, Fifo.pop?_eq_some.1 hpop]; rfl
    next => rfl
  next => cases ht

theorem take?_eq_none (ht : h.take? c = none) : h.queue c = [] := by
  unfold take? at ht
  split at ht
  next => cases ht
  next hbind =>
    cases hq : h.queue? c with
    | none => simp [queue, hq]
    | some q =>
      rw [hq, Option.bind_some, Fifo.pop?_eq_none] at hbind
      rw [queue_of_queue? hq, hbind]

theorem traffic_spend? {meter : Option MeterId} (hs : h.spend? meter = some h₁) :
    h.Traffic h₁ [] := by
  unfold spend? at hs
  split at hs
  next => cases hs; exact .refl
  next =>
    split at hs
    next => cases hs; exact traffic_of_same rfl rfl
    next => cases hs

end Hub

-- ---------------------------------------------------------------------------
-- Callbacks
-- ---------------------------------------------------------------------------

/-- An event that the effect can leave when it acts at a site. -/
inductive Effect.Wrote (site : Site α) : Effect α → Event α → Prop
  | noted (tag : String) (meter : Option MeterId) : Wrote site (.log tag meter) (.noted site tag)
  | raised (signal : FireSignal) (args : List α) (meter : MeterId) :
      Wrote site (.raise signal args meter) (.raised signal.channel ⟨signal.transition, args⟩)
  | refused (signal : FireSignal) (args : List α) (meter : MeterId) :
      Wrote site (.raise signal args meter) (.refused (.signalClosed signal.transition))
  | restRaised (signal : FireSignal) (meter : Option MeterId) {t : TransitionId} {first : α}
      {rest : List α} {c : TransitContext} :
      site = .transit t (some first) rest c →
      Wrote site (.raiseRest signal meter) (.raised signal.channel ⟨signal.transition, rest⟩)
  | restRefused (signal : FireSignal) (meter : Option MeterId) {t : TransitionId} {first : α}
      {rest : List α} {c : TransitContext} :
      site = .transit t (some first) rest c →
      Wrote site (.raiseRest signal meter) (.refused (.signalClosed signal.transition))

/-- The events are those of some of the effects, one each, in the order of the script. -/
def Script.Wrote (site : Site α) (script : Script α) (events : List (Event α)) : Prop :=
  ∃ effects, effects.Sublist script ∧ List.Forall₂ (Effect.Wrote site) effects events

namespace Script

variable {site : Site α} {script : Script α} {events : List (Event α)}

theorem Wrote.nil : Wrote site script [] := ⟨[], List.nil_sublist _, .nil⟩

theorem Wrote.skip (e : Effect α) (hw : Wrote site script events) :
    Wrote site (e :: script) events := by
  obtain ⟨effects, hsub, hall⟩ := hw
  exact ⟨effects, hsub.cons e, hall⟩

theorem Wrote.cons {e : Effect α} {event : Event α} (he : e.Wrote site event)
    (hw : Wrote site script events) : Wrote site (e :: script) (event :: events) := by
  obtain ⟨effects, hsub, hall⟩ := hw
  exact ⟨e :: effects, hsub.cons_cons e, .cons he hall⟩

theorem Wrote.takenFrom (hw : Wrote site script events) (c : ChannelId) :
    takenFrom c events = [] := by
  obtain ⟨effects, -, hall⟩ := hw
  induction hall with
  | nil => rfl
  | cons he _ ih => cases he <;> exact ih

theorem raiseOrNote_traffic (h : Hub α) (signal : FireSignal) (args : List α) :
    ∃ event, h.Traffic (h.raiseOrNote signal args) [event] ∧
      (event = .raised signal.channel ⟨signal.transition, args⟩ ∨
        event = .refused (.signalClosed signal.transition)) := by
  unfold Hub.raiseOrNote
  rcases h.raise_cases signal args with ⟨-, hok, htraffic⟩ | ⟨-, heq⟩
  · refine ⟨_, ?_, .inl rfl⟩
    split
    next hr => rw [hr] at htraffic; exact htraffic
    next hr => rw [hr] at hok; cases hok
  · rw [heq]
    exact ⟨_, Hub.traffic_note (fun _ => rfl) (fun _ => rfl), .inr rfl⟩

theorem act_traffic (site : Site α) (h : Hub α) (e : Effect α) :
    h.Traffic (e.act site h).2 [] ∨
      ∃ event, h.Traffic (e.act site h).2 [event] ∧ e.Wrote site event := by
  cases e with
  | log tag meter =>
    exact .inr ⟨_, Hub.traffic_note (fun _ => rfl) (fun _ => rfl), .noted tag meter⟩
  | raise signal args meter =>
    obtain ⟨event, htraffic, rfl | rfl⟩ := raiseOrNote_traffic h signal args
    · exact .inr ⟨_, htraffic, .raised signal args meter⟩
    · exact .inr ⟨_, htraffic, .refused signal args meter⟩
  | raiseRest signal meter =>
    simp only [Effect.act]
    split
    next => exact .inl .refl
    next rest hrest =>
      obtain ⟨t, first, c, hsite⟩ := Site.behindFirst?_eq_some.1 hrest
      obtain ⟨event, htraffic, rfl | rfl⟩ := raiseOrNote_traffic h signal rest
      · exact .inr ⟨_, htraffic, .restRaised signal meter hsite⟩
      · exact .inr ⟨_, htraffic, .restRefused signal meter hsite⟩
  | panic text meter => exact .inl .refl

theorem effect_traffic (site : Site α) (h : Hub α) (e : Effect α) :
    h.Traffic (e.run site h).2 [] ∨
      ∃ event, h.Traffic (e.run site h).2 [event] ∧ e.Wrote site event := by
  unfold Effect.run
  split
  next => exact .inl .refl
  next h₁ hs =>
    have hspent := Hub.traffic_spend? hs
    rcases act_traffic site h₁ e with htraffic | ⟨event, htraffic, hwrote⟩
    · exact .inl (hspent.trans htraffic)
    · exact .inr ⟨event, hspent.trans htraffic, hwrote⟩

/-- All that a script does to the hub is what its effects leave, up to a fault. -/
theorem run_traffic (site : Site α) (h : Hub α) (script : Script α) :
    ∃ events, h.Traffic (run site h script).2 events ∧ Wrote site script events := by
  induction script generalizing h with
  | nil => exact ⟨[], .refl, .nil⟩
  | cons e rest ih =>
    have hstep := effect_traffic site h e
    simp only [run]
    cases hr : e.run site h with
    | mk result h₁ =>
      rw [hr] at hstep
      cases result with
      | error _ =>
        rcases hstep with htraffic | ⟨event, htraffic, hwrote⟩
        · exact ⟨[], htraffic, .nil⟩
        · exact ⟨[event], htraffic, .cons hwrote .nil⟩
      | ok _ =>
        obtain ⟨events, hrest, hwrest⟩ := ih h₁
        rcases hstep with htraffic | ⟨event, htraffic, hwrote⟩
        · exact ⟨events, htraffic.trans hrest, hwrest.skip e⟩
        · exact ⟨event :: events, htraffic.trans hrest, .cons hwrote hwrest⟩

end Script

end EventAutomata
