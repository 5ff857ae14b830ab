import EventAutomata.Fifo
import EventAutomata.Misuse
import EventAutomata.Time.Timestamp
import EventAutomata.Transit

/-!
# The hub

What automata share: their channels, the meters that bound how often an effect
acts, the journal and the clock.

Every automaton has a channel of its own, which no other automaton is ever given
again. A channel is a queue. It closes when its automaton is dropped, and what was
queued is gone. A fire signal is bound to a transition and to the channel of the
automaton that handed it out, wherever the signal is kept. Raising it leaves a
request in that channel.

A meter counts down and never up. The journal lists everything that callbacks
noted and all that passed through the channels, oldest first. It only grows,
until someone collects it.
-/

namespace EventAutomata

open EventAutomata.Time

@[ext]
structure ChannelId where
  index : Nat
  deriving DecidableEq, Repr

structure Fired (α : Type) where
  transition : TransitionId
  args : List α
  deriving DecidableEq, Repr

structure FireSignal where
  transition : TransitionId
  channel : ChannelId
  deriving DecidableEq, Repr

@[ext]
structure MeterId where
  index : Nat
  deriving DecidableEq, Repr

inductive Event (α : Type)
  /-- A callback left a note. -/
  | noted (site : Site α) (tag : String)
  /-- A callback raised a signal whose channel is closed. -/
  | refused (problem : Misuse)
  /-- A request was queued. -/
  | raised (channel : ChannelId) (fired : Fired α)
  /-- A request was taken out for delivery. -/
  | taken (channel : ChannelId) (fired : Fired α)
  deriving DecidableEq, Repr

/-- The state that automata share. A closed channel is `none`. -/
structure Hub (α : Type) where
  channels : Array (Option (Fifo (Fired α))) := #[]
  meters : Array Nat := #[]
  journal : Fifo (Event α) := ∅
  clock : Timestamp := ⟨0, 0⟩
  deriving DecidableEq

namespace Hub

variable {α : Type}

def note (h : Hub α) (e : Event α) : Hub α := { h with journal := h.journal.push e }

def collect (h : Hub α) : List (Event α) × Hub α := (h.journal.toList, { h with journal := ∅ })

-- ---------------------------------------------------------------------------
-- Channels
-- ---------------------------------------------------------------------------

def newChannel (h : Hub α) : ChannelId × Hub α :=
  (⟨h.channels.size⟩, { h with channels := h.channels.push (some ∅) })

def queue? (h : Hub α) (c : ChannelId) : Option (Fifo (Fired α)) :=
  (h.channels[c.index]?).join

/-- The requests that wait in a channel, oldest first; none if it is closed. -/
def queue (h : Hub α) (c : ChannelId) : List (Fired α) := ((h.queue? c).getD ∅).toList

def isOpen (h : Hub α) (c : ChannelId) : Bool := (h.queue? c).isSome

def setQueue (h : Hub α) (c : ChannelId) (q : Option (Fifo (Fired α))) : Hub α :=
  { h with channels := h.channels.setIfInBounds c.index q }

def close (h : Hub α) (c : ChannelId) : Hub α := h.setQueue c none

def raise (h : Hub α) (signal : FireSignal) (args : List α) : Except Misuse Unit × Hub α :=
  match h.queue? signal.channel with
  | none => (.error (.signalClosed signal.transition), h)
  | some q =>
    let fired : Fired α := ⟨signal.transition, args⟩
    (.ok (), (h.setQueue signal.channel (some (q.push fired))).note (.raised signal.channel fired))

def take? (h : Hub α) (c : ChannelId) : Option (Fired α × Hub α) :=
  match (h.queue? c).bind Fifo.pop? with
  | some (fired, rest) => some (fired, (h.setQueue c (some rest)).note (.taken c fired))
  | none => none

-- ---------------------------------------------------------------------------
-- Meters
-- ---------------------------------------------------------------------------

def newMeter (h : Hub α) (firings : Nat) : MeterId × Hub α :=
  (⟨h.meters.size⟩, { h with meters := h.meters.push firings })

/-- Counts a meter down. Nothing comes out of one that is used up; where there is
no meter nothing is counted. -/
def spend? (h : Hub α) : Option MeterId → Option (Hub α)
  | none => some h
  | some m =>
    match h.meters[m.index]? with
    | some (left + 1) => some { h with meters := h.meters.setIfInBounds m.index left }
    | _ => none

def firingsLeft (h : Hub α) : Nat := h.meters.toList.foldr (· + ·) 0

-- ---------------------------------------------------------------------------
-- Views of what the operations do
-- ---------------------------------------------------------------------------

@[simp] theorem queue?_note (h : Hub α) (e : Event α) (c : ChannelId) :
    (h.note e).queue? c = h.queue? c := rfl

theorem queue?_setQueue (h : Hub α) (c d : ChannelId) (q : Option (Fifo (Fired α))) :
    (h.setQueue c q).queue? d =
      if c = d then (if c.index < h.channels.size then q else none) else h.queue? d := by
  simp only [ChannelId.ext_iff, queue?, setQueue, Array.getElem?_setIfInBounds]
  by_cases hcd : c.index = d.index
  · rw [if_pos hcd, if_pos hcd]
    split <;> rfl
  · rw [if_neg hcd, if_neg hcd]

theorem lt_size_of_queue? {h : Hub α} {c : ChannelId} {q : Fifo (Fired α)}
    (hq : h.queue? c = some q) : c.index < h.channels.size := by
  simp only [queue?, Option.join_eq_some_iff] at hq
  exact (Array.getElem?_eq_some_iff.1 hq).1

theorem queue?_setQueue_of_open {h : Hub α} {c d : ChannelId} {q q' : Fifo (Fired α)}
    (hq : h.queue? c = some q) :
    (h.setQueue c (some q')).queue? d = if c = d then some q' else h.queue? d := by
  rw [queue?_setQueue, if_pos (lt_size_of_queue? hq)]

theorem take?_eq_some {h h' : Hub α} {c : ChannelId} {fired : Fired α}
    (ht : h.take? c = some (fired, h')) :
    h.queue c = fired :: h'.queue c ∧ h'.firingsLeft = h.firingsLeft := by
  unfold take? at ht
  split at ht
  next f rest hbind =>
    obtain ⟨q, hq, hpop⟩ := Option.bind_eq_some_iff.1 hbind
    simp only [Option.some.injEq, Prod.mk.injEq] at ht
    obtain ⟨rfl, rfl⟩ := ht
    refine ⟨?_, rfl⟩
    simp [queue, hq, queue?_setQueue_of_open hq, Fifo.pop?_eq_some.1 hpop]
  next => cases ht

theorem firings_set {meters : List Nat} {i left : Nat} (hi : meters[i]? = some (left + 1)) :
    (meters.set i left).foldr (· + ·) 0 + 1 = meters.foldr (· + ·) 0 := by
  induction meters generalizing i with
  | nil => simp at hi
  | cons n rest ih =>
    cases i with
    | zero =>
      obtain rfl : n = left + 1 := by simpa using hi
      simp only [List.set_cons_zero, List.foldr_cons]
      omega
    | succ i =>
      have hrest := ih (by simpa using hi)
      simp only [List.set_cons_succ, List.foldr_cons]
      omega

theorem spend?_some_meter {h h' : Hub α} {m : MeterId} (hs : h.spend? (some m) = some h') :
    h'.firingsLeft + 1 = h.firingsLeft ∧ h'.channels = h.channels := by
  simp only [spend?] at hs
  split at hs
  next left hm =>
    cases hs
    refine ⟨?_, rfl⟩
    simp only [firingsLeft, Array.toList_setIfInBounds]
    exact firings_set (by rw [Array.getElem?_toList, hm])
  next => cases hs

end Hub

end EventAutomata
