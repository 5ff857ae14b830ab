import EventAutomata.Proofs.Session.Signals
import Mathlib.Logic.Function.Basic

/-!
# Machines that come and go

A place can have one machine after the other. A roster numbers the machines in the order in which
they are made, and notes which one is in each place and which one was asked for the signal in each
slot. It reads nothing but the steps and their answers. It turns out that the numbers are those of
the channels (`Enrolled`). So a signal belongs to the machine that was asked for it as long as the
session goes on, wherever it is kept, and never to another machine in the same place.
-/

namespace EventAutomata

open Function (update)

variable {σ α : Type}

/-- What an onlooker writes down about a session. -/
structure Roster where
  made : Nat := 0
  present : Nat → Option Nat := fun _ => none
  askedOf : List Nat := []

/-- The roster after a step about place `m` that was answered so. -/
def Roster.after (r : Roster) (m : Nat) : Session.Step σ α → Answer → Roster
  | .create _, .flag true =>
    { r with made := r.made + 1, present := update r.present m (some r.made) }
  | .drop, .flag true => { r with present := update r.present m none }
  | .signal _, .slot _ => { r with askedOf := r.askedOf ++ (r.present m).toList }
  | .copySignal slot, .slot _ => { r with askedOf := r.askedOf ++ r.askedOf[slot]?.toList }
  | _, _ => r

namespace Session

open Automaton

variable {x : Session σ α} {r : Roster} {m : Nat} {c : ChannelId}

/-- The numbers on the roster are those of the channels. -/
structure Enrolled (x : Session σ α) (r : Roster) : Prop where
  made : x.hub.channels.size = r.made
  present : ∀ k, x.channel? k = (r.present k).map ChannelId.mk
  opened : ∀ {c}, x.hub.isOpen c = true → ∃ k, x.channel? k = some c
  asked : x.slots.toList.map FireSignal.channel = r.askedOf.map ChannelId.mk

theorem enrolled_empty : (∅ : Session σ α).Enrolled {} where
  made := rfl
  present _ := rfl
  opened hc := absurd (Hub.lt_size_of_isOpen hc) (Nat.not_lt_zero _)
  asked := rfl

theorem Enrolled.asked_getElem? (hx : x.Enrolled r) (slot : Nat) :
    (x.slots[slot]?).map FireSignal.channel = (r.askedOf[slot]?).map ChannelId.mk := by
  have hget := congrArg (·[slot]?) hx.asked
  simpa only [List.getElem?_map, Array.getElem?_toList] using hget

theorem Enrolled.channel_of_present (hx : x.Enrolled r) {i : Nat} (hi : r.present m = some i) :
    ∃ a, x.machine? m = some a ∧ a.channel = ⟨i⟩ := by
  refine channel?_eq_some.1 ?_
  rw [hx.present, hi]
  rfl

-- ---------------------------------------------------------------------------
-- Making and dropping
-- ---------------------------------------------------------------------------

theorem isOpen_dropMachine (hc : (x.dropMachine m).2.hub.isOpen c = true) :
    x.hub.isOpen c = true ∧ x.channel? m ≠ some c := by
  unfold dropMachine at hc
  split at hc
  next hnone =>
    refine ⟨hc, ?_⟩
    rw [channel?, hnone]
    rintro heq
    cases heq
  next a ha =>
    have hne : a.channel ≠ c := by
      rintro rfl
      rw [Hub.isOpen_close_self] at hc
      cases hc
    rw [Hub.isOpen, Hub.queue?_close_of_ne _ hne] at hc
    refine ⟨hc, ?_⟩
    rw [channel?_of_machine? ha]
    exact fun heq => hne (Option.some.inj heq)

theorem Enrolled.present_update (hx : x.Enrolled r) (m k : Nat) (i : Option Nat) :
    (if m = k then i.map ChannelId.mk else x.channel? k) =
      (update r.present m i k).map ChannelId.mk := by
  split
  next heq => rw [heq, Function.update_self]
  next hne => rw [hx.present, Function.update_of_ne (Ne.symm hne)]

theorem Enrolled.opened_dropMachine (hx : x.Enrolled r)
    (hc : (x.dropMachine m).2.hub.isOpen c = true) : ∃ k, m ≠ k ∧ x.channel? k = some c := by
  obtain ⟨hopen, hne⟩ := isOpen_dropMachine hc
  obtain ⟨k, hk⟩ := hx.opened hopen
  refine ⟨k, ?_, hk⟩
  rintro rfl
  exact hne hk

theorem Enrolled.dropMachine (hx : x.Enrolled r) (m : Nat) :
    (x.dropMachine m).2.Enrolled { r with present := update r.present m none } where
  made := (x.size_dropMachine m).2.trans hx.made
  present k := (x.channel?_dropMachine m k).trans (hx.present_update m k none)
  opened hc := by
    obtain ⟨k, hne, hk⟩ := hx.opened_dropMachine hc
    refine ⟨k, ?_⟩
    rw [channel?_dropMachine, if_neg hne, hk]
  asked := by
    rw [slots_dropMachine]
    exact hx.asked

theorem hub_create {config : AutomatonConfig} (hm : m ≤ x.machines.size) :
    (x.create m config).2.hub = (x.dropMachine m).2.hub.newChannel.2 := by
  unfold create
  split
  next => rfl
  next hlt =>
    have hnone : x.machine? m = none := by
      cases ha : x.machine? m with
      | none => rfl
      | some a => exact absurd (lt_size_of_machine? ha) hlt
    rw [if_pos (by omega), dropMachine, hnone]
    rfl

theorem Enrolled.create (hx : x.Enrolled r) (config : AutomatonConfig) (hm : m ≤ x.machines.size) :
    (x.create m config).2.Enrolled
      { r with made := r.made + 1, present := update r.present m (some r.made) } where
  made := by
    rw [hub_create hm, ← hx.made, ← (x.size_dropMachine m).2]
    exact Array.size_push _
  present k := by
    rw [channel?_create hm, hx.made]
    exact hx.present_update m k (some r.made)
  opened {c} hc := by
    rw [hub_create hm, Hub.isOpen, Hub.queue?_newChannel] at hc
    split at hc
    next heq =>
      refine ⟨m, ?_⟩
      rw [channel?_create hm, if_pos rfl, heq, ← (x.size_dropMachine m).2]
      rfl
    next =>
      obtain ⟨k, hne, hk⟩ := hx.opened_dropMachine hc
      refine ⟨k, ?_⟩
      rw [channel?_create hm, if_neg hne, hk]
  asked := by
    rw [slots_create]
    exact hx.asked

-- ---------------------------------------------------------------------------
-- Steps and runs
-- ---------------------------------------------------------------------------

variable [Payload σ] [Inhabited σ]

theorem Enrolled.asked_perform (hx : x.Enrolled r) {step : Step σ α} (hstep : step.replaces = false) :
    (r.after m step (x.perform m step).1).made = r.made ∧
      (r.after m step (x.perform m step).1).present = r.present ∧
      (r.after m step (x.perform m step).1).askedOf.map ChannelId.mk =
        r.askedOf.map ChannelId.mk ++ (step.stores? x m).toList.map FireSignal.channel := by
  cases step with
  | create | drop => cases hstep
  | signal t =>
    simp only [perform, withMachine, Step.stores?]
    cases ha : x.machine? m with
    | none => simp [Roster.after]
    | some a =>
      have hpresent := hx.present m
      rw [channel?_of_machine? ha] at hpresent
      obtain ⟨i, hi, hchannel⟩ := Option.map_eq_some_iff.1 hpresent.symm
      cases hsignal : a.signal? t with
      | none => simp [Roster.after, hsignal]
      | some signal =>
        obtain ⟨edge, -, rfl⟩ := Option.map_eq_some_iff.1 hsignal
        simp [Roster.after, hsignal, addSlot, hi, hchannel]
  | copySignal slot =>
    have hasked := hx.asked_getElem? slot
    simp only [perform, withSlot, Step.stores?]
    cases hsignal : x.slots[slot]? with
    | none => simp [Roster.after]
    | some signal =>
      rw [hsignal] at hasked
      obtain ⟨i, hi, hchannel⟩ := Option.map_eq_some_iff.1 hasked.symm
      simp [Roster.after, addSlot, hi, hchannel]
  | _ => exact ⟨rfl, rfl, (List.append_nil _).symm⟩

theorem Enrolled.perform (hx : x.Enrolled r) (m : Nat) (step : Step σ α) :
    (x.perform m step).2.Enrolled (r.after m step (x.perform m step).1) := by
  by_cases hstep : step.replaces = true
  · cases step with
    | create config =>
      by_cases hm : m ≤ x.machines.size
      · have hcreated := hx.create config hm
        have hanswer : (x.create m config).1 = .flag true := by
          unfold Session.create
          split
          next => rfl
          next => rw [if_pos (by omega)]
        rw [Session.perform, hanswer]
        exact hcreated
      · have hinvalid : x.create m config = (.invalid, x) := by
          rw [Session.create, if_neg (by omega), if_neg (by omega)]
        rw [Session.perform, hinvalid]
        exact hx
    | drop =>
      have hdropped := hx.dropMachine m
      have hperform : x.perform m .drop = (.flag (x.dropMachine m).1, (x.dropMachine m).2) := rfl
      rw [hperform]
      cases ha : x.machine? m with
      | none =>
        rw [Session.dropMachine, ha]
        exact hx
      | some a =>
        have hanswer : (x.dropMachine m).1 = true := by rw [Session.dropMachine, ha]
        rw [hanswer]
        exact hdropped
    | _ => cases hstep
  · have hkept : step.replaces = false := Bool.eq_false_iff.2 hstep
    obtain ⟨events, htraffic, -⟩ := raised_perform (x := x) (m := m) (P := fun _ => True)
      (fun _ _ _ _ _ => trivial) (fun _ _ => trivial) hkept
    obtain ⟨hmade, hpresent, hasked⟩ := hx.asked_perform (m := m) hkept
    refine ⟨?_, fun k => ?_, fun {c} hc => ?_, ?_⟩
    · rw [htraffic.size, hx.made, hmade]
    · rw [channel?_perform fun _ => hkept, hx.present, hpresent]
    · obtain ⟨k, hk⟩ := hx.opened (htraffic.isOpen c ▸ hc)
      exact ⟨k, (channel?_perform fun _ => hkept).trans hk⟩
    · rw [slots_perform, List.map_append, hx.asked, hasked]

def roll (x : Session σ α) (r : Roster) : List (Nat × Step σ α) → Roster
  | [] => r
  | (m, step) :: rest =>
    (x.perform m step).2.roll (r.after m step (x.perform m step).1) rest

def rosterOf (steps : List (Nat × Step σ α)) : Roster := (∅ : Session σ α).roll {} steps

theorem Enrolled.run (hx : x.Enrolled r) (steps : List (Nat × Step σ α)) :
    (x.run steps).Enrolled (x.roll r steps) := by
  induction steps generalizing x r with
  | nil => exact hx
  | cons e rest ih => exact ih (hx.perform e.1 e.2)

-- ---------------------------------------------------------------------------
-- Whose signals they are
-- ---------------------------------------------------------------------------

omit [Payload σ] [Inhabited σ] in
/-- What raising a signal does depends only on whether the machine that was asked for it is there,
also in the middle of what some machine does. -/
theorem raise_of_asked (hx : x.Accounted) (hr : x.Enrolled r) {slot i : Nat} {signal : FireSignal}
    (hslot : x.slots[slot]? = some signal) (hi : r.askedOf[slot]? = some i) {h : Hub α}
    {events : List (Event α)} (htraffic : x.hub.Traffic h events) (args : List α) :
    (∃ m a, r.present m = some i ∧ x.machine? m = some a ∧ (h.raise signal args).1 = .ok () ∧
      (∀ n b, x.machine? n = some b → (h.raise signal args).2.queue b.channel =
        h.queue b.channel ++ if n = m then [⟨signal.transition, args⟩] else []) ∧
      ∀ c, c ≠ a.channel → (h.raise signal args).2.queue c = h.queue c) ∨
    ((∀ m, r.present m ≠ some i) ∧
      h.raise signal args = (.error (.signalClosed signal.transition), h)) := by
  have hchannel : signal.channel = ⟨i⟩ := by
    have hasked := hr.asked_getElem? slot
    rw [hslot, hi] at hasked
    exact Option.some.inj hasked
  rcases h.raise_cases signal args with ⟨hopen, hok, hraised⟩ | ⟨hclosed, heq⟩
  · refine .inl ?_
    obtain ⟨m, hm⟩ := hr.opened (htraffic.isOpen _ ▸ hopen)
    obtain ⟨a, ha, hac⟩ := channel?_eq_some.1 hm
    have hpresent : r.present m = some i := by
      rw [hr.present, hchannel] at hm
      obtain ⟨j, hj, heq⟩ := Option.map_eq_some_iff.1 hm
      cases heq
      exact hj
    have hqueue : ∀ c, (h.raise signal args).2.queue c =
        h.queue c ++ if signal.channel = c then [⟨signal.transition, args⟩] else [] := by
      intro c
      rw [← queuedIn_raised, hraised.queue]
      rfl
    refine ⟨m, a, hpresent, ha, hok, fun n b hb => ?_, fun c hc => ?_⟩
    -- No two machines share a channel.
    · have hsame : signal.channel = b.channel ↔ n = m := by
        refine ⟨fun heq => hx.apart hb ha (heq.symm.trans hac.symm), ?_⟩
        rintro rfl
        cases ha.symm.trans hb
        exact hac.symm
      rw [hqueue]
      simp only [hsame]
    · rw [hqueue, if_neg fun heq => hc (heq.symm.trans hac.symm), List.append_nil]
  · refine .inr ⟨fun m hm => ?_, heq⟩
    obtain ⟨a, ha, hac⟩ := hr.channel_of_present hm
    have hopen := hx.isOpen ha
    rw [hac, ← hchannel, ← htraffic.isOpen, hclosed] at hopen
    cases hopen

/-- The signal is in a slot, and the `i`-th machine was asked for it. -/
def HandedOut (x : Session σ α) (r : Roster) (i : Nat) (signal : FireSignal) : Prop :=
  ∃ slot : Nat, x.slots[slot]? = some signal ∧ r.askedOf[slot]? = some i

omit [Payload σ] [Inhabited σ] in
theorem Enrolled.handedOut (hr : x.Enrolled r) {i : Nat} {signal : FireSignal}
    (hmem : signal ∈ x.slots) (hchannel : signal.channel = ⟨i⟩) : x.HandedOut r i signal := by
  obtain ⟨slot, hslot⟩ := Array.mem_iff_getElem?.1 hmem
  have hasked := hr.asked_getElem? slot
  rw [hslot, Option.map_some, hchannel] at hasked
  obtain ⟨j, hj, heq⟩ := Option.map_eq_some_iff.1 hasked.symm
  cases heq
  exact ⟨slot, hslot, hj⟩

/-- A signal belongs to the machine that was asked for it, or for the one that it is a copy of.
As long as that machine is there, raising the signal puts one request in its queue and in no
other; from when it is dropped on, the signal is closed. Callbacks hold no other signals, wherever
their nodes have got to. So a machine gets only what was raised through its own signals, and
nothing that was meant for another one in the same place. -/
theorem signals_stay_with_their_machine {steps : List (Nat × Step σ α)}
    (hsteps : (∅ : Session σ α).Genuine steps) :
    let x : Session σ α := run ∅ steps
    let r := rosterOf steps
    (∀ (slot : Nat) signal, x.slots[slot]? = some signal → ∃ i, r.askedOf[slot]? = some i ∧
      ∀ h events args, x.hub.Traffic h events →
        (∃ m a, r.present m = some i ∧ x.machine? m = some a ∧ (h.raise signal args).1 = .ok () ∧
          (∀ n b, x.machine? n = some b → (h.raise signal args).2.queue b.channel =
            h.queue b.channel ++ if n = m then [⟨signal.transition, args⟩] else []) ∧
          ∀ c, c ≠ a.channel → (h.raise signal args).2.queue c = h.queue c) ∨
        ((∀ m, r.present m ≠ some i) ∧
          h.raise signal args = (.error (.signalClosed signal.transition), h))) ∧
    (∀ m a script, x.machine? m = some a → a.graph.HasCallback script →
      ∀ signal ∈ script.signals, ∃ slot : Nat, x.slots[slot]? = some signal) ∧
    ∀ m a, x.machine? m = some a → ∃ i, r.present m = some i ∧
      (∀ fired ∈ x.hub.queue a.channel, x.HandedOut r i ⟨fired.transition, a.channel⟩) ∧
      ∀ ds y, Deliveries (a, x.hub) ds y → ∀ d ∈ ds,
        .raised a.channel d.fired ∈ y.2.journal.toList ∧
          x.HandedOut r i ⟨d.fired.transition, a.channel⟩ := by
  intro x r
  have hx : x.Accounted := accounted_empty.run steps
  have hs : x.Stocked := Stocked.run holds_empty hsteps
  have hr : x.Enrolled r := enrolled_empty.run steps
  refine ⟨fun slot signal hslot => ?_, fun m a script ha hscript signal hsignal => ?_,
    fun m a ha => ?_⟩
  · have hasked := hr.asked_getElem? slot
    rw [hslot] at hasked
    obtain ⟨i, hi, -⟩ := Option.map_eq_some_iff.1 hasked.symm
    exact ⟨i, hi, fun h events args htraffic => raise_of_asked hx hr hslot hi htraffic args⟩
  · exact Array.mem_iff_getElem?.1 (hs.callbacks ha script hscript signal hsignal)
  · have hpresent := hr.present m
    rw [channel?_of_machine? ha] at hpresent
    obtain ⟨i, hi, hchannel⟩ := Option.map_eq_some_iff.1 hpresent.symm
    refine ⟨i, hi, fun fired hfired => ?_, fun ds y hd d hmem => ?_⟩
    · have hqueued : fired ∈ queuedIn a.channel x.hub.journal.toList := by
        rw [hx.orderly.waiting _ (hx.isOpen ha)]
        exact List.mem_append_right _ hfired
      exact hr.handedOut (hs.raised _ (mem_raisedIn (mem_queuedIn.1 hqueued))) hchannel.symm
    · obtain ⟨events, htraffic, htaken⟩ := hd.traffic
      have horderly := hx.orderly.traffic htraffic
      have hlog : d.fired ∈ takenFrom a.channel y.2.journal.toList := by
        rw [htraffic.journal, takenFrom_append, htaken, if_pos rfl]
        exact List.mem_append_right _ (List.mem_map_of_mem hmem)
      have hraised := mem_queuedIn.1 ((horderly.taken a.channel).subset hlog)
      have hslots := (hd.raised (hs.callbacks ha)).journal hs.raised _ (mem_raisedIn hraised)
      exact ⟨hraised, hr.handedOut hslots hchannel.symm⟩

theorem genuine_of_plans {steps : List (Nat × Step σ α)}
    (hsteps : ∀ e ∈ steps, e.2.signals = []) : x.Genuine steps := by
  induction steps generalizing x with
  | nil => trivial
  | cons e rest ih =>
    refine ⟨?_, ih fun e he => hsteps e (List.mem_cons_of_mem _ he)⟩
    rw [hsteps e List.mem_cons_self]
    exact nofun

/-- Machine 0 loops, and a callback of it holds its signal. The node with that callback goes to
machine 1, and another machine takes the place of machine 0. -/
def migrationSteps : List (Nat × Step String Nat) :=
  let loop (m : Nat) : List (Nat × Step String Nat) :=
    [(m, .create {}), (m, .call (.edit (.addState "idle"))),
      (m, .call (.edit (.addTransition .input ⟨0⟩))), (m, .call (.setStart (some ⟨0⟩))),
      (m, .call (.edit (.attach ⟨0⟩ ⟨0⟩))), (m, .signal ⟨0⟩)]
  loop 0 ++ loop 1 ++
    [(0, .copySignal 0), (0, .configure (.onEntry ⟨0⟩ [.raise 2 [7] 2])), (0, .raise 0 [1]),
      (0, .swapStates ⟨0⟩ ⟨0⟩ 1), (1, .raise 1 [2]), (1, .call .dispatchNext)] ++
    loop 0 ++ [(0, .raise 2 [3]), (1, .raise 1 [4]), (1, .call .dispatchNext)]

theorem signals_stay_with_their_machine_after_migration :
    let x : Session String Nat := run ∅ migrationSteps
    let r := rosterOf migrationSteps
    (∅ : Session String Nat).Genuine migrationSteps ∧
      r.made = 3 ∧ r.askedOf = [0, 1, 0, 2] ∧ r.present 0 = some 2 ∧ r.present 1 = some 1 ∧
      x.hub.queue ⟨2⟩ = [] ∧
      (∃ signal, x.slots[2]? = some signal ∧
        x.hub.raise signal [5] = (.error (.signalClosed ⟨0⟩), x.hub)) ∧
      ∃ a, x.machine? 0 = some a ∧ ∀ ds y, Deliveries (a, x.hub) ds y → ∀ d ∈ ds,
        x.HandedOut r 2 ⟨d.fired.transition, a.channel⟩ := by
  intro x r
  have hgenuine : (∅ : Session String Nat).Genuine migrationSteps := by
    refine genuine_of_plans ?_
    decide
  obtain ⟨hraise, -, hmachines⟩ := signals_stay_with_their_machine hgenuine
  refine ⟨hgenuine, by decide +kernel, by decide +kernel, by decide +kernel, by decide +kernel,
    by decide, ?_, ?_⟩
  · have hslot : x.slots[2]? = some ⟨⟨0⟩, ⟨0⟩⟩ := by decide
    have hrefused : (x.hub.raise ⟨⟨0⟩, ⟨0⟩⟩ [5]).1 ≠ .ok () := by decide
    obtain ⟨i, -, hcases⟩ := hraise 2 _ hslot
    rcases hcases x.hub [] [5] .refl with ⟨m, a, -, -, hok, -⟩ | ⟨-, hclosed⟩
    · exact absurd hok hrefused
    · exact ⟨_, hslot, hclosed⟩
  · obtain ⟨a, ha⟩ := Option.isSome_iff_exists.1 (by decide +kernel : (x.machine? 0).isSome = true)
    obtain ⟨i, hi, -, hdelivered⟩ := hmachines 0 a ha
    have hnumber : (rosterOf migrationSteps).present 0 = some 2 := by decide +kernel
    rw [hnumber] at hi
    cases hi
    exact ⟨a, ha, fun ds y hd d hmem => (hdelivered ds y hd d hmem).2⟩

end Session

end EventAutomata
