import EventAutomata.Session.Plan

/-!
# Hubs that differ in the time

The clock of a hub is read when a transit is recorded, and nowhere else. Whatever works on a
hub, channels and meters and callbacks, does the same at any time and leaves the clock alone.
-/

namespace EventAutomata

open EventAutomata.Time

variable {α : Type}

namespace Hub

variable (h : Hub α) (time : Timestamp)

def atTime (h : Hub α) (time : Timestamp) : Hub α := { h with clock := time }

@[simp] theorem atTime_clock : h.atTime h.clock = h := rfl

@[simp] theorem atTime_atTime (later : Timestamp) : (h.atTime time).atTime later = h.atTime later :=
  rfl

@[simp] theorem newChannel_atTime :
    (h.atTime time).newChannel = (h.newChannel.1, h.newChannel.2.atTime time) := rfl

@[simp] theorem close_atTime (c : ChannelId) : (h.atTime time).close c = (h.close c).atTime time :=
  rfl

@[simp] theorem isOpen_atTime (c : ChannelId) : (h.atTime time).isOpen c = h.isOpen c := rfl

theorem raise_atTime (signal : FireSignal) (args : List α) :
    (h.atTime time).raise signal args =
      ((h.raise signal args).1, (h.raise signal args).2.atTime time) := by
  have hqueue : (h.atTime time).queue? signal.channel = h.queue? signal.channel := rfl
  unfold raise
  rw [hqueue]
  cases h.queue? signal.channel <;> rfl

theorem raiseOrNote_atTime (signal : FireSignal) (args : List α) :
    (h.atTime time).raiseOrNote signal args = (h.raiseOrNote signal args).atTime time := by
  unfold raiseOrNote
  rw [raise_atTime]
  cases h.raise signal args with
  | mk result h' => cases result <;> rfl

theorem take?_atTime (c : ChannelId) :
    (h.atTime time).take? c = (h.take? c).map fun taken => (taken.1, taken.2.atTime time) := by
  have hqueue : (h.atTime time).queue? c = h.queue? c := rfl
  unfold take?
  rw [hqueue]
  cases (h.queue? c).bind Fifo.pop? <;> rfl

theorem spend?_atTime (m : Option MeterId) :
    (h.atTime time).spend? m = (h.spend? m).map fun h' => h'.atTime time := by
  cases m with
  | none => rfl
  | some m =>
    have hmeters : (h.atTime time).meters = h.meters := rfl
    simp only [spend?, hmeters]
    rcases h.meters[m.index]? with _ | _ | left <;> rfl

theorem newMeter_atTime (firings : Nat) :
    (h.atTime time).newMeter firings = ((h.newMeter firings).1, (h.newMeter firings).2.atTime time) :=
  rfl

theorem meterFor_atTime (times : Option Nat) :
    (h.atTime time).meterFor times = ((h.meterFor times).1, (h.meterFor times).2.atTime time) := by
  cases times <;> rfl

end Hub

-- ---------------------------------------------------------------------------
-- Callbacks
-- ---------------------------------------------------------------------------

theorem Effect.run_atTime (site : Site α) (h : Hub α) (time : Timestamp) (e : Effect α) :
    e.run site (h.atTime time) = ((e.run site h).1, (e.run site h).2.atTime time) := by
  unfold run
  rw [Hub.spend?_atTime]
  cases h.spend? e.meter with
  | none => rfl
  | some h' =>
    cases e with
    | log | panic => rfl
    | raise signal args m => simp [act, Hub.raiseOrNote_atTime]
    | raiseRest signal m =>
      simp only [Option.map_some, act]
      cases site.behindFirst? with
      | none => rfl
      | some rest => simp [Hub.raiseOrNote_atTime]

theorem Script.run_atTime (site : Site α) (h : Hub α) (time : Timestamp) (script : Script α) :
    run site (h.atTime time) script = ((run site h script).1, (run site h script).2.atTime time) := by
  induction script generalizing h with
  | nil => rfl
  | cons e rest ih =>
    rw [run, run, Effect.run_atTime]
    cases e.run site h with
    | mk result h' =>
      cases result with
      | ok _ => exact ih h'
      | error fault => rfl

theorem Script.runIfSet_atTime (site : Site α) (h : Hub α) (time : Timestamp)
    (script : Option (Script α)) :
    runIfSet site (h.atTime time) script =
      ((runIfSet site h script).1, (runIfSet site h script).2.atTime time) := by
  cases script with
  | none => rfl
  | some script => exact run_atTime site h time script

-- ---------------------------------------------------------------------------
-- Plans
-- ---------------------------------------------------------------------------

theorem PlannedEffect.install?_atTime (slots : Array FireSignal) (h : Hub α) (time : Timestamp)
    (e : PlannedEffect α) :
    e.install? slots (h.atTime time) =
      (e.install? slots h).map fun made => (made.1, made.2.atTime time) := by
  cases e with
  | log | panic => simp [install?, Hub.meterFor_atTime]
  | raise slot | raiseRest slot =>
    cases hslot : slots[slot]? <;>
      simp [install?, hslot, Hub.newMeter_atTime, Hub.meterFor_atTime]

theorem Plan.install?_atTime (slots : Array FireSignal) (h : Hub α) (time : Timestamp)
    (plan : Plan α) :
    plan.install? slots (h.atTime time) =
      (plan.install? slots h).map fun made => (made.1, made.2.atTime time) := by
  induction plan generalizing h with
  | nil => rfl
  | cons e rest ih =>
    rw [install?, install?, PlannedEffect.install?_atTime]
    cases e.install? slots h with
    | none => rfl
    | some made =>
      simp only [Option.map_some, ih]
      cases install? rest slots made.2 <;> rfl

theorem Graph.Setting.install?_atTime (slots : Array FireSignal) (h : Hub α) (time : Timestamp)
    (setting : Graph.Setting (Plan α) α) :
    setting.install? slots (h.atTime time) =
      (setting.install? slots h).map fun made => (made.1, made.2.atTime time) := by
  cases setting with
  | terminal | guard => rfl
  | onEntry s plan | onExit s plan | onTransit s plan =>
    simp only [install?, Plan.install?_atTime]
    cases plan.install? slots h <;> rfl

-- ---------------------------------------------------------------------------
-- The relation
-- ---------------------------------------------------------------------------

namespace Hub

variable {timed : Bool} {h k : Hub α} {β : Type}

/-- The hubs differ at most in the time, and not in that if it is compared. -/
def Alike (timed : Bool) (h k : Hub α) : Prop :=
  ∃ time, (timed = true → h.clock = time) ∧ k = h.atTime time

theorem Alike.clock (hk : h.Alike timed k) : timed = true → h.clock = k.clock := by
  obtain ⟨time, htime, rfl⟩ := hk
  exact htime

theorem Alike.map {f : Hub α → β × Hub α} (hk : h.Alike timed k)
    (hf : ∀ h time, f (h.atTime time) = ((f h).1, (f h).2.atTime time)) :
    ∃ result h' k', f h = (result, h') ∧ f k = (result, k') ∧ h'.Alike timed k' := by
  obtain ⟨time, htime, rfl⟩ := hk
  have hclock : (f h).2.clock = h.clock := congrArg (·.2.clock) (hf h h.clock)
  exact ⟨(f h).1, (f h).2, _, rfl, hf h time, time, hclock ▸ htime, rfl⟩

theorem Alike.map? {f : Hub α → Option (β × Hub α)} (hk : h.Alike timed k)
    (hf : ∀ h time, f (h.atTime time) = (f h).map fun made => (made.1, made.2.atTime time)) :
    (f h = none ∧ f k = none) ∨
      ∃ made h' k', f h = some (made, h') ∧ f k = some (made, k') ∧ h'.Alike timed k' := by
  obtain ⟨time, htime, rfl⟩ := hk
  have hsame := hf h h.clock
  rw [hf h time]
  cases hfh : f h with
  | none => exact .inl ⟨rfl, rfl⟩
  | some made =>
    rw [atTime_clock, hfh, Option.map_some, Option.some.injEq] at hsame
    have hclock : made.2.clock = h.clock := congrArg (·.2.clock) hsame
    exact .inr ⟨made.1, made.2, _, rfl, rfl, time, hclock ▸ htime, rfl⟩

theorem Alike.take? (hk : h.Alike timed k) (c : ChannelId) :
    (h.take? c = none ∧ k.take? c = none) ∨
      ∃ fired h' k', h.take? c = some (fired, h') ∧ k.take? c = some (fired, k') ∧
        h'.Alike timed k' :=
  hk.map? (f := fun h => h.take? c) fun h time => h.take?_atTime time c

theorem Alike.take?_of_none (hk : h.Alike timed k) {c : ChannelId} (ht : h.take? c = none) :
    k.take? c = none := by
  rcases hk.take? c with ⟨-, hnone⟩ | ⟨_, _, _, hsome, -⟩
  · exact hnone
  · cases ht.symm.trans hsome

theorem Alike.take?_of_some (hk : h.Alike timed k) {c : ChannelId} {fired : Fired α} {h' : Hub α}
    (ht : h.take? c = some (fired, h')) :
    ∃ k', k.take? c = some (fired, k') ∧ h'.Alike timed k' := by
  rcases hk.take? c with ⟨hnone, -⟩ | ⟨_, _, k', hsome, ht', hk'⟩
  · cases ht.symm.trans hnone
  · cases ht.symm.trans hsome
    exact ⟨k', ht', hk'⟩

end Hub

end EventAutomata
