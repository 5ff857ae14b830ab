import EventAutomata.Proofs.Session.Logs

/-!
# What a limit of the history does

The limit of a history bounds what is kept of the completed transits and nothing else. A
session in which histories are unbounded and one in which they have limits go the same way.
Without a limit the history lists all that has been completed, and with one the newest of it.
-/

namespace EventAutomata

open List (Forall₂)

variable {σ α : Type}

-- ---------------------------------------------------------------------------
-- Histories with and without a limit
-- ---------------------------------------------------------------------------

namespace History

variable {timed : Bool} {h k : History}

/-- The first history has no limit, or the same as the second one. The second one lists what its
limit allows of the first one. -/
structure EndsIn (timed : Bool) (h k : History) : Prop where
  limit : h.limit = none ∨ h.limit = k.limit
  records : Forall₂ (TransitRecord.Alike timed) (keepLast k.limit h.records) k.records

theorem EndsIn.withLimit {limit limit' : Option Nat} (hl : limit = none ∨ limit = limit') :
    (History.withLimit limit).EndsIn timed (.withLimit limit') := by
  refine ⟨hl, ?_⟩
  cases limit' <;> simp [History.withLimit, History.records, keepLast]

theorem EndsIn.record (hk : h.EndsIn timed k) {r s : TransitRecord} (hr : r.Alike timed s) :
    (h.record r).EndsIn timed (k.record s) := by
  obtain ⟨hlimit, hrecords⟩ := hk
  refine ⟨by rwa [limit_record, limit_record], ?_⟩
  rw [limit_record]
  by_cases hz : k.limit = some 0
  · -- the second history stays empty, whatever the first one gains
    rw [record_of_zero hz]
    simpa [hz, keepLast] using hrecords
  · have hne : h.limit ≠ some 0 := by
      rcases hlimit with hnone | hsame
      · simp [hnone]
      · rwa [hsame]
    rw [records_record_of_ne_zero hne, records_record_of_ne_zero hz, keepLast_keepLast hlimit,
      ← keepLast_append_keepLast]
    exact keepLast_rel _ (List.rel_append hrecords (.cons hr .nil))

end History

def Likeness.unbounded (timed : Bool) : Likeness where
  seen := true
  timed := timed
  config c d := d = c ∨ c.historyLimit = none ∧ ∃ limit, d = { c with historyLimit := limit }
  history := History.EndsIn timed
  config_refl _ := .inl rfl
  policy := by
    rintro c d (rfl | ⟨-, limit, rfl⟩)
    · exact .inl rfl
    · exact .inl rfl
  fresh := by
    rintro c d (rfl | ⟨hc, limit, rfl⟩)
    · exact .withLimit (.inr rfl)
    · exact .withLimit (.inl hc)
  record hk hr := hk.record hr

-- ---------------------------------------------------------------------------
-- Sessions
-- ---------------------------------------------------------------------------

namespace Session

/-- The answer to the step shows what the history lists, or the configuration. -/
def Step.showsHistory : Step σ α → Bool
  | .call .history | .call .path | .call .config | .call (.describe _)
  | .call (.describeConfig _) => true
  | _ => false

variable [Payload σ]

theorem Step.Answered.eq_of_unbounded {timed : Bool} {step : Step σ α} {x y : Answer}
    (h : step.Answered (.unbounded timed) x y) (hs : step.showsHistory = false) : x = y := by
  cases h with
  | same => rfl
  | call h =>
    cases h with
    | same => rfl
    | canTransit _ _ _ _ hseen | checkGuard _ _ _ _ hseen | stateInfo _ _ _ hseen
    | describeState _ _ _ _ hseen => cases hseen
    | describeGraph spread hg => rw [Graph.Alike.eq hg]
    | describe | path | history | config | describeConfig => cases hs

variable [Inhabited σ]

/-- Limits are seen in histories and configurations only. There they leave the newest of what
the machine has completed: in every history, nothing else has been listed, and nothing that has
been completed is missing unless the limit forbids it. -/
theorem history_is_the_tail_of_completed_transits (timed : Bool) {mvs mvs' : List (Move σ α)}
    (hmvs : Forall₂ (Move.Alike (.unbounded timed)) mvs mvs') :
    let x := (∅ : Session σ α).play mvs
    let y := (∅ : Session σ α).play mvs'
    x.Alike (.unbounded timed) y ∧
    Forall₂ (fun p q => p.1.showsHistory = false → p.2 = q.2)
      ((∅ : Session σ α).transcript mvs) ((∅ : Session σ α).transcript mvs') ∧
    ∀ m a b, x.machine? m = some a → y.machine? m = some b →
      a.history.trips = keepLast a.config.historyLimit (tripsAt m mvs) ∧
      b.history.trips = keepLast b.config.historyLimit (tripsAt m mvs) ∧
      Forall₂ (TransitRecord.Alike timed)
        (keepLast b.config.historyLimit a.history.records) b.history.records := by
  intro x y
  have hpolicy : ∀ c d, (Likeness.unbounded timed).config c d → c.policy = d.policy := by
    rintro c d (rfl | ⟨-, limit, rfl⟩)
    · rfl
    · rfl
  obtain ⟨hplay, hanswers⟩ := alike_empty.play_of_policy hpolicy hmvs
  refine ⟨hplay, hanswers.imp fun _ _ h => h.eq_of_unbounded, fun m a b ha hb => ?_⟩
  obtain ⟨hlimit, htrips⟩ := keeps_tripsAt ha
  obtain ⟨hlimit', -⟩ := keeps_tripsAt hb
  have hab := hplay.machine m
  rw [ha, hb] at hab
  obtain ⟨hlimits, hrecords⟩ : a.history.EndsIn timed b.history := by
    cases hab with
    | some hab => exact hab.history
  rw [hlimit, hlimit'] at hlimits
  rw [hlimit'] at hrecords
  refine ⟨htrips, ?_, hrecords⟩
  calc b.history.trips
      = (keepLast b.config.historyLimit a.history.records).map TransitRecord.trip :=
        (TransitRecord.map_trip_eq hrecords).symm
    _ = keepLast b.config.historyLimit a.history.trips := keepLast_map _ _ _
    _ = keepLast b.config.historyLimit (tripsAt m mvs) := by
        rw [htrips, keepLast_keepLast hlimits]

/-- Three trips, a transit that is refused, a delivery that is dropped, and a fault on exit. -/
def rallySteps (limit : Option Nat) : List (Step String Nat) :=
  [.create { historyLimit := limit }, .call (.edit (.addState "ping")),
    .call (.edit (.addState "pong")), .call (.edit (.addTransition .input ⟨1⟩)),
    .call (.edit (.addTransition .input ⟨0⟩)), .call (.setStart (some ⟨0⟩)),
    .call (.edit (.attach ⟨0⟩ ⟨0⟩)), .call (.edit (.attach ⟨1⟩ ⟨1⟩)), .call (.transit ⟨0⟩ []),
    .call (.transit ⟨1⟩ []), .call (.transitTimes ⟨0⟩ [] 2), .call (.deliver ⟨⟨9⟩, []⟩),
    .configure (.onExit ⟨1⟩ [.panic "net" none]), .call (.transit ⟨1⟩ [])]

/-- The same in two places, without limits and with the limits 0 and 2. -/
theorem history_is_the_tail_of_completed_transits_of_rally :
    let mvs := (rallySteps none).map (⟨⟨0, 0⟩, 0, ·⟩) ++ (rallySteps none).map (⟨⟨0, 0⟩, 1, ·⟩)
    let mvs' :=
      (rallySteps (some 0)).map (⟨⟨0, 0⟩, 0, ·⟩) ++ (rallySteps (some 2)).map (⟨⟨0, 0⟩, 1, ·⟩)
    let x := (∅ : Session String Nat).play mvs
    let y := (∅ : Session String Nat).play mvs'
    Forall₂ (Move.Alike (.unbounded true)) mvs mvs' ∧ x.Alike (.unbounded true) y ∧
      tripsAt 1 mvs = [⟨some ⟨0⟩, ⟨1⟩, ⟨0⟩⟩, ⟨some ⟨1⟩, ⟨0⟩, ⟨1⟩⟩, ⟨some ⟨0⟩, ⟨1⟩, ⟨0⟩⟩] ∧
      (x.machine? 1).map (·.history.trips) = some (tripsAt 1 mvs) ∧
      (y.machine? 0).map (·.history.trips) = some [] ∧
      (y.machine? 1).map (·.history.trips) =
        some [⟨some ⟨1⟩, ⟨0⟩, ⟨1⟩⟩, ⟨some ⟨0⟩, ⟨1⟩, ⟨0⟩⟩] := by
  have hsteps : ∀ n, Forall₂ (Step.Alike (.unbounded true)) (rallySteps none)
      (rallySteps (some n)) := fun n =>
    .cons (.create (.inr ⟨rfl, some n, rfl⟩)) (List.forall₂_same.2 fun step _ => .same step)
  have hmvs := List.rel_append (Move.alike_map (hsteps 0) 0 ⟨0, 0⟩ ⟨0, 0⟩ fun _ => rfl)
    (Move.alike_map (hsteps 2) 1 ⟨0, 0⟩ ⟨0, 0⟩ fun _ => rfl)
  exact ⟨hmvs, (history_is_the_tail_of_completed_transits true hmvs).1, by decide +kernel,
    by decide +kernel, by decide +kernel, by decide +kernel⟩

end Session

end EventAutomata
