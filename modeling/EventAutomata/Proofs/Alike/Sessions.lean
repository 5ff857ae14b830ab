import EventAutomata.Proofs.Alike.Calls
import EventAutomata.Proofs.Session.Lives

/-!
# Sessions that are alike

Two sessions are played side by side. The moves differ at most in what the likeness leaves
open: guards, terminal flags, configurations and times. Then the sessions stay alike, machine
by machine, and answer alike (`Alike.play`). Where the policies differ the moves must be
such that it does not come to bear (`Unrefused`).
-/

namespace EventAutomata

open EventAutomata.Time
open List (Forall₂)

theorem Graph.Setting.Alike.install? {α : Type} {seen : Bool} {timed : Bool}
    {s s' : Graph.Setting (Plan α) α} {h k : Hub α} (hs : s.Alike seen s')
    (slots : Array FireSignal) (hk : h.Alike timed k) :
    (s.install? slots h = none ∧ s'.install? slots k = none) ∨
      ∃ made made' h' k', s.install? slots h = some (made, h') ∧
        s'.install? slots k = some (made', k') ∧ made.Alike seen made' ∧ h'.Alike timed k' := by
  cases hs with
  | same =>
    rcases hk.map? (f := fun h => s.install? slots h) fun h time => s.install?_atTime slots h time
      with hnone | ⟨made, h', k', hx, hy, hk'⟩
    · exact .inl hnone
    · exact .inr ⟨made, made, h', k', hx, hy, .same made, hk'⟩
  | terminal t v w hseen => exact .inr ⟨_, _, h, k, rfl, rfl, .terminal t v w hseen, hk⟩
  | guard t f f' hseen => exact .inr ⟨_, _, h, k, rfl, rfl, .guard t f f' hseen, hk⟩

namespace Session

variable {σ α : Type} {ℓ : Likeness} {x y : Session σ α} {m k : Nat}

-- ---------------------------------------------------------------------------
-- Moves
-- ---------------------------------------------------------------------------

def Step.call? : Step σ α → Option (Automaton.Call σ α)
  | .call c => some c
  | _ => none

structure Move (σ α : Type) where
  time : Timestamp
  place : Nat
  step : Step σ α

def atTime (x : Session σ α) (time : Timestamp) : Session σ α :=
  { x with hub := x.hub.atTime time }

section

variable [Payload σ] [Inhabited σ]

def move (x : Session σ α) (mv : Move σ α) : Answer × Session σ α :=
  (x.atTime mv.time).perform mv.place mv.step

def play (x : Session σ α) : List (Move σ α) → Session σ α
  | [] => x
  | mv :: rest => (x.move mv).2.play rest

def transcript (x : Session σ α) : List (Move σ α) → List (Step σ α × Answer)
  | [] => []
  | mv :: rest => (mv.step, (x.move mv).1) :: (x.move mv).2.transcript rest

end

/-- The steps differ at most in what need not be the same. -/
inductive Step.Alike (ℓ : Likeness) : Step σ α → Step σ α → Prop
  | same (step : Step σ α) : Alike ℓ step step
  | create {c d : AutomatonConfig} : ℓ.config c d → Alike ℓ (.create c) (.create d)
  | call {c d : Automaton.Call σ α} : c.Alike ℓ.seen d → Alike ℓ (.call c) (.call d)
  | configure {s s' : Graph.Setting (Plan α) α} :
      s.Alike ℓ.seen s' → Alike ℓ (.configure s) (.configure s')

structure Move.Alike (ℓ : Likeness) (mv mv' : Move σ α) : Prop where
  time : ℓ.timed = true → mv.time = mv'.time
  place : mv.place = mv'.place
  step : mv.step.Alike ℓ mv'.step

theorem Move.alike_map {steps steps' : List (Step σ α)} (hs : Forall₂ (Step.Alike ℓ) steps steps')
    (m : Nat) (time time' : Timestamp) (ht : ℓ.timed = true → time = time') :
    Forall₂ (Move.Alike ℓ) (steps.map (⟨time, m, ·⟩)) (steps'.map (⟨time', m, ·⟩)) := by
  induction hs with
  | nil => exact .nil
  | cons hstep _ ih => exact .cons ⟨ht, rfl, hstep⟩ ih

structure Alike (ℓ : Likeness) (x y : Session σ α) : Prop where
  size : x.machines.size = y.machines.size
  machine : ∀ m, Option.Rel (Automaton.Alike ℓ) (x.machine? m) (y.machine? m)
  slots : x.slots = y.slots
  hub : x.hub.Alike ℓ.timed y.hub

namespace Alike

theorem atTime (hx : x.Alike ℓ y) {time time' : Timestamp} (ht : ℓ.timed = true → time = time') :
    (x.atTime time).Alike ℓ (y.atTime time') := by
  obtain ⟨later, -, hy⟩ := hx.hub
  refine { hx with hub := ⟨time', ht, ?_⟩ }
  simp [Session.atTime, hy]

theorem withHub (hx : x.Alike ℓ y) {h k : Hub α} (hk : h.Alike ℓ.timed k) :
    Alike ℓ { x with hub := h } { y with hub := k } :=
  { hx with hub := hk }

theorem setMachine (hx : x.Alike ℓ y) (m : Nat) {a b : Option (Automaton σ α)}
    (hab : Option.Rel (Automaton.Alike ℓ) a b) :
    (x.setMachine m a).Alike ℓ (y.setMachine m b) := by
  refine { hx with size := ?_, machine := fun k => ?_ }
  · simpa [Session.setMachine] using hx.size
  · rw [machine?_setMachine_eq, machine?_setMachine_eq, hx.size]
    split
    · split
      · exact hab
      · exact .none
    · exact hx.machine k

theorem dropMachine (hx : x.Alike ℓ y) (m : Nat) :
    (x.dropMachine m).1 = (y.dropMachine m).1 ∧
      (x.dropMachine m).2.Alike ℓ (y.dropMachine m).2 := by
  unfold Session.dropMachine
  rcases (hx.machine m).none_or_some with ⟨ha, hb⟩ | ⟨a, b, ha, hb, hab⟩ <;> rw [ha, hb]
  · exact ⟨rfl, hx⟩
  · refine ⟨rfl, (hx.setMachine m .none).withHub ?_⟩
    obtain ⟨time, htime, hy⟩ := hx.hub
    rw [← hab.channel, hy, Hub.close_atTime]
    exact ⟨time, htime, rfl⟩

theorem addMachine (hx : x.Alike ℓ y) {a b : Automaton σ α} (hab : a.Alike ℓ b) :
    Alike ℓ { x with machines := x.machines.push (some a) }
      { y with machines := y.machines.push (some b) } := by
  refine { hx with size := ?_, machine := fun k => ?_ }
  · simp [hx.size]
  · simp only [machine?, Array.getElem?_push, hx.size]
    split
    · exact .some hab
    · exact hx.machine k

theorem addSlot (hx : x.Alike ℓ y) (signal : FireSignal) :
    (x.addSlot signal).1 = (y.addSlot signal).1 ∧
      (x.addSlot signal).2.Alike ℓ (y.addSlot signal).2 := by
  unfold Session.addSlot
  rw [hx.slots]
  exact ⟨rfl, { hx with slots := rfl }⟩

end Alike

-- ---------------------------------------------------------------------------
-- One step
-- ---------------------------------------------------------------------------

inductive Step.Answered [Payload σ] (ℓ : Likeness) : Step σ α → Answer → Answer → Prop
  | same (step : Step σ α) (answer : Answer) : Answered ℓ step answer answer
  | call {c : Automaton.Call σ α} {answer answer' : Answer} :
      c.Answered ℓ answer answer' → Answered ℓ (.call c) answer answer'

variable [Payload σ]

structure Matched (ℓ : Likeness) (step : Step σ α) (p q : Answer × Session σ α) : Prop where
  answered : step.Answered ℓ p.1 q.1
  alike : p.2.Alike ℓ q.2

theorem Matched.of_same {step : Step σ α} {p q : Answer × Session σ α} (hanswer : p.1 = q.1)
    (halike : p.2.Alike ℓ q.2) : Matched ℓ step p q := by
  refine ⟨?_, halike⟩
  rw [hanswer]
  exact .same step q.1

namespace Alike

theorem withMachine {step : Step σ α} (hx : x.Alike ℓ y) (m : Nat)
    {f f' : Automaton σ α → Answer × Session σ α}
    (hf : ∀ a b, x.machine? m = some a → y.machine? m = some b → a.Alike ℓ b →
      Matched ℓ step (f a) (f' b)) :
    Matched ℓ step (x.withMachine m f) (y.withMachine m f') := by
  unfold Session.withMachine
  rcases (hx.machine m).none_or_some with ⟨ha, hb⟩ | ⟨a, b, ha, hb, hab⟩ <;> rw [ha, hb]
  · exact .of_same rfl hx
  · exact hf a b ha hb hab

theorem withSlot {step : Step σ α} (hx : x.Alike ℓ y) (slot : Nat)
    {f f' : FireSignal → Answer × Session σ α} (hf : ∀ signal, Matched ℓ step (f signal) (f' signal)) :
    Matched ℓ step (x.withSlot slot f) (y.withSlot slot f') := by
  unfold Session.withSlot
  rw [hx.slots]
  cases y.slots[slot]? with
  | none => exact .of_same rfl hx
  | some signal => exact hf signal

theorem create {step : Step σ α} (hx : x.Alike ℓ y) (m : Nat) {c d : AutomatonConfig}
    (hcd : ℓ.config c d) : Matched ℓ step (x.create m c) (y.create m d) := by
  unfold Session.create
  rw [hx.size]
  split
  next =>
    have hdrop := (hx.dropMachine m).2
    obtain ⟨hab, hk⟩ := Automaton.alike_create hcd hdrop.hub
    exact .of_same rfl ((hdrop.setMachine m (.some hab)).withHub hk)
  next =>
    split
    next =>
      obtain ⟨hab, hk⟩ := Automaton.alike_create hcd hx.hub
      exact .of_same rfl ((hx.addMachine hab).withHub hk)
    next => exact .of_same rfl hx

theorem call (hx : x.Alike ℓ y) (m : Nat) {c d : Automaton.Call σ α} (hcd : c.Alike ℓ.seen d)
    (hc : ∀ a b, x.machine? m = some a → y.machine? m = some b →
      a.Concur b (a.attempts x.hub c)) :
    Matched ℓ (.call c) (x.call m c) (y.call m d) := by
  refine hx.withMachine m fun a b ha hb hab => ?_
  obtain ⟨hanswer, hab', hk⟩ := hab.call hx.hub hcd (hc a b ha hb)
  exact ⟨.call hanswer, (hx.setMachine m (.some hab')).withHub hk⟩

theorem configure {step : Step σ α} (hx : x.Alike ℓ y) (m : Nat)
    {s s' : Graph.Setting (Plan α) α} (hs : s.Alike ℓ.seen s') :
    Matched ℓ step (x.configure m s) (y.configure m s') := by
  refine hx.withMachine m fun a b ha hb hab => ?_
  rw [hs.hasSubject hab.graph, hx.slots]
  split
  next =>
    rcases hs.install? y.slots hx.hub with ⟨hx', hy'⟩ | ⟨made, made', h, k, hx', hy', hmade, hk⟩
    · rw [hx', hy']
      exact .of_same rfl hx
    · obtain ⟨hanswer, hg⟩ := hab.graph.configure hmade
      rw [hx', hy']
      exact .of_same hanswer ((hx.setMachine m (.some (hab.withGraph hg))).withHub hk)
  next => exact .of_same rfl hx

/-- Exchanges that give graphs that are alike where they are given such. -/
theorem exchange {step : Step σ α} (hx : x.Alike ℓ y) (m other : Nat)
    {inside : Graph σ α → Option (Graph σ α)}
    {between : Graph σ α → Graph σ α → Option (Graph σ α × Graph σ α)}
    (hinside : ∀ g k : Graph σ α, g.Alike ℓ.seen k →
      Option.Rel (Graph.Alike ℓ.seen) (inside g) (inside k))
    (hbetween : ∀ g k g' k' : Graph σ α, g.Alike ℓ.seen k → g'.Alike ℓ.seen k' →
      Option.Rel (fun p q => p.1.Alike ℓ.seen q.1 ∧ p.2.Alike ℓ.seen q.2)
        (between g g') (between k k')) :
    Matched ℓ step (x.exchange m other inside between) (y.exchange m other inside between) := by
  refine hx.withMachine m fun a b ha hb hab => ?_
  split
  next =>
    rcases (hinside _ _ hab.graph).none_or_some with ⟨hga, hgb⟩ | ⟨g, k, hga, hgb, hg⟩ <;>
      rw [hga, hgb]
    · exact .of_same rfl hx
    · exact .of_same rfl (hx.setMachine m (.some (hab.withGraph hg)))
  next =>
    rcases (hx.machine other).none_or_some with ⟨hc, hd⟩ | ⟨c, d, hc, hd, hcd⟩ <;> rw [hc, hd]
    · exact .of_same rfl hx
    · dsimp only
      rcases (hbetween _ _ _ _ hab.graph hcd.graph).none_or_some with
        ⟨hga, hgb⟩ | ⟨p, q, hga, hgb, hg⟩ <;> rw [hga, hgb]
      · exact .of_same rfl hx
      · exact .of_same rfl ((hx.setMachine m (.some (hab.withGraph hg.1))).setMachine other
          (.some (hcd.withGraph hg.2)))

theorem perform [Inhabited σ] {step step' : Step σ α} (hx : x.Alike ℓ y) (m : Nat)
    (hs : step.Alike ℓ step')
    (hc : ∀ c a b, step = .call c → x.machine? m = some a → y.machine? m = some b →
      a.Concur b (a.attempts x.hub c)) :
    Matched ℓ step (x.perform m step) (y.perform m step') := by
  cases hs with
  | create hcd => exact hx.create m hcd
  | call hcd => exact hx.call m hcd fun a b => hc _ a b rfl
  | configure hs => exact hx.configure m hs
  | same =>
    cases step with
    | create config => exact hx.create m (ℓ.config_refl config)
    | drop =>
      obtain ⟨hdropped, hxy⟩ := hx.dropMachine m
      exact .of_same (congrArg Answer.flag hdropped) hxy
    | call c => exact hx.call m (.same c) fun a b => hc c a b rfl
    | configure setting => exact hx.configure m (.same setting)
    | signal t =>
      refine hx.withMachine m fun a b ha hb hab => ?_
      have hsignal : a.signal? t = b.signal? t := by
        unfold Automaton.signal?
        rw [hab.channel]
        rcases (hab.graph.transition? t).none_or_some with ⟨ht, hu⟩ | ⟨n, n', ht, hu, -⟩ <;>
          rw [ht, hu]
        rfl
      rw [hsignal]
      cases b.signal? t with
      | none => exact .of_same rfl hx
      | some signal =>
        obtain ⟨hanswer, hxy⟩ := hx.addSlot signal
        exact .of_same hanswer hxy
    | raise slot args =>
      refine hx.withSlot slot fun signal => ?_
      obtain ⟨result, h, k, hx', hy', hk⟩ := hx.hub.map (f := fun h => h.raise signal args)
        fun h time => h.raise_atTime time signal args
      dsimp only at hx' hy' ⊢
      rw [hx', hy']
      exact .of_same rfl (hx.withHub hk)
    | copySignal slot =>
      refine hx.withSlot slot fun signal => ?_
      obtain ⟨hanswer, hxy⟩ := hx.addSlot signal
      exact .of_same hanswer hxy
    | describeSignal slot spread =>
      refine hx.withSlot slot fun signal => ?_
      obtain ⟨time, -, hy⟩ := hx.hub
      have hsame : x.describeSignal signal = y.describeSignal signal := by
        rw [Session.describeSignal, Session.describeSignal, hy, Hub.isOpen_atTime]
      rw [hsame]
      exact .of_same rfl hx
    | swapStates s u other =>
      rw [Session.perform, Session.perform]
      refine hx.exchange m other (fun g k hg => ?_) fun g k g' k' hg hg' => ?_
      · split
        next => exact hg.blankState? s
        next => exact hg.rel (f := fun g => g.swapStates? s u) fun g => g.swapStates?_veil s u
      · exact hg.trade (f := fun g g' => g.tradeStates? g' s u)
          (fun g g' => g.tradeStates?_veil g' s u) hg'
    | swapTransitions t u other =>
      rw [Session.perform, Session.perform]
      refine hx.exchange m other (fun g k hg => ?_) fun g k g' k' hg hg' => ?_
      · split
        next => exact hg.blankTransition? t
        next =>
          exact hg.rel (f := fun g => g.swapTransitions? t u) fun g => g.swapTransitions?_veil t u
      · exact hg.trade (f := fun g g' => g.tradeTransitions? g' t u)
          (fun g g' => g.tradeTransitions?_veil g' t u) hg'

end Alike

-- ---------------------------------------------------------------------------
-- Whole runs
-- ---------------------------------------------------------------------------

variable [Inhabited σ]

/-- Where the move is a call and the policies differ, no attempt is refused. -/
def ConcurOn (x y : Session σ α) (mv : Move σ α) : Prop :=
  ∀ c ∈ mv.step.call?, ∀ a ∈ x.machine? mv.place, ∀ b ∈ y.machine? mv.place,
    a.Concur b (a.attempts (x.hub.atTime mv.time) c)

omit [Inhabited σ] in
instance decidableConcurOn (x y : Session σ α) (mv : Move σ α) : Decidable (x.ConcurOn y mv) :=
  inferInstanceAs (Decidable (∀ c ∈ mv.step.call?, ∀ a ∈ x.machine? mv.place,
    ∀ b ∈ y.machine? mv.place, a.Concur b (a.attempts (x.hub.atTime mv.time) c)))

/-- Through two runs, wherever the policies differ no attempt of the first is refused. -/
def Unrefused (x y : Session σ α) : List (Move σ α) → List (Move σ α) → Prop
  | mv :: rest, mv' :: rest' =>
    x.ConcurOn y mv ∧ Unrefused (x.move mv).2 (y.move mv').2 rest rest'
  | [], _ | _, [] => True

instance decidableUnrefused (x y : Session σ α) :
    ∀ mvs mvs' : List (Move σ α), Decidable (Unrefused x y mvs mvs')
  | mv :: rest, mv' :: rest' =>
    have := decidableUnrefused (x.move mv).2 (y.move mv').2 rest rest'
    inferInstanceAs (Decidable (x.ConcurOn y mv ∧ Unrefused (x.move mv).2 (y.move mv').2 rest rest'))
  | [], _ => .isTrue trivial
  | _ :: _, [] => .isTrue trivial

theorem Alike.move (hx : x.Alike ℓ y) {mv mv' : Move σ α} (hmv : mv.Alike ℓ mv')
    (hc : x.ConcurOn y mv) : Matched ℓ mv.step (x.move mv) (y.move mv') := by
  unfold Session.move
  rw [← hmv.place]
  refine (hx.atTime hmv.time).perform mv.place hmv.step fun c a b hstep ha hb => ?_
  have ha' : x.machine? mv.place = some a := ha
  have hb' : y.machine? mv.place = some b := hb
  exact hc c (hstep ▸ rfl) a ha' b hb'

theorem Alike.play {mvs mvs' : List (Move σ α)} (hx : x.Alike ℓ y)
    (hmvs : Forall₂ (Move.Alike ℓ) mvs mvs') (hu : Unrefused x y mvs mvs') :
    (x.play mvs).Alike ℓ (y.play mvs') ∧
      Forall₂ (fun p q => p.1.Answered ℓ p.2 q.2) (x.transcript mvs) (y.transcript mvs') := by
  induction hmvs generalizing x y with
  | nil => exact ⟨hx, .nil⟩
  | cons hmv _ ih =>
    have hmatch := hx.move hmv hu.1
    obtain ⟨hplay, hanswers⟩ := ih hmatch.alike hu.2
    exact ⟨hplay, .cons hmatch.answered hanswers⟩

theorem Alike.play_of_policy {mvs mvs' : List (Move σ α)}
    (hpolicy : ∀ c d, ℓ.config c d → c.policy = d.policy) (hx : x.Alike ℓ y)
    (hmvs : Forall₂ (Move.Alike ℓ) mvs mvs') :
    (x.play mvs).Alike ℓ (y.play mvs') ∧
      Forall₂ (fun p q => p.1.Answered ℓ p.2 q.2) (x.transcript mvs) (y.transcript mvs') := by
  refine hx.play hmvs ?_
  induction hmvs generalizing x y with
  | nil => trivial
  | @cons mv mv' _ _ hmv _ ih =>
    have hconcur : x.ConcurOn y mv := by
      intro c hc a ha b hb
      have hab := hx.machine mv.place
      rw [ha, hb] at hab
      cases hab with
      | some hab => exact .inl (hpolicy _ _ hab.config)
    exact ⟨hconcur, ih (hx.move hmv hconcur).alike⟩

omit [Payload σ] [Inhabited σ] in
theorem alike_empty : (∅ : Session σ α).Alike ℓ ∅ where
  size := rfl
  machine _ := .none
  slots := rfl
  hub := ⟨_, fun _ => rfl, rfl⟩

end Session

end EventAutomata
