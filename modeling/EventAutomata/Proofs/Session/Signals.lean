import EventAutomata.Proofs.Automaton.Raising
import EventAutomata.Proofs.Session.Channels

/-!
# Signals and their slots

A callback that is set gets its signals out of slots, and exchanged nodes take their callbacks
with them. So wherever a callback has got to, each signal in it is one that was handed out, and so
is each signal that was ever raised (`Stocked`). Only who sets a script as it is can make up
signals; `Genuine` says that nobody does.
-/

namespace EventAutomata

section Installing

variable {α : Type} {slots : Array FireSignal} {h h' : Hub α}

theorem PlannedEffect.signal?_of_install? {e : PlannedEffect α} {effect : Effect α}
    {signal : FireSignal} (hi : e.install? slots h = some (effect, h'))
    (hs : effect.signal? = some signal) : signal ∈ slots := by
  cases e with
  | log tag times | panic text times =>
    cases hi
    cases hs
  | raise slot args times | raiseRest slot times =>
    obtain ⟨stored, hstored, heq⟩ := Option.map_eq_some_iff.1 hi
    cases heq
    cases hs
    exact Array.mem_of_getElem? hstored

theorem Plan.holds_of_install? {plan : Plan α} {script : Script α}
    (hi : plan.install? slots h = some (script, h')) : script.Holds (· ∈ slots) := by
  induction plan generalizing h script with
  | nil =>
    cases hi
    exact nofun
  | cons e rest ih =>
    simp only [Plan.install?] at hi
    split at hi
    next => cases hi
    next effect h₁ he =>
      obtain ⟨⟨script', h₂⟩, hrest, heq⟩ := Option.map_eq_some_iff.1 hi
      cases heq
      intro signal hsignal
      obtain ⟨e', he', hs⟩ := List.mem_filterMap.1 hsignal
      rcases List.mem_cons.1 he' with rfl | he'
      · exact PlannedEffect.signal?_of_install? he hs
      · exact ih hrest signal (List.mem_filterMap.2 ⟨e', he', hs⟩)

theorem Graph.Setting.holds_of_install? {setting : Graph.Setting (Plan α) α}
    {installed : Graph.Setting (Script α) α} (hi : setting.install? slots h = some (installed, h')) :
    ∀ script, installed.callback? = some script → script.Holds (· ∈ slots) := by
  cases setting with
  | terminal | guard =>
    cases hi
    exact nofun
  | onEntry s plan | onExit s plan | onTransit t plan =>
    obtain ⟨⟨made, h₁⟩, hplan, heq⟩ := Option.map_eq_some_iff.1 hi
    cases heq
    intro script hscript
    cases hscript
    exact Plan.holds_of_install? hplan

end Installing

namespace Session

variable {σ α : Type} {x : Session σ α} {m : Nat} {P : FireSignal → Prop}

/-- The signals that callbacks hold, and those that were raised, satisfy `P`. -/
structure Holds (P : FireSignal → Prop) (x : Session σ α) : Prop where
  callbacks : ∀ {k a}, x.machine? k = some a → a.graph.AllCallbacks (Script.Holds P)
  raised : ∀ signal ∈ raisedIn x.hub.journal.toList, P signal

/-- The signals in a script that is set as it is. Plans name signals by their slots. -/
def Step.signals : Step σ α → List FireSignal
  | .call c => (c.callback?.map Script.signals).getD []
  | _ => []

theorem holds_empty : (∅ : Session σ α).Holds P where
  callbacks ha := absurd ha (machine?_empty_ne _ _)
  raised := nofun

theorem Holds.mono {Q : FireSignal → Prop} (hx : x.Holds P) (hpq : ∀ signal, P signal → Q signal) :
    x.Holds Q where
  callbacks ha script hscript signal hsignal :=
    hpq signal (hx.callbacks ha script hscript signal hsignal)
  raised signal hsignal := hpq signal (hx.raised signal hsignal)

theorem exchange_keeps {I : Graph σ α → Prop} {other : Nat}
    {inside : Graph σ α → Option (Graph σ α)}
    {between : Graph σ α → Graph σ α → Option (Graph σ α × Graph σ α)}
    (hinside : ∀ {g g'}, inside g = some g' → I g → I g')
    (hbetween : ∀ {g h g' h'}, between g h = some (g', h') → I g → I h → I g' ∧ I h')
    (hx : ∀ {k a}, x.machine? k = some a → I a.graph) {k : Nat} {b : Automaton σ α}
    (hb : (x.exchange m other inside between).2.machine? k = some b) : I b.graph := by
  unfold exchange withMachine at hb
  split at hb
  next => exact hx hb
  next a ha =>
    dsimp only at hb
    split at hb
    next =>
      split at hb
      next => exact hx hb
      next graph hgraph =>
        rcases machine?_setMachine hb with ⟨-, hb⟩ | ⟨-, hb⟩
        · cases hb
          exact hinside hgraph (hx ha)
        · exact hx hb
    next =>
      split at hb
      next => exact hx hb
      next c hc =>
        split at hb
        next => exact hx hb
        next g₁ g₂ hgraphs =>
          obtain ⟨h₁, h₂⟩ := hbetween hgraphs (hx ha) (hx hc)
          rcases machine?_setMachine hb with ⟨-, hb⟩ | ⟨-, hb⟩
          · cases hb
            exact h₂
          · rcases machine?_setMachine hb with ⟨-, hb⟩ | ⟨-, hb⟩
            · cases hb
              exact h₁
            · exact hx hb

variable [Payload σ]

theorem callbacks_call (hx : ∀ {k a}, x.machine? k = some a → a.graph.AllCallbacks (Script.Holds P))
    {c : Automaton.Call σ α} (hc : ∀ signal ∈ (Step.call c).signals, P signal) {k : Nat}
    {b : Automaton σ α} (hb : (x.call m c).2.machine? k = some b) :
    b.graph.AllCallbacks (Script.Holds P) := by
  have hscript : ∀ script, c.callback? = some script → script.Holds P := by
    intro script hscript signal hsignal
    refine hc signal ?_
    rw [Step.signals, hscript]
    exact hsignal
  unfold call withMachine at hb
  split at hb
  next => exact hx hb
  next a ha =>
    rcases machine?_setMachine hb with ⟨-, hb⟩ | ⟨-, hb⟩
    · cases hb
      exact Automaton.allCallbacks_call (hx ha) x.hub hscript
    · exact hx hb

omit [Payload σ] in
theorem callbacks_configure
    (hx : ∀ {k a}, x.machine? k = some a → a.graph.AllCallbacks (Script.Holds P))
    (hslots : ∀ signal ∈ x.slots, P signal) {setting : Graph.Setting (Plan α) α} {k : Nat}
    {b : Automaton σ α} (hb : (x.configure m setting).2.machine? k = some b) :
    b.graph.AllCallbacks (Script.Holds P) := by
  unfold configure withMachine at hb
  split at hb
  next => exact hx hb
  next a ha =>
    dsimp only at hb
    split at hb
    next =>
      split at hb
      next => exact hx hb
      next installed hub hi =>
        rcases machine?_setMachine hb with ⟨-, hb⟩ | ⟨-, hb⟩
        · cases hb
          exact (hx ha).configure fun script hscript signal hsignal =>
            hslots signal (Graph.Setting.holds_of_install? hi script hscript signal hsignal)
        · exact hx hb
    next => exact hx hb

variable [Inhabited σ]

theorem callbacks_perform
    (hx : ∀ {k a}, x.machine? k = some a → a.graph.AllCallbacks (Script.Holds P))
    (hslots : ∀ signal ∈ x.slots, P signal) {step : Step σ α}
    (hstep : ∀ signal ∈ step.signals, P signal) {k : Nat} {b : Automaton σ α}
    (hb : (x.perform m step).2.machine? k = some b) : b.graph.AllCallbacks (Script.Holds P) := by
  cases step with
  | create config =>
    rcases machine?_create hb with ⟨-, hub, rfl⟩ | ⟨-, hb⟩
    · exact .empty
    · exact hx hb
  | drop => exact hx (machine?_dropMachine hb).2
  | call c => exact callbacks_call hx hstep hb
  | configure setting => exact callbacks_configure hx hslots hb
  | signal t =>
    simp only [perform, withMachine] at hb
    split at hb
    next => exact hx hb
    next => split at hb <;> exact hx hb
  | raise | copySignal | describeSignal =>
    simp only [perform, withSlot] at hb
    split at hb <;> exact hx hb
  | swapStates s u other =>
    refine exchange_keeps (fun {g g'} hg hall => ?_)
      (fun hg hall hall' => hall.tradeStates? hall' hg) hx hb
    split at hg
    next => exact hall.blankState? hg
    next => exact hall.swapStates? hg
  | swapTransitions t u other =>
    refine exchange_keeps (fun {g g'} hg hall => ?_)
      (fun hg hall hall' => hall.tradeTransitions? hall' hg) hx hb
    split at hg
    next => exact hall.blankTransition? hg
    next => exact hall.swapTransitions? hg

/-- Unless a machine is made or dropped, a step is work on the hub, with signals from callbacks
and slots. -/
theorem raised_perform
    (hx : ∀ {k a}, x.machine? k = some a → a.graph.AllCallbacks (Script.Holds P))
    (hslots : ∀ signal ∈ x.slots, P signal) {step : Step σ α} (hstep : step.replaces = false) :
    x.hub.Raised P (x.perform m step).2.hub := by
  cases step with
  | create | drop => cases hstep
  | call c =>
    simp only [perform, call, withMachine]
    split
    next => exact .refl
    next a ha => exact Automaton.call_raised (hx ha) x.hub c
  | configure setting =>
    simp only [perform, configure, withMachine]
    split
    next => exact .refl
    next a ha =>
      split
      next =>
        split
        next => exact .refl
        next hi =>
          exact ⟨[], Graph.Setting.install?_traffic hi, fun _ hsignal => absurd hsignal List.not_mem_nil⟩
      next => exact .refl
  | signal t =>
    simp only [perform, withMachine]
    split
    next => exact .refl
    next => split <;> exact .refl
  | raise slot args =>
    simp only [perform, withSlot]
    split
    next => exact .refl
    next signal hsignal => exact .of_raise (hslots signal (Array.mem_of_getElem? hsignal)) x.hub args
  | copySignal | describeSignal =>
    simp only [perform, withSlot]
    split <;> exact .refl
  | swapStates | swapTransitions =>
    simp only [perform]
    rw [hub_exchange]
    exact .refl

theorem Holds.perform (hx : x.Holds P) (hslots : ∀ signal ∈ x.slots, P signal) {step : Step σ α}
    (hstep : ∀ signal ∈ step.signals, P signal) : (x.perform m step).2.Holds P where
  callbacks := callbacks_perform hx.callbacks hslots hstep
  raised := by
    cases step with
    | create config =>
      have hjournal := (x.changed_create m config).journal
      rw [List.append_nil] at hjournal
      exact hjournal.symm ▸ hx.raised
    | drop =>
      have hjournal := (x.changed_dropMachine m).journal
      rw [List.append_nil] at hjournal
      exact hjournal.symm ▸ hx.raised
    | _ => exact (raised_perform hx.callbacks hslots rfl).journal hx.raised

-- ---------------------------------------------------------------------------
-- Slots
-- ---------------------------------------------------------------------------

def Step.stores? (x : Session σ α) (m : Nat) : Step σ α → Option FireSignal
  | .signal t => (x.machine? m).bind (·.signal? t)
  | .copySignal slot => x.slots[slot]?
  | _ => none

omit [Payload σ] [Inhabited σ] in
theorem slots_dropMachine (x : Session σ α) (m : Nat) : (x.dropMachine m).2.slots = x.slots := by
  unfold dropMachine
  split <;> rfl

omit [Payload σ] [Inhabited σ] in
theorem slots_create (x : Session σ α) (m : Nat) (config : AutomatonConfig) :
    (x.create m config).2.slots = x.slots := by
  unfold create
  split
  next => exact x.slots_dropMachine m
  next => split <;> rfl

omit [Payload σ] [Inhabited σ] in
theorem slots_exchange (x : Session σ α) (m other : Nat) (inside : Graph σ α → Option (Graph σ α))
    (between : Graph σ α → Graph σ α → Option (Graph σ α × Graph σ α)) :
    (x.exchange m other inside between).2.slots = x.slots := by
  obtain ⟨machines, heq⟩ := x.exchange_eq m other inside between
  rw [heq]

theorem slots_perform (x : Session σ α) (m : Nat) (step : Step σ α) :
    (x.perform m step).2.slots.toList = x.slots.toList ++ (step.stores? x m).toList := by
  cases step with
  | signal t =>
    simp only [perform, withMachine, Step.stores?]
    cases x.machine? m with
    | none => simp
    | some a => cases h : a.signal? t <;> simp [addSlot, h]
  | copySignal slot =>
    simp only [perform, withSlot, Step.stores?]
    cases h : x.slots[slot]? <;> simp [addSlot]
  | create config => simp [perform, Step.stores?, slots_create]
  | drop => simp [perform, Step.stores?, slots_dropMachine]
  | call c =>
    simp only [perform, call, withMachine, Step.stores?]
    split <;> simp [setMachine]
  | configure setting =>
    simp only [perform, configure, withMachine, Step.stores?]
    split
    next => simp
    next =>
      split
      next => split <;> simp [setMachine]
      next => simp
  | raise | describeSignal =>
    simp only [perform, withSlot, Step.stores?]
    split <;> simp
  | swapStates | swapTransitions => simp [perform, Step.stores?, slots_exchange]

-- ---------------------------------------------------------------------------
-- Runs
-- ---------------------------------------------------------------------------

/-- Every signal that a callback holds, and every one that was raised, is in a slot. -/
def Stocked (x : Session σ α) : Prop := x.Holds (· ∈ x.slots)

theorem Stocked.perform (hx : x.Stocked) {step : Step σ α}
    (hstep : ∀ signal ∈ step.signals, signal ∈ x.slots) : (x.perform m step).2.Stocked := by
  refine (Holds.perform hx (fun _ h => h) hstep).mono fun signal hsignal => ?_
  rw [← Array.mem_toList_iff, slots_perform]
  exact List.mem_append_left _ (Array.mem_toList_iff.2 hsignal)

/-- Scripts that are set as they are have only signals that have been handed out. -/
def Genuine (x : Session σ α) : List (Nat × Step σ α) → Prop
  | [] => True
  | (m, step) :: rest =>
    (∀ signal ∈ step.signals, signal ∈ x.slots) ∧ (x.perform m step).2.Genuine rest

theorem Stocked.run (hx : x.Stocked) {steps : List (Nat × Step σ α)} (hsteps : x.Genuine steps) :
    (x.run steps).Stocked := by
  induction steps generalizing x with
  | nil => exact hx
  | cons e rest ih => exact ih (hx.perform hsteps.1) hsteps.2

end Session

end EventAutomata
