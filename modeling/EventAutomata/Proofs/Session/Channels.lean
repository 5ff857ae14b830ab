import EventAutomata.Proofs.Session.Requests

/-!
# The channel in each place

A machine has the channel that was opened for it as long as it is there. A step gives a place
another channel only if it makes a machine there, and takes one away only if it drops the
machine (`channel?_perform`).
-/

namespace EventAutomata

namespace Session

variable {σ α : Type} {x : Session σ α} {m k : Nat} {a b : Automaton σ α}

def channel? (x : Session σ α) (m : Nat) : Option ChannelId := (x.machine? m).map Automaton.channel

theorem channel?_eq_some {c : ChannelId} :
    x.channel? m = some c ↔ ∃ a, x.machine? m = some a ∧ a.channel = c := Option.map_eq_some_iff

theorem channel?_of_machine? (ha : x.machine? m = some a) : x.channel? m = some a.channel := by
  rw [channel?, ha]
  rfl

def Step.replaces : Step σ α → Bool
  | .create _ | .drop => true
  | _ => false

theorem channel?_setMachine (x : Session σ α) (m k : Nat) (a : Option (Automaton σ α)) :
    (x.setMachine m a).channel? k =
      if m = k then (if m < x.machines.size then a.map Automaton.channel else none)
      else x.channel? k := by
  rw [channel?, machine?_setMachine_eq]
  split
  next => split <;> rfl
  next => rfl

theorem channel?_setMachine_of_machine? (ha : x.machine? m = some a) (hb : b.channel = a.channel)
    (k : Nat) : (x.setMachine m (some b)).channel? k = x.channel? k := by
  rw [channel?_setMachine, if_pos (lt_size_of_machine? ha)]
  split
  next heq => rw [← heq, channel?_of_machine? ha, Option.map_some, hb]
  next => rfl

theorem channel?_dropMachine (x : Session σ α) (m k : Nat) :
    (x.dropMachine m).2.channel? k = if m = k then none else x.channel? k := by
  unfold dropMachine
  split
  next hnone =>
    split
    next heq => rw [← heq, channel?, hnone]; rfl
    next => rfl
  next a ha =>
    show (x.setMachine m none).channel? k = _
    rw [channel?_setMachine, if_pos (lt_size_of_machine? ha)]
    rfl

theorem size_dropMachine (x : Session σ α) (m : Nat) :
    (x.dropMachine m).2.machines.size = x.machines.size ∧
      (x.dropMachine m).2.hub.channels.size = x.hub.channels.size := by
  unfold dropMachine
  split
  next => exact ⟨rfl, rfl⟩
  next => simp [setMachine, Hub.close, Hub.setQueue]

/-- A machine that is made gets the next channel. -/
theorem channel?_create {config : AutomatonConfig} (hm : m ≤ x.machines.size) (k : Nat) :
    (x.create m config).2.channel? k =
      if m = k then some ⟨x.hub.channels.size⟩ else x.channel? k := by
  unfold create
  split
  next hlt =>
    obtain ⟨hmachines, hchannels⟩ := x.size_dropMachine m
    show ((x.dropMachine m).2.setMachine m (some (Automaton.create config _).1)).channel? k = _
    rw [channel?_setMachine, channel?_dropMachine, hmachines, if_pos hlt, ← hchannels]
    split <;> rfl
  next hge =>
    have heq : m = x.machines.size := by omega
    rw [if_pos heq]
    simp only [channel?, machine?, Array.getElem?_push, heq]
    by_cases hk : k = x.machines.size
    · rw [if_pos hk, if_pos hk.symm]
      rfl
    · rw [if_neg hk, if_neg (Ne.symm hk)]

variable [Payload σ]

theorem channel?_call (x : Session σ α) (m : Nat) (c : Automaton.Call σ α) (k : Nat) :
    (x.call m c).2.channel? k = x.channel? k := by
  unfold call withMachine
  split
  next => rfl
  next a ha => exact channel?_setMachine_of_machine? ha (a.channel_call x.hub c) k

omit [Payload σ] in
theorem channel?_configure (x : Session σ α) (m : Nat) (setting : Graph.Setting (Plan α) α) (k : Nat) :
    (x.configure m setting).2.channel? k = x.channel? k := by
  unfold configure withMachine
  split
  next => rfl
  next a ha =>
    dsimp only
    split
    next =>
      split
      next => rfl
      next => exact channel?_setMachine_of_machine? (b := (a.configure _).2) ha rfl k
    next => rfl

omit [Payload σ] in
theorem channel?_exchange (x : Session σ α) (m other : Nat)
    (inside : Graph σ α → Option (Graph σ α))
    (between : Graph σ α → Graph σ α → Option (Graph σ α × Graph σ α)) (k : Nat) :
    (x.exchange m other inside between).2.channel? k = x.channel? k := by
  unfold exchange withMachine
  split
  next => rfl
  next a ha =>
    dsimp only
    split
    next =>
      split
      next => rfl
      next graph _ => exact channel?_setMachine_of_machine? (b := { a with graph }) ha rfl k
    next hne =>
      split
      next => rfl
      next c hc =>
        split
        next => rfl
        next g₁ g₂ _ =>
          have hc' : (x.setMachine m (some { a with graph := g₁ })).machine? other = some c := by
            rw [machine?_setMachine_eq, if_neg hne]
            exact hc
          rw [channel?_setMachine_of_machine? (b := { c with graph := g₂ }) hc' rfl,
            channel?_setMachine_of_machine? (b := { a with graph := g₁ }) ha rfl]

theorem channel?_perform [Inhabited σ] {step : Step σ α} (hstep : m = k → step.replaces = false) :
    (x.perform m step).2.channel? k = x.channel? k := by
  cases step with
  | create config =>
    have hne : m ≠ k := fun heq => by cases hstep heq
    by_cases hm : m ≤ x.machines.size
    · have hmade : (x.create m config).2.channel? k = _ := channel?_create hm k
      rwa [if_neg hne] at hmade
    · simp only [perform, create]
      rw [if_neg (by omega), if_neg (by omega)]
  | drop =>
    have hne : m ≠ k := fun heq => by cases hstep heq
    have hdrop := x.channel?_dropMachine m k
    rwa [if_neg hne] at hdrop
  | call c => exact x.channel?_call m c k
  | configure setting => exact x.channel?_configure m setting k
  | signal t =>
    simp only [perform, withMachine]
    split
    next => rfl
    next => split <;> rfl
  | raise | copySignal | describeSignal =>
    simp only [perform, withSlot]
    split <;> rfl
  | swapStates s u other => exact x.channel?_exchange m other _ _ k
  | swapTransitions t u other => exact x.channel?_exchange m other _ _ k

end Session

end EventAutomata
