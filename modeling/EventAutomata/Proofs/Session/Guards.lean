import EventAutomata.Proofs.Alike.Sessions
import EventAutomata.Proofs.Automaton.Raising

/-!
# What guards and terminal flags cannot do

Guards are advice and terminal flags are marks. Two sessions with the same moves, except that
other guards and other flags are set, take the same transits, deliver the same requests and
run the same callbacks. Only who asks a guard, or looks at a flag, can tell them apart.

A guard that breaks down does so only for who asks it, and nothing is changed then. All other
faults are those of callbacks.
-/

namespace EventAutomata

open Automaton
open List (Forall₂)

variable {σ α : Type}

def Likeness.unguarded (timed : Bool) : Likeness where
  seen := false
  timed := timed
  config := Eq
  history := History.Alike timed
  config_refl _ := rfl
  policy h := .inl (congrArg _ h)
  fresh h := h ▸ .refl _
  record hk hr := hk.record hr

-- ---------------------------------------------------------------------------
-- Descriptions
-- ---------------------------------------------------------------------------

namespace Graph

variable {g k : Graph σ α}

/-- The same graph with other terminal flags. -/
def flagged (g : Graph σ α) (flags : Nat → Bool) : Graph σ α :=
  { g with states := g.states.mapIdx fun i n => { n with isTerminal := flags i } }

theorem describe_transitions_veil (seen : Bool) (g : Graph σ α) :
    describe (g.veil seen).transitions.toList = describe g.transitions.toList := by
  simp [veil, describe, TransitionNode.veil, Function.comp_def]

theorem Alike.describe_flagged [Payload σ] (h : g.Alike false k) :
    ∃ flags, describe k = describe (g.flagged flags) := by
  let flags : Nat → Bool := fun i => (k.states[i]?.map StateNode.isTerminal).getD false
  have hstates : k.states = (g.flagged flags).states := by
    refine Array.ext_getElem? fun i => ?_
    have hi : Option.Rel (fun n m => n.veil false = m.veil false) g.states[i]? k.states[i]? :=
      h.state? ⟨i⟩
    simp only [flagged, flags, Array.getElem?_mapIdx]
    rcases hi.none_or_some with ⟨hg, hk⟩ | ⟨n, m, hg, hk, hn⟩ <;> rw [hg, hk]
    · rfl
    · simpa using StateNode.eq_of_veil_eq hn
  have htransitions : describe k.transitions.toList = describe g.transitions.toList := by
    rw [← describe_transitions_veil false k, ← h, describe_transitions_veil]
  refine ⟨flags, ?_⟩
  simp only [describe, hstates] at htransitions ⊢
  rw [htransitions]
  rfl

end Graph

theorem Automaton.Alike.describe_flagged [Payload σ] {timed : Bool} {a b : Automaton σ α}
    (ha : a.Alike (.unguarded timed) b) :
    ∃ flags, describe b = describe { a with graph := a.graph.flagged flags } := by
  obtain ⟨flags, hgraph⟩ := ha.graph.describe_flagged
  have hconfig : a.config = b.config := ha.config
  refine ⟨flags, ?_⟩
  rw [ha.describe_eq ha.history.length_eq, ← hconfig]
  simp only [describe] at hgraph ⊢
  rw [hgraph]

-- ---------------------------------------------------------------------------
-- Answers
-- ---------------------------------------------------------------------------

namespace Session

def Step.asksGuard : Step σ α → Bool
  | .call (.canTransit ..) | .call (.query (.checkGuard ..)) => true
  | _ => false

variable [Payload σ]

/-- Two answers are the same but for what guards say, terminal flags and times. -/
inductive Step.SameButFlags (timed : Bool) : Step σ α → Answer → Answer → Prop
  | same (step : Step σ α) (answer : Answer) : SameButFlags timed step answer answer
  | guard {step : Step σ α} (answer answer' : Answer) :
      step.asksGuard = true → SameButFlags timed step answer answer'
  | stateInfo (s : StateId) (info : StateInfo) (flag : Bool) :
      SameButFlags timed (.call (.query (.stateInfo s))) (.stateInfo info)
        (.stateInfo { info with isTerminal := flag })
  | describeState (s : StateId) (n : StateNode σ α) (flag spread : Bool) :
      SameButFlags timed (.call (.query (.describeState s spread)))
        (.text ((describe n).render spread))
        (.text ((describe { n with isTerminal := flag }).render spread))
  | describeGraph (g : Graph σ α) (flags : Nat → Bool) (spread : Bool) :
      SameButFlags timed (.call (.query (.describe spread))) (.text ((describe g).render spread))
        (.text ((describe (g.flagged flags)).render spread))
  | describe (a : Automaton σ α) (flags : Nat → Bool) (spread : Bool) :
      SameButFlags timed (.call (.describe spread)) (.text ((describe a).render spread))
        (.text ((describe { a with graph := a.graph.flagged flags }).render spread))
  | history {h k : History} :
      h.Alike timed k → SameButFlags timed (.call .history) (.history h) (.history k)

theorem Step.Answered.sameButFlags {timed : Bool} {step : Step σ α} {x y : Answer}
    (h : step.Answered (.unguarded timed) x y) : step.SameButFlags timed x y := by
  cases h with
  | same => exact .same _ _
  | call h =>
    cases h with
    | same => exact .same _ _
    | canTransit | checkGuard => exact .guard _ _ rfl
    | stateInfo s info flag => exact .stateInfo s info flag
    | describeState s n flag spread => exact .describeState s n flag spread
    | describeGraph spread hg =>
      obtain ⟨flags, heq⟩ := Graph.Alike.describe_flagged hg
      rw [heq]
      exact .describeGraph _ flags spread
    | describe spread ha =>
      obtain ⟨flags, heq⟩ := ha.describe_flagged
      rw [heq]
      exact .describe _ flags spread
    | path hk =>
      rw [History.Alike.path_eq hk]
      exact .same _ _
    | history hk => exact .history hk
    | config hc =>
      cases hc
      exact .same _ _
    | describeConfig spread hc =>
      cases hc
      exact .same _ _

end Session

-- ---------------------------------------------------------------------------
-- Where faults come from
-- ---------------------------------------------------------------------------

namespace Answer

variable {β : Type} {f : β → Answer} {fault : Fault}

@[simp] theorem ofFault_eq_fault {result : Except Fault β} :
    ofFault f result = .fault fault ↔
      result = .error fault ∨ ∃ x, result = .ok x ∧ f x = .fault fault := by
  cases result <;> simp [ofFault]

@[simp] theorem ofMisuse_eq_fault {result : Except Misuse β} :
    ofMisuse f result = .fault fault ↔ ∃ x, result = .ok x ∧ f x = .fault fault := by
  cases result <;> simp [ofMisuse]

@[simp] theorem ofOption_eq_fault {result : Option β} :
    ofOption f result = .fault fault ↔ ∃ x, result = some x ∧ f x = .fault fault := by
  cases result <;> simp [ofOption]

end Answer

theorem Effect.eq_panic_of_run {site : Site α} {h h' : Hub α} {e : Effect α} {fault : Fault}
    (hr : e.run site h = (.error fault, h')) : ∃ meter, e = .panic fault.text meter := by
  unfold run at hr
  split at hr
  next => cases hr
  next =>
    cases e with
    | log | raise => cases hr
    | raiseRest =>
      simp only [act] at hr
      split at hr <;> cases hr
    | panic text meter =>
      cases hr
      exact ⟨meter, rfl⟩

theorem Script.panic_mem_of_run {site : Site α} {h h' : Hub α} {script : Script α} {fault : Fault}
    (hr : run site h script = (.error fault, h')) : ∃ meter, Effect.panic fault.text meter ∈ script := by
  induction script generalizing h with
  | nil => cases hr
  | cons e rest ih =>
    rw [run] at hr
    split at hr
    next =>
      obtain ⟨meter, hmem⟩ := ih hr
      exact ⟨meter, List.mem_cons_of_mem _ hmem⟩
    next heq =>
      cases hr
      obtain ⟨meter, rfl⟩ := Effect.eq_panic_of_run heq
      exact ⟨meter, List.mem_cons_self⟩

theorem InTurn.panic_mem {cbs : List (Callback α)} {h h' : Hub α} {pages : List (List (Event α))}
    {stage : Stage} {fault : Fault} (hr : InTurn cbs h pages (some (stage, fault)) h') :
    ∃ cb ∈ cbs, ∃ meter, Effect.panic fault.text meter ∈ cb.script := by
  generalize hstop : some (stage, fault) = stop at hr
  induction hr with
  | done => cases hstop
  | next _ _ _ ih =>
    obtain ⟨cb, hcb, hpanic⟩ := ih hstop
    exact ⟨cb, List.mem_cons_of_mem _ hcb, hpanic⟩
  | fault hrun =>
    cases hstop
    exact ⟨_, List.mem_cons_self, Script.panic_mem_of_run hrun⟩

namespace Graph

/-- Some callback can break down with this fault. -/
def CanFault (g : Graph σ α) (fault : Fault) : Prop :=
  ∃ script meter, g.HasCallback script ∧ Effect.panic fault.text meter ∈ script

end Graph

namespace Automaton

variable [Payload σ] {a : Automaton σ α} {fault : Fault}

theorem canFault_of_transit {t : TransitionId} {args : List α} {h : Hub α}
    (hf : (a.transit t args h).1 = .error fault) : a.graph.CanFault fault := by
  rcases a.transit_inTurn t args h with heq | ⟨edge, pages, stop, h', hx, hturn, heq⟩
  · rw [heq] at hf
    cases hf
  · rw [heq] at hf
    rcases stop with _ | ⟨stage, fault'⟩
    · cases hf
    · cases hf
      obtain ⟨cb, hcb, meter, hpanic⟩ := hturn.panic_mem
      exact ⟨cb.script, meter, hasCallback_of_mem hx hcb, hpanic⟩

theorem canFault_of_transitTimes {t : TransitionId} {args : List α} {h : Hub α} {times taken : Nat}
    (hf : (a.transitTimes t args h times taken).1 = .error fault) : a.graph.CanFault fault := by
  induction times generalizing a h taken with
  | zero => cases hf
  | succ times ih =>
    have hframe := a.transit_frame t args h
    rw [transitTimes] at hf
    split at hf
    next heq => rw [heq] at hframe; exact hframe.1 ▸ ih hf
    next heq => rw [heq] at hframe; exact hframe.1 ▸ ih hf
    next heq =>
      cases hf
      exact canFault_of_transit (congrArg Prod.fst heq)

theorem canFault_of_deliver {fired : Fired α} {h : Hub α}
    (hf : (a.deliver fired h).1 = .error fault) : a.graph.CanFault fault := by
  rcases a.deliver_cases fired h with heq | ⟨-, heq⟩
  · rw [heq] at hf
    cases hf
  · rw [heq] at hf
    exact canFault_of_transit hf

theorem canFault_of_drain {h : Hub α} {taken : Nat} (hf : (a.drain h taken).1 = .error fault) :
    a.graph.CanFault fault := by
  fun_induction drain a h taken with
  | case1 => cases hf
  | case2 a h taken fired h₁ ht fault' a' h' hd =>
    cases hf
    exact canFault_of_deliver (congrArg Prod.fst hd)
  | case3 a h taken fired h₁ ht took a' h' hd ih =>
    have hframe := a.deliver_frame fired h₁
    rw [hd] at hframe
    exact hframe.1 ▸ ih hf

theorem edit_ne_fault (e : Graph.Edit σ) : (a.edit e).1 ≠ .fault fault := by
  have haccepted : ∀ new? : Option (Automaton σ α), (Graph.accepted a new?).1 ≠ .fault fault := by
    intro new?
    cases new? <;> simp [Graph.accepted]
  have hunless : ∀ new? : Except Misuse (Option (Automaton σ α)),
      (Graph.acceptedUnless a new?).1 ≠ .fault fault := by
    intro new?
    cases new? with
    | error problem => simp [Graph.acceptedUnless]
    | ok new? => exact haccepted new?
  cases e with
  | addState data => simp [edit]
  | addTransition kind target =>
    rw [edit]
    split <;> simp
  | attach | remove => exact haccepted _
  | attachEpsilon | removeEpsilon => exact hunless _

omit [Payload σ] in
theorem configure_ne_fault (setting : Graph.Setting (Script α) α) :
    (a.configure setting).1 ≠ .fault fault := by
  have hstate : ∀ s f, (a.graph.changeState s f).1 ≠ .fault fault := by
    intro s f
    unfold Graph.changeState
    split <;> simp
  have htransition : ∀ t f, (a.graph.changeTransition t f).1 ≠ .fault fault := by
    intro t f
    unfold Graph.changeTransition
    split
    · simp
    · split <;> simp
  cases setting with
  | terminal | onEntry | onExit => exact hstate _ _
  | onTransit t script => exact htransition t fun n => .ok { n with onTransit := some script }
  | guard t guard => exact htransition t fun n => n.setGuard guard

theorem ask_ne_fault {q : Graph.Query α} (hq : (Session.Step.call (.query q : Call σ α)).asksGuard = false) :
    a.graph.ask q ≠ .fault fault := by
  cases q with
  | checkGuard => cases hq
  | _ => simp [Graph.ask]

/-- Unless a guard is asked, a fault is one of a callback. -/
theorem canFault_of_call {h : Hub α} {c : Call σ α} (hf : (a.call h c).1 = .fault fault)
    (hc : (Session.Step.call c).asksGuard = false) : a.graph.CanFault fault := by
  cases c with
  | edit e => exact absurd hf (edit_ne_fault e)
  | configure setting => exact absurd hf (configure_ne_fault setting)
  | query q => exact absurd hf (ask_ne_fault hc)
  | setStart s =>
    rw [call] at hf
    split at hf <;> cases hf
  | canTransit => cases hc
  | transit t args => exact canFault_of_transit (by simpa [call] using hf)
  | transitTimes t args times => exact canFault_of_transitTimes (by simpa [call] using hf)
  | deliver fired => exact canFault_of_deliver (by simpa [call] using hf)
  | dispatchPending => exact canFault_of_drain (by simpa [call, dispatchPending] using hf)
  | dispatchNext =>
    rw [call, dispatchNext] at hf
    cases ht : h.take? a.channel with
    | none => simp [ht] at hf
    | some taken => exact canFault_of_deliver (by simpa [ht] using hf)
  | subscription t => simp [call] at hf
  | _ => cases hf

end Automaton

namespace Session

variable {x : Session σ α} {m : Nat} {a : Automaton σ α}

variable [Payload σ] [Inhabited σ]

theorem perform_asksGuard {step : Step σ α} (hs : step.asksGuard = true) :
    (x.perform m step).2 = x := by
  have hcall : ∀ c, (∀ a : Automaton σ α, (a.call x.hub c).2 = (a, x.hub)) →
      (x.call m c).2 = x := by
    intro c hc
    unfold call withMachine
    split
    next => rfl
    next a ha =>
      simp only [hc a]
      rw [setMachine_self ha]
  cases step with
  | call c =>
    refine hcall c fun a => ?_
    cases c with
    | canTransit => rfl
    | query => rfl
    | _ => cases hs
  | _ => cases hs

theorem fault_of_perform {step : Step σ α} {fault : Fault}
    (hf : (x.perform m step).1 = .fault fault) (hs : step.asksGuard = false) :
    ∃ a, x.machine? m = some a ∧ a.graph.CanFault fault := by
  -- Only calls run callbacks.
  cases step with
  | call c =>
    cases ha : x.machine? m with
    | none =>
      simp only [perform, call, withMachine, ha] at hf
      cases hf
    | some a =>
      simp only [perform, call, withMachine, ha] at hf
      exact ⟨a, rfl, canFault_of_call hf hs⟩
  | create config =>
    simp only [perform, create] at hf
    split at hf
    · cases hf
    · split at hf <;> cases hf
  | drop => cases hf
  | configure setting =>
    simp only [perform, configure, withMachine] at hf
    split at hf
    · cases hf
    · split at hf
      · split at hf
        · cases hf
        · exact absurd hf (configure_ne_fault _)
      · cases hf
  | signal t =>
    simp only [perform, withMachine] at hf
    split at hf
    · cases hf
    · split at hf <;> cases hf
  | raise slot args =>
    simp only [perform, withSlot] at hf
    split at hf
    · cases hf
    next => simp at hf
  | copySignal slot | describeSignal slot =>
    simp only [perform, withSlot] at hf
    split at hf <;> cases hf
  | swapStates | swapTransitions =>
    simp only [perform, exchange, withMachine] at hf
    split at hf
    · cases hf
    · split at hf
      · split at hf <;> cases hf
      · split at hf
        · cases hf
        · split at hf <;> cases hf

/-- Sessions that differ in guards and terminal flags alone go the same way, and but for what
guards and flags say they answer the same. Guards break down only when they are asked. -/
theorem guards_and_flags_do_not_matter (timed : Bool) {mvs mvs' : List (Move σ α)}
    (hmvs : Forall₂ (Move.Alike (.unguarded timed)) mvs mvs') :
    ((∅ : Session σ α).play mvs).Alike (.unguarded timed) ((∅ : Session σ α).play mvs') ∧
    Forall₂ (fun p q => p.1.SameButFlags timed p.2 q.2)
      ((∅ : Session σ α).transcript mvs) ((∅ : Session σ α).transcript mvs') ∧
    (∀ (x : Session σ α) m (step : Step σ α), step.asksGuard = true → (x.perform m step).2 = x) ∧
    ∀ (x : Session σ α) m (step : Step σ α) fault, (x.perform m step).1 = .fault fault →
      step.asksGuard = true ∨ ∃ a, x.machine? m = some a ∧ a.graph.CanFault fault := by
  obtain ⟨hplay, hanswers⟩ := alike_empty.play_of_policy (fun _ _ hc => congrArg _ hc) hmvs
  refine ⟨hplay, hanswers.imp fun _ _ h => h.sameButFlags, fun x m step hs => perform_asksGuard hs,
    fun x m step fault hf => ?_⟩
  cases hs : step.asksGuard with
  | true => exact .inl rfl
  | false => exact .inr (fault_of_perform hf hs)

/-- A door that jams behind whoever goes in, with a guard and a flag for the inside. -/
def doorSteps (guard : Guard Nat) (flag : Bool) : List (Step String Nat) :=
  [.create {}, .call (.edit (.addState "outside")), .call (.edit (.addState "inside")),
    .call (.edit (.addTransition .input ⟨1⟩)), .call (.setStart (some ⟨0⟩)),
    .call (.edit (.attach ⟨0⟩ ⟨0⟩)), .configure (.guard ⟨0⟩ guard),
    .configure (.terminal ⟨1⟩ flag), .configure (.onEntry ⟨1⟩ [.panic "jammed" none]),
    .call (.canTransit ⟨0⟩ []), .call (.deliver ⟨⟨0⟩, []⟩)]

/-- One guard lets nobody in and the other breaks down; the delivery goes through all the same,
up to the fault of the entry callback. -/
theorem guards_and_flags_do_not_matter_at_door :
    let mvs := (doorSteps ⟨fun _ => .ok false⟩ true).map (⟨⟨0, 0⟩, 0, ·⟩)
    let mvs' := (doorSteps ⟨fun _ => .error ⟨"closed"⟩⟩ false).map (⟨⟨1, 0⟩, 0, ·⟩)
    let x := (∅ : Session String Nat).play mvs
    let y := (∅ : Session String Nat).play mvs'
    let answers := fun mvs => ((∅ : Session String Nat).transcript mvs).map Prod.snd
    Forall₂ (Move.Alike (.unguarded false)) mvs mvs' ∧ x.Alike (.unguarded false) y ∧
      (answers mvs).drop 9 = [.flag false, .fault ⟨"jammed"⟩] ∧
      (answers mvs').drop 9 = [.fault ⟨"closed"⟩, .fault ⟨"jammed"⟩] ∧
      (x.machine? 0).map (fun a => (a.current, a.isTerminal)) = some (some ⟨1⟩, true) ∧
      (y.machine? 0).map (fun a => (a.current, a.isTerminal)) = some (some ⟨1⟩, false) := by
  have hsteps : Forall₂ (Step.Alike (.unguarded false)) (doorSteps ⟨fun _ => .ok false⟩ true)
      (doorSteps ⟨fun _ => .error ⟨"closed"⟩⟩ false) :=
    .cons (.same _) <| .cons (.same _) <| .cons (.same _) <| .cons (.same _) <|
      .cons (.same _) <| .cons (.same _) <| .cons (.configure (.guard _ _ _ rfl)) <|
      .cons (.configure (.terminal _ _ _ rfl)) <| .cons (.same _) <| .cons (.same _) <|
      .cons (.same _) .nil
  have hmvs := Move.alike_map hsteps 0 ⟨0, 0⟩ ⟨1, 0⟩ nofun
  exact ⟨hmvs, (guards_and_flags_do_not_matter false hmvs).1, rfl, rfl, by decide, by decide⟩

end Session

end EventAutomata
