import EventAutomata.Proofs.Alike.Sessions

/-!
# The permissive policy extends the strict one

A permissive automaton takes what a strict one takes, and takes it in the same way. So where
a strict one has refused nothing, a permissive one in its place does the same and answers the
same, unless it is asked for its configuration.
-/

namespace EventAutomata

open List (Forall₂)

variable {σ α : Type}

def Likeness.permissive (timed : Bool) : Likeness where
  seen := true
  timed := timed
  config c d := d = c ∨ d = { c with policy := .permissive }
  history := History.Alike timed
  config_refl _ := .inl rfl
  policy := by
    rintro c d (rfl | rfl)
    · exact .inl rfl
    · exact .inr rfl
  fresh := by
    rintro c d (rfl | rfl)
    · exact .refl _
    · exact .refl _
  record hk hr := hk.record hr

namespace Session

variable [Payload σ]

/-- Two answers are the same but for a policy that is shown, and for times. -/
inductive Step.SameButPolicy (timed : Bool) : Step σ α → Answer → Answer → Prop
  | same (step : Step σ α) (answer : Answer) : SameButPolicy timed step answer answer
  | config (c : AutomatonConfig) :
      SameButPolicy timed (.call .config) (.config c) (.config { c with policy := .permissive })
  | describeConfig (c : AutomatonConfig) (spread : Bool) :
      SameButPolicy timed (.call (.describeConfig spread)) (.text ((describe c).render spread))
        (.text ((describe { c with policy := .permissive }).render spread))
  | describe (a : Automaton σ α) (spread : Bool) :
      SameButPolicy timed (.call (.describe spread)) (.text ((describe a).render spread))
        (.text ((describe { a with config := { a.config with policy := .permissive } }).render spread))
  | history {h k : History} :
      h.Alike timed k → SameButPolicy timed (.call .history) (.history h) (.history k)

theorem Step.Answered.sameButPolicy {timed : Bool} {step : Step σ α} {x y : Answer}
    (h : step.Answered (.permissive timed) x y) : step.SameButPolicy timed x y := by
  cases h with
  | same => exact .same _ _
  | call h =>
    cases h with
    | same => exact .same _ _
    | canTransit _ _ _ _ hseen | checkGuard _ _ _ _ hseen | stateInfo _ _ _ hseen
    | describeState _ _ _ _ hseen => cases hseen
    | describeGraph spread hg =>
      rw [Graph.Alike.eq hg]
      exact .same _ _
    | @describe a b spread ha =>
      have hgraph : a.graph = b.graph := Graph.Alike.eq ha.graph
      rw [ha.describe_eq ha.history.length_eq, ← hgraph]
      rcases ha.config with hconfig | hconfig <;> rw [hconfig]
      · exact .same _ _
      · exact .describe a spread
    | path hk =>
      rw [History.Alike.path_eq hk]
      exact .same _ _
    | history hk => exact .history hk
    | config hc =>
      rcases hc with rfl | rfl
      · exact .same _ _
      · exact .config _
    | describeConfig spread hc =>
      rcases hc with rfl | rfl
      · exact .same _ _
      · exact .describeConfig _ spread

variable [Inhabited σ]

/-- Automata that are made permissive in a session where they have refused nothing as strict
ones go the same way and give the same answers, but for the policy that they show. -/
theorem permissive_extends_strict (timed : Bool) {mvs mvs' : List (Move σ α)}
    (hmvs : Forall₂ (Move.Alike (.permissive timed)) mvs mvs') (hu : Unrefused ∅ ∅ mvs mvs') :
    ((∅ : Session σ α).play mvs).Alike (.permissive timed) ((∅ : Session σ α).play mvs') ∧
    Forall₂ (fun p q => p.1.SameButPolicy timed p.2 q.2)
      ((∅ : Session σ α).transcript mvs) ((∅ : Session σ α).transcript mvs') := by
  obtain ⟨hplay, hanswers⟩ := alike_empty.play hmvs hu
  exact ⟨hplay, hanswers.imp fun _ _ h => h.sameButPolicy⟩

/-- An automaton that is started over and exchanges a state with another one. -/
def errand (policy : TransitPolicy) : List (Move String Nat) :=
  let here := fun step => (⟨⟨0, 0⟩, 0, step⟩ : Move String Nat)
  let there := fun step => (⟨⟨0, 0⟩, 1, step⟩ : Move String Nat)
  [here (.create { policy }), here (.call (.edit (.addState "home"))),
    here (.call (.edit (.addState "shop"))), here (.call (.edit (.addTransition .input ⟨1⟩))),
    here (.call (.setStart (some ⟨0⟩))), here (.call (.edit (.attach ⟨0⟩ ⟨0⟩))),
    here (.configure (.onEntry ⟨1⟩ [.panic "shut" (some 1)])), here (.signal ⟨0⟩),
    here (.raise 0 [7]), here (.call .dispatchNext), here (.call .reset),
    there (.create {}), there (.call (.edit (.addState "market"))),
    there (.call (.edit (.addTransition .input ⟨0⟩))), there (.call (.transit ⟨0⟩ [])),
    here (.swapStates ⟨1⟩ ⟨0⟩ 1), here (.call (.transit ⟨0⟩ []))]

/-- The other automaton is strict in both sessions, and it refuses a transit. -/
theorem permissive_extends_strict_on_errand :
    let x := (∅ : Session String Nat).play (errand .strict)
    let y := (∅ : Session String Nat).play (errand .permissive)
    let answers := fun mvs => ((∅ : Session String Nat).transcript mvs).map Prod.snd
    Forall₂ (Move.Alike (.permissive true)) (errand .strict) (errand .permissive) ∧
      Unrefused ∅ ∅ (errand .strict) (errand .permissive) ∧ x.Alike (.permissive true) y ∧
      (answers (errand .strict))[9]? = some (.fault ⟨"shut"⟩) ∧
      (answers (errand .strict))[14]? = some (.flag false) ∧
      (y.machine? 0).map (fun a => (a.config.policy, a.history.trips)) =
        some (.permissive, [⟨some ⟨0⟩, ⟨1⟩, ⟨0⟩⟩]) := by
  have hsame : ∀ mvs : List (Move String Nat), Forall₂ (Move.Alike (.permissive true)) mvs mvs :=
    fun mvs => List.forall₂_same.2 fun mv _ => ⟨fun _ => rfl, rfl, .same mv.step⟩
  have hmvs : Forall₂ (Move.Alike (.permissive true)) (errand .strict) (errand .permissive) :=
    .cons ⟨fun _ => rfl, rfl, .create (.inr rfl)⟩ (hsame _)
  have hu : Unrefused ∅ ∅ (errand .strict) (errand .permissive) := by decide
  exact ⟨hmvs, hu, (permissive_extends_strict true hmvs hu).1, rfl, rfl, by decide⟩

end Session

end EventAutomata
