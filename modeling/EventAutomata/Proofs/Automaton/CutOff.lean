import EventAutomata.Proofs.Automaton.Rewiring

/-!
# What a removal cuts off

A removal cuts off the states to which every path took the transition. The current state is
given up if it cannot be reached afterwards, without a look at whether it could be before. For
a current state inside the automaton the two come to the same: it is given up if it is cut off
and otherwise kept. One that was outside, where a permissive transit can lead, is given up
by whatever removal comes next.
-/

namespace EventAutomata

namespace Automaton

variable {σ α : Type} {a b : Automaton σ α} {c s v : StateId} {t : TransitionId}

/-- Every path from the start state to the state takes the transition. -/
def HangsBy (a : Automaton σ α) (t : TransitionId) (v : StateId) : Prop :=
  ∀ r ts, a.start = some r → a.graph.Trail Traversal.withEpsilon.follows r ts v → t ∈ ts

theorem Tracked.not_mem_states_remove? (ha : a.Tracked) (h : a.remove? s t = some b) :
    ¬ v ∈ b.states ↔ a.HangsBy t v := by
  rw [ha.mem_states_remove? h]
  constructor
  · intro hnone r ts hr htrail
    by_contra hnot
    exact hnone ⟨r, ts, hr, htrail, hnot⟩
  · rintro hall ⟨r, ts, hr, htrail, hnot⟩
    exact hnot (hall r ts hr htrail)

theorem current_remove? (h : a.remove? s t = some b) :
    b.current = a.current.filter (· ∈ b.states) := by
  obtain ⟨-, g, -, rfl⟩ := remove?_eq_some h
  rw [dropStrandedCursor_eq]
  rfl

theorem current_remove?_of_some (h : a.remove? s t = some b) (hc : a.current = some c) :
    b.current = if c ∈ b.states then some c else none := by
  rw [current_remove? h, hc, Option.filter_some]
  simp

/-- The current state is given up if it has been cut off, and otherwise kept. -/
def SparesUnlessCutOff (a b : Automaton σ α) (c : StateId) : Prop :=
  b.current = if c ∈ a.states ∧ ¬ c ∈ b.states then none else some c

instance (a b : Automaton σ α) (c : StateId) : Decidable (a.SparesUnlessCutOff b c) :=
  inferInstanceAs (Decidable (b.current = if c ∈ a.states ∧ ¬ c ∈ b.states then none else some c))

/-- A current state outside cannot be cut off, and it is given up all the same. -/
theorem Tracked.sparesUnlessCutOff_iff (ha : a.Tracked) (h : a.remove? s t = some b)
    (hc : a.current = some c) : a.SparesUnlessCutOff b c ↔ c ∈ a.states := by
  rw [SparesUnlessCutOff, current_remove?_of_some h hc]
  by_cases hin : c ∈ a.states
  · by_cases hleft : c ∈ b.states <;> simp [hin, hleft]
  · have hleft : ¬ c ∈ b.states := fun hleft => hin (ha.states_remove?_subset h hleft)
    simp [hin, hleft]

variable [Payload σ]

/-- What becomes of the current state is decided by what can be reached afterwards. That is the
same as whether it was cut off exactly if it was inside, as it always is under the strict policy
and where only signals move it. -/
theorem removal_spares_cursor_iff_inside (config : AutomatonConfig) (hub : Hub α)
    (turns : List (Turn σ α)) (s : StateId) (t : TransitionId) :
    let a := (live (create config hub) turns).1
    ∀ c b, a.current = some c → a.edit (.remove s t) = (.flag true, b) →
      b.current = (if c ∈ b.states then some c else none) ∧
      (¬ c ∈ b.states ↔ a.HangsBy t c) ∧
      (a.SparesUnlessCutOff b c ↔ c ∈ a.states) ∧
      (config.policy = .strict ∨ (∀ call, .call call ∈ turns → call.isDirect = false) →
        c ∈ a.states) := by
  intro a c b hc hb
  have ha : a.Tracked := tracked_live config hub turns
  have h := Graph.accepted_eq_true.1 hb
  refine ⟨current_remove?_of_some h hc, ha.not_mem_states_remove? h,
    ha.sparesUnlessCutOff_iff h hc, fun hinside => ?_⟩
  exact cursorInside_live hinside c hc

/-- Two transitions lead to the state that a signal makes the current one. -/
def twoWays : List (Turn String Nat) :=
  [.call (.edit (.addState "idle")), .call (.edit (.addState "busy")),
    .call (.edit (.addTransition .input ⟨1⟩)), .call (.edit (.addTransition .epsilon ⟨1⟩)),
    .call (.setStart (some ⟨0⟩)), .call (.edit (.attach ⟨0⟩ ⟨0⟩)),
    .call (.edit (.attach ⟨0⟩ ⟨1⟩)), .call (.deliver ⟨⟨0⟩, []⟩)]

def oneWay : List (Turn String Nat) := twoWays ++ [.call (.edit (.remove ⟨0⟩ ⟨0⟩))]

theorem removal_spares_cursor_iff_inside_two_ways :
    let a := afterTurns twoWays
    let b := afterTurns oneWay
    let z := afterTurns (oneWay ++ [.call (.edit (.remove ⟨0⟩ ⟨1⟩))])
    a.current = some ⟨1⟩ ∧ a.edit (.remove ⟨0⟩ ⟨0⟩) = (.flag true, b) ∧ ¬ a.HangsBy ⟨0⟩ ⟨1⟩ ∧
      b.current = some ⟨1⟩ ∧ b.edit (.remove ⟨0⟩ ⟨1⟩) = (.flag true, z) ∧ b.HangsBy ⟨1⟩ ⟨1⟩ ∧
      z.current = none ∧ b.SparesUnlessCutOff z ⟨1⟩ := by
  intro a b z
  have hb : a.edit (.remove ⟨0⟩ ⟨0⟩) = (.flag true, b) := edit_afterTurns rfl
  have hz : b.edit (.remove ⟨0⟩ ⟨1⟩) = (.flag true, z) := edit_afterTurns rfl
  have ha : a.current = some ⟨1⟩ := by decide
  have hkept : b.current = some ⟨1⟩ := by decide
  obtain ⟨-, hways, -, -⟩ := removal_spares_cursor_iff_inside {} {} twoWays ⟨0⟩ ⟨0⟩ ⟨1⟩ b ha hb
  obtain ⟨-, hlast, hspared, hinside⟩ :=
    removal_spares_cursor_iff_inside {} {} oneWay ⟨0⟩ ⟨1⟩ ⟨1⟩ z hkept hz
  exact ⟨ha, hb, fun hall => hways.2 hall (by decide), hkept, hz, hlast.1 (by decide), by decide,
    hspared.2 (hinside (.inl rfl))⟩

/-- A permissive automaton is led to a state that nothing leads to. -/
def strayTurns : List (Turn String Nat) :=
  [.call (.edit (.addState "idle")), .call (.edit (.addState "busy")),
    .call (.edit (.addState "away")), .call (.edit (.addTransition .input ⟨1⟩)),
    .call (.edit (.addTransition .input ⟨2⟩)), .call (.setStart (some ⟨0⟩)),
    .call (.edit (.attach ⟨0⟩ ⟨0⟩)), .call (.transit ⟨1⟩ [])]

/-- The transition that is removed has nothing to do with the current state. -/
theorem stray_cursor_is_not_spared :
    let a := (live (create { policy := .permissive } {}) strayTurns).1
    ∃ b, a.edit (.remove ⟨0⟩ ⟨0⟩) = (.flag true, b) ∧ a.current = some ⟨2⟩ ∧ ¬ ⟨2⟩ ∈ a.states ∧
      b.current = none ∧ ¬ a.SparesUnlessCutOff b ⟨2⟩ :=
  ⟨_, rfl, by decide, by decide, by decide, by decide⟩

end Automaton

end EventAutomata
