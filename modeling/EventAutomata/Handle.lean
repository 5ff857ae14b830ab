/-!
# Handles

A state or a transition of a graph is named by a handle, a bare number. The two
kinds of handle are different types, so a state is never looked up under the
name of a transition. A handle can be made from any number: it may name
nothing, or name something only in another graph.

Handles are ordered by their number.
-/

namespace EventAutomata

inductive Space
  | state
  | transition
  deriving DecidableEq, Repr

@[ext]
structure Handle (space : Space) where
  index : Nat
  deriving DecidableEq, Repr

abbrev StateId := Handle .state

abbrev TransitionId := Handle .transition

namespace Handle

variable {space : Space}

instance : LT (Handle space) := ⟨fun a b => a.index < b.index⟩

instance (a b : Handle space) : Decidable (a < b) :=
  inferInstanceAs (Decidable (a.index < b.index))

theorem lt_def {a b : Handle space} : a < b ↔ a.index < b.index := Iff.rfl

theorem lt_irrefl (a : Handle space) : ¬ a < a := Nat.lt_irrefl _

theorem lt_trans {a b c : Handle space} (hab : a < b) (hbc : b < c) : a < c :=
  Nat.lt_trans hab hbc

theorem lt_asymm {a b : Handle space} (h : a < b) : ¬ b < a := Nat.lt_asymm h

theorem ne_of_lt {a b : Handle space} (h : a < b) : a ≠ b := by
  rintro rfl
  exact lt_irrefl a h

theorem lt_of_not_lt {a b : Handle space} (hab : ¬ a < b) (hne : a ≠ b) : b < a := by
  have hi : a.index ≠ b.index := fun h => hne (Handle.ext h)
  simp only [lt_def] at *
  omega

instance : Ord (Handle space) := ⟨fun a b => compare a.index b.index⟩

/-- The short form used in messages: `s3` is the state numbered 3, `t3` the
transition numbered 3. -/
def label : {space : Space} → Handle space → String
  | .state, h => "s" ++ toString h.index
  | .transition, h => "t" ++ toString h.index

end Handle

end EventAutomata
