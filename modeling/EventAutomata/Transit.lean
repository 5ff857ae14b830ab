import EventAutomata.Description

/-!
# A transit in progress

What callbacks are told about the transit they run in: the state that was left,
the state it leads to, the transition, and the state that is current while the
callback runs. The exit callback still sees the old state; the transit and the
entry callback see the new one.
-/

namespace EventAutomata

@[ext]
structure TransitContext where
  source : Option StateId
  target : StateId
  transition : TransitionId
  current : Option StateId
  deriving DecidableEq, Repr

namespace TransitContext

def leaving (source : Option StateId) (target : StateId) (transition : TransitionId) :
    TransitContext :=
  ⟨source, target, transition, source⟩

def arrived (c : TransitContext) : TransitContext := { c with current := some c.target }

def isSelfLoop (c : TransitContext) : Bool := c.source == some c.target

instance : Describe TransitContext :=
  ⟨fun c => .record "TransitContext"
    [("from", describe c.source), ("to", describe c.target),
     ("transition", describe c.transition), ("current", describe c.current)]⟩

end TransitContext

/-- Where a callback runs, and what it is given. A transit callback gets the first
argument, if there is one, apart from the rest. -/
inductive Site (α : Type)
  | exit (state : StateId) (name : String) (context : TransitContext)
  | transit (transition : TransitionId) (first : Option α) (rest : List α)
    (context : TransitContext)
  | entry (state : StateId) (name : String) (context : TransitContext)
  deriving DecidableEq, Repr

namespace Site

variable {α : Type}

def context : Site α → TransitContext
  | .exit _ _ c | .transit _ _ _ c | .entry _ _ c => c

/-- The arguments behind the first one, where there is a first one. -/
def behindFirst? : Site α → Option (List α)
  | .transit _ (some _) rest _ => some rest
  | _ => none

theorem behindFirst?_eq_some {site : Site α} {rest : List α} :
    site.behindFirst? = some rest ↔ ∃ t first c, site = .transit t (some first) rest c := by
  constructor
  · intro h
    unfold behindFirst? at h
    split at h
    next t first rest c =>
      cases h
      exact ⟨t, first, c, rfl⟩
    next => cases h
  · rintro ⟨t, first, c, rfl⟩
    rfl

theorem behindFirst?_transit (t : TransitionId) (args : List α) (c : TransitContext) :
    (transit t args.head? args.tail c).behindFirst? = args.tail? := by
  cases args <;> rfl

end Site

end EventAutomata
