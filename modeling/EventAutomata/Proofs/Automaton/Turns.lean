import EventAutomata.Proofs.Automaton.Tracking

/-!
# The life of an automaton

What can happen to an automaton, from when it is made on, is a list of turns. In some
turns it is called. In the others something happens elsewhere: a signal is raised through
a handle, another automaton works, one is made or dropped. All of that can only change the
hub, and a turn elsewhere may leave any hub at all, so a life is more general than what
any session does to one automaton. Nodes are never exchanged.
-/

namespace EventAutomata

open Relation (ReflTransGen)

namespace Automaton

variable {σ α : Type}

inductive Turn (σ α : Type)
  | call (c : Call σ α)
  | elsewhere (hub : Hub α)

variable [Payload σ]

/-- An automaton and the hub after a turn, also where a fault ended the call. -/
def takeTurn (x : Automaton σ α × Hub α) : Turn σ α → Automaton σ α × Hub α
  | .call c => (x.1.call x.2 c).2
  | .elsewhere hub => (x.1, hub)

def live (x : Automaton σ α × Hub α) (turns : List (Turn σ α)) : Automaton σ α × Hub α :=
  turns.foldl takeTurn x

theorem live_append_call (x : Automaton σ α × Hub α) (turns : List (Turn σ α)) (c : Call σ α) :
    live x (turns ++ [.call c]) = ((live x turns).1.call (live x turns).2 c).2 := by
  simp [live, takeTurn]

theorem call_live {x : Automaton σ α × Hub α} {turns : List (Turn σ α)} {c : Call σ α}
    {answer : Answer} (h : ((live x turns).1.call (live x turns).2 c).1 = answer) :
    (live x turns).1.call (live x turns).2 c = (answer, live x (turns ++ [.call c])) := by
  rw [live_append_call, ← h]

theorem steps_live (direct : Prop) (x : Automaton σ α × Hub α) (turns : List (Turn σ α))
    (hd : ∀ c, .call c ∈ turns → c.isDirect = true → direct) :
    ReflTransGen (Step direct) x.1 (live x turns).1 := by
  induction turns generalizing x with
  | nil => exact .refl
  | cons turn turns ih =>
    have hrest := ih (takeTurn x turn) fun c hc => hd c (List.mem_cons_of_mem _ hc)
    cases turn with
    | call c => exact (steps_call x.1 x.2 c (hd c List.mem_cons_self)).trans hrest
    | elsewhere hub => exact hrest

theorem tracked_live (config : AutomatonConfig) (hub : Hub α) (turns : List (Turn σ α)) :
    (live (create config hub) turns).1.Tracked :=
  (tracked_create config hub).steps (steps_live True _ turns fun _ _ _ => trivial)

theorem config_live (config : AutomatonConfig) (hub : Hub α) (turns : List (Turn σ α)) :
    (live (create config hub) turns).1.config = config :=
  config_of_steps (steps_live True (create config hub) turns fun _ _ _ => trivial)

end Automaton

end EventAutomata
