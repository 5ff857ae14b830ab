import EventAutomata.Automaton.Transit

/-!
# Dispatching requests

Requests are delivered one after the other, oldest first. Callbacks can raise
more of them while the channel is drained; those are delivered too. A fault
leaves the request that caused it consumed, and those behind it waiting.

Draining comes to an end. Each delivery takes a request out. It counts a meter
down, or else all it can put in are requests with one argument fewer, no more of
them than the transition has effects that raise the rest. Where no transition has
more than `k` such effects, each argument multiplies the weight of a request by
`k + 1`; then the weight of the queue goes down.
-/

namespace EventAutomata

variable {σ α : Type}

-- ---------------------------------------------------------------------------
-- Weights
-- ---------------------------------------------------------------------------

/-- No transition has more effects that raise the rest of the arguments. -/
def Graph.fanOut (g : Graph σ α) : Nat :=
  g.transitions.toList.foldr
    (fun edge total => Script.restRaises (edge.onTransit.getD []) + total) 0

theorem restRaises_le_fanOut {g : Graph σ α} {t : TransitionId} {edge : TransitionNode α}
    (ht : g.transition? t = some edge) :
    Script.restRaises (edge.onTransit.getD []) ≤ g.fanOut := by
  have hmem : edge ∈ g.transitions.toList := by
    obtain ⟨hlt, rfl⟩ := Array.getElem?_eq_some_iff.1 ht
    simp
  unfold Graph.fanOut
  generalize g.transitions.toList = edges at hmem
  induction edges with
  | nil => cases hmem
  | cons e rest ih =>
    rw [List.foldr_cons]
    rcases List.mem_cons.1 hmem with rfl | hmem
    · exact Nat.le_add_right _ _
    · exact Nat.le_trans (ih hmem) (Nat.le_add_left _ _)

def argsWeight (k : Nat) : List α → Nat
  | [] => 1
  | _ :: rest => (k + 1) * argsWeight k rest

def queueWeight (k : Nat) : List (Fired α) → Nat
  | [] => 0
  | fired :: q => argsWeight k fired.args + queueWeight k q

theorem argsWeight_pos (k : Nat) (args : List α) : 0 < argsWeight k args := by
  induction args with
  | nil => exact Nat.one_pos
  | cons a rest ih => exact Nat.mul_pos (Nat.succ_pos k) ih

theorem queueWeight_append (k : Nat) (p q : List (Fired α)) :
    queueWeight k (p ++ q) = queueWeight k p + queueWeight k q := by
  induction p with
  | nil => exact (Nat.zero_add _).symm
  | cons f rest ih => rw [List.cons_append, queueWeight, queueWeight, ih, Nat.add_assoc]

theorem queueWeight_of_args_eq {k : Nat} {args : List α} {q : List (Fired α)}
    (h : ∀ fired ∈ q, fired.args = args) : queueWeight k q = q.length * argsWeight k args := by
  induction q with
  | nil => exact (Nat.zero_mul _).symm
  | cons f rest ih =>
    rw [queueWeight, h f List.mem_cons_self, ih fun x hx => h x (List.mem_cons_of_mem _ hx),
      List.length_cons, Nat.succ_mul, Nat.add_comm]

/-- What a delivery can gain weighs less than what it took out. -/
theorem queueWeight_gained {k : Nat} {args : List α} {gained : List (Fired α)}
    (hlen : gained.length ≤ k) (hrest : ∀ fired ∈ gained, args.tail? = some fired.args) :
    queueWeight k gained < argsWeight k args := by
  cases args with
  | nil =>
    have hnil : gained = [] :=
      List.eq_nil_iff_forall_not_mem.2 fun f hf => by simpa using hrest f hf
    rw [hnil]
    exact Nat.one_pos
  | cons a rest =>
    have hargs : ∀ fired ∈ gained, fired.args = rest := fun fired hf =>
      (Option.some.inj (hrest fired hf)).symm
    rw [queueWeight_of_args_eq hargs]
    exact Nat.mul_lt_mul_of_pos_right (Nat.lt_succ_of_le hlen) (argsWeight_pos k rest)

namespace Automaton

variable [Payload σ]

-- ---------------------------------------------------------------------------
-- What a delivery changes
-- ---------------------------------------------------------------------------

theorem moveTo_frame (a : Automaton σ α) (target : StateId) (t : TransitionId) (args : List α)
    (h : Hub α) :
    (a.moveTo target t args h).2.1.graph = a.graph ∧
      (a.moveTo target t args h).2.1.channel = a.channel := by
  unfold moveTo
  dsimp only
  split
  · exact ⟨rfl, rfl⟩
  · split
    · exact ⟨rfl, rfl⟩
    · split <;> exact ⟨rfl, rfl⟩

theorem runExit_grown (g : Graph σ α) (ch : ChannelId) (c : TransitContext) (h : Hub α)
    (rest? : Option (List α)) : Script.Grown ch rest? 0 h (g.runExit c h).2 := by
  unfold Graph.runExit
  split
  · exact .refl
  · split
    · exact .refl
    · exact (Script.grown_runIfSet ch _ h _).of_none

theorem runEntry_grown (g : Graph σ α) (ch : ChannelId) (c : TransitContext) (h : Hub α)
    (rest? : Option (List α)) : Script.Grown ch rest? 0 h (g.runEntry c h).2 := by
  unfold Graph.runEntry
  split
  · exact .refl
  · exact (Script.grown_runIfSet ch _ h _).of_none

omit [Payload σ] in
theorem runTransit_grown (g : Graph σ α) (ch : ChannelId) (c : TransitContext) (args : List α)
    (h : Hub α) : Script.Grown ch args.tail? g.fanOut h (g.runTransit c args h).2 := by
  unfold Graph.runTransit
  split
  · exact Script.Grown.refl.mono (Nat.zero_le _)
  next edge hedge =>
    have hg := Script.grown_runIfSet ch (.transit edge.id args.head? args.tail c) h
      edge.onTransit
    rw [Site.behindFirst?_transit] at hg
    exact hg.mono (restRaises_le_fanOut hedge)

theorem moveTo_grown (a : Automaton σ α) (ch : ChannelId) (target : StateId) (t : TransitionId)
    (args : List α) (h : Hub α) :
    Script.Grown ch args.tail? a.graph.fanOut h (a.moveTo target t args h).2.2 := by
  unfold moveTo
  dsimp only
  have hexit := runExit_grown a.graph ch (.leaving a.current target t) h args.tail?
  split
  next heq => rw [heq] at hexit; exact hexit.mono (Nat.zero_le _)
  next h₁ heq =>
    rw [heq] at hexit
    have htransit :=
      runTransit_grown a.graph ch (TransitContext.leaving a.current target t).arrived args h₁
    split
    next heq₂ =>
      rw [heq₂] at htransit
      exact (hexit.trans htransit).mono (by omega)
    next h₂ heq₂ =>
      rw [heq₂] at htransit
      have hentry := runEntry_grown a.graph ch (TransitContext.leaving a.current target t).arrived
        h₂ args.tail?
      split
      next heq₃ =>
        rw [heq₃] at hentry
        exact ((hexit.trans htransit).trans hentry).mono (by omega)
      next heq₃ =>
        rw [heq₃] at hentry
        exact ((hexit.trans htransit).trans hentry).mono (by omega)

theorem transit_frame (a : Automaton σ α) (t : TransitionId) (args : List α) (h : Hub α) :
    (a.transit t args h).2.1.graph = a.graph ∧ (a.transit t args h).2.1.channel = a.channel := by
  unfold transit
  split
  · exact ⟨rfl, rfl⟩
  next edge _ =>
    split
    · exact ⟨rfl, rfl⟩
    · have hm := a.moveTo_frame edge.target t args h
      split
      next heq => rw [heq] at hm; exact hm
      next heq => rw [heq] at hm; exact hm

theorem transit_grown (a : Automaton σ α) (ch : ChannelId) (t : TransitionId) (args : List α)
    (h : Hub α) :
    Script.Grown ch args.tail? a.graph.fanOut h (a.transit t args h).2.2 := by
  unfold transit
  split
  · exact Script.Grown.refl.mono (Nat.zero_le _)
  next edge _ =>
    split
    · exact Script.Grown.refl.mono (Nat.zero_le _)
    · have hm := a.moveTo_grown ch edge.target t args h
      split
      next heq => rw [heq] at hm; exact hm
      next heq => rw [heq] at hm; exact hm

theorem deliver_frame (a : Automaton σ α) (fired : Fired α) (h : Hub α) :
    (a.deliver fired h).2.1.graph = a.graph ∧ (a.deliver fired h).2.1.channel = a.channel := by
  unfold deliver
  split
  · split
    · exact ⟨rfl, rfl⟩
    · exact a.transit_frame fired.transition fired.args h
  · exact ⟨rfl, rfl⟩

theorem deliver_grown (a : Automaton σ α) (ch : ChannelId) (fired : Fired α) (h : Hub α) :
    Script.Grown ch (fired.args.tail?) a.graph.fanOut h (a.deliver fired h).2.2 := by
  unfold deliver
  split
  · split
    · exact Script.Grown.refl.mono (Nat.zero_le _)
    · exact a.transit_grown ch fired.transition fired.args h
  · exact Script.Grown.refl.mono (Nat.zero_le _)

theorem deliver_lighter {a a' : Automaton σ α} {h h₁ h' : Hub α} {fired : Fired α}
    {result : Except Fault Bool} (ht : h.take? a.channel = some (fired, h₁))
    (hd : a.deliver fired h₁ = (result, a', h')) :
    h'.firingsLeft < h.firingsLeft ∨
      h'.firingsLeft = h.firingsLeft ∧
        queueWeight a'.graph.fanOut (h'.queue a'.channel) <
          queueWeight a.graph.fanOut (h.queue a.channel) := by
  obtain ⟨hqueue, hfirings⟩ := Hub.take?_eq_some ht
  have hframe := a.deliver_frame fired h₁
  have hgrown := a.deliver_grown a.channel fired h₁
  rw [hd] at hframe hgrown
  obtain ⟨hg, hc⟩ := hframe
  dsimp only at hg hc hgrown
  rcases hgrown with hlt | ⟨hf, gained, hq, hlen, hrest⟩
  · exact .inl (hfirings ▸ hlt)
  · refine .inr ⟨hf.trans hfirings, ?_⟩
    rw [hg, hc, hq, hqueue, queueWeight_append]
    have hw := queueWeight_gained hlen hrest
    rw [queueWeight, Nat.add_comm]
    exact Nat.add_lt_add_right hw _

-- ---------------------------------------------------------------------------
-- Dispatching
-- ---------------------------------------------------------------------------

def dispatchNext (a : Automaton σ α) (h : Hub α) :
    Option (Except Fault Bool) × Automaton σ α × Hub α :=
  match h.take? a.channel with
  | none => (none, a, h)
  | some (fired, h) =>
    let (result, a, h) := a.deliver fired h
    (some result, a, h)

/-- Delivers requests until none waits. `taken` counts the transits so far. -/
def drain (a : Automaton σ α) (h : Hub α) (taken : Nat) :
    Except Fault Nat × Automaton σ α × Hub α :=
  match _ht : h.take? a.channel with
  | none => (.ok taken, a, h)
  | some (fired, h₁) =>
    match _hd : a.deliver fired h₁ with
    | (.error fault, a', h') => (.error fault, a', h')
    | (.ok took, a', h') => drain a' h' (if took then taken + 1 else taken)
termination_by (h.firingsLeft, queueWeight a.graph.fanOut (h.queue a.channel))
decreasing_by
  rcases deliver_lighter _ht _hd with hlt | ⟨heq, hlt⟩
  · exact Prod.Lex.left _ _ hlt
  · rw [heq]
    exact Prod.Lex.right _ hlt

def dispatchPending (a : Automaton σ α) (h : Hub α) : Except Fault Nat × Automaton σ α × Hub α :=
  a.drain h 0

end Automaton

end EventAutomata
