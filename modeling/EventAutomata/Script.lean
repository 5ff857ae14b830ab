import EventAutomata.Guard
import EventAutomata.Hub

/-!
# Scripts

A callback is a script: a list of effects, run in order. An effect leaves a note
in the journal, raises a signal, or breaks down with a fault, which ends the
script. What was done before the fault stays done.

A meter bounds how often an effect acts; it counts down before the effect does
anything. Raising a signal with fixed arguments always has a meter. Raising one
with the arguments behind the first needs none: the list of arguments gets
shorter each time (`Script.grown_run`).
-/

namespace EventAutomata

inductive Effect (α : Type)
  | log (tag : String) (meter : Option MeterId)
  | raise (signal : FireSignal) (args : List α) (meter : MeterId)
  /-- Raises a signal with the arguments behind the first, in a transit callback
  that has a first argument. -/
  | raiseRest (signal : FireSignal) (meter : Option MeterId)
  | panic (text : String) (meter : Option MeterId)
  deriving DecidableEq, Repr

abbrev Script (α : Type) := List (Effect α)

variable {α : Type}

namespace Effect

def meter : Effect α → Option MeterId
  | .log _ m | .raiseRest _ m | .panic _ m => m
  | .raise _ _ m => some m

end Effect

def Hub.raiseOrNote (h : Hub α) (signal : FireSignal) (args : List α) : Hub α :=
  match h.raise signal args with
  | (.ok _, h) => h
  | (.error problem, h) => h.note (.refused problem)

namespace Effect

def act (site : Site α) (h : Hub α) : Effect α → Except Fault Unit × Hub α
  | .log tag _ => (.ok (), h.note (.noted site tag))
  | .raise signal args _ => (.ok (), h.raiseOrNote signal args)
  | .raiseRest signal _ =>
    match site.behindFirst? with
    | none => (.ok (), h)
    | some rest => (.ok (), h.raiseOrNote signal rest)
  | .panic text _ => (.error ⟨text⟩, h)

def run (site : Site α) (h : Hub α) (e : Effect α) : Except Fault Unit × Hub α :=
  match h.spend? e.meter with
  | none => (.ok (), h)
  | some h => e.act site h

end Effect

namespace Script

def run (site : Site α) (h : Hub α) : Script α → Except Fault Unit × Hub α
  | [] => (.ok (), h)
  | e :: rest =>
    match e.run site h with
    | (.ok _, h) => run site h rest
    | (.error fault, h) => (.error fault, h)

def runIfSet (site : Site α) (h : Hub α) : Option (Script α) → Except Fault Unit × Hub α
  | none => (.ok (), h)
  | some script => run site h script

-- ---------------------------------------------------------------------------
-- How much a script can enqueue
-- ---------------------------------------------------------------------------

def restRaises : Script α → Nat
  | [] => 0
  | .raiseRest .. :: rest => restRaises rest + 1
  | _ :: rest => restRaises rest

/-- From `h` to `h'` a meter has counted down, or else channel `c` has gained at
most `most` requests, all with the arguments `rest?`. -/
def Grown (c : ChannelId) (rest? : Option (List α)) (most : Nat) (h h' : Hub α) : Prop :=
  h'.firingsLeft < h.firingsLeft ∨
    h'.firingsLeft = h.firingsLeft ∧ ∃ gained : List (Fired α),
      h'.queue c = h.queue c ++ gained ∧ gained.length ≤ most ∧
      ∀ fired ∈ gained, rest? = some fired.args

namespace Grown

variable {c : ChannelId} {rest? : Option (List α)} {m n : Nat} {h h₁ h₂ : Hub α}

theorem of_same (hf : h₁.firingsLeft = h.firingsLeft) (hq : h₁.queue c = h.queue c) :
    Grown c rest? 0 h h₁ :=
  .inr ⟨hf, [], by simp [hq], by simp, by simp⟩

theorem refl : Grown c rest? 0 h h := of_same rfl rfl

theorem mono (hg : Grown c rest? m h h₁) (hmn : m ≤ n) : Grown c rest? n h h₁ := by
  rcases hg with hlt | ⟨hf, gained, hq, hlen, hrest⟩
  · exact .inl hlt
  · exact .inr ⟨hf, gained, hq, Nat.le_trans hlen hmn, hrest⟩

theorem firingsLeft_le (hg : Grown c rest? m h h₁) : h₁.firingsLeft ≤ h.firingsLeft := by
  rcases hg with hlt | ⟨hf, _⟩
  · exact Nat.le_of_lt hlt
  · exact Nat.le_of_eq hf

theorem trans (hg : Grown c rest? m h h₁) (hg' : Grown c rest? n h₁ h₂) :
    Grown c rest? (m + n) h h₂ := by
  rcases hg with hlt | ⟨hf, gained, hq, hlen, hrest⟩
  · exact .inl (Nat.lt_of_le_of_lt hg'.firingsLeft_le hlt)
  · rcases hg' with hlt | ⟨hf', gained', hq', hlen', hrest'⟩
    · exact .inl (hf ▸ hlt)
    · refine .inr ⟨hf'.trans hf, gained ++ gained', by simp [hq', hq], ?_, ?_⟩
      · simp only [List.length_append]
        omega
      · intro fired hm
        rcases List.mem_append.1 hm with hm | hm
        · exact hrest fired hm
        · exact hrest' fired hm

theorem of_none (hg : Grown c none m h h₁) : Grown c rest? 0 h h₁ := by
  rcases hg with hlt | ⟨hf, gained, hq, _, hrest⟩
  · exact .inl hlt
  · have : gained = [] := List.eq_nil_iff_forall_not_mem.2 fun f hm => by simpa using hrest f hm
    exact of_same hf (by simp [hq, this])

end Grown

theorem raiseOrNote_queue (h : Hub α) (signal : FireSignal) (args : List α) (c : ChannelId) :
    (h.raiseOrNote signal args).firingsLeft = h.firingsLeft ∧
      ∃ gained : List (Fired α), (h.raiseOrNote signal args).queue c = h.queue c ++ gained ∧
        gained.length ≤ 1 ∧ ∀ fired ∈ gained, fired.args = args := by
  unfold Hub.raiseOrNote Hub.raise
  cases hq : h.queue? signal.channel with
  | none => exact ⟨rfl, [], by simp [Hub.queue], by simp, by simp⟩
  | some q =>
    refine ⟨rfl, ?_⟩
    simp only [Hub.queue, Hub.queue?_note, Hub.queue?_setQueue_of_open hq]
    by_cases hc : signal.channel = c
    · subst hc
      exact ⟨[⟨signal.transition, args⟩], by simp [hq], by simp, by simp⟩
    · exact ⟨[], by simp [hc], by simp, by simp⟩

theorem effect_grown (c : ChannelId) (site : Site α) (h : Hub α) (e : Effect α) :
    Grown c site.behindFirst? (restRaises [e]) h (e.run site h).2 := by
  unfold Effect.run
  cases hm : e.meter with
  | some m =>
    cases hs : h.spend? (some m) with
    | none => exact Grown.refl.mono (Nat.zero_le _)
    | some h' =>
      -- Whatever is queued, the meter that was counted down pays for it.
      refine .inl ?_
      have hspent := (Hub.spend?_some_meter hs).1
      have hsame : (e.act site h').2.firingsLeft = h'.firingsLeft := by
        cases e with
        | log => rfl
        | raise signal args m => exact (raiseOrNote_queue h' signal args c).1
        | raiseRest signal m =>
          simp only [Effect.act]
          split
          · rfl
          · exact (raiseOrNote_queue h' signal _ c).1
        | panic => rfl
      show (e.act site h').2.firingsLeft < h.firingsLeft
      omega
  | none =>
    simp only [Hub.spend?]
    cases e with
    | log => exact Grown.of_same rfl rfl
    | raise signal args m => cases hm
    | raiseRest signal m =>
      simp only [Effect.act]
      split
      · exact Grown.refl.mono (Nat.zero_le _)
      next rest hrest =>
        obtain ⟨hf, gained, hq, hlen, hargs⟩ := raiseOrNote_queue h signal rest c
        exact .inr ⟨hf, gained, hq, hlen, fun fired hg => by rw [hrest, hargs fired hg]⟩
    | panic => exact Grown.refl

theorem restRaises_cons (e : Effect α) (rest : Script α) :
    restRaises (e :: rest) = restRaises [e] + restRaises rest := by
  cases e <;> simp [restRaises, Nat.add_comm]

/-- Unless it counts a meter down, a script queues at most as many requests as it
has effects that raise the rest of the arguments, and all with that rest. -/
theorem grown_run (c : ChannelId) (site : Site α) (h : Hub α) (script : Script α) :
    Grown c site.behindFirst? (restRaises script) h (run site h script).2 := by
  induction script generalizing h with
  | nil => exact Grown.refl
  | cons e rest ih =>
    rw [restRaises_cons]
    have hstep := effect_grown c site h e
    simp only [run]
    cases hr : e.run site h with
    | mk result h' =>
      rw [hr] at hstep
      cases result with
      | ok _ => exact hstep.trans (ih h')
      | error _ => exact hstep.mono (Nat.le_add_right _ _)

theorem grown_runIfSet (c : ChannelId) (site : Site α) (h : Hub α) (script : Option (Script α)) :
    Grown c site.behindFirst? (restRaises (script.getD [])) h (runIfSet site h script).2 := by
  cases script with
  | none => exact Grown.refl
  | some script => exact grown_run c site h script

end Script

end EventAutomata
