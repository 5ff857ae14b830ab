/-!
# Sequences that grow at one end and shrink at the other

A `Fifo` is added to at its end and taken from at its front. It is kept as two
stacks, so that neither walks through the sequence: what is added goes on the
second, and the second is turned over when the first has run out. How a sequence
is split between them does not show. `toList` is the view, oldest first, and two
sequences that list alike are equal (`Fifo.ext_toList`).
-/

namespace EventAutomata

/-- Two stacks that stand for the first followed by the second turned over. -/
structure Fifo.Stacks (α : Type) where
  front : List α
  back : List α
  size : Nat
  size_eq : size = front.length + back.length

namespace Fifo.Stacks

variable {α : Type}

def toList (s : Stacks α) : List α := s.front ++ s.back.reverse

def ofList (xs : List α) : Stacks α := ⟨xs, [], xs.length, rfl⟩

def push (s : Stacks α) (a : α) : Stacks α :=
  ⟨s.front, a :: s.back, s.size + 1, by rw [s.size_eq, List.length_cons, Nat.add_assoc]⟩

def pop? (s : Stacks α) : Option (α × Stacks α) :=
  match s with
  | ⟨a :: front, back, size, h⟩ =>
    some (a, ⟨front, back, size - 1, by rw [h, List.length_cons]; omega⟩)
  | ⟨[], back, size, h⟩ =>
    match hb : back.reverse with
    | [] => none
    | a :: rest =>
      some (a, ⟨rest, [], size - 1, by
        have := congrArg List.length hb
        simp only [List.length_reverse, List.length_cons] at this
        simp [h, this]⟩)

theorem length_toList (s : Stacks α) : s.toList.length = s.size := by
  simp [toList, s.size_eq]

theorem toList_push (s : Stacks α) (a : α) : (s.push a).toList = s.toList ++ [a] := by
  simp [toList, push]

theorem map_pop? (s : Stacks α) :
    s.pop?.map (fun r => r.1 :: r.2.toList) = if s.toList = [] then none else some s.toList := by
  obtain ⟨front, back, size, h⟩ := s
  cases front with
  | cons a front => simp [pop?, toList]
  | nil =>
    simp only [pop?, toList, List.nil_append]
    split
    next hb => simp [hb]
    next hb => simp [hb]

instance setoid (α : Type) : Setoid (Stacks α) where
  r s t := s.toList = t.toList
  iseqv := ⟨fun _ => rfl, Eq.symm, Eq.trans⟩

end Fifo.Stacks

def Fifo (α : Type) : Type := Quotient (Fifo.Stacks.setoid α)

namespace Fifo

variable {α : Type}

def toList (q : Fifo α) : List α := Quotient.lift Stacks.toList (fun _ _ h => h) q

def ofList (xs : List α) : Fifo α := Quotient.mk _ (.ofList xs)

instance : EmptyCollection (Fifo α) := ⟨ofList []⟩

instance : Inhabited (Fifo α) := ⟨∅⟩

def size (q : Fifo α) : Nat :=
  Quotient.lift Stacks.size
    (fun s t (h : s.toList = t.toList) => by rw [← s.length_toList, h, t.length_toList]) q

def push (q : Fifo α) (a : α) : Fifo α :=
  Quotient.lift (fun s => Quotient.mk _ (s.push a))
    (fun s t (h : s.toList = t.toList) =>
      Quotient.sound (show (s.push a).toList = (t.push a).toList by
        rw [s.toList_push, t.toList_push, h])) q

def pop? (q : Fifo α) : Option (α × Fifo α) :=
  Quotient.lift (fun s => s.pop?.map fun r => (r.1, Quotient.mk _ r.2))
    (fun s t (h : s.toList = t.toList) => by
      have hm := s.map_pop?
      rw [h, ← t.map_pop?] at hm
      cases hs : s.pop? with
      | none => cases ht : t.pop? <;> simp_all
      | some r =>
        cases ht : t.pop? with
        | none => simp_all
        | some u =>
          simp only [hs, ht, Option.map_some, Option.some.injEq, List.cons.injEq] at hm
          simp only [Option.map_some, hm.1]
          rw [Quotient.sound (show r.2.toList = u.2.toList from hm.2)]) q

def drop : Nat → Fifo α → Fifo α
  | 0, q => q
  | n + 1, q =>
    match q.pop? with
    | none => q
    | some (_, rest) => drop n rest

-- ---------------------------------------------------------------------------
-- Views of what the operations do
-- ---------------------------------------------------------------------------

theorem ext_toList {p q : Fifo α} (h : p.toList = q.toList) : p = q := by
  induction p using Quotient.ind with
  | _ s =>
    induction q using Quotient.ind with
    | _ t => exact Quotient.sound h

instance [DecidableEq α] : DecidableEq (Fifo α) := fun p q =>
  decidable_of_iff (p.toList = q.toList) ⟨ext_toList, congrArg toList⟩

@[simp] theorem toList_ofList (xs : List α) : (ofList xs).toList = xs := List.append_nil xs

@[simp] theorem toList_empty : (∅ : Fifo α).toList = [] := rfl

@[simp] theorem size_eq_length (q : Fifo α) : q.size = q.toList.length := by
  induction q using Quotient.ind with
  | _ s => exact s.length_toList.symm

@[simp] theorem toList_push (q : Fifo α) (a : α) : (q.push a).toList = q.toList ++ [a] := by
  induction q using Quotient.ind with
  | _ s => exact s.toList_push a

theorem map_pop? (q : Fifo α) :
    q.pop?.map (fun r => r.1 :: r.2.toList) = if q.toList = [] then none else some q.toList := by
  induction q using Quotient.ind with
  | _ s =>
    refine Eq.trans ?_ s.map_pop?
    show Option.map _ (s.pop?.map fun r => (r.1, (Quotient.mk _ r.2 : Fifo α))) = _
    cases s.pop? <;> rfl

theorem pop?_eq_none {q : Fifo α} : q.pop? = none ↔ q.toList = [] := by
  rw [← Option.map_eq_none_iff (f := fun r => r.1 :: r.2.toList), q.map_pop?]
  simp

theorem pop?_eq_some {q rest : Fifo α} {a : α} :
    q.pop? = some (a, rest) ↔ q.toList = a :: rest.toList := by
  have h := q.map_pop?
  constructor
  · intro hp
    rw [hp] at h
    by_cases hq : q.toList = []
    · simp [hq] at h
    · simpa [hq] using h.symm
  · intro hq
    rw [hq, if_neg (List.cons_ne_nil _ _)] at h
    obtain ⟨⟨b, r⟩, hp, hr⟩ := Option.map_eq_some_iff.1 h
    simp only [List.cons.injEq] at hr
    rw [hp, hr.1, ext_toList hr.2]

@[simp] theorem toList_drop (n : Nat) (q : Fifo α) : (q.drop n).toList = q.toList.drop n := by
  induction n generalizing q with
  | zero => rfl
  | succ n ih =>
    unfold drop
    split
    next hp => rw [pop?_eq_none.1 hp, List.drop_nil]
    next hp => rw [ih, pop?_eq_some.1 hp, List.drop_succ_cons]

end Fifo

end EventAutomata
