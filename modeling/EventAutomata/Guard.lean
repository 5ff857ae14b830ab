import EventAutomata.Description

/-!
# Guards

A guard looks at the arguments a transition would be taken with and admits them
or not. It can also break down; the fault carries the text it broke down with.
Guards are advisory: taking a transition never asks them.

`Condition` is a small language of guards over lists of integers. Conjunctions
and disjunctions look at their parts from left to right and stop at the first
part that settles the answer, so a part behind it cannot break down.
-/

namespace EventAutomata

structure Fault where
  text : String
  deriving DecidableEq, Repr

structure Guard (α : Type) where
  check : List α → Except Fault Bool

namespace Guard

instance {α : Type} : Describe (Guard α) := ⟨fun _ => .word "Guard(..)"⟩

end Guard

inductive Condition
  | always
  | never
  | empty
  | allEven
  /-- Breaks down whenever it is asked. -/
  | panic
  | equals (args : List Int)
  | first (arg : Int)
  | contains (arg : Int)
  | length (n : Nat)
  | sumAbove (bound : Int)
  | not (inner : Condition)
  | all (parts : List Condition)
  | any (parts : List Condition)

namespace Condition

mutual

def check (args : List Int) : Condition → Except Fault Bool
  | .always => .ok true
  | .never => .ok false
  | .empty => .ok args.isEmpty
  | .allEven => .ok (args.all fun x => x % 2 == 0)
  | .panic => .error ⟨"guard panic"⟩
  | .equals expected => .ok (decide (args = expected))
  | .first arg => .ok (decide (args.head? = some arg))
  | .contains arg => .ok (decide (arg ∈ args))
  | .length n => .ok (decide (args.length = n))
  | .sumAbove bound => .ok (decide (bound < args.sum))
  | .not inner =>
    match check args inner with
    | .ok b => .ok !b
    | .error fault => .error fault
  | .all parts => checkAll args parts
  | .any parts => checkAny args parts

/-- Every part holds; the parts behind the first that fails are not asked. -/
def checkAll (args : List Int) : List Condition → Except Fault Bool
  | [] => .ok true
  | part :: rest =>
    match check args part with
    | .ok true => checkAll args rest
    | answer => answer

def checkAny (args : List Int) : List Condition → Except Fault Bool
  | [] => .ok false
  | part :: rest =>
    match check args part with
    | .ok false => checkAny args rest
    | answer => answer

end

def toGuard (c : Condition) : Guard Int := ⟨fun args => c.check args⟩

end Condition

end EventAutomata
