import EventAutomata.Description

/-!
# The subscription registry

A registry holds at most one subscription for each transition. Numbers are given
out in order and never again, so a transition that is subscribed anew has a new
number, while one that stays subscribed keeps its own.

`reconcile` turns the difference between two sets of transitions into releases
and new subscriptions, and leaves what both sets hold alone.
-/

namespace EventAutomata

@[ext]
structure SubscriptionId where
  number : Nat
  deriving DecidableEq, Repr

namespace SubscriptionId

instance : LT SubscriptionId := ⟨fun a b => a.number < b.number⟩

instance (a b : SubscriptionId) : Decidable (a < b) :=
  inferInstanceAs (Decidable (a.number < b.number))

instance : Ord SubscriptionId := ⟨fun a b => compare a.number b.number⟩

def label (id : SubscriptionId) : String := "sub#" ++ toString id.number

instance : Describe SubscriptionId := ⟨fun id => .tuple "SubscriptionId" [describe id.number]⟩

end SubscriptionId

@[ext]
structure Registry where
  entries : HandleMap .transition SubscriptionId := ∅
  nextId : Nat := 0
  deriving DecidableEq

namespace Registry

instance : EmptyCollection Registry := ⟨{}⟩

instance : Inhabited Registry := ⟨∅⟩

def get? (r : Registry) (t : TransitionId) : Option SubscriptionId := r.entries.get? t

def contains (r : Registry) (t : TransitionId) : Bool := r.entries.contains t

/-- Compares the subscriptions of two transitions. None is below any. -/
def compareAt (r : Registry) (t u : TransitionId) : Ordering :=
  match r.get? t, r.get? u with
  | none, none => .eq
  | none, some _ => .lt
  | some _, none => .gt
  | some a, some b => compare a b

def transitions (r : Registry) : HandleSet .transition := r.entries.keys

def toList (r : Registry) : List (TransitionId × SubscriptionId) := r.entries.toList

def size (r : Registry) : Nat := r.entries.size

def isEmpty (r : Registry) : Bool := r.entries.isEmpty

def subscribe (r : Registry) (t : TransitionId) : Option SubscriptionId × Registry :=
  if r.contains t then (none, r)
  else
    let id : SubscriptionId := ⟨r.nextId⟩
    (some id, { entries := r.entries.insert t id, nextId := r.nextId + 1 })

def unsubscribe (r : Registry) (t : TransitionId) : Option SubscriptionId × Registry :=
  (r.get? t, { r with entries := r.entries.erase t })

def drain (r : Registry) : List (TransitionId × SubscriptionId) × Registry :=
  (r.toList, { r with entries := ∅ })

def subscribeAll (r : Registry) (ts : List TransitionId) : Registry :=
  ts.foldl (fun r t => (r.subscribe t).2) r

def unsubscribeAll (r : Registry) (ts : List TransitionId) : Registry :=
  ts.foldl (fun r t => (r.unsubscribe t).2) r

def release (r : Registry) : List TransitionId → List (TransitionId × SubscriptionId) × Registry
  | [] => ([], r)
  | t :: ts =>
    let (id, r) := r.unsubscribe t
    let (released, r) := r.release ts
    ((id.map fun id => (t, id)).toList ++ released, r)

/-- Releases what only `before` holds, then subscribes what only `after` holds,
each in ascending order. -/
def reconcile (r : Registry) (before after : HandleSet .transition) : Registry :=
  (r.unsubscribeAll (before \ after).toList).subscribeAll (after \ before).toList

instance : Describe Registry :=
  ⟨fun r => .record "SubscriptionRegistry"
    [("entries", describe r.entries), ("next_id", describe r.nextId)]⟩

-- ---------------------------------------------------------------------------
-- Views of what the operations do
-- ---------------------------------------------------------------------------

theorem get?_subscribe (r : Registry) (t x : TransitionId) :
    (r.subscribe t).2.get? x =
      if x = t ∧ r.contains t = false then some ⟨r.nextId⟩ else r.get? x := by
  unfold subscribe
  cases hc : r.contains t with
  | true => simp
  | false => simp [get?]

@[simp] theorem get?_unsubscribe (r : Registry) (t x : TransitionId) :
    (r.unsubscribe t).2.get? x = if x = t then none else r.get? x := by
  simp [unsubscribe, get?]

theorem contains_eq (r : Registry) (t : TransitionId) : r.contains t = (r.get? t).isSome := rfl

@[simp] theorem mem_transitions {r : Registry} {t : TransitionId} :
    t ∈ r.transitions ↔ r.contains t = true := HandleMap.mem_keys

end Registry

-- ---------------------------------------------------------------------------
-- Reports
-- ---------------------------------------------------------------------------

structure TeardownReport where
  released : List (TransitionId × SubscriptionId) := []
  orphaned : List (TransitionId × SubscriptionId) := []
  deriving DecidableEq, Repr

namespace TeardownReport

def isClean (r : TeardownReport) : Bool := r.orphaned.isEmpty

def count (r : TeardownReport) : Nat := r.released.length + r.orphaned.length

def ofRegistry (r : Registry) (t : TransitionId) : TeardownReport :=
  ⟨r.toList.filter fun e => e.1 < t, r.toList.filter fun e => ¬ e.1 < t⟩

instance : Describe TeardownReport :=
  ⟨fun r => .record "TeardownReport"
    [("released", describe r.released), ("orphaned", describe r.orphaned)]⟩

end TeardownReport

end EventAutomata
