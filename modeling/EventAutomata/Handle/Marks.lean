import EventAutomata.Handle.Set

/-!
# Marked places

The handles of an arena can be marked, each in constant time. A handle that names
no place of the arena is neither free nor marked. `marked` is the view; the marked
handles are a set (`mem_toSet`).
-/

namespace EventAutomata

structure Marks (space : Space) where
  flags : Array Bool

namespace Marks

variable {space : Space}

def none (size : Nat) : Marks space := ⟨Array.replicate size false⟩

def size (m : Marks space) : Nat := m.flags.size

def marked (m : Marks space) (h : Handle space) : Bool := m.flags[h.index]? == some true

/-- The handle names a place that is not marked. -/
def free (m : Marks space) (h : Handle space) : Bool := m.flags[h.index]? == some false

def mark (m : Marks space) (h : Handle space) : Marks space :=
  ⟨m.flags.setIfInBounds h.index true⟩

def markAll (m : Marks space) (hs : List (Handle space)) : Marks space := hs.foldl mark m

def toSet (m : Marks space) : HandleSet space where
  toList := ((List.range m.size).map Handle.mk).filter m.marked
  ascending := List.Pairwise.filter _ <| List.pairwise_map.2 <|
    show List.Pairwise (fun i j => (⟨i⟩ : Handle space) < ⟨j⟩) _ from List.pairwise_lt_range

def freeCount (m : Marks space) : Nat := m.flags.toList.countP fun flag => !flag

@[simp] theorem size_none (n : Nat) : (none n : Marks space).size = n := Array.size_replicate

@[simp] theorem size_mark (m : Marks space) (h : Handle space) : (m.mark h).size = m.size :=
  Array.size_setIfInBounds

@[simp] theorem not_marked_none (n : Nat) (h : Handle space) :
    (none n : Marks space).marked h = false := by
  simp only [none, marked, Array.getElem?_replicate]
  split <;> rfl

theorem lt_size_of_marked {m : Marks space} {h : Handle space} (hm : m.marked h = true) :
    h.index < m.size :=
  (Array.getElem?_eq_some_iff.1 (eq_of_beq hm)).1

theorem marked_of_not_free {m : Marks space} {h : Handle space} (hlt : h.index < m.size)
    (hf : m.free h = false) : m.marked h = true := by
  have hget : m.flags[h.index]? = some m.flags[h.index] := Array.getElem?_eq_getElem hlt
  simp only [free, marked, hget] at hf ⊢
  cases hflag : m.flags[h.index] <;> simp_all

theorem marked_mark {m : Marks space} {h x : Handle space} :
    (m.mark h).marked x = true ↔ x = h ∧ h.index < m.size ∨ m.marked x = true := by
  simp only [mark, marked, size, Array.getElem?_setIfInBounds, Handle.ext_iff]
  by_cases hx : h.index = x.index
  · by_cases hlt : x.index < m.flags.size <;> simp [hx, hlt]
  · simp [hx, Ne.symm hx]

theorem marked_markAll {m : Marks space} {hs : List (Handle space)} {x : Handle space} :
    (m.markAll hs).marked x = true ↔ x ∈ hs ∧ x.index < m.size ∨ m.marked x = true := by
  induction hs generalizing m with
  | nil => simp [markAll]
  | cons h rest ih =>
    have hstep : m.markAll (h :: rest) = (m.mark h).markAll rest := rfl
    rw [hstep, ih, size_mark, marked_mark, List.mem_cons]
    grind

@[simp] theorem mem_toSet {m : Marks space} {h : Handle space} :
    h ∈ m.toSet ↔ m.marked h = true := by
  rw [HandleSet.mem_def, toSet, List.mem_filter, List.mem_map]
  constructor
  · exact And.right
  · intro hm
    exact ⟨⟨h.index, List.mem_range.2 (lt_size_of_marked hm), rfl⟩, hm⟩

theorem freeCount_mark {m : Marks space} {h : Handle space} (hf : m.free h = true) :
    (m.mark h).freeCount + 1 = m.freeCount := by
  obtain ⟨hlt, hget⟩ := Array.getElem?_eq_some_iff.1 (eq_of_beq hf)
  have hget' : m.flags.toList[h.index] = false := hget
  have hpos : 0 < m.flags.toList.countP fun flag => !flag :=
    List.countP_pos_iff.2 ⟨_, List.getElem_mem hlt, by simp [hget']⟩
  simp only [freeCount, mark, Array.toList_setIfInBounds]
  rw [List.countP_set hlt]
  simp only [hget', Bool.not_false, Bool.not_true, Bool.false_eq_true, if_true, if_false]
  omega

theorem freeCount_le_size (m : Marks space) : m.freeCount ≤ m.size := List.countP_le_length

theorem marked_of_freeCount_eq_zero {m : Marks space} {h : Handle space} (hc : m.freeCount = 0)
    (hlt : h.index < m.size) : m.marked h = true := by
  refine marked_of_not_free hlt ?_
  cases hf : m.free h with
  | false => rfl
  | true =>
    have := freeCount_mark hf
    omega

end Marks

end EventAutomata
