import EventAutomata.Handle

/-!
# Finite sets of handles

A set is kept as an ascending list without repetitions, so two sets with the
same members are equal (`HandleSet.ext_mem`) and listing a set always gives the
same order. Each operation has one lemma that says which handles its result
holds; nothing else unfolds the lists.
-/

namespace EventAutomata

@[ext]
structure HandleSet (space : Space) where
  toList : List (Handle space)
  ascending : toList.Pairwise (· < ·) := by simp
  deriving DecidableEq

namespace HandleSet

variable {space : Space}

instance : Membership (Handle space) (HandleSet space) := ⟨fun s h => h ∈ s.toList⟩

instance (h : Handle space) (s : HandleSet space) : Decidable (h ∈ s) :=
  inferInstanceAs (Decidable (h ∈ s.toList))

theorem mem_def {h : Handle space} {s : HandleSet space} : h ∈ s ↔ h ∈ s.toList := Iff.rfl

instance : HasSubset (HandleSet space) := ⟨fun s t => ∀ h ∈ s, h ∈ t⟩

def empty : HandleSet space := ⟨[], .nil⟩

instance : EmptyCollection (HandleSet space) := ⟨empty⟩

instance : Inhabited (HandleSet space) := ⟨empty⟩

@[simp] theorem not_mem_empty (h : Handle space) : ¬ h ∈ (∅ : HandleSet space) :=
  List.not_mem_nil

def isEmpty (s : HandleSet space) : Bool := s.toList.isEmpty

def size (s : HandleSet space) : Nat := s.toList.length

-- ---------------------------------------------------------------------------
-- Insertion
-- ---------------------------------------------------------------------------

def place (h : Handle space) : List (Handle space) → List (Handle space)
  | [] => [h]
  | x :: rest =>
    if h < x then h :: x :: rest
    else if h = x then x :: rest
    else x :: place h rest

theorem mem_place {h x : Handle space} {xs : List (Handle space)} :
    x ∈ place h xs ↔ x = h ∨ x ∈ xs := by
  induction xs with
  | nil => simp [place]
  | cons y rest ih =>
    unfold place
    split
    · simp
    · split
      next heq => simp [heq]
      next => simp [ih]; grind

theorem pairwise_place {h : Handle space} {xs : List (Handle space)}
    (hx : xs.Pairwise (· < ·)) : (place h xs).Pairwise (· < ·) := by
  induction xs with
  | nil => simp [place]
  | cons y rest ih =>
    obtain ⟨hy, hrest⟩ := List.pairwise_cons.1 hx
    unfold place
    split
    next hlt =>
      refine List.pairwise_cons.2 ⟨?_, hx⟩
      intro z hz
      rcases List.mem_cons.1 hz with rfl | hz
      · exact hlt
      · exact Handle.lt_trans hlt (hy z hz)
    next hnlt =>
      split
      next => exact hx
      next hne =>
        refine List.pairwise_cons.2 ⟨?_, ih hrest⟩
        intro z hz
        rcases mem_place.1 hz with rfl | hz
        · exact Handle.lt_of_not_lt hnlt hne
        · exact hy z hz

def insert (h : Handle space) (s : HandleSet space) : HandleSet space :=
  ⟨place h s.toList, pairwise_place s.ascending⟩

@[simp] theorem mem_insert {h x : Handle space} {s : HandleSet space} :
    x ∈ s.insert h ↔ x = h ∨ x ∈ s := mem_place

-- ---------------------------------------------------------------------------
-- Selection
-- ---------------------------------------------------------------------------

def filter (keep : Handle space → Bool) (s : HandleSet space) : HandleSet space :=
  ⟨s.toList.filter keep, s.ascending.filter keep⟩

@[simp] theorem mem_filter {keep : Handle space → Bool} {x : Handle space} {s : HandleSet space} :
    x ∈ s.filter keep ↔ x ∈ s ∧ keep x = true := List.mem_filter

def erase (h : Handle space) (s : HandleSet space) : HandleSet space :=
  s.filter (· ≠ h)

@[simp] theorem mem_erase {h x : Handle space} {s : HandleSet space} :
    x ∈ s.erase h ↔ x ∈ s ∧ x ≠ h := by simp [erase]

/-- What an ascending list holds and another does not, in one pass over both. -/
def minus : List (Handle space) → List (Handle space) → List (Handle space)
  | [], _ => []
  | x :: xs, ys =>
    let ys := ys.dropWhile (· < x)
    if ys.head? = some x then minus xs ys else x :: minus xs ys

theorem minus_sublist (xs ys : List (Handle space)) : (minus xs ys).Sublist xs := by
  induction xs generalizing ys with
  | nil => exact List.Sublist.refl _
  | cons x xs ih =>
    simp only [minus]
    split
    · exact (ih _).cons x
    · exact (ih _).cons_cons x

theorem mem_dropWhile_lt {x z : Handle space} {ys : List (Handle space)} (hz : ¬ z < x) :
    z ∈ ys.dropWhile (· < x) ↔ z ∈ ys := by
  induction ys with
  | nil => exact Iff.rfl
  | cons y ys ih =>
    by_cases hy : y < x
    · have hzy : z ≠ y := fun h => hz (h ▸ hy)
      simp [hy, ih, hzy]
    · simp [hy]

theorem head?_dropWhile_lt {x : Handle space} {ys : List (Handle space)}
    (hy : ys.Pairwise (· < ·)) : (ys.dropWhile (· < x)).head? = some x ↔ x ∈ ys := by
  rw [← mem_dropWhile_lt (Handle.lt_irrefl x)]
  have hhead := List.head?_dropWhile_not (fun y => decide (y < x)) ys
  have hpair := hy.sublist (List.dropWhile_sublist fun y => decide (y < x))
  cases hd : ys.dropWhile (fun y => decide (y < x)) with
  | nil => simp
  | cons y rest =>
    rw [hd] at hhead hpair
    simp only [List.head?_cons, decide_eq_false_iff_not] at hhead
    simp only [List.head?_cons, Option.some.injEq, List.mem_cons]
    constructor
    · exact fun h => .inl h.symm
    · rintro (rfl | hx)
      · rfl
      · exact absurd ((List.pairwise_cons.1 hpair).1 x hx) hhead

theorem mem_minus {z : Handle space} {xs ys : List (Handle space)} (hx : xs.Pairwise (· < ·))
    (hy : ys.Pairwise (· < ·)) : z ∈ minus xs ys ↔ z ∈ xs ∧ ¬ z ∈ ys := by
  induction xs generalizing ys with
  | nil => simp [minus]
  | cons x xs ih =>
    obtain ⟨hlt, hx⟩ := List.pairwise_cons.1 hx
    have hih := ih hx (hy.sublist (List.dropWhile_sublist fun y => decide (y < x)))
    have hrest : z ∈ xs → (z ∈ ys.dropWhile (fun y => decide (y < x)) ↔ z ∈ ys) := fun hz =>
      mem_dropWhile_lt (Handle.lt_asymm (hlt z hz))
    simp only [minus]
    by_cases hmem : x ∈ ys
    · rw [if_pos ((head?_dropWhile_lt hy).2 hmem), hih, List.mem_cons]
      grind
    · rw [if_neg fun h => hmem ((head?_dropWhile_lt hy).1 h), List.mem_cons, hih, List.mem_cons]
      grind

def diff (s t : HandleSet space) : HandleSet space :=
  ⟨minus s.toList t.toList, s.ascending.sublist (minus_sublist _ _)⟩

instance : SDiff (HandleSet space) := ⟨diff⟩

@[simp] theorem mem_diff {x : Handle space} {s t : HandleSet space} :
    x ∈ s \ t ↔ x ∈ s ∧ ¬ x ∈ t := mem_minus s.ascending t.ascending

-- ---------------------------------------------------------------------------
-- Collecting
-- ---------------------------------------------------------------------------

def insertAll (s : HandleSet space) (hs : List (Handle space)) : HandleSet space :=
  hs.foldl (fun acc h => acc.insert h) s

@[simp] theorem mem_insertAll {x : Handle space} {s : HandleSet space} {hs : List (Handle space)} :
    x ∈ s.insertAll hs ↔ x ∈ hs ∨ x ∈ s := by
  induction hs generalizing s with
  | nil => simp [insertAll]
  | cons h rest ih =>
    have hstep : s.insertAll (h :: rest) = (s.insert h).insertAll rest := rfl
    rw [hstep, ih, mem_insert, List.mem_cons]
    grind

def ofList (hs : List (Handle space)) : HandleSet space := (∅ : HandleSet space).insertAll hs

@[simp] theorem mem_ofList {x : Handle space} {hs : List (Handle space)} :
    x ∈ ofList hs ↔ x ∈ hs := by simp [ofList]

def union (s t : HandleSet space) : HandleSet space := s.insertAll t.toList

instance : Union (HandleSet space) := ⟨union⟩

@[simp] theorem mem_union {x : Handle space} {s t : HandleSet space} :
    x ∈ s ∪ t ↔ x ∈ s ∨ x ∈ t := by
  show x ∈ s.insertAll t.toList ↔ _
  rw [mem_insertAll, or_comm]
  rfl

-- ---------------------------------------------------------------------------
-- Extensionality
-- ---------------------------------------------------------------------------

theorem eq_of_mem_iff {xs ys : List (Handle space)} (hx : xs.Pairwise (· < ·))
    (hy : ys.Pairwise (· < ·)) (h : ∀ a, a ∈ xs ↔ a ∈ ys) : xs = ys := by
  have hperm : xs.Perm ys :=
    (List.perm_ext_iff_of_nodup (hx.imp Handle.ne_of_lt) (hy.imp Handle.ne_of_lt)).2 h
  exact hperm.eq_of_pairwise (fun _ _ _ _ hab hba => absurd hba (Handle.lt_asymm hab)) hx hy

theorem ext_mem {s t : HandleSet space} (h : ∀ a, a ∈ s ↔ a ∈ t) : s = t :=
  HandleSet.ext (eq_of_mem_iff s.ascending t.ascending h)

theorem erase_insert {h : Handle space} {s : HandleSet space} (hs : ¬ h ∈ s) :
    (s.insert h).erase h = s := by
  refine ext_mem fun x => ?_
  rw [mem_erase, mem_insert]
  grind

theorem insert_erase {h : Handle space} {s : HandleSet space} (hs : h ∈ s) :
    (s.erase h).insert h = s := by
  refine ext_mem fun x => ?_
  rw [mem_insert, mem_erase]
  grind

end HandleSet

end EventAutomata
