import EventAutomata.Handle.Set

/-!
# Finite maps from handles

The entries are kept in ascending order of their handles, one for each handle.
`get?` is the view of a map: the lemmas say what each operation does to it, and
two maps that answer alike are equal (`HandleMap.ext_get?`).
-/

namespace EventAutomata

@[ext]
structure HandleMap (space : Space) (β : Type) where
  toList : List (Handle space × β)
  ascending : toList.Pairwise (fun a b => a.1 < b.1) := by simp
  deriving DecidableEq

namespace HandleMap

variable {space : Space} {β : Type}

def empty : HandleMap space β := ⟨[], .nil⟩

instance : EmptyCollection (HandleMap space β) := ⟨empty⟩

instance : Inhabited (HandleMap space β) := ⟨empty⟩

def isEmpty (m : HandleMap space β) : Bool := m.toList.isEmpty

def size (m : HandleMap space β) : Nat := m.toList.length

def find? (h : Handle space) : List (Handle space × β) → Option β
  | [] => none
  | (k, v) :: rest => if k = h then some v else find? h rest

def get? (m : HandleMap space β) (h : Handle space) : Option β := find? h m.toList

def contains (m : HandleMap space β) (h : Handle space) : Bool := (m.get? h).isSome

theorem mem_iff_find? {h : Handle space} {v : β} {xs : List (Handle space × β)}
    (hx : xs.Pairwise (fun a b => a.1 < b.1)) : (h, v) ∈ xs ↔ find? h xs = some v := by
  induction xs with
  | nil => simp [find?]
  | cons e rest ih =>
    obtain ⟨hlt, hrest⟩ := List.pairwise_cons.1 hx
    obtain ⟨k, w⟩ := e
    by_cases hk : k = h
    · subst hk
      have hnot : ¬ (k, v) ∈ rest := fun hm => Handle.lt_irrefl k (hlt _ hm)
      simp [find?, hnot, eq_comm]
    · have hk' : h ≠ k := Ne.symm hk
      simp [find?, hk, hk', ih hrest]

theorem mem_toList {m : HandleMap space β} {h : Handle space} {v : β} :
    (h, v) ∈ m.toList ↔ m.get? h = some v := mem_iff_find? m.ascending

-- ---------------------------------------------------------------------------
-- Insertion
-- ---------------------------------------------------------------------------

/-- Files `v` under `h` in ascending entries, in the place of what was there. -/
def place (h : Handle space) (v : β) : List (Handle space × β) → List (Handle space × β)
  | [] => [(h, v)]
  | (k, w) :: rest =>
    if h < k then (h, v) :: (k, w) :: rest
    else if h = k then (h, v) :: rest
    else (k, w) :: place h v rest

theorem key_of_mem_place {h : Handle space} {v : β} {e : Handle space × β}
    {xs : List (Handle space × β)} (he : e ∈ place h v xs) : e.1 = h ∨ e ∈ xs := by
  induction xs with
  | nil => simp_all [place]
  | cons x rest ih =>
    obtain ⟨k, w⟩ := x
    unfold place at he
    split at he
    · rcases List.mem_cons.1 he with rfl | he
      · exact .inl rfl
      · exact .inr he
    · split at he
      · rcases List.mem_cons.1 he with rfl | he
        · exact .inl rfl
        · exact .inr (List.mem_cons_of_mem _ he)
      · rcases List.mem_cons.1 he with rfl | he
        · exact .inr List.mem_cons_self
        · exact (ih he).imp_right (List.mem_cons_of_mem _)

theorem pairwise_place {h : Handle space} {v : β} {xs : List (Handle space × β)}
    (hx : xs.Pairwise (fun a b => a.1 < b.1)) :
    (place h v xs).Pairwise (fun a b => a.1 < b.1) := by
  induction xs with
  | nil => simp [place]
  | cons x rest ih =>
    obtain ⟨k, w⟩ := x
    obtain ⟨hlt, hrest⟩ := List.pairwise_cons.1 hx
    unfold place
    split
    next hhk =>
      refine List.pairwise_cons.2 ⟨fun e he => ?_, hx⟩
      rcases List.mem_cons.1 he with rfl | he
      · exact hhk
      · exact Handle.lt_trans hhk (hlt e he)
    next hnlt =>
      split
      next heq => exact List.pairwise_cons.2 ⟨fun e he => heq ▸ hlt e he, hrest⟩
      next hne =>
        refine List.pairwise_cons.2 ⟨fun e he => ?_, ih hrest⟩
        rcases key_of_mem_place he with heq | he
        · exact heq ▸ Handle.lt_of_not_lt hnlt hne
        · exact hlt e he

def insert (m : HandleMap space β) (h : Handle space) (v : β) : HandleMap space β :=
  ⟨place h v m.toList, pairwise_place m.ascending⟩

theorem find?_place {h x : Handle space} {v : β} {xs : List (Handle space × β)}
    (hx : xs.Pairwise (fun a b => a.1 < b.1)) :
    find? x (place h v xs) = if x = h then some v else find? x xs := by
  induction xs with
  | nil => simp [place, find?, eq_comm]
  | cons e rest ih =>
    obtain ⟨k, w⟩ := e
    obtain ⟨hlt, hrest⟩ := List.pairwise_cons.1 hx
    unfold place
    split
    next hhk => simp [find?, eq_comm]
    next hnlt =>
      split
      next heq =>
        subst heq
        by_cases hhx : h = x
        · simp [find?, hhx]
        · simp [find?, hhx, Ne.symm hhx]
      next hne =>
        simp only [find?, ih hrest]
        by_cases hkx : k = x
        · subst hkx
          simp [Ne.symm hne]
        · simp [hkx]

@[simp] theorem get?_insert (m : HandleMap space β) (h x : Handle space) (v : β) :
    (m.insert h v).get? x = if x = h then some v else m.get? x := find?_place m.ascending

-- ---------------------------------------------------------------------------
-- Removal
-- ---------------------------------------------------------------------------

def erase (m : HandleMap space β) (h : Handle space) : HandleMap space β :=
  ⟨m.toList.filter (fun e => e.1 ≠ h), m.ascending.filter _⟩

theorem find?_filter {h x : Handle space} {xs : List (Handle space × β)} :
    find? x (xs.filter (fun e => e.1 ≠ h)) = if x = h then none else find? x xs := by
  induction xs with
  | nil => simp [find?]
  | cons e rest ih =>
    obtain ⟨k, w⟩ := e
    by_cases hk : k = h
    · subst hk
      simp only [ne_eq, decide_not, List.filter_cons, decide_true, Bool.not_true,
        Bool.false_eq_true, if_false, find?] at ih ⊢
      rw [ih]
      by_cases hx : x = k
      · simp [hx]
      · simp [hx, Ne.symm hx]
    · simp only [ne_eq, decide_not, List.filter_cons, hk, decide_false, Bool.not_false, if_true,
        find?] at ih ⊢
      rw [ih]
      by_cases hx : k = x
      · subst hx; simp [hk]
      · simp [hx]

@[simp] theorem get?_erase (m : HandleMap space β) (h x : Handle space) :
    (m.erase h).get? x = if x = h then none else m.get? x := find?_filter

-- ---------------------------------------------------------------------------
-- Keys and extensionality
-- ---------------------------------------------------------------------------

def keys (m : HandleMap space β) : HandleSet space :=
  ⟨m.toList.map Prod.fst, List.pairwise_map.2 m.ascending⟩

@[simp] theorem mem_keys {m : HandleMap space β} {h : Handle space} :
    h ∈ m.keys ↔ (m.get? h).isSome := by
  rw [HandleSet.mem_def, keys, List.mem_map, Option.isSome_iff_exists]
  constructor
  · rintro ⟨⟨k, v⟩, hm, rfl⟩
    exact ⟨v, mem_toList.1 hm⟩
  · rintro ⟨v, hv⟩
    exact ⟨(h, v), mem_toList.2 hv, rfl⟩

theorem eq_of_find? {xs ys : List (Handle space × β)}
    (hx : xs.Pairwise (fun a b => a.1 < b.1)) (hy : ys.Pairwise (fun a b => a.1 < b.1))
    (h : ∀ k, find? k xs = find? k ys) : xs = ys := by
  have hmem : ∀ e, e ∈ xs ↔ e ∈ ys := fun ⟨k, v⟩ => by
    rw [mem_iff_find? hx, mem_iff_find? hy, h k]
  have hne : ∀ {a b : Handle space × β}, a.1 < b.1 → a ≠ b :=
    fun hlt heq => Handle.ne_of_lt hlt (congrArg Prod.fst heq)
  have hperm : xs.Perm ys := (List.perm_ext_iff_of_nodup (hx.imp hne) (hy.imp hne)).2 hmem
  exact hperm.eq_of_pairwise (fun _ _ _ _ hab hba => absurd hba (Handle.lt_asymm hab)) hx hy

theorem ext_get? {m n : HandleMap space β} (h : ∀ k, m.get? k = n.get? k) : m = n :=
  HandleMap.ext (eq_of_find? m.ascending n.ascending h)

end HandleMap

end EventAutomata
