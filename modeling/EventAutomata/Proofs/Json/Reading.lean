import EventAutomata.History.Json

/-!
# Written JSON is read back

`Reads` says of a decoder that it reads a text off the front of any longer one, as long as what
follows could end a value. It is closed under all that decoders are made of: numbers below 2^64,
strings without escapes, `null`, arrays, and objects whose members fill a draft one after the
other (`Fills`).
-/

namespace EventAutomata.Json

open EventAutomata.Text

variable {α β ρ : Type}

-- ---------------------------------------------------------------------------
-- Scanners
-- ---------------------------------------------------------------------------

theorem ok_bind (a : α) (f : α → Except Problem β) : (Except.ok a >>= f) = f a := rfl

/-- What can follow a value: nothing, or something that ends it. -/
def Delimited (rest : List Char) : Prop := ∀ c ∈ rest.head?, c = ',' ∨ c = ']' ∨ c = '\x7d'

theorem delimited_nil : Delimited [] := nofun

theorem delimited_cons {c : Char} (hc : c = ',' ∨ c = ']' ∨ c = '\x7d') (rest : List Char) :
    Delimited (c :: rest) := by
  rintro d hd
  cases hd
  exact hc

theorem Delimited.isDigit {rest : List Char} (hrest : Delimited rest) :
    ∀ c ∈ rest.head?, c.isDigit = false := by
  intro c hc
  rcases hrest c hc with rfl | rfl | rfl <;> rfl

theorem skipSpace_cons {c : Char} (hc : isJsonBlank c = false) (cs : List Char) :
    skipSpace (c :: cs) = c :: cs := by
  simp [skipSpace, hc]

theorem peek_cons {c : Char} (hc : isJsonBlank c = false) (cs : List Char) :
    peek (c :: cs) = .ok (c, cs) := by
  rw [peek, skipSpace_cons hc]

def Plain (s : List Char) : Prop := ∀ c ∈ s, c ≠ '"' ∧ c ≠ '\\' ∧ 0x20 ≤ c.toNat

-- The instance is named because characters are also decided by going through all of them.
instance (s : List Char) : Decidable (Plain s) :=
  List.decidableBAll (fun c => c ≠ '"' ∧ c ≠ '\\' ∧ 0x20 ≤ c.toNat) s

theorem stringBody_plain {s : List Char} (hs : Plain s) (rest : List Char) :
    ∀ {bound acc : List Char}, s.length < bound.length →
      stringBody escape bound acc (s ++ '"' :: rest) = .ok (acc.reverse ++ s, rest) := by
  induction s with
  | nil =>
    intro bound acc hbound
    obtain ⟨b, bound, rfl⟩ := List.exists_cons_of_length_pos hbound
    simp [stringBody]
  | cons c s ih =>
    intro bound acc hbound
    obtain ⟨b, bound, rfl⟩ := List.exists_cons_of_length_pos (Nat.zero_lt_of_lt hbound)
    obtain ⟨hquote, hbackslash, hcontrol⟩ := hs c List.mem_cons_self
    rw [List.cons_append, stringBody, if_neg hquote, if_neg hbackslash, if_neg (by omega),
      ih (fun d hd => hs d (List.mem_cons_of_mem _ hd)) (Nat.lt_of_succ_lt_succ hbound)]
    simp

theorem string_plain {s : List Char} (hs : Plain s) (rest : List Char) :
    string (s ++ '"' :: rest) = .ok (s, rest) := by
  refine stringBody_plain hs rest ?_
  simp only [List.length_append, List.length_cons]
  omega

-- ---------------------------------------------------------------------------
-- Numerals
-- ---------------------------------------------------------------------------

theorem le_ofDigitChars (ds : List Char) (n : Nat) : n ≤ Nat.ofDigitChars 10 ds n := by
  induction ds generalizing n with
  | nil => exact Nat.le_refl n
  | cons d ds ih =>
    rw [Nat.ofDigitChars_cons]
    exact Nat.le_trans (by omega) (ih _)

/-- Digits are absorbed to the end if the number they make is small enough. -/
theorem absorb_eq {ds : List Char} {n : Nat} (h : Nat.ofDigitChars 10 ds n < wholeBound) :
    absorb n ds = (Nat.ofDigitChars 10 ds n, ds.length) := by
  induction ds generalizing n with
  | nil => rfl
  | cons d ds ih =>
    rw [Nat.ofDigitChars_cons] at h ⊢
    have hnext := Nat.lt_of_le_of_lt (le_ofDigitChars ds _) h
    rw [absorb]
    dsimp only
    rw [if_pos hnext, ih h]
    rfl

theorem eq_zero_of_head?_digits {n : Nat} (h : (digits n).head? = some '0') : n = 0 := by
  induction n using Nat.strongRecOn with
  | ind n ih =>
    rw [digits, Nat.toDigits_eq_if (by decide)] at h
    split at h
    next hlt =>
      have hzero : n.digitChar.toNat = 48 := congrArg Char.toNat (Option.some.inj h)
      rw [Nat.toNat_digitChar_of_lt_ten hlt] at hzero
      omega
    next hge =>
      rw [List.head?_append, Option.or_of_isSome] at h
      · have hquotient := ih (n / 10) (by omega) h
        omega
      · exact List.isSome_head?.2 (digits_ne_nil _)

theorem wholeDigits_digits (n : Nat) {rest : List Char} (hrest : Delimited rest) :
    wholeDigits (digits n ++ rest) = .ok (digits n, rest) := by
  have hsome : someDigits (digits n ++ rest) = .ok (digits n, rest) := by
    obtain ⟨d, ds, heq⟩ := List.exists_cons_of_ne_nil (digits_ne_nil n)
    rw [someDigits, leadingDigits_append_of_stop (fun c => isDigit_of_mem_digits) hrest.isDigit, heq]
  rw [wholeDigits, hsome]
  refine if_neg ?_
  rintro ⟨hhead, hlength⟩
  rw [eq_zero_of_head?_digits hhead] at hlength
  exact absurd hlength (by decide)

theorem numeral_digits {n : Nat} (hn : n < wholeBound) {rest : List Char}
    (hrest : Delimited rest) : numeral (digits n ++ rest) = .ok (.whole n, rest) := by
  have hvalue : Nat.ofDigitChars 10 (digits n) 0 = n := digitsValue_digits n
  have habsorb : absorb 0 (digits n) = (n, (digits n).length) := by
    rw [absorb_eq (by rwa [hvalue]), hvalue]
  have hfraction : fractionDigits rest = .ok (none, rest) := by
    cases rest with
    | nil => rfl
    | cons c rest => rcases hrest c rfl with rfl | rfl | rfl <;> rfl
  have hexponent : exponent rest = .ok (none, rest) := by
    cases rest with
    | nil => rfl
    | cons c rest => rcases hrest c rfl with rfl | rfl | rfl <;> rfl
  simp only [numeral, wholeDigits_digits n hrest, hfraction, hexponent, habsorb, ok_bind,
    and_self, if_true]

-- ---------------------------------------------------------------------------
-- Decoders
-- ---------------------------------------------------------------------------

/-- The decoder reads the text off the front of any other that goes on as a text can behind a
value. Nothing that could end an array stands in front. -/
structure Reads (decode : Decoder α) (written : List Char) (a : α) : Prop where
  front : ∃ c tail, written = c :: tail ∧ isJsonBlank c = false ∧ c ≠ ']'
  reads : ∀ {rest}, Delimited rest → decode (written ++ rest) = .ok (a, rest)

theorem Reads.mapped {decode : Decoder α} {written : List Char} {a : α}
    (h : Reads decode written a) (f : α → β) : Reads (mapped f decode) written (f a) where
  front := h.front
  reads hrest := by
    rw [Json.mapped, h.reads hrest]
    rfl

theorem isJsonBlank_of_isDigit {c : Char} (h : c.isDigit = true) : isJsonBlank c = false := by
  simp only [isJsonBlank, Bool.or_eq_false_iff, decide_eq_false_iff_not]
  refine ⟨⟨⟨?_, ?_⟩, ?_⟩, ?_⟩ <;>
  · rintro rfl
    cases h

theorem reads_nat64 {n : Nat} (hn : n < wholeBound) : Reads nat64 (digits n) n := by
  obtain ⟨d, ds, heq⟩ := List.exists_cons_of_ne_nil (digits_ne_nil n)
  have hdigit : d.isDigit = true := isDigit_of_mem_digits (heq ▸ List.mem_cons_self)
  have hblank := isJsonBlank_of_isDigit hdigit
  refine ⟨⟨d, ds, heq, hblank, ?_⟩, fun {rest} hrest => ?_⟩
  · rintro rfl
    cases hdigit
  · have hnumeral := numeral_digits hn hrest
    rw [heq, List.cons_append] at hnumeral
    simp only [heq, List.cons_append, nat64, peek_cons hblank, ok_bind, hdigit, if_true, hnumeral]

theorem reads_text {s : List Char} {read : List Char → Option α} {a : α} (hs : Plain s)
    (hread : read s = some a) : Reads (text read) (writePlain s) a where
  front := ⟨'"', s ++ ['"'], rfl, rfl, by decide⟩
  reads {rest} _ := by
    have hwritten : writePlain s ++ rest = '"' :: (s ++ '"' :: rest) := by simp [writePlain]
    simp only [hwritten, text, peek_cons (by decide : isJsonBlank '"' = false), ok_bind, if_true,
      string_plain hs, hread]

theorem reads_null {decode : Decoder α} : Reads (nullable decode) (writeNat? none) none where
  front := ⟨'n', _, rfl, rfl, by decide⟩
  reads _ := rfl

theorem Reads.nullable {decode : Decoder α} {written : List Char} {a : α}
    (h : Reads decode written a) (hnull : written.head? ≠ some 'n') :
    Reads (nullable decode) written (some a) where
  front := h.front
  reads {rest} hrest := by
    obtain ⟨c, tail, heq, hblank, -⟩ := h.front
    have hread := h.reads hrest
    rw [heq, List.cons_append] at hread ⊢
    rw [Json.nullable, skipSpace_cons hblank]
    split
    next hn =>
      rw [heq, (List.cons.inj hn).1] at hnull
      exact absurd rfl hnull
    next =>
      rw [hread]
      rfl

-- ---------------------------------------------------------------------------
-- Arrays
-- ---------------------------------------------------------------------------

theorem writeElements_cons (value : List Char) (rest : List (List Char)) :
    writeElements (value :: rest) = value ++ rest.flatMap (',' :: ·) := by
  induction rest generalizing value with
  | nil => simp [writeElements]
  | cons next rest ih =>
    rw [writeElements, ih, List.flatMap_cons, List.cons_append]
    simp

theorem length_le_flatMap_cons (c : Char) (f : β → List Char) (pieces : List β) :
    pieces.length ≤ (pieces.flatMap fun piece => c :: f piece).length := by
  induction pieces with
  | nil => exact Nat.le_refl 0
  | cons piece pieces ih =>
    simp only [List.flatMap_cons, List.length_append, List.length_cons]
    omega

theorem delimited_elements (values : List (List Char)) (rest : List Char) :
    Delimited (values.flatMap (',' :: ·) ++ ']' :: rest) := by
  cases values with
  | nil => exact delimited_cons (.inr (.inl rfl)) rest
  | cons value values => exact delimited_cons (.inl rfl) _

/-- Behind an element, the others are read up to the closing bracket. -/
theorem elements_behind {decode : Decoder α} {write : α → List Char} {items : List α}
    (h : ∀ a ∈ items, Reads decode (write a) a) (rest : List Char) :
    ∀ {bound : List Char} {acc : List α}, items.length < bound.length → acc ≠ [] →
      elements decode bound acc ((items.map write).flatMap (',' :: ·) ++ ']' :: rest) =
        .ok (acc.reverse ++ items, rest) := by
  induction items with
  | nil =>
    intro bound acc hbound _
    obtain ⟨b, bound, rfl⟩ := List.exists_cons_of_length_pos hbound
    simp only [List.map_nil, List.flatMap_nil, List.nil_append, List.append_nil, elements,
      peek_cons (by decide : isJsonBlank ']' = false), ok_bind, if_true]
  | cons a items ih =>
    intro bound acc hbound hacc
    obtain ⟨b, bound, rfl⟩ := List.exists_cons_of_length_pos (Nat.zero_lt_of_lt hbound)
    have ha := h a List.mem_cons_self
    obtain ⟨c, tail, heq, hblank, hc⟩ := ha.front
    have hread := ha.reads (delimited_elements (items.map write) rest)
    have hrest : elements decode bound (a :: acc) _ = .ok ((a :: acc).reverse ++ items, rest) :=
      ih (fun a ha => h a (List.mem_cons_of_mem _ ha)) (Nat.lt_of_succ_lt_succ hbound)
        (List.cons_ne_nil a acc)
    have hpeek : ∀ more, peek (write a ++ more) = .ok (c, tail ++ more) := by
      intro more
      rw [heq, List.cons_append, peek_cons hblank]
    have hsome : acc.isEmpty = false := by simpa using hacc
    simp only [List.map_cons, List.flatMap_cons, List.cons_append, List.append_assoc, elements,
      peek_cons (by decide : isJsonBlank ',' = false), ok_bind, hsome, hpeek, hc, hread, hrest,
      (by decide : ¬ ',' = ']'), if_true, if_false, Bool.false_eq_true]
    simp

theorem reads_array {decode : Decoder α} {write : α → List Char} {items : List α}
    (h : ∀ a ∈ items, Reads decode (write a) a) :
    Reads (array decode) (writeArray (items.map write)) items where
  front := ⟨'[', _, rfl, rfl, by decide⟩
  reads {rest} _ := by
    have hwritten : ∀ values, writeArray values ++ rest = '[' :: (writeElements values ++ ']' :: rest) := by
      intro values
      simp [writeArray]
    simp only [array, hwritten, peek_cons (by decide : isJsonBlank '[' = false), ok_bind, if_true]
    cases items with
    | nil =>
      simp only [List.map_nil, writeElements, List.nil_append, elements,
        peek_cons (by decide : isJsonBlank ']' = false), ok_bind, if_true, List.reverse_nil]
    | cons a items =>
      have ha := h a List.mem_cons_self
      obtain ⟨c, tail, heq, hblank, hc⟩ := ha.front
      have hread := ha.reads (delimited_elements (items.map write) rest)
      have hbound : items.length <
          (tail ++ ((items.map write).flatMap (',' :: ·) ++ ']' :: rest)).length := by
        have hle := length_le_flatMap_cons ',' id (items.map write)
        simp only [List.length_map, id_eq] at hle
        simp only [List.length_append, List.length_cons]
        omega
      have hrest : elements decode _ [a] _ = .ok ([a].reverse ++ items, rest) :=
        elements_behind (fun a ha => h a (List.mem_cons_of_mem _ ha)) rest hbound
          (List.cons_ne_nil a [])
      rw [List.map_cons, writeElements_cons, List.append_assoc]
      rw [heq, List.cons_append] at hread ⊢
      simp only [elements, peek_cons hblank, ok_bind, if_neg hc, List.isEmpty_nil, if_true, hread,
        hrest]
      rfl

-- ---------------------------------------------------------------------------
-- Objects
-- ---------------------------------------------------------------------------

/-- The members, each with its key, make one draft out of another: each is read by the field of
that name, which was not set before. -/
inductive Fills (shape : RecordShape ρ α) : ρ → List (String × List Char) → ρ → Prop
  | nil (draft : ρ) : Fills shape draft [] draft
  | cons {draft draft' done : ρ} {key : String} {value : List Char} {field : Field ρ}
      {rest : List (String × List Char)} :
      shape.fields.find? (fun field => field.name = key.toList) = some field →
      field.isSet draft = false → Plain key.toList → Reads (field.decode draft) value draft' →
      Fills shape draft' rest done → Fills shape draft ((key, value) :: rest) done

theorem Fills.put {shape : RecordShape ρ α} {draft done : ρ} {key : String} {value : List Char}
    {name : List Char} {isSet : ρ → Bool} {put : ρ → β → ρ} {decode : Decoder β} {b : β}
    {rest : List (String × List Char)}
    (hfind : shape.fields.find? (fun field => field.name = key.toList) =
      some ⟨name, isSet, fun d => Json.mapped (put d) decode⟩)
    (hset : isSet draft = false) (hkey : Plain key.toList) (hread : Reads decode value b)
    (hrest : Fills shape (put draft b) rest done) : Fills shape draft ((key, value) :: rest) done :=
  .cons hfind hset hkey (hread.mapped (put draft)) hrest

def writeMember (m : String × List Char) : List Char := writePlain m.1.toList ++ ':' :: m.2

theorem writeMembers_cons (m : String × List Char) (rest : List (String × List Char)) :
    writeMembers (m :: rest) = writeMember m ++ rest.flatMap fun m => ',' :: writeMember m := by
  induction rest generalizing m with
  | nil => simp [writeMembers, writeMember]
  | cons next rest ih =>
    rw [writeMembers, ih, List.flatMap_cons, List.cons_append]
    · simp [writeMember]
    · nofun

theorem delimited_members (members : List (String × List Char)) (rest : List Char) :
    Delimited (members.flatMap (fun m => ',' :: writeMember m) ++ '\x7d' :: rest) := by
  cases members with
  | nil => exact delimited_cons (.inr (.inr rfl)) rest
  | cons m members => exact delimited_cons (.inl rfl) _

theorem member_eq {shape : RecordShape ρ α} {draft draft' : ρ} {key : String} {value : List Char}
    {field : Field ρ} (hfind : shape.fields.find? (fun field => field.name = key.toList) = some field)
    (hset : field.isSet draft = false) (hkey : Plain key.toList)
    (hread : Reads (field.decode draft) value draft') {rest : List Char} (hrest : Delimited rest) :
    shape.member draft (key.toList ++ '"' :: ':' :: (value ++ rest)) = .ok (draft', rest) := by
  have hcolon : colon (':' :: (value ++ rest)) = .ok (value ++ rest) := rfl
  simp only [RecordShape.member, string_plain hkey, ok_bind, hfind, hset, hcolon,
    hread.reads hrest, Bool.false_eq_true, if_false]

theorem members_behind {shape : RecordShape ρ α} {draft done : ρ}
    {members : List (String × List Char)} (h : Fills shape draft members done) {a : α}
    (hdone : shape.finish done = some a) (rest : List Char) :
    ∀ {bound : List Char}, members.length < bound.length →
      shape.members bound false draft
        (members.flatMap (fun m => ',' :: writeMember m) ++ '\x7d' :: rest) = .ok (a, rest) := by
  induction h with
  | nil draft =>
    intro bound hbound
    obtain ⟨b, bound, rfl⟩ := List.exists_cons_of_length_pos hbound
    simp only [List.flatMap_nil, List.nil_append, RecordShape.members,
      peek_cons (by decide : isJsonBlank '\x7d' = false), ok_bind, if_true, RecordShape.conclude,
      hdone]
    rfl
  | @cons draft draft' done key value field members hfind hset hkey hread _ ih =>
    intro bound hbound
    obtain ⟨b, bound, rfl⟩ := List.exists_cons_of_length_pos (Nat.zero_lt_of_lt hbound)
    have hmember := member_eq hfind hset hkey hread (delimited_members members rest)
    have hrest := ih hdone (Nat.lt_of_succ_lt_succ hbound)
    simp only [List.flatMap_cons, writeMember, writePlain, List.cons_append, List.append_assoc,
      List.nil_append, RecordShape.members, peek_cons (by decide : isJsonBlank ',' = false),
      peek_cons (by decide : isJsonBlank '"' = false), ok_bind, (by decide : ¬ ',' = '\x7d'),
      if_true, if_false, Bool.false_eq_true]
    simp only [writeMember, writePlain, List.cons_append, List.append_assoc, List.nil_append]
      at hmember hrest
    rw [hmember, ok_bind, hrest]

theorem reads_object {shape : RecordShape ρ α} {done : ρ} {members : List (String × List Char)}
    (h : Fills shape shape.blank members done) {a : α} (hdone : shape.finish done = some a) :
    Reads shape.decoder (writeObject members) a where
  front := ⟨'\x7b', _, rfl, rfl, by decide⟩
  reads {rest} _ := by
    have hwritten : writeObject members ++ rest =
        '\x7b' :: (writeMembers members ++ '\x7d' :: rest) := by
      simp [writeObject]
    simp only [RecordShape.decoder, hwritten, peek_cons (by decide : isJsonBlank '\x7b' = false),
      ok_bind, if_true]
    cases h with
    | nil =>
      simp only [writeMembers, List.nil_append, RecordShape.members,
        peek_cons (by decide : isJsonBlank '\x7d' = false), ok_bind, if_true,
        RecordShape.conclude, hdone]
      rfl
    | @cons _ draft' _ key value field members hfind hset hkey hread hmembers =>
      have hmember := member_eq hfind hset hkey hread (delimited_members members rest)
      have hbound : members.length < (key.toList ++ '"' :: ':' :: (value ++
          (members.flatMap (fun m => ',' :: writeMember m) ++ '\x7d' :: rest))).length := by
        have hle := length_le_flatMap_cons ',' writeMember members
        simp only [List.length_append, List.length_cons]
        omega
      have hrest := members_behind hmembers hdone rest hbound
      rw [writeMembers_cons]
      simp only [writeMember, writePlain, List.cons_append, List.append_assoc, List.nil_append]
        at hmember hrest ⊢
      simp only [RecordShape.members, peek_cons (by decide : isJsonBlank '"' = false), ok_bind,
        (by decide : ¬ '"' = '\x7d'), if_true, if_false]
      rw [hmember, ok_bind, hrest]

end EventAutomata.Json
