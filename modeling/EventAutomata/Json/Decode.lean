import EventAutomata.Json.Skip

/-!
# Decoding JSON text into values of a shape

A decoder reads one value of the shape it stands for. Records are read in two
forms. As an object, the fields come in any order, a field it does not know is
skipped, and one that comes twice does not fit. As an array, the fields come in
their own order and all of them must come. What an object may leave out is
decided when it ends.
-/

namespace EventAutomata.Json

abbrev Decoder (α : Type) := Scanner α

/-- A value of another shape than the one asked for, from its first character.
A container is not looked into. -/
def misfit {α : Type} (c : Char) (rest : List Char) : Except Problem α :=
  if c = '[' ∨ c = '\x7b' then .error .unfitting
  else
    match wordTail? c with
    | some tail => (word tail rest).bind fun _ => .error .unfitting
    | none =>
      if c = '"' then (string rest).bind fun _ => .error .unfitting
      else if c = '-' then (numeral rest).bind fun _ => .error .unfitting
      else if c.isDigit then (numeral (c :: rest)).bind fun _ => .error .unfitting
      else .error .malformed

/-- A whole number from 0 to 2^64 - 1, written without fraction or exponent. -/
def nat64 : Decoder Nat := fun cs => do
  let (c, rest) ← peek cs
  if c.isDigit then
    match ← numeral (c :: rest) with
    | (.whole n, rest) => .ok (n, rest)
    | (.other, _) => .error .unfitting
  else misfit c rest

def text {α : Type} (read : List Char → Option α) : Decoder α := fun cs => do
  let (c, rest) ← peek cs
  if c = '"' then
    let (s, rest) ← string rest
    match read s with
    | some a => .ok (a, rest)
    | none => .error .unfitting
  else misfit c rest

def nullable {α : Type} (decode : Decoder α) : Decoder (Option α) := fun cs =>
  match skipSpace cs with
  | 'n' :: rest => (word ['u', 'l', 'l'] rest).map fun rest => (none, rest)
  | _ => (decode cs).map fun (a, rest) => (some a, rest)

def mapped {α β : Type} (f : α → β) (decode : Decoder α) : Decoder β := fun cs =>
  (decode cs).map fun (a, rest) => (f a, rest)

-- ---------------------------------------------------------------------------
-- Arrays
-- ---------------------------------------------------------------------------

/-- The elements from behind the opening bracket or an element, with those read so
far in reverse; no more of them than `bound` is long. -/
def elements {α : Type} (decode : Decoder α) :
    (bound : List Char) → (readSoFar : List α) → Scanner (List α)
  | [], _, _ => .error .incomplete
  | _ :: bound, readSoFar, cs => do
    let (c, rest) ← peek cs
    if c = ']' then .ok (readSoFar.reverse, rest)
    else
      let start ← if readSoFar.isEmpty then .ok cs else
        if c = ',' then do
          let (d, _) ← peek rest
          if d = ']' then .error .malformed else .ok rest
        else .error .malformed
      let (a, rest) ← decode start
      elements decode bound (a :: readSoFar) rest

def array {α : Type} (decode : Decoder α) : Decoder (List α) := fun cs => do
  let (c, rest) ← peek cs
  if c = '[' then elements decode rest [] rest else misfit c rest

-- ---------------------------------------------------------------------------
-- Records
-- ---------------------------------------------------------------------------

structure Field (ρ : Type) where
  name : List Char
  isSet : ρ → Bool
  decode : ρ → Decoder ρ

/-- A record: its fields in order, the empty draft, and what a draft amounts to
once the record ends. -/
structure RecordShape (ρ α : Type) where
  fields : List (Field ρ)
  blank : ρ
  finish : ρ → Option α

namespace RecordShape

variable {ρ α : Type}

def conclude (shape : RecordShape ρ α) (draft : ρ) : Except Problem α :=
  match shape.finish draft with
  | some a => .ok a
  | none => .error .unfitting

def member (shape : RecordShape ρ α) (draft : ρ) : Scanner ρ := fun cs => do
  let (key, rest) ← string cs
  match shape.fields.find? (fun field => field.name = key) with
  | none => (skipValue (← colon rest)).map fun rest => (draft, rest)
  | some field =>
    if field.isSet draft then .error .unfitting else field.decode draft (← colon rest)

def members (shape : RecordShape ρ α) : (bound : List Char) → Bool → ρ → Scanner α
  | [], _, _, _ => .error .incomplete
  | _ :: bound, isFirst, draft, cs => do
    let (c, rest) ← peek cs
    if c = '\x7d' then (shape.conclude draft).map fun a => (a, rest)
    else
      let start ← if isFirst then .ok (c, rest) else
        if c = ',' then peek rest else .error .malformed
      if start.1 = '"' then
        let (draft, rest) ← shape.member draft start.2
        shape.members bound false draft rest
      else .error .malformed

def positional (shape : RecordShape ρ α) : List (Field ρ) → Bool → ρ → Scanner α
  | [], _, draft, cs => do
    let (c, rest) ← peek cs
    if c = ']' then (shape.conclude draft).map fun a => (a, rest) else .error .malformed
  | field :: fields, isFirst, draft, cs => do
    let (c, rest) ← peek cs
    if c = ']' then .error .unfitting
    else
      let start ← if isFirst then .ok cs else
        if c = ',' then do
          let (d, _) ← peek rest
          if d = ']' then .error .malformed else .ok rest
        else .error .malformed
      let (draft, rest) ← field.decode draft start
      shape.positional fields false draft rest

def decoder (shape : RecordShape ρ α) : Decoder α := fun cs => do
  let (c, rest) ← peek cs
  if c = '\x7b' then shape.members rest true shape.blank rest
  else if c = '[' then shape.positional shape.fields true shape.blank rest
  else misfit c rest

end RecordShape

-- ---------------------------------------------------------------------------
-- Whole texts
-- ---------------------------------------------------------------------------

def decode {α : Type} (decoder : Decoder α) (cs : List Char) : Except Problem α := do
  let (a, rest) ← decoder cs
  if (skipSpace rest).isEmpty then .ok a else .error .malformed

end EventAutomata.Json
