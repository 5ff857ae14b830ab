import EventAutomata.History
import EventAutomata.Json.Decode

/-!
# Histories and handles as JSON

A handle is its number. A record is an object with the keys `from`, `to`,
`transition` and `timestamp`, a history one with `records` and `limit`; both are
written in that order and without blanks. A missing source or limit is `null`,
and may be left out when a text is read. Reading puts a history together as the
text has it; it does not apply the limit.
-/

namespace EventAutomata

open EventAutomata.Text EventAutomata.Time

-- ---------------------------------------------------------------------------
-- Writing
-- ---------------------------------------------------------------------------

namespace Json

def writeNat? : Option Nat → List Char
  | none => ['n', 'u', 'l', 'l']
  | some n => digits n

def writePlain (s : List Char) : List Char := '"' :: s ++ ['"']

def writeMembers : List (String × List Char) → List Char
  | [] => []
  | [(key, value)] => writePlain key.toList ++ ':' :: value
  | (key, value) :: rest => writePlain key.toList ++ ':' :: value ++ ',' :: writeMembers rest

def writeObject (members : List (String × List Char)) : List Char :=
  '\x7b' :: writeMembers members ++ ['\x7d']

def writeElements : List (List Char) → List Char
  | [] => []
  | [value] => value
  | value :: rest => value ++ ',' :: writeElements rest

def writeArray (values : List (List Char)) : List Char :=
  '[' :: writeElements values ++ [']']

end Json

def Handle.toJson {space : Space} (h : Handle space) : List Char := digits h.index

def TransitRecord.toJson (r : TransitRecord) : List Char :=
  Json.writeObject
    [("from", Json.writeNat? (r.source.map Handle.index)), ("to", r.target.toJson),
     ("transition", r.transition.toJson),
     ("timestamp", Json.writePlain (Rfc3339.write r.timestamp))]

def History.toJson (h : History) : List Char :=
  Json.writeObject
    [("records", Json.writeArray (h.records.map TransitRecord.toJson)),
     ("limit", Json.writeNat? h.limit)]

-- ---------------------------------------------------------------------------
-- Reading
-- ---------------------------------------------------------------------------

def Handle.decoder {space : Space} : Json.Decoder (Handle space) :=
  Json.mapped Handle.mk Json.nat64

/-- A record as far as it has been read; what has not come yet is `none`. -/
structure TransitRecord.Draft where
  source : Option (Option StateId) := none
  target : Option StateId := none
  transition : Option TransitionId := none
  timestamp : Option Timestamp := none

def TransitRecord.shape : Json.RecordShape TransitRecord.Draft TransitRecord where
  fields :=
    [⟨"from".toList, fun d => d.source.isSome, fun d =>
        Json.mapped (fun v => { d with source := some v }) (Json.nullable Handle.decoder)⟩,
     ⟨"to".toList, fun d => d.target.isSome, fun d =>
        Json.mapped (fun v => { d with target := some v }) Handle.decoder⟩,
     ⟨"transition".toList, fun d => d.transition.isSome, fun d =>
        Json.mapped (fun v => { d with transition := some v }) Handle.decoder⟩,
     ⟨"timestamp".toList, fun d => d.timestamp.isSome, fun d =>
        Json.mapped (fun v => { d with timestamp := some v }) (Json.text Rfc3339.read?)⟩]
  blank := {}
  finish d := do
    some ⟨d.source.getD none, ← d.target, ← d.transition, ← d.timestamp⟩

structure History.Draft where
  records : Option (List TransitRecord) := none
  limit : Option (Option Nat) := none

def History.shape : Json.RecordShape History.Draft History where
  fields :=
    [⟨"records".toList, fun d => d.records.isSome, fun d =>
        Json.mapped (fun v => { d with records := some v })
          (Json.array TransitRecord.shape.decoder)⟩,
     ⟨"limit".toList, fun d => d.limit.isSome, fun d =>
        Json.mapped (fun v => { d with limit := some v }) (Json.nullable Json.nat64)⟩]
  blank := {}
  finish d := do some (.ofRecords (← d.records) (d.limit.getD none))

def Handle.ofJson {space : Space} (cs : List Char) : Except Json.Problem (Handle space) :=
  Json.decode Handle.decoder cs

def History.ofJson (cs : List Char) : Except Json.Problem History :=
  Json.decode History.shape.decoder cs

end EventAutomata
