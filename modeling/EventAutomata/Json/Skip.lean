import EventAutomata.Json.Scan

/-!
# Skipping a JSON value

A value that nobody asked for is still checked for its form. The scan keeps the
containers it is in, innermost first, and so needs no bound on their depth. Each
step takes a character at least, so there are no more steps than characters.
-/

namespace EventAutomata.Json

inductive Container
  | array
  | object
  deriving DecidableEq, Repr

def Container.closing : Container → Char
  | .array => ']'
  | .object => '\x7d'

def Container.ofOpening? (c : Char) : Option Container :=
  if c = '[' then some .array else if c = '\x7b' then some .object else none

inductive Position
  /-- A value must come. -/
  | value
  /-- Just behind a value. -/
  | behind
  deriving DecidableEq, Repr

def skipKey (container : Container) (cs : List Char) : Except Problem (List Char) :=
  match container with
  | .array => .ok cs
  | .object => do
    let (c, rest) ← peek cs
    if c = '"' then
      let (_, rest) ← looseString rest
      colon rest
    else .error .malformed

def skipScalar (c : Char) (rest : List Char) : Except Problem (List Char) :=
  match wordTail? c with
  | some tail => word tail rest
  | none =>
    if c = '"' then (looseString rest).map Prod.snd
    else if c = '-' then looseNumeral rest
    else if c.isDigit then looseNumeral (c :: rest)
    else .error .malformed

/-- Skips the rest of a value, in at most as many steps as `bound` is long. -/
def skipFrom :
    (bound : List Char) → Position → List Container → List Char → Except Problem (List Char)
  | _, .behind, [], cs => .ok cs
  | [], _, _, _ => .error .incomplete
  | _ :: bound, .value, enclosing, cs => do
    let (c, rest) ← peek cs
    match Container.ofOpening? c with
    | none => skipFrom bound .behind enclosing (← skipScalar c rest)
    | some container =>
      let (d, behind) ← peek rest
      if d = container.closing then skipFrom bound .behind enclosing behind
      else skipFrom bound .value (container :: enclosing) (← skipKey container rest)
  | _ :: bound, .behind, container :: enclosing, cs => do
    let (c, rest) ← peek cs
    if c = container.closing then skipFrom bound .behind enclosing rest
    else if c = ',' then skipFrom bound .value (container :: enclosing) (← skipKey container rest)
    else .error .malformed

def skipValue (cs : List Char) : Except Problem (List Char) := skipFrom cs .value [] cs

end EventAutomata.Json
