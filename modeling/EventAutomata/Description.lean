import EventAutomata.Handle.Map
import EventAutomata.Text.Quoted

/-!
# Descriptions of values

A description is the shape of a value as a maintainer reads it: records with
named fields, tuples, lists, sets and maps, down to words and quoted text. A
description has two layouts. `compact` puts it on one line. `pretty` puts every
field and element on a line of its own, four blanks deeper for every level, with
a comma after each; an empty collection is a pair of brackets in both layouts.

A handle is described by its type and number, as `StateId(3)`; sets and maps in ascending
order.
-/

namespace EventAutomata

/-- What encloses a group: `spaced` groups keep a blank inside the brackets when
they are written on one line. -/
structure Brackets where
  opening : String
  closing : String
  spaced : Bool := false
  deriving DecidableEq

/-- The shape of a value. An `entry` is a label and what it labels. -/
inductive Description
  | word (text : String)
  | entry (label value : Description)
  | group (brackets : Brackets) (members : List Description)

namespace Description

-- ---------------------------------------------------------------------------
-- Shapes
-- ---------------------------------------------------------------------------

def quoted (s : String) : Description := .word (Text.quote s)

def nat (n : Nat) : Description := .word (toString n)

def bool (b : Bool) : Description := .word (if b then "true" else "false")

def record (name : String) (fields : List (String × Description)) : Description :=
  .group ⟨name ++ " \x7b", "\x7d", true⟩ (fields.map fun (label, value) => .entry (.word label) value)

def tuple (name : String) (parts : List Description) : Description :=
  .group ⟨name ++ "(", ")", false⟩ parts

def list (items : List Description) : Description := .group ⟨"[", "]", false⟩ items

def set (items : List Description) : Description := .group ⟨"\x7b", "\x7d", false⟩ items

def map (entries : List (Description × Description)) : Description :=
  .group ⟨"\x7b", "\x7d", false⟩ (entries.map fun (key, value) => .entry key value)

def option : Option Description → Description
  | none => .word "None"
  | some d => tuple "Some" [d]

-- ---------------------------------------------------------------------------
-- Layouts
-- ---------------------------------------------------------------------------

mutual

/-- On one line: `Name { field: value, other: [1, 2] }`. -/
def compact : Description → String
  | .word text => text
  | .entry label value => label.compact ++ ": " ++ value.compact
  | .group b [] => b.opening ++ b.closing
  | .group b (first :: rest) =>
    let blank := if b.spaced then " " else ""
    b.opening ++ blank ++ first.compact ++ compactRest rest ++ blank ++ b.closing

def compactRest : List Description → String
  | [] => ""
  | d :: rest => ", " ++ d.compact ++ compactRest rest

end

def indentation (depth : Nat) : String := String.ofList (List.replicate (4 * depth) ' ')

mutual

def prettyAt (depth : Nat) : Description → String
  | .word text => text
  | .entry label value => label.prettyAt depth ++ ": " ++ value.prettyAt depth
  | .group b [] => b.opening ++ b.closing
  | .group b (first :: rest) =>
    b.opening ++ "\n" ++ indentation (depth + 1) ++ first.prettyAt (depth + 1) ++ ",\n"
      ++ prettyRest depth rest ++ indentation depth ++ b.closing

def prettyRest (depth : Nat) : List Description → String
  | [] => ""
  | d :: rest =>
    indentation (depth + 1) ++ d.prettyAt (depth + 1) ++ ",\n" ++ prettyRest depth rest

end

def pretty (d : Description) : String := d.prettyAt 0

def render (d : Description) (spread : Bool) : String := if spread then d.pretty else d.compact

end Description

class Describe (α : Type) where
  describe : α → Description

export Describe (describe)

namespace Describe

instance : Describe Nat := ⟨.nat⟩

instance : Describe Bool := ⟨.bool⟩

instance {α : Type} [Describe α] : Describe (Option α) := ⟨fun o => .option (o.map describe)⟩

instance {α : Type} [Describe α] : Describe (List α) := ⟨fun xs => .list (xs.map describe)⟩

instance {α β : Type} [Describe α] [Describe β] : Describe (α × β) :=
  ⟨fun (a, b) => .tuple "" [describe a, describe b]⟩

end Describe

-- ---------------------------------------------------------------------------
-- Handles, sets and maps
-- ---------------------------------------------------------------------------

def Space.handleName : Space → String
  | .state => "StateId"
  | .transition => "TransitionId"

variable {space : Space} {β : Type}

instance : Describe (Handle space) :=
  ⟨fun h => .tuple space.handleName [describe h.index]⟩

instance : Describe (HandleSet space) :=
  ⟨fun s => .set (s.toList.map describe)⟩

instance [Describe β] : Describe (HandleMap space β) :=
  ⟨fun m => .map (m.toList.map fun (h, v) => (describe h, describe v))⟩

end EventAutomata
