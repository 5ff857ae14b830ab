import EventAutomata.Description

/-!
# Payloads

Every state of a graph carries a value. The value names the state in logs, says
whether a state that carries it starts out terminal, and can be described. Text
names itself; the empty payload is named `()`. Neither of them is final.

A custom payload carries any label and says itself whether it is final. A vocabulary is a
fixed list of words, some of them final; each word is a payload that names and describes
itself.
-/

namespace EventAutomata

/-- What a graph asks of the values its states carry. -/
class Payload (σ : Type) extends Describe σ where
  name : σ → String
  isFinal : σ → Bool := fun _ => false

namespace Payload

instance : Payload String where
  describe := .quoted
  name := id

instance : Payload Unit where
  describe _ := .word "()"
  name _ := "()"

end Payload

structure Custom where
  label : String
  accepting : Bool := false
  deriving DecidableEq, Repr, Inhabited

instance : Payload Custom where
  describe p := .record "Custom" [("label", .quoted p.label), ("accepting", describe p.accepting)]
  name p := p.label
  isFinal p := p.accepting

-- ---------------------------------------------------------------------------
-- Vocabularies
-- ---------------------------------------------------------------------------

structure Vocabulary where
  words : List String
  finals : List String := []

structure Word (vocabulary : Vocabulary) where
  text : String
  listed : text ∈ vocabulary.words
  deriving DecidableEq

namespace Word

variable {vocabulary : Vocabulary}

def ofText? (vocabulary : Vocabulary) (text : String) : Option (Word vocabulary) :=
  if h : text ∈ vocabulary.words then some ⟨text, h⟩ else none

instance : Payload (Word vocabulary) where
  describe w := .word w.text
  name w := w.text
  isFinal w := decide (w.text ∈ vocabulary.finals)

end Word

def Vocabulary.door : Vocabulary := ⟨["Closed", "Open", "Locked"], ["Locked"]⟩

def Vocabulary.minimal : Vocabulary := ⟨["One", "Two"], []⟩

instance : Inhabited (Word .door) := ⟨⟨"Closed", by simp [Vocabulary.door]⟩⟩

instance : Inhabited (Word .minimal) := ⟨⟨"One", by simp [Vocabulary.minimal]⟩⟩

end EventAutomata
