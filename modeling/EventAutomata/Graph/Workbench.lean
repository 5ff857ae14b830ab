import EventAutomata.Session.Plan
import EventAutomata.Graph.Query

/-!
# Work on a graph alone

A graph that belongs to no automaton can be asked, edited and configured. Its
callbacks are kept but never run, and there are no slots for signals that they
could raise.
-/

namespace EventAutomata

namespace Graph

inductive Request (σ α : Type)
  | ask (query : Query α)
  | edit (edit : Edit σ)
  | configure (setting : Setting (Plan α) α)

structure Workbench (σ α : Type) where
  graph : Graph σ α := ∅
  hub : Hub α := {}

namespace Workbench

variable {σ α : Type} [Payload σ]

def perform (w : Workbench σ α) : Request σ α → Answer × Workbench σ α
  | .ask query => (w.graph.ask query, w)
  | .edit e =>
    let (answer, graph) := w.graph.edit e
    (answer, { w with graph })
  | .configure setting =>
    if w.graph.hasSubject setting then
      match setting.install? #[] w.hub with
      | none => (.invalid, w)
      | some (setting, hub) =>
        let (answer, graph) := w.graph.configure setting
        (answer, { graph, hub })
    else (.nothing, w)

def run (w : Workbench σ α) : List (Request σ α) → Workbench σ α
  | [] => w
  | request :: rest =>
    let (_, w) := w.perform request
    run w rest

end Workbench

end Graph

end EventAutomata
