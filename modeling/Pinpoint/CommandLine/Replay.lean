import Pinpoint.CommandLine.Failure
import Pinpoint.Interaction.Session

/-! Replays: a session is driven by selectors in place of a pointer. The events are recorded, and
there is no clipboard. -/

namespace Pinpoint.CommandLine.Replay

def reach : Reach := ⟨true, false⟩

structure Stage where
  session : Session
  document : Document

namespace Stage

def begin (settings : Settings) (d : Document) (request : Request) : Stage :=
  let (session, document, _) := Session.initial.handle settings reach d request
  ⟨session, document⟩

def move (settings : Settings) (stage : Stage) (target : NodeId) : Stage × Option Nat :=
  let (session, document, ticket) := stage.session.move settings stage.document target
  (⟨session, document⟩, ticket)

def click (settings : Settings) (stage : Stage) (target : NodeId) : Stage :=
  let (session, document, _) := stage.session.click settings reach stage.document target
  ⟨session, document⟩

def frame (settings : Settings) (stage : Stage) (ticket : Nat) : Stage :=
  { stage with session := (stage.session.frame settings reach stage.document ticket).1 }

def hover (settings : Settings) (stage : Stage) (selector : String) : Except Failure Stage :=
  (stage.document.matched selector).map fun s => (stage.move settings s.id).1

def draw (settings : Settings) (stage : Stage) (target : NodeId) : Stage :=
  let (stage, ticket) := stage.move settings target
  ticket.toList.foldl (frame settings) stage

def sweep (settings : Settings) (stage : Stage) : List NodeId → Stage × List Nat
  | [] => (stage, [])
  | target :: rest =>
    let (stage, ticket) := stage.move settings target
    let (stage, tickets) := stage.sweep settings rest
    (stage, ticket.toList ++ tickets)

end Stage

def pick (settings : Settings) (d : Document) (hovers : List String) (click : String) :
    Except Failure (List Event) := do
  let stage ← hovers.foldlM (Stage.hover settings) (.begin settings d .startPick)
  let s ← stage.document.matched click
  .ok (stage.click settings s.id).session.events

/-- The live preview hovers. In a burst all moves come before the frames. -/
def preview (settings : Settings) (d : Document) (hovers : List String) (burst : Bool) :
    Except Failure (List Event) := do
  let targets := (← hovers.mapM d.matched).map Site.id
  let stage := Stage.begin settings d .startLive
  if burst then
    let (stage, tickets) := stage.sweep settings targets
    .ok (tickets.foldl (Stage.frame settings) stage).session.events
  else .ok (targets.foldl (Stage.draw settings) stage).session.events

end Pinpoint.CommandLine.Replay
