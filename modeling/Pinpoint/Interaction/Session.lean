import Pinpoint.Interaction.LivePreview
import Pinpoint.Interaction.Picker
import Pinpoint.Scan.Page
import Pinpoint.Snippet.Action
import Pinpoint.Url.Origin

/-! Sessions: the picker, the live preview and the requests about one document. What a session
finds is sent to an observer and copied to a clipboard, and either may refuse. -/

namespace Pinpoint

inductive Request where
  | ping
  | startPick
  | stopPick
  | startLive
  | stopLive
  | scanPage
  | copySnippet (selector : Option String) (dialect : String)
  | copyAction (selector : Option String) (dialect : String) (verb : Verb)
  | preview (selector : Option String)
  deriving DecidableEq, Repr

inductive Response where
  | ack (ok : Bool)
  | snippet (text : String) (copied : Bool)
  | preview (frame : PreviewFrame)
  | testCases (cases : List TestCase)
  deriving DecidableEq, Repr

inductive Event where
  | picked (result : PickResult)
  | livePreview (frame : PreviewFrame)
  deriving DecidableEq, Repr

structure Reach where
  observer : Bool
  clipboard : Bool
  deriving DecidableEq, Repr

/-- `events` are the events that the observer accepted, in order; `clipboard` is the text copied
last. -/
structure Session where
  picker : Picker
  live : LivePreview
  events : List Event
  clipboard : Option String

def Document.testCases (d : Document) (settings : Settings) : List TestCase :=
  d.scan settings Url.isExternal

def Document.subject? (d : Document) : Option Site :=
  (d.active?.or (d.body?.map Element.id)).bind d.site?

def Document.resolve (d : Document) (settings : Settings) (stored : Option String)
    (subject : Option Site) : String :=
  ((stored.filter (· ≠ "")).or (subject.map fun s => (d.structural settings s).value)).getD ""

structure PickOutcome where
  result : PickResult
  delivered : Bool
  copied : Bool
  deriving DecidableEq, Repr

structure FrameOutcome where
  frame : PreviewFrame
  delivered : Bool
  deriving DecidableEq, Repr

namespace Session

def initial : Session := ⟨.initial, .initial, [], none⟩

def emit (reach : Reach) (s : Session) (e : Event) : Session × Bool :=
  if reach.observer then ({ s with events := s.events ++ [e] }, true) else (s, false)

def copy (reach : Reach) (s : Session) (text : String) : Session × Bool :=
  if reach.clipboard then ({ s with clipboard := some text }, true) else (s, false)

def answerSnippet (reach : Reach) (s : Session) (text : String) : Session × Response :=
  if text = "" then (s, .snippet text false)
  else
    let (s, copied) := s.copy reach text
    (s, .snippet text copied)

def snippetText (settings : Settings) (d : Document) (selector : Option String)
    (dialect : String) : String :=
  let locator := d.resolve settings selector d.subject?
  d.strategy settings d.subject? locator ((Dialect.parse? dialect).getD .css)

def actionText (settings : Settings) (d : Document) (selector : Option String)
    (dialect : String) (verb : Verb) : String :=
  let locator := d.resolve settings selector d.subject?
  settings.action locator ((Dialect.parse? dialect).getD .js) verb

def previewAnswer (settings : Settings) (d : Document) (selector : Option String) :
    PreviewFrame :=
  let locator := d.resolve settings selector d.subject?
  ⟨locator, d.preview settings d.subject? locator settings.previewDialects⟩

def handle (settings : Settings) (reach : Reach) (s : Session) (d : Document) :
    Request → Session × Document × Response
  | .ping => (s, d, .ack true)
  | .startPick => ({ s with picker := s.picker.start.1 }, d, .ack true)
  | .stopPick =>
    let (picker, d, _) := s.picker.stop d
    ({ s with picker }, d, .ack true)
  | .startLive => ({ s with live := s.live.start.1 }, d, .ack true)
  | .stopLive => ({ s with live := s.live.stop }, d, .ack true)
  | .scanPage => (s, d, .testCases (d.testCases settings))
  | .copySnippet selector dialect =>
    let (s, response) := s.answerSnippet reach (snippetText settings d selector dialect)
    (s, d, response)
  | .copyAction selector dialect verb =>
    let (s, response) := s.answerSnippet reach (actionText settings d selector dialect verb)
    (s, d, response)
  | .preview selector => (s, d, .preview (previewAnswer settings d selector))

def move (settings : Settings) (s : Session) (d : Document) (target : NodeId) :
    Session × Document × Option Nat :=
  let (picker, d) := s.picker.move settings d target
  let (live, ticket) := s.live.move target
  ({ s with picker, live }, d, ticket)

def click (settings : Settings) (reach : Reach) (s : Session) (d : Document) (target : NodeId) :
    Session × Document × Option PickOutcome :=
  let (picker, d, result) := s.picker.click settings d target
  let s := { s with picker }
  match result with
  | none => (s, d, none)
  | some result =>
    let (s, copied) := s.copy reach result.locator
    let (s, delivered) := s.emit reach (.picked result)
    (s, d, some ⟨result, delivered, copied⟩)

def frame (settings : Settings) (reach : Reach) (s : Session) (d : Document) (ticket : Nat) :
    Session × Option FrameOutcome :=
  let (live, frame) := s.live.frame settings d ticket
  let s := { s with live }
  match frame with
  | none => (s, none)
  | some frame =>
    let (s, delivered) := s.emit reach (.livePreview frame)
    (s, some ⟨frame, delivered⟩)

end Session

end Pinpoint
