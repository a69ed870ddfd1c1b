import Pinpoint.Export.Format
import Pinpoint.Interaction.Session
import Pinpoint.Wire.Values

/-! Requests, responses and events as JSON. Requests and events carry a type; a response is known
by its members. -/

namespace Pinpoint.Wire

open Json

def ofPickState : PickState → Value
  | .idle => .string "idle"
  | .armed => .string "armed"

def pickState? (v : Value) : Option PickState :=
  match v.name? with
  | some "idle" => some .idle
  | some "armed" => some .armed
  | _ => none

def ofPreviewState : PreviewState → Value
  | .stopped => .string "stopped"
  | .running => .string "running"

def previewState? (v : Value) : Option PreviewState :=
  match v.name? with
  | some "stopped" => some .stopped
  | some "running" => some .running
  | _ => none

def ofExportFormat (f : ExportFormat) : Value := .string f.name

def exportFormat? (v : Value) : Option ExportFormat := v.name?.bind ExportFormat.ofName?

def pickMembers (r : PickResult) : List (String × Value) :=
  [("locator", .string r.locator), ("descriptor", .ofOption ofDescriptor r.descriptor)]

def ofPickResult (r : PickResult) : Value := .object (pickMembers r)

def pickResult? (v : Value) : Option PickResult := do
  let members ← v.record? 2 ["locator", "descriptor"]
  let locator ← required members "locator" Value.text?
  let descriptor ← optional members "descriptor" descriptor?
  some ⟨locator, descriptor⟩

def frameMembers (f : PreviewFrame) : List (String × Value) :=
  [("locator", .string f.locator), ("preview", .array (f.preview.map ofPreviewEntry))]

def ofPreviewFrame (f : PreviewFrame) : Value := .object (frameMembers f)

def previewFrameWith? (dialectAt? : Value → Option Dialect) (v : Value) :
    Option PreviewFrame := do
  let members ← v.record? 2 ["locator", "preview"]
  let locator ← required members "locator" Value.text?
  let preview ← required members "preview" (Value.list? (previewItem? dialectAt?))
  some ⟨locator, preview⟩

def previewFrame? : Value → Option PreviewFrame := previewFrameWith? dialect?

def ofRequest : Request → Value
  | .ping => .object [("type", .string "PING")]
  | .startPick => .object [("type", .string "START_PICK_SELECTOR")]
  | .stopPick => .object [("type", .string "STOP_PICK_SELECTOR")]
  | .startLive => .object [("type", .string "START_LIVE_PREVIEW")]
  | .stopLive => .object [("type", .string "STOP_LIVE_PREVIEW")]
  | .scanPage => .object [("type", .string "SCAN_PAGE")]
  | .copySnippet selector dialect =>
    .object [("type", .string "COPY_SNIPPET"), ("selector", .ofOption .string selector),
      ("dialect", .string dialect)]
  | .copyAction selector dialect verb =>
    .object [("type", .string "COPY_ACTION_SNIPPET"), ("selector", .ofOption .string selector),
      ("dialect", .string dialect), ("action", ofVerb verb)]
  | .preview selector =>
    .object [("type", .string "SELECTOR_PREVIEW"), ("selector", .ofOption .string selector)]

/-- The dialect of a request, which may also be called its target, but not twice. -/
def requestDialect? (members : List (String × Value)) : Option String :=
  match valuesOf members "dialect" ++ valuesOf members "target" with
  | [v] => v.text?
  | _ => none

def bare? (message : Request) (v : Value) : Option Request :=
  (v.record? 0 []).map fun _ => message

def copySnippet? (v : Value) : Option Request := do
  let members ← v.record? 2 ["selector", "dialect"]
  let selector ← optional members "selector" Value.text?
  let dialect ← requestDialect? members
  some (.copySnippet selector dialect)

def copyAction? (v : Value) : Option Request := do
  let members ← v.record? 2 ["selector", "dialect", "action"]
  let selector ← optional members "selector" Value.text?
  let dialect ← requestDialect? members
  let verb ← defaulted members "action" .click verb?
  some (.copyAction selector dialect verb)

def preview? (v : Value) : Option Request := do
  let members ← v.record? 0 ["selector"]
  some (.preview (← optional members "selector" Value.text?))

def request? (v : Value) : Option Request := do
  let v ← keep? 0 v
  match ← v.type? with
  | "PING" => bare? .ping v.payload
  | "START_PICK_SELECTOR" => bare? .startPick v.payload
  | "STOP_PICK_SELECTOR" => bare? .stopPick v.payload
  | "START_LIVE_PREVIEW" => bare? .startLive v.payload
  | "STOP_LIVE_PREVIEW" => bare? .stopLive v.payload
  | "SCAN_PAGE" => bare? .scanPage v.payload
  | "COPY_SNIPPET" => copySnippet? v.payload
  | "COPY_ACTION_SNIPPET" => copyAction? v.payload
  | "SELECTOR_PREVIEW" => preview? v.payload
  | _ => none

def ofResponse : Response → Value
  | .ack ok => .object [("ok", .bool ok)]
  | .snippet text copied => .object [("snippet", .string text), ("copied", .bool copied)]
  | .preview frame => ofPreviewFrame frame
  | .testCases cases => .object [("testCases", ofTestCases cases)]

def ack? (v : Value) : Option Response := do
  some (.ack (← required (← v.members?) "ok" Value.bool?))

def snippet? (v : Value) : Option Response := do
  let members ← v.members?
  let text ← required members "snippet" Value.text?
  let copied ← required members "copied" Value.bool?
  some (.snippet text copied)

def testCases? (v : Value) : Option Response := do
  some (.testCases (← required (← v.members?) "testCases" (Value.list? testCase?)))

/-- The first kind of response that the value makes up. Of these kinds only a preview may be a list
of its values. -/
def response? (v : Value) : Option Response := do
  let v ← keep? 0 v
  (ack? v).or ((snippet? v).or (((previewFrame? v).map .preview).or (testCases? v)))

def ofEvent : Event → Value
  | .picked result => .object (("type", .string "SELECTOR_PICKED") :: pickMembers result)
  | .livePreview frame =>
    .object [("type", .string "LIVE_PREVIEW_UPDATE"), ("preview", ofPreviewFrame frame)]

/-- In an event an empty object below the name of a dialect is as good as null. -/
def eventDialect? : Value → Option Dialect
  | .object [(name, .object [])] => Dialect.ofName? name
  | v => dialect? v

def livePreview? (v : Value) : Option Event := do
  let members ← v.record? 1 ["preview"]
  some (.livePreview (← required members "preview" (previewFrameWith? eventDialect?)))

def event? (v : Value) : Option Event := do
  let v ← keep? 0 v
  match ← v.type? with
  | "SELECTOR_PICKED" => (pickResult? v.payload).map .picked
  | "LIVE_PREVIEW_UPDATE" => livePreview? v.payload
  | _ => none

end Pinpoint.Wire
