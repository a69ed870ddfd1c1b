import Pinpoint.CommandLine.Invocation
import Pinpoint.CommandLine.Lines
import Pinpoint.CommandLine.Replay
import Pinpoint.Export.Render
import Pinpoint.Wire.Fixture
import Pinpoint.Wire.Messages
import Pinpoint.Wire.SettingsText
import Pinpoint.Wire.Values

/-! Running an invocation. A run reads files, and ends either with a report or with a file to be
written, after which the report depends on whether that was done. -/

namespace Pinpoint.CommandLine

structure Report where
  status : Nat
  output : List String
  notes : List String
  deriving DecidableEq, Repr

inductive Outcome where
  | done (report : Report)
  | write (path text : String) (written refused : Report)
  deriving DecidableEq, Repr

namespace Style

def success (style : Style) (text : String) : List String :=
  if style.quiet then [] else [(if style.symbols then "✓ " else "OK ") ++ text]

def warning (style : Style) (text : String) : List String :=
  if style.quiet then [] else [(if style.symbols then "⚠ " else "WARN ") ++ text]

end Style

namespace Report

def failed (notes : List String) (f : Failure) : Report :=
  ⟨1, [], notes ++ ["Error: " ++ f.message]⟩

def result (style : Style) (v : Json.Value) (lines : List String) : Report :=
  ⟨0, if style.json then [v.pretty] else lines, []⟩

def usage (scope : Scope) : String :=
  match scope with
  | none => "Usage: locsmith [OPTIONS] <COMMAND>"
  | some c => "Usage: locsmith " ++ c.name ++ " [OPTIONS]" ++
    (if c.takesOperand then (if c = .snippet then " <LOCATOR>" else " <FIXTURE>") else "")

def versionLine (scope : Scope) : String :=
  match scope with
  | none => "locsmith 0.4.1"
  | some c => "locsmith-" ++ c.name ++ " 0.4.1"

def ofStop : Stop → Report
  | .refused => ⟨2, [], [usage none]⟩
  | .version scope => ⟨0, [versionLine scope], []⟩
  | .help scope => ⟨0, [usage scope], []⟩

end Report

def loadFixture (read : String → Option String) (path : String) : Except Failure Document :=
  match read path with
  | none => .error (.fixture path .io)
  | some text => (Document.ofText text).mapError (.fixture path)

structure Services where
  parseSettings : String → Except Error Settings
  isExternal : Option String → String → Bool

def Services.standard : Services := ⟨Settings.ofText, Url.isExternal⟩

def loadSettings (services : Services) (read : String → Option String) :
    Option String → Except Failure Settings
  | none => .ok .standard
  | some path =>
    match read path with
    | none => .error (.settings path .io)
    | some text => (services.parseSettings text).mapError (.settings path)

/-- An action needs the locator only, a page gives a meaning to its element. -/
def snippetText (read : String → Option String) (settings : Settings) (locator : String)
    (dialect : Dialect) : Option Verb → Option (String × Option String) → Except Failure String
  | some verb, _ => .ok (settings.action locator dialect verb)
  | none, none => .ok (passive locator dialect)
  | none, some (path, target) => do
    let d ← loadFixture read path
    let s ← match target with
      | some selector => (d.matched selector).map some
      | none => .ok d.subject?
    .ok (d.strategy settings s locator dialect)

def eventReport (style : Style) (events : List Event) : Report :=
  .result style (.array (events.map Wire.ofEvent)) (events.flatMap eventLines)

def scanOutcome (style : Style) (cases : List TestCase) (format : ExportFormat)
    (output : Option String) : Outcome :=
  let format := if style.json then .json else format
  let text := format.render cases
  let notes :=
    if cases.isEmpty then style.warning "no test cases suggested for this page" else []
  match output with
  | none => .done ⟨0, [text], notes⟩
  | some path =>
    let success := style.success ("wrote " ++ toString cases.length ++ " case(s) as " ++
      format.name ++ " to " ++ path)
    .write path text ⟨0, [], notes ++ success⟩ (.failed notes .output)

def Task.run (services : Services) (read : String → Option String) (style : Style)
    (settings : Settings) : Task → Except Failure Outcome
  | .locate fixture target chosen => do
    let d ← loadFixture read fixture
    let s ← d.target target
    let chosen := if chosen.isEmpty then settings.previewDialects else chosen
    let finding := d.finding settings s chosen
    .ok (.done (.result style (Wire.ofFinding finding) (findingLines finding)))
  | .snippet locator dialect verb page => do
    let text ← snippetText read settings locator dialect verb page
    if text = "" && ! style.json then
      .ok (.done ⟨0, [], style.warning "empty locator renders no snippet"⟩)
    else .ok (.done (.result style (Wire.ofSnippet dialect verb text) [text]))
  | .dialects => .ok (.done (.result style Wire.catalogue dialectLines))
  | .pick fixture hovers click => do
    let d ← loadFixture read fixture
    let events ← Replay.pick settings d hovers click
    .ok (.done (eventReport style events))
  | .preview fixture hovers burst => do
    let d ← loadFixture read fixture
    let events ← Replay.preview settings d hovers burst
    let success := style.success
      (toString events.length ++ " frame(s) from " ++ toString hovers.length ++ " move(s)")
    .ok (.done { eventReport style events with notes := if style.json then [] else success })
  | .scan fixture format output => do
    let d ← loadFixture read fixture
    .ok (scanOutcome style (d.scan settings services.isExternal) format output)

def Task.paths : Task → List String
  | .locate fixture _ _ | .pick fixture _ _ | .preview fixture _ _ | .scan fixture _ _ => [fixture]
  | .snippet _ _ none (some (fixture, _)) => [fixture]
  | .snippet _ _ _ _ | .dialects => []

namespace Invocation

def paths (i : Invocation) : List String := i.settingsPath.toList ++ i.task.paths

/-- Settings come first, then the fixture, then its elements. -/
def run (services : Services) (read : String → Option String) (i : Invocation) : Outcome :=
  let outcome := do
    let settings ← loadSettings services read i.settingsPath
    i.task.run services read i.style settings
  match outcome with
  | .ok outcome => outcome
  | .error f => .done (.failed [] f)

end Invocation

end Pinpoint.CommandLine
