import Pinpoint.CommandLine.Level
import Pinpoint.Verb

/-! What the arguments ask for. -/

namespace Pinpoint.CommandLine

inductive Task where
  | locate (fixture : String) (target : Option String) (dialects : List Dialect)
  /-- The page is a fixture together with a target in it. -/
  | snippet (locator : String) (dialect : Dialect) (verb : Option Verb)
      (page : Option (String × Option String))
  | dialects
  | pick (fixture : String) (hovers : List String) (click : String)
  | preview (fixture : String) (hovers : List String) (burst : Bool)
  | scan (fixture : String) (format : ExportFormat) (output : Option String)
  deriving DecidableEq, Repr

/-- How results and notes are written. `symbols` sets marks in place of words before the notes. -/
structure Style where
  json : Bool
  quiet : Bool
  symbols : Bool
  deriving DecidableEq, Repr

structure Invocation where
  style : Style
  settingsPath : Option String
  task : Task
  deriving DecidableEq, Repr

def page? (l : Level) : Option (Option (String × Option String)) :=
  match l.value? .fixture, l.value? .target with
  | none, none => some none
  | none, some _ => none
  | some fixture, target => some (some (fixture, target))

def Task.ofLevel? (l : Level) : Command → Option Task
  | .locate => do
    let fixture ← l.operands.head?
    some (.locate fixture (l.value? .target) ((l.values .dialect).filterMap Dialect.parse?))
  | .snippet => do
    let locator ← l.operands.head?
    let page ← page? l
    let dialect := ((l.value? .dialect).bind Dialect.parse?).getD .playwright
    some (.snippet locator dialect ((l.value? .action).map Verb.parse) page)
  | .dialects => some .dialects
  | .pick => do
    let fixture ← l.operands.head?
    let click ← l.value? .click
    some (.pick fixture (l.values .hover) click)
  | .preview => do
    let fixture ← l.operands.head?
    if l.has .hover then some (.preview fixture (l.values .hover) (l.has .burst)) else none
  | .scan => do
    let fixture ← l.operands.head?
    let format := ((l.value? .format).bind ExportFormat.parse?).getD .markdown
    some (.scan fixture format (l.value? .output))

namespace Invocation

/-- Common switches count on either side of the command; the value nearer to the end wins. -/
def ofLevels? (before after : Level) (c : Command) : Option Invocation := do
  let has (s : Switch) := before.has s || after.has s
  let value? (s : Switch) := (after.value? s).or (before.value? s)
  let task ← Task.ofLevel? after c
  some ⟨⟨has .json, has .quiet, value? .color = some "always"⟩, value? .config, task⟩

def helpStop : List String → Stop
  | [] => .help none
  | [name] =>
    if name = "help" then .help none
    else match Command.ofName? name with
      | some c => .help (some c)
      | none => .refused
  | _ => .refused

/-- The level after the command is read to its end before the last value in front of the command
is judged. -/
def read (before : Level) : List String → Except Stop Invocation
  | [] => .error .refused
  | argument :: rest =>
    let command :=
      if before.terminated || before.waiting.isSome then none else Command.ofName? argument
    match command with
    | some c => do
      let after ← Level.ofArguments c rest
      let before ← before.settle none
      match ofLevels? before after c with
      | some invocation => .ok invocation
      | none => .error .refused
    | none =>
      if argument = "help" && ! before.terminated && before.waiting.isNone then
        .error (helpStop rest)
      else do read (← before.step none argument) rest

def ofArguments (arguments : List String) : Except Stop Invocation := read .empty arguments

end Invocation

end Pinpoint.CommandLine
