import Pinpoint.Dialect
import Pinpoint.Export.Format
import Pinpoint.Text.Lines

/-! The commands of the program, the switches of each, and how an argument spells a switch. -/

namespace Pinpoint.CommandLine

inductive Command where
  | locate
  | snippet
  | dialects
  | pick
  | preview
  | scan
  deriving DecidableEq, Repr

abbrev Scope := Option Command

inductive Switch where
  | verbose
  | quiet
  | color
  | config
  | json
  | help
  | version
  | target
  | dialect
  | action
  | fixture
  | hover
  | click
  | burst
  | format
  | output
  deriving DecidableEq, Repr

namespace Command

def all : List Command := [locate, snippet, dialects, pick, preview, scan]

def name : Command → String
  | locate => "locate"
  | snippet => "snippet"
  | dialects => "dialects"
  | pick => "pick"
  | preview => "preview"
  | scan => "scan"

def ofName? (s : String) : Option Command := all.find? (·.name = s)

def ownSwitches : Command → List Switch
  | locate => [.target, .dialect]
  | snippet => [.dialect, .action, .fixture, .target]
  | dialects => []
  | pick => [.hover, .click]
  | preview => [.hover, .burst]
  | scan => [.format, .output]

def takesOperand (c : Command) : Bool := c ≠ dialects

theorem ofName?_name (c : Command) : ofName? c.name = some c := by
  cases c <;> decide

end Command

namespace Switch

def common : List Switch := [verbose, quiet, color, config, json, help, version]

def name : Switch → String
  | verbose => "verbose"
  | quiet => "quiet"
  | color => "color"
  | config => "config"
  | json => "json"
  | help => "help"
  | version => "version"
  | target => "target"
  | dialect => "dialect"
  | action => "action"
  | fixture => "fixture"
  | hover => "hover"
  | click => "click"
  | burst => "burst"
  | format => "format"
  | output => "output"

def letter? : Switch → Option Char
  | verbose => some 'v'
  | quiet => some 'q'
  | help => some 'h'
  | version => some 'V'
  | target => some 't'
  | dialect => some 'd'
  | action => some 'a'
  | format => some 'f'
  | output => some 'o'
  | color | config | json | fixture | hover | click | burst => none

def takesValue : Switch → Bool
  | verbose | quiet | json | help | version | burst => false
  | _ => true

def accepts : Switch → String → Bool
  | config, value | fixture, value | output, value => value ≠ ""
  | color, value => ["auto", "always", "never"].contains value
  | dialect, value => (Dialect.parse? value).isSome
  | format, value => (ExportFormat.parse? value).isSome
  | _, _ => true

end Switch

namespace Scope

def switches (scope : Scope) : List Switch :=
  Switch.common ++ (scope.map Command.ownSwitches).getD []

def ofName? (scope : Scope) (name : String) : Option Switch :=
  scope.switches.find? (·.name = name)

def ofLetter? (scope : Scope) (c : Char) : Option Switch :=
  scope.switches.find? (·.letter? = some c)

def repeats (scope : Scope) : Switch → Bool
  | .verbose | .hover => true
  | .dialect => scope = some .locate
  | _ => false

end Scope

inductive Shape where
  | word
  | terminator
  | long (name : String) (value : Option String)
  | letters (cs : List Char)
  deriving DecidableEq, Repr

def attachedValue? : List Char → Option String
  | '=' :: cs => some (String.ofList cs)
  | _ => none

/-- A dash alone is a word. -/
def Shape.ofText (s : String) : Shape :=
  match s.toList with
  | ['-', '-'] => .terminator
  | '-' :: '-' :: cs =>
    .long (String.ofList (cs.takeWhile (· ≠ '='))) (attachedValue? (cs.dropWhile (· ≠ '=')))
  | '-' :: c :: cs => .letters (c :: cs)
  | _ => .word

end Pinpoint.CommandLine
