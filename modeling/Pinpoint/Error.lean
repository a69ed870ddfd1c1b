import Pinpoint.Selector.Basic
import Pinpoint.Settings

/-! What can go wrong, and how it is said. -/

namespace Pinpoint

inductive Error where
  | selector (text : String) (fault : Selector.Fault)
  | unknownDialect (name : String)
  | unknownFormat (name : String)
  | settings (fault : Settings.Fault)
  | noActiveElement (text : String)
  | json
  | yaml
  | io
  deriving DecidableEq, Repr

/-- Faults of a text format are named without their place. -/
def Error.message : Error → String
  | .selector text fault => "Invalid selector '" ++ text ++ "': " ++ fault.text
  | .unknownDialect name => "Unknown dialect: " ++ name
  | .unknownFormat name => "Unknown export format: " ++ name
  | .settings fault => "Configuration error: " ++ fault.text
  | .noActiveElement text => "Fixture error: active selector '" ++ text ++ "' matches nothing"
  | .json => "JSON error:"
  | .yaml => "YAML error:"
  | .io => "I/O error:"

end Pinpoint
