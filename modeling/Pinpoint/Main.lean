import Pinpoint.CommandLine.Run

/-! The program. -/

namespace Pinpoint.CommandLine

def readFile (path : String) : IO (Option String) := do
  try
    let text ← IO.FS.readFile path
    return some text
  catch _ => return none

def readFiles : List String → IO (List (String × String))
  | [] => return []
  | path :: rest => do
    let text ← readFile path
    let texts ← readFiles rest
    return (text.map fun text => (path, text)).toList ++ texts

def writeFile (path text : String) : IO Bool := do
  try
    IO.FS.writeFile path text
    return true
  catch _ => return false

def perform : Outcome → IO Report
  | .done report => return report
  | .write path text written refused => do
    if ← writeFile path text then return written else return refused

def reportOf (arguments : List String) : IO Report := do
  match Invocation.ofArguments arguments with
  | .error stop => return .ofStop stop
  | .ok invocation =>
    let texts ← readFiles invocation.paths
    perform (invocation.run .standard fun path => texts.lookup path)

end Pinpoint.CommandLine

def main (arguments : List String) : IO UInt32 := do
  let report ← Pinpoint.CommandLine.reportOf arguments
  for line in report.output do IO.println line
  for line in report.notes do IO.eprintln line
  return report.status.toUInt32
