import Pinpoint.Document.Basic
import Pinpoint.Locator.Structural
import Pinpoint.Text.Lines

/-! Absolute locators: a step with a position for every level, down from the top or from the
nearest element with an identifier of its own. The literals of XPath know no escapes: a text with
both kinds of quotes has to be put together from literals. -/

namespace Pinpoint

namespace Locator

def quoted (s : String) : String := "\"" ++ s ++ "\""

def literal (s : String) : String :=
  if ! s.toList.contains '"' then quoted s
  else if ! s.toList.contains '\'' then "'" ++ s ++ "'"
  else "concat(" ++ ", '\"', ".intercalate ((Text.split '"' s).map quoted) ++ ")"

end Locator

/-- The path down to the first of the levels, the levels being listed upward, and whether it
begins at an identifier or at the document element. -/
def Document.pathTo (d : Document) : List Site → String × Bool
  | [] => ("", false)
  | level :: rest =>
    match d.uniqueId? level.element with
    | some id => ("//*[@id=" ++ Locator.literal id ++ "]", true)
    | none =>
      if rest.isEmpty then ("/" ++ level.tag, level.id = d.root.id)
      else
        let (above, anchored) := d.pathTo rest
        (above ++ "/" ++ level.tag ++ "[" ++ toString level.position ++ "]", anchored)

def Document.absolute (d : Document) (s : Site) : Locator :=
  let (value, anchored) := d.pathTo s.withAncestors
  ⟨.absolute, value, if anchored then .unique else .bestEffort⟩

end Pinpoint
