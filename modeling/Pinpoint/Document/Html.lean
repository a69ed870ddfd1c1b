import Pinpoint.Document.Basic
import Pinpoint.Text.Lines

/-! Elements written as HTML. -/

namespace Pinpoint.Html

def escapeTextChar : Char → List Char
  | '&' => "&amp;".toList
  | '<' => "&lt;".toList
  | '>' => "&gt;".toList
  | c => [c]

def escapeAttributeChar : Char → List Char
  | '&' => "&amp;".toList
  | '"' => "&quot;".toList
  | c => [c]

def escapeText (s : String) : String := Text.expand escapeTextChar s

def escapeAttribute (s : String) : String := Text.expand escapeAttributeChar s

/-- Elements that have no closing tag; nothing below them is written. -/
def voidTags : List String :=
  ["area", "base", "br", "col", "embed", "hr", "img", "input", "link", "meta", "source", "track",
    "wbr"]

def attributesText (attributes : Attributes) : String :=
  String.join (attributes.entries.map fun (name, value) =>
    " " ++ name ++ "=\"" ++ escapeAttribute value ++ "\"")

mutual

def ofElement : Element → String
  | ⟨_, tag, attributes, children⟩ =>
    let opening := "<" ++ tag ++ attributesText attributes ++ ">"
    if voidTags.contains tag then opening
    else opening ++ ofNodes children ++ "</" ++ tag ++ ">"

def ofNodes : List Node → String
  | [] => ""
  | .text _ content :: rest => escapeText content ++ ofNodes rest
  | .element e :: rest => ofElement e ++ ofNodes rest

end

end Pinpoint.Html
