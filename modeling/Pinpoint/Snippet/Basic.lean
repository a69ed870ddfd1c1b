import Pinpoint.Text.Lines

/-! Snippets: code with string literals in it. A snippet is kept as its pieces, so that what stands
in a literal never mixes with the code around it. -/

namespace Pinpoint

/-- Code as it stands, or the text that a literal between single quotes denotes. -/
inductive Piece where
  | code (text : String)
  | literal (text : String)
  deriving DecidableEq, Repr

abbrev Snippet := List Piece

namespace Snippet

/-- Backslashes, single quotes and the four line ends are escaped. -/
def quoteChar (c : Char) : List Char :=
  if c = '\\' then ['\\', '\\']
  else if c = '\'' then ['\\', '\'']
  else if c = '\n' then ['\\', 'n']
  else if c = '\r' then ['\\', 'r']
  else if c = '\u2028' then "\\u2028".toList
  else if c = '\u2029' then "\\u2029".toList
  else [c]

def quote (s : String) : String := Text.expand quoteChar s

end Snippet

def Piece.render : Piece → String
  | .code text => text
  | .literal text => "'" ++ Snippet.quote text ++ "'"

def Snippet.render (s : Snippet) : String := String.join (s.map Piece.render)

end Pinpoint
