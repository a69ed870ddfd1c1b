/-! Texts cut at white space, at a character and into lines. White space is Unicode's White_Space
property, and control characters are its category Cc. -/

namespace Pinpoint.Text

/-- The 25 characters with the property White_Space. -/
def isBlank (c : Char) : Bool :=
  let n := c.toNat
  (9 ≤ n && n ≤ 13) || n = 32 || n = 0x85 || n = 0xA0 || n = 0x1680 ||
    (0x2000 ≤ n && n ≤ 0x200A) || n = 0x2028 || n = 0x2029 || n = 0x202F || n = 0x205F ||
    n = 0x3000

/-- The 65 characters of category Cc. -/
def isControl (c : Char) : Bool :=
  let n := c.toNat
  n ≤ 0x1F || (0x7F ≤ n && n ≤ 0x9F)

def trimStart (cs : List Char) : List Char := cs.dropWhile isBlank

def trimEnd (cs : List Char) : List Char := (cs.reverse.dropWhile isBlank).reverse

def trim (s : String) : String := String.ofList (trimEnd (trimStart s.toList))

/-- Adds one character in front of the words of a text: a blank starts a new word. -/
def wordsStep (c : Char) : List (List Char) → List (List Char)
  | [] => if isBlank c then [[]] else [[c]]
  | w :: ws => if isBlank c then [] :: w :: ws else (c :: w) :: ws

def words (s : String) : List String :=
  ((s.toList.foldr wordsStep []).filter (! ·.isEmpty)).map String.ofList

/-- The pieces between occurrences of a character: always one more than it occurs. -/
def splitAtChar (sep : Char) : List Char → List (List Char)
  | [] => [[]]
  | c :: cs =>
    if c = sep then [] :: splitAtChar sep cs
    else match splitAtChar sep cs with
      | [] => [[c]]
      | p :: ps => (c :: p) :: ps

def split (sep : Char) (s : String) : List String :=
  (splitAtChar sep s.toList).map String.ofList

/-- Removes a carriage return at the end. -/
def dropReturn (cs : List Char) : List Char :=
  if cs.getLast? = some '\r' then cs.dropLast else cs

/-- The pieces that a line feed ends lose their carriage return, an empty last piece goes. -/
def closeLines : List (List Char) → List (List Char)
  | [] => []
  | [last] => if last.isEmpty then [] else [last]
  | p :: ps => dropReturn p :: closeLines ps

def lines (s : String) : List String :=
  (closeLines (splitAtChar '\n' s.toList)).map String.ofList

def expand (f : Char → List Char) (s : String) : String := String.ofList (s.toList.flatMap f)

def startsWith (s t : String) : Bool := s.toList.isPrefixOf t.toList

def take (n : Nat) (s : String) : String := String.ofList (s.toList.take n)

end Pinpoint.Text
