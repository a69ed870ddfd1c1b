import Pinpoint.Text.Letters

/-! Punycode: characters beyond ASCII spelled by letters and digits. Behind the last hyphen stand
numbers, each of which puts one character into the text before it. -/

namespace Pinpoint.Url.Punycode

/-- Letters count from 0, and the ten digits follow them. -/
def digit? (c : Char) : Option Nat :=
  if 'a' ≤ c && c ≤ 'z' then some (c.toNat - 97)
  else if c.isDigit then some (c.toNat - 22)
  else none

/-- A digit below it is the last one of its number. -/
def threshold (bias position : Nat) : Nat := min 26 (max 1 (position - bias))

def bound : Nat := Nat.pow 2 32

/-- Adds a number to `sum`, its lowest digit first. `weight` is what the digit at `position` counts
for; positions go by 36. -/
def readNumber? (bias position weight sum : Nat) : List Char → Option (Nat × List Char)
  | [] => none
  | c :: cs =>
    match digit? c with
    | none => none
    | some d =>
      let t := threshold bias position
      let sum := sum + d * weight
      let next := weight * (36 - t)
      if bound ≤ sum then none
      else if d < t then some (sum, cs)
      else if bound ≤ next then none
      else readNumber? bias (position + 36) next sum cs

theorem readNumber_shorter {bias position weight sum n : Nat} {cs rest : List Char}
    (h : readNumber? bias position weight sum cs = some (n, rest)) :
    rest.length < cs.length := by
  induction cs generalizing position weight sum with
  | nil => simp [readNumber?] at h
  | cons c cs ih =>
    simp only [readNumber?] at h
    split at h
    · simp at h
    · split at h
      · simp at h
      · split at h
        · simp only [Option.some.injEq, Prod.mk.injEq] at h
          simp [h.2]
        · split at h
          · simp at h
          · exact Nat.lt_succ_of_lt (ih h)

def settle (delta moved : Nat) : Nat :=
  if 455 < delta then settle (delta / 35) (moved + 36) else moved + 36 * delta / (delta + 38)
termination_by delta
decreasing_by omega

/-- The bias for the next number, after one that put a character at one of so many places. -/
def adapt (delta places : Nat) (first : Bool) : Nat :=
  let delta := if first then delta / 700 else delta / 2
  settle (delta + delta / places) 0

/-- Puts characters into a text. Their codes do not decrease: a number counts the places that are
passed over, and after the last place follows the first one for the next code. -/
def insertAll? (bias code place : Nat) (text : List Char) (cs : List Char) : Option (List Char) :=
  if cs.isEmpty then some text
  else
    match _h : readNumber? bias 36 1 place cs with
    | none => none
    | some (sum, rest) =>
      let places := text.length + 1
      let code := code + sum / places
      let index := sum % places
      match Text.charOfCode? code with
      | none => none
      | some c =>
        insertAll? (adapt (sum - place) places (place = 0)) code (index + 1)
          (text.insertIdx index c) rest
termination_by cs.length
decreasing_by exact readNumber_shorter ‹_›

/-- The ASCII characters in front of the last hyphen and the numbers behind it. A hyphen at the
beginning has nothing in front of it and separates nothing. -/
def splitBasic (cs : List Char) : List Char × List Char :=
  let numbers := (cs.reverse.takeWhile (· ≠ '-')).reverse
  let basic := cs.take (cs.length - numbers.length - 1)
  if basic.isEmpty then ([], cs) else (basic, numbers)

def decode? (cs : List Char) : Option (List Char) :=
  let (basic, numbers) := splitBasic cs
  insertAll? 72 128 0 basic numbers

end Pinpoint.Url.Punycode
