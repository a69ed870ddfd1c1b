import Pinpoint.Json.Decode
import Pinpoint.Json.Printer
import Pinpoint.Json.Reader

/-! Strings as JSON texts. A printed string is read back as it was, whatever is in it and whatever
comes behind it, and no line ends in it; so lists of strings are read back as well. -/

namespace Pinpoint.Json

/-! Characters -/

/-- A control character as two hexadecimal digits. -/
theorem paddedHexText_control {n : Nat} (h : n < 32) :
    ∃ a b, (Text.paddedHexText 2 n).toList = [a, b] ∧
      ['0', '0', a, b].all Text.isHexDigit = true ∧ Text.digitsValue 16 ['0', '0', a, b] = n := by
  have hall : ∀ n < 32, (Text.paddedHexText 2 n).toList.length = 2 ∧
      ('0' :: '0' :: (Text.paddedHexText 2 n).toList).all Text.isHexDigit = true ∧
      Text.digitsValue 16 ('0' :: '0' :: (Text.paddedHexText 2 n).toList) = n := by decide
  obtain ⟨hlength, hdigits, hvalue⟩ := hall n h
  match hcs : (Text.paddedHexText 2 n).toList, hlength with
  | [a, b], _ =>
    rw [hcs] at hdigits hvalue
    exact ⟨a, b, rfl, hdigits, hvalue⟩

/-- The three ways in which a character is written: with a letter, by its code, or as it is. -/
theorem escapeChar_cases (c : Char) :
    (∃ letter, escapeChar c = ['\\', letter] ∧ escaped? letter = some c) ∨
    (∃ a b, escapeChar c = ['\\', 'u', '0', '0', a, b] ∧ c.toNat < 32 ∧
      ['0', '0', a, b].all Text.isHexDigit = true ∧
      Text.digitsValue 16 ['0', '0', a, b] = c.toNat) ∨
    (escapeChar c = [c] ∧ c ≠ '"' ∧ c ≠ '\\' ∧ 32 ≤ c.toNat) := by
  by_cases hcode : c.toNat < 32
  · by_cases hletter : c ∈ ['\n', '\r', '\t', '\x08', '\x0c']
    · simp only [List.mem_cons, List.not_mem_nil, or_false] at hletter
      rcases hletter with rfl | rfl | rfl | rfl | rfl <;> exact .inl ⟨_, rfl, rfl⟩
    · obtain ⟨a, b, hab, hdigits, hvalue⟩ := paddedHexText_control hcode
      refine .inr (.inl ⟨a, b, ?_, hcode, hdigits, hvalue⟩)
      have hquote : c ≠ '"' := by rintro rfl; exact absurd hcode (by decide)
      have hslash : c ≠ '\\' := by rintro rfl; exact absurd hcode (by decide)
      simp only [List.mem_cons, List.not_mem_nil, or_false, not_or] at hletter
      simp only [escapeChar, hquote, hslash, hletter, hcode, if_true, if_false, hab]
      rfl
  · by_cases hquote : c = '"'
    · subst hquote
      exact .inl ⟨_, rfl, rfl⟩
    by_cases hslash : c = '\\'
    · subst hslash
      exact .inl ⟨_, rfl, rfl⟩
    refine .inr (.inr ⟨?_, hquote, hslash, Nat.le_of_not_lt hcode⟩)
    have hne : ∀ d : Char, d.toNat < 32 → c ≠ d := by
      rintro d hd rfl
      exact hcode hd
    simp only [escapeChar, hquote, hslash, hcode, hne '\n' (by decide), hne '\r' (by decide),
      hne '\t' (by decide), hne '\x08' (by decide), hne '\x0c' (by decide), if_false]

/-- A character is written as one unit, from which it is joined again. -/
theorem exists_unit (c : Char) : ∃ unit,
    (∀ rest, readUnits (escapeChar c ++ rest) =
      (readUnits rest).map fun (units, rest) => (unit :: units, rest)) ∧
    ∀ units, joinUnits (unit :: units) = (joinUnits units).map (c :: ·) := by
  obtain ⟨letter, hwritten, hletter⟩ | ⟨a, b, hwritten, hcode, hdigits, hvalue⟩ |
    ⟨hwritten, hquote, hslash, hcode⟩ := escapeChar_cases c
  · refine ⟨.inl c, fun rest => ?_, fun units => ?_⟩
    · have hne : letter ≠ 'u' := by rintro rfl; cases hletter
      rw [hwritten]
      simp [readUnits, hne, hletter]
    · rw [joinUnits]
  · refine ⟨.inr c.toNat, fun rest => ?_, fun units => ?_⟩
    · rw [hwritten]
      simp only [List.cons_append, List.nil_append, readUnits, hdigits, if_true, hvalue]
    · have hhigh : isHighSurrogate c.toNat = false := by simp [isHighSurrogate]; omega
      have hlow : isLowSurrogate c.toNat = false := by simp [isLowSurrogate]; omega
      cases units with
      | nil => simp [joinUnits, hhigh, hlow]
      | cons unit units =>
        cases unit <;> simp [joinUnits, hhigh, hlow]
  · refine ⟨.inl c, fun rest => ?_, fun units => ?_⟩
    · rw [hwritten]
      simp [readUnits, hslash, Nat.not_lt.mpr hcode]
    · rw [joinUnits]

theorem newline_not_mem_escapeChar (c : Char) : '\n' ∉ escapeChar c := by
  obtain ⟨letter, hwritten, hletter⟩ | ⟨a, b, hwritten, -, hdigits, -⟩ | ⟨hwritten, -, -, hcode⟩ :=
    escapeChar_cases c
  · have hne : letter ≠ '\n' := by rintro rfl; cases hletter
    simp [hwritten, hne.symm]
  · rw [hwritten, List.mem_cons, List.mem_cons]
    rintro (h | h | h)
    · exact absurd h (by decide)
    · exact absurd h (by decide)
    · exact absurd (List.all_eq_true.mp hdigits '\n' h) (by decide)
  · have hne : c ≠ '\n' := by rintro rfl; exact absurd hcode (by decide)
    simp [hwritten, hne.symm]

/-! Strings -/

theorem exists_units (cs : List Char) : ∃ units,
    (∀ rest, readUnits (cs.flatMap escapeChar ++ '"' :: rest) = some (units, rest)) ∧
    joinUnits units = some cs := by
  induction cs with
  | nil => exact ⟨[], fun rest => rfl, rfl⟩
  | cons c cs ih =>
    obtain ⟨units, hread, hjoin⟩ := ih
    obtain ⟨unit, hunit, hchar⟩ := exists_unit c
    refine ⟨unit :: units, fun rest => ?_, ?_⟩
    · rw [List.flatMap_cons, List.append_assoc, hunit, hread]
      rfl
    · rw [hchar, hjoin]
      rfl

theorem toList_stringText (s : String) :
    (stringText s).toList = '"' :: (s.toList.flatMap escapeChar ++ ['"']) := by
  simp [stringText, Text.expand]

theorem readString_stringText (s : String) (rest : List Char) :
    readString (s.toList.flatMap escapeChar ++ '"' :: rest) = some (some s, rest) := by
  obtain ⟨units, hread, hjoin⟩ := exists_units s.toList
  rw [readString, hread]
  simp [hjoin]

theorem newline_not_mem_stringText (s : String) : '\n' ∉ (stringText s).toList := by
  simp [toList_stringText, newline_not_mem_escapeChar]

/-! Values -/

theorem readValue_stringText (fuel : Nat) (s : String) (rest : List Char) :
    readValue (fuel + 1) ((stringText s).toList ++ rest) = some (.string s, rest) := by
  have hstart : skipSpace ((stringText s).toList ++ rest) =
      '"' :: (s.toList.flatMap escapeChar ++ '"' :: rest) := by
    rw [toList_stringText, List.cons_append, List.append_assoc]
    rfl
  rw [readValue, hstart]
  simp only [readString_stringText]
  rfl

def listText (texts : List String) : String := ",".intercalate (texts.map stringText)

theorem toList_listText_cons (s : String) {texts : List String} (h : texts ≠ []) :
    (listText (s :: texts)).toList = (stringText s).toList ++ ',' :: (listText texts).toList := by
  have hmap : texts.map stringText ≠ [] := by simpa using h
  rw [listText, List.map_cons, String.intercalate_cons_of_ne_nil hmap, listText]
  simp

theorem newline_not_mem_listText (texts : List String) : '\n' ∉ (listText texts).toList := by
  induction texts with
  | nil => exact List.not_mem_nil
  | cons s texts ih =>
    have hs := newline_not_mem_stringText s
    cases texts with
    | nil => simpa [listText] using hs
    | cons t texts =>
      rw [toList_listText_cons s (List.cons_ne_nil _ _), List.mem_append, List.mem_cons]
      rintro (h | h | h)
      · exact hs h
      · exact absurd h (by decide)
      · exact ih h

/-- One or more strings up to the closing bracket are read with fuel for each of them. -/
theorem readItems_listText {texts : List String} (hne : texts ≠ []) {fuel : Nat}
    (hfuel : texts.length < fuel) (rest : List Char) :
    readItems fuel ((listText texts).toList ++ ']' :: rest) = some (texts.map .string, rest) := by
  induction texts generalizing fuel with
  | nil => exact absurd rfl hne
  | cons s texts ih =>
    rw [List.length_cons] at hfuel
    obtain ⟨fuel, rfl⟩ : ∃ n, fuel = n + 2 := ⟨fuel - 2, by omega⟩
    cases texts with
    | nil =>
      have hsingle : listText [s] = stringText s := by simp [listText]
      rw [hsingle, readItems, readValue_stringText]
      rfl
    | cons t texts =>
      have hless : (t :: texts).length < fuel + 1 := by omega
      have hnext := ih (List.cons_ne_nil t texts) hless
      rw [toList_listText_cons s (List.cons_ne_nil _ _), List.append_assoc, readItems,
        readValue_stringText]
      simp [skipSpace, isSpace, hnext]

theorem exists_listText_eq (s : String) (texts : List String) :
    ∃ cs, (listText (s :: texts)).toList = '"' :: cs := by
  have hstart := toList_stringText s
  cases texts with
  | nil => exact ⟨_, by simpa [listText] using hstart⟩
  | cons t texts => exact ⟨_, by rw [toList_listText_cons s (List.cons_ne_nil _ _), hstart]; rfl⟩

theorem length_le_length_listText (texts : List String) :
    texts.length ≤ (listText texts).toList.length := by
  induction texts with
  | nil => exact Nat.zero_le _
  | cons s texts ih =>
    cases texts with
    | nil =>
      obtain ⟨cs, hcs⟩ := exists_listText_eq s []
      rw [hcs]
      exact Nat.le_add_left _ _
    | cons t texts =>
      rw [toList_listText_cons s (List.cons_ne_nil _ _)]
      simp only [List.length_append, List.length_cons] at ih ⊢
      omega

theorem readValue_listText (texts : List String) {fuel : Nat} (hfuel : texts.length < fuel) :
    readValue (fuel + 1) ('[' :: ((listText texts).toList ++ [']'])) =
      some (Value.ofTexts texts, []) := by
  cases texts with
  | nil => rfl
  | cons s texts =>
    obtain ⟨cs, hcs⟩ := exists_listText_eq s texts
    have hitems := readItems_listText (List.cons_ne_nil s texts) hfuel []
    rw [hcs] at hitems ⊢
    have hstep : readValue (fuel + 1) ('[' :: ('"' :: cs ++ [']'])) =
        (readItems fuel ('"' :: cs ++ [']'])).map fun read => (.array read.1, read.2) := by
      rw [readValue]
      rfl
    rw [hstep, hitems]
    rfl

/-- A list of strings is read back from its text. -/
theorem parse_listText (texts : List String) :
    parse ("[" ++ listText texts ++ "]") = some (Value.ofTexts texts) := by
  have htext : ("[" ++ listText texts ++ "]").toList =
      '[' :: ((listText texts).toList ++ [']']) := by simp
  have hlength := length_le_length_listText texts
  rw [parse, htext]
  dsimp only
  rw [readValue_listText texts (by simp only [List.length_cons, List.length_append]; omega)]
  rfl

end Pinpoint.Json
