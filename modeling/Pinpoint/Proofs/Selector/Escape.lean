import Pinpoint.Proofs.Text.Letters
import Pinpoint.Selector.Basic
import Pinpoint.Selector.Parser

/-! Escaped texts are read back. Identifiers and quoted strings undo escapes in the same way, so
the round trip is stated once, for any reader that takes escapes and the characters of names. -/

namespace Pinpoint.Selector

theorem isNameChar_iff {c : Char} : isNameChar c = true ↔ (48 ≤ c.toNat ∧ c.toNat ≤ 57) ∨
    (65 ≤ c.toNat ∧ c.toNat ≤ 90) ∨ (97 ≤ c.toNat ∧ c.toNat ≤ 122) ∨ c.toNat = 95 ∨
    c.toNat = 45 ∨ 128 ≤ c.toNat := by
  simp only [isNameChar, Text.isAscii, Bool.or_eq_true, Text.isAlphanum_iff, decide_eq_true_eq,
    Bool.not_eq_true', decide_eq_false_iff_not, ← Char.toNat_inj, Char.reduceToNat]
  omega

/-- The null character has no escape: what is written for it reads as U+FFFD. -/
def softenedChar (c : Char) : Char := if c = '\x00' then '\uFFFD' else c

def softened (s : String) : String := String.ofList (s.toList.map softenedChar)

theorem softened_eq_self {s : String} (h : '\x00' ∉ s.toList) : softened s = s := by
  have hs : s.toList.map softenedChar = s.toList := by
    refine (List.map_congr_left fun c hc => if_neg ?_).trans (List.map_id _)
    rintro rfl
    exact h hc
  rw [softened, hs, String.ofList_toList]

theorem charOfEscape_toDigits (c : Char) :
    charOfEscape (Nat.toDigits 16 c.toNat) = softenedChar c := by
  simp only [charOfEscape, Text.digitsValue_toDigits (by decide : 1 < 16) (by decide),
    Text.charOfCode?_toNat, softenedChar]

theorem length_toDigits_le (c : Char) : (Nat.toDigits 16 c.toNat).length ≤ 6 := by
  have hv := c.valid
  simp only [UInt32.isValidChar, Nat.isValidChar] at hv
  rw [Nat.length_toDigits_le_iff (by decide) (by decide)]
  simp only [Char.toNat]
  omega

theorem leadingHexDigits_append {n : Nat} {ds rest : List Char}
    (hd : ∀ c ∈ ds, Text.isHexDigit c = true) (hn : ds.length ≤ n)
    (hrest : ds.length = n ∨ ∀ c ∈ rest.head?, Text.isHexDigit c = false) :
    leadingHexDigits n (ds ++ rest) = ds := by
  induction ds generalizing n with
  | nil =>
    rcases hrest with rfl | hrest
    · rfl
    · cases n with
      | zero => rfl
      | succ n =>
        cases rest with
        | nil => rfl
        | cons c rest =>
          have hc : Text.isHexDigit c = false := hrest c rfl
          rw [List.nil_append, leadingHexDigits, if_neg (by simp [hc])]
  | cons d ds ih =>
    cases n with
    | zero => simp at hn
    | succ n =>
      have hds := ih (fun c hc => hd c (List.mem_cons_of_mem _ hc)) (Nat.le_of_succ_le_succ hn)
        (hrest.imp_left Nat.succ.inj)
      rw [List.cons_append, leadingHexDigits, if_pos (hd d List.mem_cons_self), hds]

/-- The blank behind the digits is part of the escape, whatever follows it. -/
theorem readEscape_toDigits (c : Char) (rest : List Char) :
    readEscape (Nat.toDigits 16 c.toNat ++ ' ' :: rest) = .ok (softenedChar c, rest) := by
  have hlen := length_toDigits_le c
  have hhex : ∀ d ∈ Nat.toDigits 16 c.toNat, Text.isHexDigit d = true :=
    fun d => Text.isHexDigit_of_mem_toDigits
  have hval := charOfEscape_toDigits c
  cases hds : Nat.toDigits 16 c.toNat with
  | nil => exact absurd hds Nat.toDigits_ne_nil
  | cons d ds =>
    rw [hds] at hlen hhex hval
    have hlead : leadingHexDigits 5 (ds ++ ' ' :: rest) = ds :=
      leadingHexDigits_append (fun c hc => hhex c (List.mem_cons_of_mem _ hc))
        (Nat.le_of_succ_le_succ hlen) (.inr (by rintro c ⟨⟩; decide))
    rw [List.cons_append, readEscape, if_pos (hhex d List.mem_cons_self)]
    simp only [hlead, hval, List.drop_left]
    rfl

theorem readEscape_of_not_isHexDigit {c : Char} (hc : Text.isHexDigit c = false)
    (rest : List Char) : readEscape (c :: rest) = .ok (c, rest) := by
  simp [readEscape, hc]

/-- Puts characters in front of what was read. -/
def withFront (xs : List Char) (r : List Char × List Char) : List Char × List Char :=
  (xs ++ r.1, r.2)

@[simp] theorem map_withFront_nil (r : Reading (List Char)) : r.map (withFront []) = r := by
  cases r <;> rfl

@[simp] theorem map_withFront_withFront (xs ys : List Char) (r : Reading (List Char)) :
    (r.map (withFront ys)).map (withFront xs) = r.map (withFront (xs ++ ys)) := by
  cases r with
  | error => rfl
  | ok r => simp [Except.map, withFront]

@[simp] theorem map_withFront_ok (xs ys rest : List Char) :
    (Except.ok (ys, rest) : Reading (List Char)).map (withFront xs) = .ok (xs ++ ys, rest) := rfl

structure Unescapes (read : List Char → Reading (List Char)) : Prop where
  name_char : ∀ c rest, isNameChar c = true → read (c :: rest) = (read rest).map (withFront [c])
  escaped : ∀ cs x rest, readEscape cs = .ok (x, rest) →
    read ('\\' :: cs) = (read rest).map (withFront [x])

section Unescapes

variable {read : List Char → Reading (List Char)}

theorem Unescapes.read_names (h : Unescapes read) {xs : List Char}
    (hxs : ∀ c ∈ xs, isNameChar c = true) (rest : List Char) :
    read (xs ++ rest) = (read rest).map (withFront xs) := by
  induction xs with
  | nil => simp
  | cons c xs ih =>
    rw [List.cons_append, h.name_char c _ (hxs c List.mem_cons_self),
      ih fun d hd => hxs d (List.mem_cons_of_mem _ hd), map_withFront_withFront]
    rfl

theorem Unescapes.read_hexEscape (h : Unescapes read) (c : Char) (rest : List Char) :
    read (hexEscape c ++ rest) = (read rest).map (withFront [softenedChar c]) := by
  have hr := h.escaped _ _ _ (readEscape_toDigits c rest)
  simpa [hexEscape] using hr

theorem Unescapes.read_escapeChar (h : Unescapes read) (c : Char) (rest : List Char) :
    read (escapeChar c ++ rest) = (read rest).map (withFront [softenedChar c]) := by
  unfold escapeChar
  split
  · exact h.read_hexEscape c rest
  · rename_i hctrl
    have hne : c ≠ '\x00' := by
      rintro rfl
      exact hctrl (by decide)
    rw [softenedChar, if_neg hne]
    split
    · rename_i hname
      apply h.name_char
      simp only [Bool.or_eq_true, decide_eq_true_eq] at hname
      rcases hname with (hname | rfl) | rfl
      · simp [isNameChar, hname]
      · decide
      · decide
    · rename_i hname
      apply h.escaped
      apply readEscape_of_not_isHexDigit
      rw [Bool.eq_false_iff, ne_eq, Text.isHexDigit_iff]
      simp only [Bool.or_eq_true, Text.isAlphanum_iff] at hname
      omega

theorem Unescapes.read_escapeLeading (h : Unescapes read) (c : Char) (rest : List Char) :
    read (escapeLeading c ++ rest) = (read rest).map (withFront [softenedChar c]) := by
  unfold escapeLeading
  split
  · exact h.read_hexEscape c rest
  · exact h.read_escapeChar c rest

theorem Unescapes.read_flatMap_escapeChar (h : Unescapes read) (cs rest : List Char) :
    read (cs.flatMap escapeChar ++ rest) = (read rest).map (withFront (cs.map softenedChar)) := by
  induction cs with
  | nil => simp
  | cons c cs ih =>
    rw [List.flatMap_cons, List.append_assoc, h.read_escapeChar, ih, map_withFront_withFront]
    rfl

/-- An escaped text is read back up to null characters, and the reader goes on behind it. -/
theorem Unescapes.read_escapeChars (h : Unescapes read) (cs rest : List Char) :
    read (escapeChars cs ++ rest) = (read rest).map (withFront (cs.map softenedChar)) := by
  unfold escapeChars
  split
  · simp
  · exact h.escaped _ _ _ (readEscape_of_not_isHexDigit (by decide) rest)
  · rename_i c cs _
    rw [List.append_assoc, List.cons_append, h.name_char _ _ (by decide), h.read_escapeLeading,
      h.read_flatMap_escapeChar, map_withFront_withFront, map_withFront_withFront]
    rfl
  · rename_i c cs _ _
    rw [List.append_assoc, h.read_escapeLeading, h.read_flatMap_escapeChar,
      map_withFront_withFront]
    rfl

end Unescapes

theorem readName_nil : readName [] = .ok ([], []) := by rw [readName]

theorem readName_cons (c : Char) (cs : List Char) :
    readName (c :: cs) =
      if c = '\\' then
        match readEscape cs with
        | .error e => .error e
        | .ok (x, rest) => (readName rest).map (withFront [x])
      else if isNameChar c then (readName cs).map (withFront [c])
      else .ok ([], c :: cs) := by
  rw [readName]
  congr 1
  split
  · rename_i he
    rw [he]
  · rename_i he
    simp only [he]
    rfl

theorem unescapes_readName : Unescapes readName where
  name_char c rest hc := by
    have hne : c ≠ '\\' := by
      rintro rfl
      exact absurd hc (by decide)
    rw [readName_cons, if_neg hne, if_pos hc]
  escaped cs x rest hr := by rw [readName_cons, if_pos rfl, hr]

theorem readQuoted_cons (quote c : Char) (cs : List Char) :
    readQuoted quote (c :: cs) =
      if c = quote then .ok ([], cs)
      else if c = '\\' then
        match readEscape cs with
        | .error e => .error e
        | .ok (x, rest) => (readQuoted quote rest).map (withFront [x])
      else (readQuoted quote cs).map (withFront [c]) := by
  rw [readQuoted]
  congr 2
  split
  · rename_i he
    rw [he]
  · rename_i he
    simp only [he]
    rfl

theorem unescapes_readQuoted {quote : Char} (hq : isNameChar quote = false)
    (hq' : quote ≠ '\\') : Unescapes (readQuoted quote) where
  name_char c rest hc := by
    have hquote : c ≠ quote := by
      rintro rfl
      rw [hq] at hc
      cases hc
    have hne : c ≠ '\\' := by
      rintro rfl
      exact absurd hc (by decide)
    rw [readQuoted_cons, if_neg hquote, if_neg hne]
  escaped cs x rest hr := by rw [readQuoted_cons, if_neg (Ne.symm hq'), if_pos rfl, hr]

def EndsName (rest : List Char) : Prop := readName rest = .ok ([], rest)

theorem endsName_nil : EndsName [] := readName_nil

theorem endsName_cons {c : Char} (hc : isNameChar c = false) (hne : c ≠ '\\')
    (rest : List Char) : EndsName (c :: rest) := by
  rw [EndsName, readName_cons, if_neg hne, if_neg (by simp [hc])]

theorem readIdentifier_of_readName {cs xs rest : List Char} (hxs : xs ≠ [])
    (h : readName cs = .ok (xs, rest)) :
    readIdentifier cs = .ok (String.ofList xs, rest) := by
  cases xs with
  | nil => exact absurd rfl hxs
  | cons x xs => simp only [readIdentifier, h]

theorem readIdentifier_names {xs rest : List Char} (hne : xs ≠ [])
    (hxs : ∀ c ∈ xs, isNameChar c = true) (hr : EndsName rest) :
    readIdentifier (xs ++ rest) = .ok (String.ofList xs, rest) := by
  apply readIdentifier_of_readName hne
  rw [unescapes_readName.read_names hxs, hr, map_withFront_ok, List.append_nil]

theorem readIdentifier_escape {s : String} {rest : List Char} (hs : s ≠ "")
    (hr : EndsName rest) :
    readIdentifier ((escape s).toList ++ rest) = .ok (softened s, rest) := by
  apply readIdentifier_of_readName (by simpa using hs)
  rw [escape, String.toList_ofList, unescapes_readName.read_escapeChars, hr, map_withFront_ok,
    List.append_nil]

theorem readQuoted_escape {quote : Char} (hq : isNameChar quote = false) (hq' : quote ≠ '\\')
    (s : String) (rest : List Char) :
    readQuoted quote ((escape s).toList ++ quote :: rest)
      = .ok ((softened s).toList, rest) := by
  have hend : readQuoted quote (quote :: rest) = .ok ([], rest) := by
    rw [readQuoted_cons, if_pos rfl]
  rw [escape, String.toList_ofList, (unescapes_readQuoted hq hq').read_escapeChars, hend,
    map_withFront_ok, List.append_nil, softened, String.toList_ofList]

/-- The characters behind a name that the next token begins with: an ASCII character that is
neither part of a name nor the start of an escape. -/
theorem endsName_of_head? {rest : List Char}
    (hrest : ∀ c ∈ rest.head?, Text.isAscii c = true ∧ c.isAlphanum = false ∧
      c ≠ '_' ∧ c ≠ '-' ∧ c ≠ '\\') : EndsName rest := by
  cases rest with
  | nil => exact endsName_nil
  | cons c rest =>
    obtain ⟨hascii, halnum, hunder, hhyphen, hbackslash⟩ := hrest c rfl
    exact endsName_cons (by simp [isNameChar, *]) hbackslash rest

/-- What is escaped is read back wherever it stands, up to null characters: between quotes of
either kind the reader stops right behind the closing quote, and as an identifier, where the empty
text has no spelling, it stops at the first character that is no part of a name. -/
theorem escape_read_back (s : String) (rest : List Char) :
    (∀ quote, quote = '"' ∨ quote = '\'' →
      readQuoted quote ((escape s).toList ++ quote :: rest) = .ok ((softened s).toList, rest)) ∧
    (s ≠ "" →
      (∀ c ∈ rest.head?, Text.isAscii c = true ∧ c.isAlphanum = false ∧
        c ≠ '_' ∧ c ≠ '-' ∧ c ≠ '\\') →
      readIdentifier ((escape s).toList ++ rest) = .ok (softened s, rest)) := by
  constructor
  · intro quote hquote
    have hmark : isNameChar quote = false ∧ quote ≠ '\\' := by
      rcases hquote with rfl | rfl <;> decide
    exact readQuoted_escape hmark.1 hmark.2 s rest
  · intro hs hrest
    exact readIdentifier_escape hs (endsName_of_head? hrest)

/-- A digit behind a hyphen, a null character and a line feed are escaped by their codes. -/
theorem escape_read_back_hyphenDigit :
    let s := "-1\x00\n é"
    let rest := "] > b".toList
    escape s = "-\\31 \\0 \\a \\ \\é" ∧
      readQuoted '"' ((escape s).toList ++ '"' :: rest) = .ok ("-1\uFFFD\n é".toList, rest) ∧
      readIdentifier ((escape s).toList ++ rest) = .ok ("-1\uFFFD\n é", rest) := by
  intro s rest
  obtain ⟨hquoted, hname⟩ := escape_read_back s rest
  have hsoftened : softened s = "-1\uFFFD\n é" := by decide
  rw [hsoftened] at hquoted hname
  have hrest : ∀ c ∈ rest.head?, Text.isAscii c = true ∧ c.isAlphanum = false ∧
      c ≠ '_' ∧ c ≠ '-' ∧ c ≠ '\\' := by
    rintro c ⟨⟩
    decide
  exact ⟨by decide +kernel, hquoted '"' (.inl rfl), hname (by decide) hrest⟩

end Pinpoint.Selector
