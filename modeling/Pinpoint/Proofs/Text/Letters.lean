import Mathlib
import Pinpoint.Text.Letters
import Pinpoint.Text.Lines

/-! Letters, numerals and words. Classes of characters are read off as ranges of codes, folding to
lower case settles a text, a number is the value of its digits, and a text has the characters of
its words. -/

namespace Pinpoint.Text

theorem isUpper_iff {c : Char} : c.isUpper = true ↔ 65 ≤ c.toNat ∧ c.toNat ≤ 90 := by
  simp [Char.isUpper, UInt32.le_iff_toNat_le]

theorem isLower_iff {c : Char} : c.isLower = true ↔ 97 ≤ c.toNat ∧ c.toNat ≤ 122 := by
  simp [Char.isLower, UInt32.le_iff_toNat_le]

theorem isAlphanum_iff {c : Char} : c.isAlphanum = true ↔ (48 ≤ c.toNat ∧ c.toNat ≤ 57) ∨
    (65 ≤ c.toNat ∧ c.toNat ≤ 90) ∨ (97 ≤ c.toNat ∧ c.toNat ≤ 122) := by
  simp only [Char.isAlphanum, Char.isAlpha, Bool.or_eq_true, isUpper_iff, isLower_iff,
    Char.isDigit_iff_toNat, Char.reduceToNat]
  omega

theorem isHexDigit_iff {c : Char} : isHexDigit c = true ↔ (48 ≤ c.toNat ∧ c.toNat ≤ 57) ∨
    (97 ≤ c.toNat ∧ c.toNat ≤ 102) ∨ (65 ≤ c.toNat ∧ c.toNat ≤ 70) := by
  simp only [isHexDigit, Bool.or_eq_true, Bool.and_eq_true, Char.isDigit_iff_toNat,
    decide_eq_true_eq, Char.le_def, UInt32.le_iff_toNat_le, Char.toNat_val, or_assoc]
  rfl

theorem lower_eq_self {s : String} (h : ∀ c ∈ s.toList, c.isUpper = false) : lower s = s := by
  have hs : s.toList.map Char.toLower = s.toList :=
    (List.map_congr_left fun c hc => Char.toLower_eq_of_not_isUpper (by simp [h c hc])).trans
      (List.map_id _)
  rw [lower, hs, String.ofList_toList]

@[simp] theorem lower_lower (s : String) : lower (lower s) = lower s := by
  apply lower_eq_self
  intro c hc
  simp only [lower, String.toList_ofList, List.mem_map] at hc
  obtain ⟨b, -, rfl⟩ := hc
  exact Char.isUpper_toLower_eq_false b

theorem le_toLower (c : Char) : c ≤ c.toLower := by
  by_cases hupper : c.isUpper = true
  · have hcode := isUpper_iff.mp hupper
    have hvalid : (c.toNat + 32).isValidChar := .inl (by omega)
    rw [Char.toLower_eq_of_isUpper hupper, Char.le_def, UInt32.le_iff_toNat_le, Char.toNat_val,
      Char.toNat_val, Char.toNat_ofNat, if_pos hvalid]
    omega
  · rw [Char.toLower_eq_of_not_isUpper hupper]

theorem le_lower (s : String) : s ≤ lower s := by
  rw [← String.not_lt, String.lt_iff_toList_lt, lower, String.toList_ofList]
  induction s.toList with
  | nil => exact List.not_lt_nil _
  | cons c cs ih =>
    rw [List.map_cons, List.cons_lt_cons_iff]
    rintro (hlt | ⟨-, hlt⟩)
    · exact absurd (le_toLower c) (not_le.mpr hlt)
    · exact ih hlt

theorem isBlank_of_isAlpha {c : Char} (h : c.isAlpha = true) : isBlank c = false := by
  simp only [Char.isAlpha, Bool.or_eq_true, isUpper_iff, isLower_iff] at h
  simp only [isBlank, Bool.or_eq_false_iff, Bool.and_eq_false_iff, decide_eq_false_iff_not]
  omega

theorem isBlank_toLower (c : Char) : isBlank c.toLower = isBlank c := by
  by_cases hupper : c.isUpper = true
  · have halpha : c.isAlpha = true := by simp [Char.isAlpha, hupper]
    have hlower : c.toLower.isAlpha = true := by rwa [Char.isAlpha_toLower_eq_isAlpha]
    rw [isBlank_of_isAlpha halpha, isBlank_of_isAlpha hlower]
  · rw [Char.toLower_eq_of_not_isUpper hupper]

theorem lower_trim (s : String) : lower (trim s) = trim (lower s) := by
  have hblank : isBlank ∘ Char.toLower = isBlank := funext isBlank_toLower
  simp only [lower, trim, trimEnd, trimStart, String.toList_ofList, ← List.map_reverse,
    List.dropWhile_map, hblank]

/-- Tags and attribute names as they are usually written. -/
def isPlain (s : String) : Bool :=
  s.toList.head?.any Char.isLower &&
    s.toList.all fun c => c.isLower || c.isDigit || c = '-' || c = '_'

theorem lower_of_isPlain {s : String} (h : isPlain s = true) : lower s = s := by
  apply lower_eq_self
  intro c hc
  simp only [isPlain, Bool.and_eq_true, List.all_eq_true] at h
  have hplain := h.2 c hc
  simp only [Bool.or_eq_true, decide_eq_true_eq, isLower_iff, Char.isDigit_iff_toNat,
    ← Char.toNat_inj] at hplain
  rw [Bool.eq_false_iff, ne_eq, isUpper_iff]
  simp only [Char.reduceToNat] at hplain
  omega

theorem hexDigitValue_digitChar {n : Nat} (hn : n < 16) : hexDigitValue n.digitChar = n := by
  match n with
  | 0 | 1 | 2 | 3 | 4 | 5 | 6 | 7 | 8 | 9 | 10 | 11 | 12 | 13 | 14 | 15 => rfl
  | n + 16 => omega

theorem isHexDigit_digitChar {n : Nat} (hn : n < 16) : isHexDigit n.digitChar = true := by
  match n with
  | 0 | 1 | 2 | 3 | 4 | 5 | 6 | 7 | 8 | 9 | 10 | 11 | 12 | 13 | 14 | 15 => rfl
  | n + 16 => omega

theorem digitsValue_append_singleton (base : Nat) (cs : List Char) (c : Char) :
    digitsValue base (cs ++ [c]) = digitsValue base cs * base + hexDigitValue c := by
  simp [digitsValue]

theorem digitsValue_toDigits {base : Nat} (hb : 1 < base) (hb' : base ≤ 16) (n : Nat) :
    digitsValue base (Nat.toDigits base n) = n := by
  induction n using Nat.strongRecOn with
  | ind n ih =>
    rw [Nat.toDigits_eq_if hb]
    split
    · simp [digitsValue, hexDigitValue_digitChar (show n < 16 by omega)]
    · have hlt : n / base < n := Nat.div_lt_self (by omega) hb
      have hmod : n % base < base := Nat.mod_lt _ (by omega)
      rw [digitsValue_append_singleton, ih _ hlt, hexDigitValue_digitChar (by omega),
        Nat.div_add_mod']

theorem isHexDigit_of_mem_toDigits {n : Nat} {c : Char} (hc : c ∈ Nat.toDigits 16 n) :
    isHexDigit c = true := by
  induction n using Nat.strongRecOn with
  | ind n ih =>
    rw [Nat.toDigits_eq_if (by decide)] at hc
    split at hc
    · rw [List.mem_singleton.mp hc]
      exact isHexDigit_digitChar ‹_›
    · rcases List.mem_append.mp hc with hc | hc
      · exact ih _ (Nat.div_lt_self (by omega) (by decide)) hc
      · rw [List.mem_singleton.mp hc]
        exact isHexDigit_digitChar (Nat.mod_lt _ (by decide))

theorem charOfCode?_toNat (c : Char) : charOfCode? c.toNat = some c := by
  have hv := c.valid
  simp only [UInt32.isValidChar, Nat.isValidChar] at hv
  rw [charOfCode?, if_pos (by simp only [Char.toNat]; omega), Char.ofNat_toNat]

theorem ne_empty_of_mem_words {s w : String} (h : w ∈ words s) : w ≠ "" := by
  simp only [words, List.mem_map, List.mem_filter] at h
  obtain ⟨cs, ⟨-, hcs⟩, rfl⟩ := h
  intro hw
  rw [String.ofList_eq_empty_iff] at hw
  simp [hw] at hcs

theorem mem_of_mem_wordsStep {cs w : List Char} (h : w ∈ cs.foldr wordsStep [])
    {c : Char} (hc : c ∈ w) : c ∈ cs := by
  induction cs generalizing w with
  | nil => simp at h
  | cons b cs ih =>
    rw [List.foldr_cons] at h
    unfold wordsStep at h
    split at h
    · split at h
      · simp_all
      · simp_all
    · rename_i v ws heq
      have hv : ∀ u ∈ v :: ws, c ∈ u → c ∈ cs := fun u hu hcu => ih (heq ▸ hu) hcu
      split at h
      · rcases List.mem_cons.mp h with rfl | h
        · simp at hc
        · exact List.mem_cons_of_mem _ (hv w h hc)
      · rcases List.mem_cons.mp h with rfl | h
        · rcases List.mem_cons.mp hc with rfl | hc
          · exact List.mem_cons_self
          · exact List.mem_cons_of_mem _ (hv v List.mem_cons_self hc)
        · exact List.mem_cons_of_mem _ (hv w (List.mem_cons_of_mem _ h) hc)

theorem mem_of_mem_words {s w : String} (h : w ∈ words s) {c : Char} (hc : c ∈ w.toList) :
    c ∈ s.toList := by
  simp only [words, List.mem_map, List.mem_filter] at h
  obtain ⟨cs, ⟨hcs, -⟩, rfl⟩ := h
  rw [String.toList_ofList] at hc
  exact mem_of_mem_wordsStep hcs hc

end Pinpoint.Text
