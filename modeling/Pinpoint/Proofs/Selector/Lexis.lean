import Pinpoint.Proofs.Selector.Grammar
import Pinpoint.Proofs.Selector.Written

/-! Blanks, escapes, names and values. Their readers succeed exactly where the grammar has a
beginning of the text for them, and they stop where it ends. -/

namespace Pinpoint.Selector

open Grammar (Ends)

def Accepts {α : Type} (r : Reading α) (rest : List Char) : Prop := ∃ a, r = .ok (a, rest)

section Accepts

variable {α β : Type} {rest : List Char}

theorem accepts_ok {a : α} {left : List Char} :
    Accepts (.ok (a, left)) rest ↔ left = rest := by
  constructor
  · rintro ⟨b, h⟩
    cases h
    rfl
  · rintro rfl
    exact ⟨a, rfl⟩

theorem not_accepts_error {stop : Stop} : ¬ Accepts (.error stop : Reading α) rest := by
  rintro ⟨a, ⟨⟩⟩

theorem accepts_map {f : α × List Char → β × List Char} (hf : ∀ r, (f r).2 = r.2)
    {r : Reading α} : Accepts (r.map f) rest ↔ Accepts r rest := by
  constructor
  · rintro ⟨b, h⟩
    obtain ⟨⟨a, left⟩, rfl, heq⟩ := eq_ok_of_map_eq_ok h
    have hleft : left = rest := (hf (a, left)).symm.trans (congrArg Prod.snd heq)
    exact ⟨a, by rw [hleft]⟩
  · rintro ⟨a, rfl⟩
    exact ⟨(f (a, rest)).1, congrArg Except.ok (Prod.ext rfl (hf (a, rest)))⟩

theorem accepts_bind {r : Reading α} {f : α × List Char → Except Stop (β × List Char)} :
    Accepts (r.bind f) rest ↔ ∃ a middle, r = .ok (a, middle) ∧ Accepts (f (a, middle)) rest := by
  cases r with
  | error stop =>
    constructor
    · rintro ⟨b, ⟨⟩⟩
    · rintro ⟨a, middle, ⟨⟩, -⟩
  | ok read =>
    constructor
    · intro h
      exact ⟨read.1, read.2, rfl, h⟩
    · rintro ⟨a, middle, ⟨⟩, h⟩
      exact h

end Accepts

theorem trimStart_blank {c : Char} (hc : Text.isBlank c = true) (rest : List Char) :
    Text.trimStart (c :: rest) = Text.trimStart rest := by
  rw [Text.trimStart, List.dropWhile_cons_of_pos hc, Text.trimStart]

theorem spaces_iff {text rest : List Char} :
    Grammar.Spaces text rest ↔ Text.trimStart text = rest := by
  constructor
  · intro h
    induction h with
    | @done text h =>
      cases text with
      | nil => rfl
      | cons c text => exact trimStart_cons (h c rfl) text
    | blank hc _ ih => rw [trimStart_blank hc, ih]
  · rintro rfl
    induction text with
    | nil => exact .done (by rintro c ⟨⟩)
    | cons c text ih =>
      by_cases hc : Text.isBlank c = true
      · rw [trimStart_blank hc]
        exact .blank hc ih
      · rw [Bool.not_eq_true] at hc
        rw [trimStart_cons hc]
        exact .done (by rintro c ⟨⟩; exact hc)

theorem trimStart_append {blanks : List Char} (h : ∀ c ∈ blanks, Text.isBlank c = true)
    (rest : List Char) : Text.trimStart (blanks ++ rest) = Text.trimStart rest :=
  List.dropWhile_append_of_pos h

theorem Grammar.Ends.takeWhile_append {p : Char → Bool} {run rest : List Char}
    (h : Ends p rest) (hrun : ∀ c ∈ run, p c = true) :
    (run ++ rest).takeWhile p = run ∧ (run ++ rest).dropWhile p = rest := by
  rw [List.takeWhile_append_of_pos hrun, List.dropWhile_append_of_pos hrun]
  cases rest with
  | nil => simp
  | cons c rest =>
    have hc : p c = false := h c rfl
    rw [List.takeWhile_cons_of_neg (by simp [hc]), List.dropWhile_cons_of_neg (by simp [hc]),
      List.append_nil]
    exact ⟨rfl, rfl⟩

theorem exists_blanks (text : List Char) :
    ∃ blanks, text = blanks ++ Text.trimStart text ∧ ∀ c ∈ blanks, Text.isBlank c = true := by
  refine ⟨text.takeWhile Text.isBlank, List.takeWhile_append_dropWhile.symm, ?_⟩
  intro c hc
  exact List.mem_takeWhile_imp hc

theorem oneBlank_iff {text rest : List Char} :
    Grammar.OneBlank text rest ↔ dropOneBlank text = rest := by
  constructor
  · intro h
    cases h with
    | absent h =>
      cases text with
      | nil => rfl
      | cons c text =>
        have hc : Text.isBlank c = false := h c rfl
        rw [dropOneBlank, if_neg (by simp [hc])]
    | present hc => rw [dropOneBlank, if_pos hc]
  · rintro rfl
    cases text with
    | nil => exact .absent (by rintro c ⟨⟩)
    | cons c text =>
      by_cases hc : Text.isBlank c = true
      · rw [dropOneBlank, if_pos hc]
        exact .present hc
      · rw [dropOneBlank, if_neg hc]
        exact .absent (by rintro c ⟨⟩; simpa using hc)

theorem exists_leadingHexDigits (n : Nat) (text : List Char) :
    ∃ left, text = leadingHexDigits n text ++ left ∧
      (∀ c ∈ leadingHexDigits n text, Text.isHexDigit c = true) ∧
      (leadingHexDigits n text).length ≤ n ∧
      ((leadingHexDigits n text).length = n ∨ Ends Text.isHexDigit left) := by
  induction n generalizing text with
  | zero => exact ⟨text, by simp [leadingHexDigits]⟩
  | succ n ih =>
    cases text with
    | nil => exact ⟨[], by simp [leadingHexDigits, Ends]⟩
    | cons c text =>
      by_cases hc : Text.isHexDigit c = true
      · obtain ⟨left, htext, hhex, hlen, hends⟩ := ih text
        rw [leadingHexDigits, if_pos hc]
        refine ⟨left, by rw [List.cons_append, ← htext], ?_, Nat.succ_le_succ hlen, ?_⟩
        · exact List.forall_mem_cons.mpr ⟨hc, hhex⟩
        · exact hends.imp_left (congrArg Nat.succ)
      · rw [leadingHexDigits, if_neg hc]
        refine ⟨c :: text, rfl, by simp, Nat.zero_le _, .inr ?_⟩
        rintro c ⟨⟩
        simpa using hc

theorem readEscape_eq_ok_iff {text rest : List Char} {x : Char} :
    readEscape text = .ok (x, rest) ↔ Grammar.Escape text x rest := by
  constructor
  · intro h
    cases text with
    | nil => cases h
    | cons c text =>
      by_cases hc : Text.isHexDigit c = true
      · obtain ⟨left, htext, hhex, hlen, hends⟩ := exists_leadingHexDigits 5 text
        rw [readEscape, if_pos hc] at h
        generalize leadingHexDigits 5 text = digits at h htext hhex hlen hends
        subst htext
        simp only [List.drop_left] at h
        cases h
        exact @Grammar.Escape.code (c :: digits) _ _ (List.forall_mem_cons.mpr ⟨hc, hhex⟩)
          (Nat.le_add_left _ _) (Nat.succ_le_succ hlen) (hends.imp_left (congrArg Nat.succ))
          (oneBlank_iff.mpr rfl)
      · rw [readEscape, if_neg hc] at h
        cases h
        exact .plain (by simpa using hc)
  · intro h
    cases h with
    | plain hc => exact readEscape_of_not_isHexDigit hc rest
    | @code digits text rest hhex hpos hlen hends hblank =>
      cases digits with
      | nil => simp at hpos
      | cons c digits =>
        obtain ⟨hc, hdigits⟩ := List.forall_mem_cons.mp hhex
        have hlead : leadingHexDigits 5 (digits ++ text) = digits :=
          leadingHexDigits_append hdigits (Nat.le_of_succ_le_succ hlen)
            (hends.imp_left Nat.succ.inj)
        rw [List.cons_append, readEscape, if_pos hc]
        simp only [hlead, List.drop_left, oneBlank_iff.mp hblank]

theorem readName_eq_ok_iff {text xs rest : List Char} :
    readName text = .ok (xs, rest) ↔ Grammar.Name text xs rest := by
  constructor
  · intro h
    fun_induction readName text generalizing xs rest with
    | case1 =>
      cases h
      exact .done (by rintro c ⟨⟩)
    | case2 => cases h
    | case3 text x middle hx _ ih =>
      obtain ⟨⟨ys, left⟩, hread, heq⟩ := eq_ok_of_map_eq_ok h
      cases heq
      exact .escape (readEscape_eq_ok_iff.mp hx) (ih hread)
    | case4 c text _ hc ih =>
      obtain ⟨⟨ys, left⟩, hread, heq⟩ := eq_ok_of_map_eq_ok h
      cases heq
      exact .char hc (ih hread)
    | case5 c text hne hc =>
      cases h
      exact .done (by rintro c ⟨⟩; simp [Grammar.mayGoOn, hne, hc])
  · intro h
    induction h with
    | @done text h =>
      cases text with
      | nil => exact readName_nil
      | cons c text =>
        have hc : Grammar.mayGoOn c = false := h c rfl
        simp only [Grammar.mayGoOn, Bool.or_eq_false_iff, decide_eq_false_iff_not] at hc
        exact endsName_cons hc.2 hc.1 text
    | char hc _ ih => rw [unescapes_readName.name_char _ _ hc, ih, map_withFront_ok]; rfl
    | escape hx _ ih =>
      rw [unescapes_readName.escaped _ _ _ (readEscape_eq_ok_iff.mpr hx), ih, map_withFront_ok]
      rfl

theorem readIdentifier_eq_ok_iff {text rest : List Char} {value : String} :
    readIdentifier text = .ok (value, rest) ↔ Grammar.Identifier text value rest := by
  rw [Grammar.Identifier, ← readName_eq_ok_iff, readIdentifier]
  constructor
  · intro h
    split at h
    · cases h
    · cases h
    · rename_i xs left hne hread
      cases h
      refine ⟨by rw [String.toList_ofList, hread], ?_⟩
      intro hempty
      exact hne (String.ofList_eq_empty_iff.mp hempty)
  · rintro ⟨hread, hne⟩
    rw [hread]
    split
    · rename_i heq
      cases heq
    · rename_i heq
      have hempty := congrArg Prod.fst (Except.ok.inj heq)
      exact absurd (String.toList_eq_nil_iff.mp hempty) hne
    · rename_i heq
      cases heq
      rw [String.ofList_toList]

theorem accepts_readIdentifier {text rest : List Char} :
    Accepts (readIdentifier text) rest ↔ ∃ value, Grammar.Identifier text value rest :=
  exists_congr fun _ => readIdentifier_eq_ok_iff

theorem not_identifier_of_ends {text rest : List Char} {value : String}
    (h : Ends Grammar.mayGoOn text) : ¬ Grammar.Identifier text value rest := by
  rintro ⟨hname, hne⟩
  generalize hxs : value.toList = xs at hname
  cases hname with
  | done _ => exact hne (String.toList_eq_nil_iff.mp hxs)
  | char hc _ =>
    have hend := h _ rfl
    simp [Grammar.mayGoOn, hc] at hend
  | escape _ _ =>
    have hend := h _ rfl
    simp [Grammar.mayGoOn] at hend

theorem accepts_readQuoted {quote : Char} (hquote : quote ≠ '\\') {text rest : List Char} :
    Accepts (readQuoted quote text) rest ↔ Grammar.Quoted quote text rest := by
  constructor
  · intro h
    fun_induction readQuoted quote text with
    | case1 => exact absurd h not_accepts_error
    | case2 text =>
      rw [accepts_ok] at h
      rw [h]
      exact .close
    | case3 => exact absurd h not_accepts_error
    | case4 text x middle hx _ _ ih =>
      rw [accepts_map (by intro; rfl)] at h
      exact .escape (readEscape_eq_ok_iff.mp hx) (ih h)
    | case5 c text hc hne ih =>
      rw [accepts_map (by intro; rfl)] at h
      exact .char hc hne (ih h)
  · intro h
    induction h with
    | close =>
      rw [readQuoted_cons, if_pos rfl]
      exact accepts_ok.mpr rfl
    | char hc hne _ ih =>
      rw [readQuoted_cons, if_neg hc, if_neg hne, accepts_map (by intro; rfl)]
      exact ih
    | escape hx _ ih =>
      rw [readQuoted_cons, if_neg hquote.symm, if_pos rfl, readEscape_eq_ok_iff.mpr hx]
      dsimp only
      rw [accepts_map (by intro; rfl)]
      exact ih

theorem accepts_readValue {text rest : List Char} :
    Accepts (readValue text) rest ↔ Grammar.Value text rest := by
  have hdouble : '"' ≠ '\\' := by decide
  have hsingle : '\'' ≠ '\\' := by decide
  constructor
  · intro h
    unfold readValue at h
    split at h
    · rw [accepts_map (by intro; rfl), accepts_readQuoted hdouble] at h
      exact .double h
    · rw [accepts_map (by intro; rfl), accepts_readQuoted hsingle] at h
      exact .single h
    · obtain ⟨value, hvalue⟩ := accepts_readIdentifier.mp h
      exact .identifier hvalue
  · intro h
    cases h with
    | identifier hvalue =>
      unfold readValue
      split
      · exact absurd hvalue (not_identifier_of_ends (by rintro c ⟨⟩; decide))
      · exact absurd hvalue (not_identifier_of_ends (by rintro c ⟨⟩; decide))
      · exact accepts_readIdentifier.mpr ⟨_, hvalue⟩
    | double hquoted =>
      rw [readValue, accepts_map (by intro; rfl), accepts_readQuoted hdouble]
      exact hquoted
    | single hquoted =>
      rw [readValue, accepts_map (by intro; rfl), accepts_readQuoted hsingle]
      exact hquoted

end Pinpoint.Selector
