import Pinpoint.Proofs.Selector.Escape

/-! Selectors as they are printed: every piece is read back, and the reader stops where the piece
ends. A piece is read the same whatever follows it, as long as that cannot belong to it. -/

namespace Pinpoint.Selector

theorem trimStart_cons {c : Char} (hc : Text.isBlank c = false) (rest : List Char) :
    Text.trimStart (c :: rest) = c :: rest := by
  rw [Text.trimStart, List.dropWhile_cons_of_neg (by simp [hc])]

theorem trimStart_space (rest : List Char) :
    Text.trimStart (' ' :: rest) = Text.trimStart rest := rfl

theorem isNameChar_of_isPlain {s : String} (h : Text.isPlain s = true) :
    ∀ c ∈ s.toList, isNameChar c = true := by
  intro c hc
  simp only [Text.isPlain, Bool.and_eq_true, List.all_eq_true] at h
  have hplain := h.2 c hc
  simp only [Bool.or_eq_true, decide_eq_true_eq, Text.isLower_iff, Char.isDigit_iff_toNat,
    ← Char.toNat_inj, Char.reduceToNat] at hplain
  rw [isNameChar_iff]
  omega

theorem exists_cons_of_isPlain {s : String} (h : Text.isPlain s = true) :
    ∃ c cs, s.toList = c :: cs ∧ c.isLower = true := by
  simp only [Text.isPlain, Bool.and_eq_true] at h
  cases hs : s.toList with
  | nil => simp [hs] at h
  | cons c cs => exact ⟨c, cs, rfl, by simpa [hs] using h.1⟩

theorem isBlank_of_isLower {c : Char} (h : c.isLower = true) : Text.isBlank c = false :=
  Text.isBlank_of_isAlpha (by simp [Char.isAlpha, h])

theorem isBlank_of_isDigit {c : Char} (h : c.isDigit = true) : Text.isBlank c = false := by
  simp only [Char.isDigit_iff_toNat, Char.reduceToNat] at h
  simp only [Text.isBlank, Bool.or_eq_false_iff, Bool.and_eq_false_iff, decide_eq_false_iff_not]
  omega

/-- A text that is read as an identifier as it stands, also behind blanks. -/
def isName (s : String) : Bool :=
  s.toList.head?.any (! Text.isBlank ·) && s.toList.all isNameChar

def isTagName (s : String) : Bool := isName s && s.toList.head?.any isNameStart

theorem isName_of_isPlain {s : String} (h : Text.isPlain s = true) : isName s = true := by
  obtain ⟨c, cs, hc, hlow⟩ := exists_cons_of_isPlain h
  have hall := isNameChar_of_isPlain h
  simp only [isName, hc, Bool.and_eq_true, List.all_eq_true] at hall ⊢
  exact ⟨by simp [isBlank_of_isLower hlow], hall⟩

theorem isTagName_of_isPlain {s : String} (h : Text.isPlain s = true) : isTagName s = true := by
  obtain ⟨c, cs, hc, hlow⟩ := exists_cons_of_isPlain h
  simp [isTagName, isName_of_isPlain h, hc, isNameStart, Char.isAlpha, hlow]

theorem exists_cons_of_isName {s : String} (h : isName s = true) :
    ∃ c cs, s.toList = c :: cs ∧ Text.isBlank c = false ∧ ∀ x ∈ c :: cs, isNameChar x = true := by
  simp only [isName, Bool.and_eq_true, List.all_eq_true] at h
  cases hs : s.toList with
  | nil => simp [hs] at h
  | cons c cs => exact ⟨c, cs, rfl, by simpa [hs] using h.1, hs ▸ h.2⟩

theorem readIdentifier_name {name : String} (hn : isName name = true) {rest : List Char}
    (hr : EndsName rest) : readIdentifier (name.toList ++ rest) = .ok (name, rest) := by
  obtain ⟨c, cs, hc, -, hall⟩ := exists_cons_of_isName hn
  have h := readIdentifier_names (by simp [hc]) (hc ▸ hall) hr
  rwa [String.ofList_toList] at h

theorem readIdentifier_plain {name : String} (hn : Text.isPlain name = true)
    {rest : List Char} (hr : EndsName rest) :
    readIdentifier (name.toList ++ rest) = .ok (name, rest) :=
  readIdentifier_name (isName_of_isPlain hn) hr

theorem readCondition_written {name : String} (hn : isName name = true) (value : String)
    (rest : List Char) :
    readCondition (name.toList ++ '=' :: '"' :: ((escape value).toList ++ '"' :: ']' :: rest))
      = .ok (.equals (Text.lower name) (softened value), rest) := by
  obtain ⟨c, cs, hc, hblank, -⟩ := exists_cons_of_isName hn
  have hname := readIdentifier_name hn
    (endsName_cons (c := '=') (by decide) (by decide)
      ('"' :: ((escape value).toList ++ '"' :: ']' :: rest)))
  have htrim : Text.trimStart (name.toList ++ '=' :: '"' :: ((escape value).toList ++
      '"' :: ']' :: rest)) = name.toList ++ '=' :: '"' :: ((escape value).toList ++
      '"' :: ']' :: rest) := by
    rw [hc]
    exact trimStart_cons hblank _
  have hvalue : readValue ('"' :: ((escape value).toList ++ '"' :: ']' :: rest))
      = .ok (softened value, ']' :: rest) := by
    rw [readValue, readQuoted_escape (by decide) (by decide)]
    simp [Except.map]
  simp only [readCondition, htrim, hname, bind, Except.bind,
    trimStart_cons (c := '=') (by decide), trimStart_cons (c := '"') (by decide), hvalue,
    trimStart_cons (c := ']') (by decide)]

/-- Positions are 64-bit words: a larger number is printed, but it is not read back. -/
theorem readPosition_written {n : Nat} (h0 : 0 < n) (hn : n < Text.wordBound)
    (rest : List Char) : readPosition (Nat.toDigits 10 n ++ ')' :: rest) = .ok (n, rest) := by
  have hdigits : ∀ c ∈ Nat.toDigits 10 n, c.isDigit = true :=
    fun c hc => Nat.isDigit_of_mem_toDigits (by decide) (by decide) hc
  have hstop : Char.isDigit ')' = false := by decide
  have htrim : Text.trimStart (Nat.toDigits 10 n ++ ')' :: rest)
      = Nat.toDigits 10 n ++ ')' :: rest := by
    cases hd : Nat.toDigits 10 n with
    | nil => exact absurd hd Nat.toDigits_ne_nil
    | cons c cs => exact trimStart_cons (isBlank_of_isDigit (hdigits c (by simp [hd]))) _
  have htake : (Nat.toDigits 10 n ++ ')' :: rest).takeWhile Char.isDigit = Nat.toDigits 10 n := by
    rw [List.takeWhile_append_of_pos hdigits, List.takeWhile_cons_of_neg (by simp [hstop]),
      List.append_nil]
  have hdrop : (Nat.toDigits 10 n ++ ')' :: rest).dropWhile Char.isDigit = ')' :: rest := by
    rw [List.dropWhile_append_of_pos hdigits, List.dropWhile_cons_of_neg (by simp [hstop])]
  simp only [readPosition, htrim, htake, hdrop, trimStart_cons (c := ')') (by decide),
    Text.digitsValue_toDigits (by decide : 1 < 10) (by decide)]
  rw [if_pos ⟨h0, hn⟩]

theorem readPseudoClass_written {n : Nat} (h0 : 0 < n) (hn : n < Text.wordBound)
    (rest : List Char) :
    readPseudoClass ("nth-of-type".toList ++ '(' :: (Nat.toDigits 10 n ++ ')' :: rest))
      = .ok (n, rest) := by
  have hplain : Text.isPlain "nth-of-type" = true := by decide
  have hname := readIdentifier_plain hplain
    (endsName_cons (c := '(') (by decide) (by decide) (Nat.toDigits 10 n ++ ')' :: rest))
  have hlow : Text.lower "nth-of-type" = "nth-of-type" := by decide
  simp only [readPseudoClass, hname, bind, Except.bind, hlow, if_pos,
    readPosition_written h0 hn]

theorem readSimples_eq (compound : Compound) (cs : List Char) :
    readSimples compound cs =
      match readSimple? compound cs with
      | none => .ok (compound, cs)
      | some (.error e) => .error e
      | some (.ok (new, rest)) => readSimples new rest := by
  rw [readSimples]
  split
  · rename_i he
    rw [he]
  · rename_i he
    rw [he]
  · rename_i he
    simp only [he]

theorem readSimples_of_some {compound new : Compound} {cs rest : List Char}
    (h : readSimple? compound cs = some (.ok (new, rest))) :
    readSimples compound cs = readSimples new rest := by
  rw [readSimples_eq, h]

theorem readSimples_of_none {compound : Compound} {cs : List Char}
    (h : readSimple? compound cs = none) : readSimples compound cs = .ok (compound, cs) := by
  rw [readSimples_eq, h]

theorem readSimples_condition {name : String} (hn : isName name = true) (value : String)
    (c : Compound) (rest : List Char) :
    readSimples c ('[' :: (name.toList ++ '=' :: '"' :: ((escape value).toList ++
      '"' :: ']' :: rest)))
      = readSimples
        { c with conditions := c.conditions ++ [.equals (Text.lower name) (softened value)] }
        rest := by
  apply readSimples_of_some
  rw [readSimple?, readCondition_written hn]
  rfl

theorem readSimples_class {name : String} (hn : name ≠ "") (c : Compound) {rest : List Char}
    (hr : EndsName rest) :
    readSimples c ('.' :: ((escape name).toList ++ rest))
      = readSimples { c with classes := c.classes ++ [softened name] } rest := by
  apply readSimples_of_some
  rw [readSimple?, readIdentifier_escape hn hr]
  rfl

theorem readSimples_position {n : Nat} (h0 : 0 < n) (hn : n < Text.wordBound) (c : Compound)
    (rest : List Char) :
    readSimples c (':' :: ("nth-of-type".toList ++ '(' :: (Nat.toDigits 10 n ++ ')' :: rest)))
      = readSimples { c with nthOfType := some n } rest := by
  apply readSimples_of_some
  rw [readSimple?, readPseudoClass_written h0 hn]
  rfl

structure EndsCompound (rest : List Char) : Prop where
  name : EndsName rest
  simple : ∀ c, readSimple? c rest = none

theorem endsCompound_nil : EndsCompound [] := ⟨endsName_nil, fun _ => rfl⟩

theorem endsCompound_space (rest : List Char) : EndsCompound (' ' :: rest) :=
  ⟨endsName_cons (by decide) (by decide) rest, fun _ => rfl⟩

/-- `text` is read as `c` wherever it stands, and it starts no combinator and no new chain. -/
structure Written (text : List Char) (c : Compound) : Prop where
  start : ∃ b cs, text = b :: cs ∧ Text.isBlank b = false ∧ b ≠ ',' ∧ b ≠ '>'
  read : ∀ rest, EndsCompound rest → readCompound (text ++ rest) = .ok (c, rest)

theorem written_identifier {s : String} (hs : s ≠ "") :
    Written ('#' :: (escape s).toList) { Compound.any with id := some (softened s) } where
  start := ⟨'#', _, rfl, by decide, by decide, by decide⟩
  read rest hr := by
    have hid := readIdentifier_escape hs hr.name
    rw [List.cons_append, readCompound, readTag?, readSimple?, hid]
    exact readSimples_of_none (hr.simple _)

/-- A tag, and behind it simple selectors that are read as `c`. -/
theorem written_tag {tag : String} (ht : isTagName tag = true) {text : List Char}
    {c : Compound} (hname : ∀ rest, EndsCompound rest → EndsName (text ++ rest))
    (hread : ∀ rest, EndsCompound rest →
      readSimples { Compound.any with tag := some (Text.lower tag) } (text ++ rest)
        = .ok (c, rest)) :
    Written (tag.toList ++ text) c := by
  rw [isTagName, Bool.and_eq_true] at ht
  obtain ⟨b, cs, hb, hblank, hall⟩ := exists_cons_of_isName ht.1
  have hstart : isNameStart b = true := by simpa [hb] using ht.2
  have hchar := hall b List.mem_cons_self
  refine ⟨⟨b, cs ++ text, by rw [hb]; rfl, hblank, ?_, ?_⟩, ?_⟩
  · rintro rfl
    exact absurd hchar (by decide)
  · rintro rfl
    exact absurd hchar (by decide)
  · intro rest hr
    have hid := readIdentifier_name ht.1 (hname rest hr)
    have hstar : b ≠ '*' := by
      rintro rfl
      exact absurd hchar (by decide)
    rw [hb, List.cons_append] at hid
    rw [List.append_assoc, hb, List.cons_append, readCompound, readTag?, if_neg hstar,
      if_pos hstart, hid]
    simp only [Except.map, Option.some_or]
    exact hread rest hr

theorem readSteps_eq (left : Option Chain) (afterChild : Bool) (cs : List Char) :
    readSteps left afterChild cs =
      match Text.trimStart cs with
      | [] => finishChain left afterChild []
      | c :: more =>
        if c = ',' then finishChain left afterChild (c :: more)
        else if c = '>' then
          if left.isNone || afterChild then .error ⟨.misplacedChild, c :: more⟩
          else readSteps left true more
        else if left.isSome && ! afterChild && (c :: more).length = cs.length then
          .error ⟨.missingCombinator, c :: more⟩
        else match readCompound (c :: more) with
          | .error e => .error e
          | .ok (compound, rest) =>
            readSteps (some (extend left afterChild compound)) false rest := by
  rw [readSteps]
  split
  · rename_i he
    rw [he]
  · rename_i he
    simp only [he]
    congr 3
    split
    · rename_i hc
      rw [hc]
    · rename_i hc
      rw [hc]

/-- No compound begins with a character that ends a chain or joins two compounds. -/
theorem readCompound_ne_ok {text : List Char} (h : ∀ c ∈ text.head?, c = ',' ∨ c = '>')
    (r : Compound × List Char) : readCompound text ≠ .ok r := by
  cases text with
  | nil => rintro ⟨⟩
  | cons c text => rcases h c rfl with rfl | rfl <;> rintro ⟨⟩

/-- Where a compound may follow, because nothing or a `>` stands to the left or a blank is in
between, it is put to the right of what was read. -/
theorem readSteps_of_readCompound {left : Option Chain} {afterChild : Bool} {text rest : List Char}
    {c : Compound} (hread : readCompound (Text.trimStart text) = .ok (c, rest))
    (hplace : (left.isNone || afterChild) = true ∨ Text.trimStart text ≠ text) :
    readSteps left afterChild text = readSteps (some (extend left afterChild c)) false rest := by
  have hsuffix : Text.trimStart text <:+ text := List.dropWhile_suffix _
  rw [readSteps_eq]
  cases htrim : Text.trimStart text with
  | nil =>
    rw [htrim] at hread
    cases hread
  | cons b cs =>
    rw [htrim] at hread hplace hsuffix
    have hcomma : b ≠ ',' := fun hb =>
      readCompound_ne_ok (by rintro b ⟨⟩; exact .inl hb) _ hread
    have hchild : b ≠ '>' := fun hb =>
      readCompound_ne_ok (by rintro b ⟨⟩; exact .inr hb) _ hread
    have hguard : ¬ (left.isSome && ! afterChild && (b :: cs).length = text.length) = true := by
      simp only [Bool.and_eq_true, decide_eq_true_eq]
      rintro ⟨hclosed, hlen⟩
      rcases hplace with hopen | hne
      · cases left <;> cases afterChild <;> simp_all
      · exact hne (hsuffix.eq_of_length hlen)
    dsimp only
    rw [if_neg hcomma, if_neg hchild, if_neg hguard, hread]

theorem readSteps_written {text : List Char} {c : Compound} (h : Written text c)
    {left : Option Chain} {afterChild : Bool} (hl : left.isNone || afterChild)
    {rest : List Char} (hr : EndsCompound rest) :
    readSteps left afterChild (text ++ rest)
      = readSteps (some (extend left afterChild c)) false rest := by
  obtain ⟨b, cs, rfl, hb, -, -⟩ := h.start
  have htrim : Text.trimStart (b :: cs ++ rest) = b :: cs ++ rest := trimStart_cons hb _
  exact readSteps_of_readCompound (htrim.symm ▸ h.read rest hr) (.inl hl)

/-- One more step of a path that goes down from parent to child. -/
theorem readSteps_child (left : Chain) {text : List Char} {c : Compound} (h : Written text c)
    {rest : List Char} (hr : EndsCompound rest) :
    readSteps (some left) false (' ' :: '>' :: ' ' :: (text ++ rest))
      = readSteps (some (.step left .child c)) false rest := by
  obtain ⟨b, cs, rfl, hb, -, -⟩ := h.start
  have hspace : readSteps (some left) true (' ' :: (b :: cs ++ rest))
      = readSteps (some left) true (b :: cs ++ rest) := by
    rw [readSteps_eq, readSteps_eq _ _ (b :: cs ++ rest), trimStart_space]
    simp only [Bool.not_true, Bool.and_false, Bool.false_and]
  rw [readSteps_eq, trimStart_space, trimStart_cons (by decide)]
  dsimp only
  rw [if_neg (by decide), if_pos rfl, if_neg (by simp), hspace]
  exact readSteps_written h (by simp) hr

theorem readSteps_nil (chain : Chain) :
    readSteps (some chain) false [] = .ok (chain, []) := by
  rw [readSteps_eq]
  rfl

theorem readChains_eq (cs : List Char) :
    readChains cs =
      match readSteps none false cs with
      | .error e => .error e
      | .ok (chain, ',' :: rest) => (readChains rest).map (chain :: ·)
      | .ok (chain, _) => .ok [chain] := by
  rw [readChains]
  split
  · rename_i he
    rw [he]
  · rename_i he
    simp only [he]
  · rename_i hcomma he
    rw [he]
    split
    · rename_i heq
      cases heq
    · rename_i heq
      cases heq
      exact absurd rfl (hcomma _)
    · rename_i heq
      cases heq
      rfl

theorem parse_of_readSteps {text : String} {chain : Chain}
    (h : readSteps none false text.toList = .ok (chain, [])) : parse text = .ok [chain] := by
  have hc : readChains text.toList = .ok [chain] := by
    rw [readChains_eq, h]
  simp [parse, hc, Except.mapError]

theorem parse_written {text : String} {c : Compound} (h : Written text.toList c) :
    parse text = .ok [.single c] := by
  apply parse_of_readSteps
  have hs : readSteps none false (text.toList ++ []) = readSteps (some (.single c)) false [] :=
    readSteps_written h rfl endsCompound_nil
  rw [List.append_nil] at hs
  rw [hs, readSteps_nil]

theorem parse_identifier {value : String} (h : value ≠ "") :
    parse ("#" ++ escape value)
      = .ok [.single { Compound.any with id := some (softened value) }] := by
  apply parse_written
  simpa using written_identifier h

end Pinpoint.Selector
