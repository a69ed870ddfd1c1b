import Pinpoint.Proofs.Selector.Lexis
import Pinpoint.Proofs.Selector.Offset

/-! The reader accepts the grammar: conditions and positions, compounds of them, chains of
compounds, and whole texts, each with the place where its reader stops. -/

namespace Pinpoint.Selector

open Grammar (Ends)

theorem accepts_readCondition {text rest : List Char} :
    Accepts (readCondition text) rest ↔ Grammar.Condition text rest := by
  unfold readCondition
  refine accepts_bind.trans ⟨?_, ?_⟩
  · rintro ⟨name, after, hname, h⟩
    have hname := readIdentifier_eq_ok_iff.mp hname
    dsimp only at h
    split at h
    · rename_i hclose
      rw [accepts_ok.mp h] at hclose
      exact .present (spaces_iff.mpr rfl) hname (spaces_iff.mpr hclose)
    · rename_i more hequals
      obtain ⟨value, behind, hvalue, h⟩ := accepts_bind.mp h
      dsimp only at h
      split at h
      · rename_i hclose
        rw [accepts_ok.mp h] at hclose
        exact .equals (spaces_iff.mpr rfl) hname (spaces_iff.mpr hequals) (spaces_iff.mpr rfl)
          (accepts_readValue.mp ⟨value, hvalue⟩) (spaces_iff.mpr hclose)
      · exact absurd h not_accepts_error
    · exact absurd h not_accepts_error
  · intro h
    cases h with
    | present hstart hname hclose =>
      refine ⟨_, _, spaces_iff.mp hstart ▸ readIdentifier_eq_ok_iff.mpr hname, ?_⟩
      simp only [spaces_iff.mp hclose]
      exact accepts_ok.mpr rfl
    | equals hstart hname hequals hmore hvalue hclose =>
      refine ⟨_, _, spaces_iff.mp hstart ▸ readIdentifier_eq_ok_iff.mpr hname, ?_⟩
      obtain ⟨value, hread⟩ := accepts_readValue.mpr hvalue
      simp only [spaces_iff.mp hequals]
      refine accepts_bind.mpr ⟨value, _, spaces_iff.mp hmore ▸ hread, ?_⟩
      simp only [spaces_iff.mp hclose]
      exact accepts_ok.mpr rfl

/-- The digits of a count end at a blank or at the parenthesis. -/
theorem ends_isDigit {blanks : List Char} (h : ∀ c ∈ blanks, Text.isBlank c = true)
    (rest : List Char) : Ends Char.isDigit (blanks ++ ')' :: rest) := by
  intro c hc
  cases blanks with
  | nil =>
    cases hc
    decide
  | cons b blanks =>
    cases hc
    by_contra hdigit
    rw [Bool.not_eq_false] at hdigit
    have hblank := h c List.mem_cons_self
    rw [isBlank_of_isDigit hdigit] at hblank
    cases hblank

theorem readPosition_padded {before digits after : List Char}
    (hbefore : ∀ c ∈ before, Text.isBlank c = true) (hcount : Grammar.Count digits)
    (hafter : ∀ c ∈ after, Text.isBlank c = true) (rest : List Char) :
    readPosition (before ++ digits ++ after ++ ')' :: rest)
      = .ok (Text.digitsValue 10 digits, rest) := by
  have hstart : Text.trimStart (before ++ digits ++ after ++ ')' :: rest)
      = digits ++ (after ++ ')' :: rest) := by
    rw [List.append_assoc, List.append_assoc, trimStart_append hbefore]
    cases digits with
    | nil => exact absurd hcount.pos (by decide)
    | cons c digits =>
      exact trimStart_cons (isBlank_of_isDigit (hcount.digit c List.mem_cons_self)) _
  have hclose : Text.trimStart (after ++ ')' :: rest) = ')' :: rest := by
    rw [trimStart_append hafter, trimStart_cons (by decide)]
  obtain ⟨htake, hdrop⟩ := (ends_isDigit hafter rest).takeWhile_append hcount.digit
  simp only [readPosition, hstart, htake, hdrop, hclose]
  rw [if_pos ⟨hcount.pos, hcount.lt⟩]

theorem accepts_readPosition {text rest : List Char} :
    Accepts (readPosition text) rest ↔
      ∃ argument, text = argument ++ ')' :: rest ∧ Grammar.PaddedCount argument := by
  constructor
  · intro h
    obtain ⟨before, htext, hbefore⟩ := exists_blanks text
    obtain ⟨after, hafter, hblank⟩ :=
      exists_blanks ((Text.trimStart text).dropWhile Char.isDigit)
    have hdigits := List.takeWhile_append_dropWhile (p := Char.isDigit) (l := Text.trimStart text)
    unfold readPosition at h
    dsimp only at h
    split at h
    · rename_i hclose
      split at h
      · rename_i hbounds
        rw [accepts_ok.mp h] at hclose
        refine ⟨before ++ (Text.trimStart text).takeWhile Char.isDigit ++ after, ?_, .intro hbefore
          ⟨fun c hc => List.mem_takeWhile_imp hc, hbounds.1, hbounds.2⟩ hblank⟩
        rw [List.append_assoc, List.append_assoc, ← hclose, ← hafter, hdigits, ← htext]
      · exact absurd h not_accepts_error
    · exact absurd h not_accepts_error
  · rintro ⟨argument, rfl, hargument⟩
    obtain ⟨hbefore, hcount, hafter⟩ := hargument
    exact ⟨_, readPosition_padded hbefore hcount hafter rest⟩

theorem accepts_readPseudoClass {text rest : List Char} :
    Accepts (readPseudoClass text) rest ↔ ∃ name argument,
      Grammar.Identifier text name ('(' :: (argument ++ ')' :: rest)) ∧
        Text.lower name = "nth-of-type" ∧ Grammar.PaddedCount argument := by
  unfold readPseudoClass
  refine accepts_bind.trans ⟨?_, ?_⟩
  · rintro ⟨name, after, hname, h⟩
    have hname := readIdentifier_eq_ok_iff.mp hname
    dsimp only at h
    split at h
    · rename_i hlower
      split at h
      · obtain ⟨argument, rfl, hargument⟩ := accepts_readPosition.mp h
        exact ⟨name, argument, hname, hlower, hargument⟩
      · exact absurd h not_accepts_error
    · exact absurd h not_accepts_error
  · rintro ⟨name, argument, hname, hlower, hargument⟩
    refine ⟨name, _, readIdentifier_eq_ok_iff.mpr hname, ?_⟩
    dsimp only
    rw [if_pos hlower]
    exact accepts_readPosition.mpr ⟨argument, rfl, hargument⟩

theorem accepts_readSimple? {compound : Compound} {text rest : List Char} :
    (∃ r, readSimple? compound text = some r ∧ Accepts r rest) ↔
      Grammar.Simple Grammar.PaddedCount text rest := by
  constructor
  · rintro ⟨r, hr, h⟩
    unfold readSimple? at hr
    split at hr
    · cases hr
      rw [accepts_map (by intro; rfl), accepts_readIdentifier] at h
      obtain ⟨value, hvalue⟩ := h
      exact .id hvalue
    · cases hr
      rw [accepts_map (by intro; rfl), accepts_readIdentifier] at h
      obtain ⟨value, hvalue⟩ := h
      exact .class hvalue
    · cases hr
      rw [accepts_map (by intro; rfl), accepts_readCondition] at h
      exact .condition h
    · cases hr
      rw [accepts_map (by intro; rfl), accepts_readPseudoClass] at h
      obtain ⟨name, argument, hname, hlower, hargument⟩ := h
      exact .position hname hlower hargument
    · cases hr
  · intro h
    cases h with
    | id hvalue =>
      refine ⟨_, rfl, ?_⟩
      rw [accepts_map (by intro; rfl), accepts_readIdentifier]
      exact ⟨_, hvalue⟩
    | «class» hvalue =>
      refine ⟨_, rfl, ?_⟩
      rw [accepts_map (by intro; rfl), accepts_readIdentifier]
      exact ⟨_, hvalue⟩
    | condition hcondition =>
      refine ⟨_, rfl, ?_⟩
      rw [accepts_map (by intro; rfl), accepts_readCondition]
      exact hcondition
    | position hname hlower hargument =>
      refine ⟨_, rfl, ?_⟩
      rw [accepts_map (by intro; rfl), accepts_readPseudoClass]
      exact ⟨_, _, hname, hlower, hargument⟩

def isMark (c : Char) : Bool := c = '#' || c = '.' || c = '[' || c = ':'

theorem isMark_iff {c : Char} : isMark c = true ↔ c = '#' ∨ c = '.' ∨ c = '[' ∨ c = ':' := by
  simp only [isMark, Bool.or_eq_true, decide_eq_true_eq, or_assoc]

theorem readSimple?_eq_none_iff {compound : Compound} {text : List Char} :
    readSimple? compound text = none ↔ Ends isMark text := by
  constructor
  · intro h c hc
    cases text with
    | nil => cases hc
    | cons b text =>
      cases hc
      by_contra hmark
      rw [Bool.not_eq_false, isMark_iff] at hmark
      rcases hmark with rfl | rfl | rfl | rfl <;> cases h
  · intro h
    unfold readSimple?
    split
    · cases h _ rfl
    · cases h _ rfl
    · cases h _ rfl
    · cases h _ rfl
    · rfl

theorem accepts_readSimples {compound : Compound} {text rest : List Char} :
    Accepts (readSimples compound text) rest ↔
      Grammar.Simples Grammar.PaddedCount text rest ∧ Ends isMark rest := by
  constructor
  · intro h
    fun_induction readSimples compound text with
    | case1 compound text hnone =>
      cases accepts_ok.mp h
      exact ⟨.refl, readSimple?_eq_none_iff.mp hnone⟩
    | case2 => exact absurd h not_accepts_error
    | case3 compound text new middle hsome _ ih =>
      obtain ⟨hmore, hend⟩ := ih h
      exact ⟨.head (accepts_readSimple?.mp ⟨_, hsome, accepts_ok.mpr rfl⟩) hmore, hend⟩
  · rintro ⟨h, hend⟩
    induction h using Relation.ReflTransGen.head_induction_on generalizing compound with
    | refl =>
      rw [readSimples_of_none (readSimple?_eq_none_iff.mpr hend)]
      exact accepts_ok.mpr rfl
    | head hfirst _ ih =>
      obtain ⟨r, hsome, new, rfl⟩ := accepts_readSimple?.mpr hfirst
      rw [readSimples_of_some hsome]
      exact ih

theorem accepts_readCompound_iff {text rest : List Char} :
    Accepts (readCompound text) rest ↔ ∃ first middle,
      (readTag? text).or (readSimple? .any text) = some (.ok (first, middle)) ∧
        Accepts (readSimples first middle) rest := by
  unfold readCompound
  constructor
  · intro h
    split at h
    · exact absurd h not_accepts_error
    · exact absurd h not_accepts_error
    · rename_i first middle heq
      exact ⟨first, middle, heq, h⟩
  · rintro ⟨first, middle, heq, h⟩
    simp only [heq]
    exact h

theorem readTag?_eq_none {compound : Compound} {text : List Char} {r : Reading Compound}
    (h : readSimple? compound text = some r) : readTag? text = none := by
  unfold readSimple? at h
  split at h
  · rfl
  · rfl
  · rfl
  · rfl
  · cases h

theorem readTag?_cases {compound : Compound} {text rest : List Char}
    (h : readTag? text = some (.ok (compound, rest))) :
    text = '*' :: rest ∨ ∃ c more name, text = c :: more ∧ isNameStart c = true ∧
      Grammar.Identifier (c :: more) name rest := by
  unfold readTag? at h
  split at h
  · cases h
  · rename_i c more
    split at h
    · rename_i hc
      cases h
      exact .inl (by rw [hc])
    · split at h
      · rename_i hc
        obtain ⟨⟨name, left⟩, hread, hleft⟩ := eq_ok_of_map_eq_ok (Option.some.inj h)
        cases hleft
        exact .inr ⟨c, more, name, rfl, hc, readIdentifier_eq_ok_iff.mp hread⟩
      · cases h

theorem accepts_readCompound {text rest : List Char} :
    Accepts (readCompound text) rest ↔
      Grammar.Compound Grammar.PaddedCount text rest ∧ Ends isMark rest := by
  rw [accepts_readCompound_iff]
  constructor
  · rintro ⟨first, middle, heq, h⟩
    obtain ⟨hmore, hend⟩ := accepts_readSimples.mp h
    rcases Option.or_eq_some_iff.mp heq with htag | ⟨-, hsimple⟩
    · rcases readTag?_cases htag with rfl | ⟨c, more, name, rfl, hc, hname⟩
      · exact ⟨.any hmore, hend⟩
      · exact ⟨.tag hc hname hmore, hend⟩
    · exact ⟨.simple (accepts_readSimple?.mp ⟨_, hsimple, accepts_ok.mpr rfl⟩) hmore, hend⟩
  · rintro ⟨h, hend⟩
    cases h with
    | @any text rest hmore =>
      refine ⟨.any, text, ?_, accepts_readSimples.mpr ⟨hmore, hend⟩⟩
      rw [readTag?, if_pos rfl, Option.some_or]
    | @tag c text name middle rest hc hname hmore =>
      have hstar : c ≠ '*' := by
        rintro rfl
        exact absurd hc (by decide)
      refine ⟨{ Compound.any with tag := some (Text.lower name) }, middle, ?_,
        accepts_readSimples.mpr ⟨hmore, hend⟩⟩
      rw [readTag?, if_neg hstar, if_pos hc, readIdentifier_eq_ok_iff.mpr hname]
      rfl
    | simple hfirst hmore =>
      obtain ⟨r, hsome, new, rfl⟩ := accepts_readSimple?.mpr hfirst
      refine ⟨new, _, ?_, accepts_readSimples.mpr ⟨hmore, hend⟩⟩
      rw [readTag?_eq_none hsome, Option.none_or, hsome]

/-- A chain ends here: at a comma or at the end of the text. -/
def Closes (rest : List Char) : Prop := ∀ c ∈ rest.head?, c = ','

/-- The blanks behind a chain, and then its end. -/
def Finishes (text rest : List Char) : Prop := Grammar.Spaces text rest ∧ Closes rest

def ToEnd (text rest : List Char) : Prop :=
  ∃ after, Grammar.Chain Grammar.PaddedCount text after ∧ Finishes after rest

/-- What may follow a compound: the end of the chain, or a joint and another chain. -/
def GoesOn (text rest : List Char) : Prop :=
  Finishes text rest ∨ ∃ start, Grammar.Joint text start ∧ ToEnd start rest

theorem toEnd_iff {text rest : List Char} :
    ToEnd text rest ↔
      ∃ after, Grammar.Compound Grammar.PaddedCount text after ∧ GoesOn after rest := by
  constructor
  · rintro ⟨after, hchain, hend⟩
    cases hchain with
    | single hcompound => exact ⟨after, hcompound, .inl hend⟩
    | step hcompound hjoint hmore => exact ⟨_, hcompound, .inr ⟨_, hjoint, after, hmore, hend⟩⟩
  · rintro ⟨middle, hcompound, hend | ⟨start, hjoint, after, hmore, hend⟩⟩
    · exact ⟨middle, .single hcompound, hend⟩
    · exact ⟨after, .step hcompound hjoint hmore, hend⟩

theorem isMark_of_isBlank {c : Char} (h : Text.isBlank c = true) : isMark c = false := by
  by_contra hmark
  rw [Bool.not_eq_false, isMark_iff] at hmark
  rcases hmark with rfl | rfl | rfl | rfl <;> exact absurd h (by decide)

theorem ends_isMark_of_spaces {text rest : List Char} (h : Grammar.Spaces text rest)
    (hrest : Ends isMark rest) : Ends isMark text := by
  cases h with
  | done _ => exact hrest
  | blank hc _ =>
    rintro c ⟨⟩
    exact isMark_of_isBlank hc

theorem ends_isMark_of_joint {text rest : List Char} (h : Grammar.Joint text rest) :
    Ends isMark text := by
  cases h with
  | descendant hspaces hne =>
    cases hspaces with
    | done _ => exact absurd rfl hne
    | blank hc _ =>
      rintro c ⟨⟩
      exact isMark_of_isBlank hc
  | child hspaces _ => exact ends_isMark_of_spaces hspaces (by rintro c ⟨⟩; decide)

theorem Finishes.ends {text rest : List Char} (h : Finishes text rest) : Ends isMark text := by
  refine ends_isMark_of_spaces h.1 fun c hc => ?_
  rw [h.2 c hc]
  decide

theorem GoesOn.ends {text rest : List Char} (h : GoesOn text rest) : Ends isMark text := by
  rcases h with hfinish | ⟨start, hjoint, -⟩
  · exact hfinish.ends
  · exact ends_isMark_of_joint hjoint

theorem Finishes.readSteps {text rest : List Char} (h : Finishes text rest) (chain : Chain) :
    readSteps (some chain) false text = .ok (chain, rest) := by
  obtain ⟨hspaces, hclose⟩ := h
  rw [readSteps_eq, spaces_iff.mp hspaces]
  cases rest with
  | nil => rfl
  | cons c more =>
    dsimp only
    rw [if_pos (hclose c rfl)]
    rfl

theorem finishChain_not_accepts {left : Option Chain} {afterChild : Bool}
    (h : (left.isNone || afterChild) = true) (text rest : List Char) :
    ¬ Accepts (finishChain left afterChild text) rest := by
  cases left with
  | none => exact not_accepts_error
  | some chain =>
    have hafter : afterChild = true := h
    rw [finishChain, if_pos hafter]
    exact not_accepts_error

theorem accepts_afterCompound {next : Compound → Chain} {start rest : List Char} :
    Accepts (match readCompound start with
      | .error e => .error e
      | .ok (compound, rest) => readSteps (some (next compound)) false rest) rest ↔
      ∃ compound after, readCompound start = .ok (compound, after) ∧
        Accepts (readSteps (some (next compound)) false after) rest := by
  cases readCompound start with
  | error stop =>
    refine iff_of_false not_accepts_error ?_
    rintro ⟨compound, after, ⟨⟩, -⟩
  | ok read =>
    constructor
    · intro h
      exact ⟨read.1, read.2, rfl, h⟩
    · rintro ⟨compound, after, ⟨⟩, h⟩
      exact h

/-- Where a compound has to follow, because nothing or a `>` stands to the left. -/
theorem accepts_readSteps_open {left : Option Chain} {afterChild : Bool}
    (hopen : (left.isNone || afterChild) = true) {text rest : List Char} :
    Accepts (readSteps left afterChild text) rest ↔ ∃ compound after,
      readCompound (Text.trimStart text) = .ok (compound, after) ∧
        Accepts (readSteps (some (extend left afterChild compound)) false after) rest := by
  have hguard : (left.isSome && ! afterChild) = false := by
    cases left <;> cases afterChild <;> simp_all
  rw [readSteps_eq]
  split
  · rename_i heq
    rw [heq]
    refine iff_of_false (finishChain_not_accepts hopen _ _) ?_
    rintro ⟨compound, after, ⟨⟩, -⟩
  · rename_i c more heq
    rw [heq]
    by_cases hcomma : c = ','
    · rw [if_pos hcomma]
      refine iff_of_false (finishChain_not_accepts hopen _ _) ?_
      rintro ⟨compound, after, hread, -⟩
      exact readCompound_ne_ok (by rintro c ⟨⟩; exact .inl hcomma) _ hread
    by_cases hchild : c = '>'
    · rw [if_neg hcomma, if_pos hchild, if_pos hopen]
      refine iff_of_false not_accepts_error ?_
      rintro ⟨compound, after, hread, -⟩
      exact readCompound_ne_ok (by rintro c ⟨⟩; exact .inr hchild) _ hread
    rw [if_neg hcomma, if_neg hchild, hguard, Bool.false_and, if_neg Bool.false_ne_true]
    exact accepts_afterCompound

/-- Where a chain could end. -/
theorem accepts_readSteps_closed {left : Chain} {text rest : List Char} :
    Accepts (readSteps (some left) false text) rest ↔ Finishes text rest ∨
      (∃ more, Text.trimStart text = '>' :: more ∧
        Accepts (readSteps (some left) true more) rest) ∨
      (Text.trimStart text ≠ text ∧ ∃ compound after,
        readCompound (Text.trimStart text) = .ok (compound, after) ∧
          Accepts (readSteps (some (extend (some left) false compound)) false after) rest) := by
  rw [readSteps_eq, Finishes, spaces_iff]
  -- behind the blanks stands the end of the text, a comma, a `>`, or what has to be a compound
  split
  · rename_i heq
    rw [heq]
    simp only [finishChain, Bool.false_eq_true, if_false]
    rw [accepts_ok]
    constructor
    · rintro rfl
      exact .inl ⟨rfl, by rintro c ⟨⟩⟩
    · rintro (⟨rfl, -⟩ | ⟨more, ⟨⟩, -⟩ | ⟨-, compound, after, ⟨⟩, -⟩)
      rfl
  · rename_i c more heq
    rw [heq]
    by_cases hcomma : c = ','
    · rw [if_pos hcomma]
      simp only [finishChain, Bool.false_eq_true, if_false]
      rw [accepts_ok]
      constructor
      · rintro rfl
        exact .inl ⟨rfl, by rintro c ⟨⟩; exact hcomma⟩
      · rintro (⟨rfl, -⟩ | ⟨more, hchild, -⟩ | ⟨-, compound, after, hread, -⟩)
        · rfl
        · rw [hcomma] at hchild
          cases hchild
        · exact absurd hread (readCompound_ne_ok (by rintro c ⟨⟩; exact .inl hcomma) _)
    have hopen : ¬ (c :: more = rest ∧ Closes rest) := by
      rintro ⟨rfl, hclose⟩
      exact hcomma (hclose c rfl)
    by_cases hchild : c = '>'
    · rw [if_neg hcomma, if_pos hchild, if_neg (by simp)]
      constructor
      · intro h
        exact .inr (.inl ⟨more, by rw [hchild], h⟩)
      · rintro (hfinish | ⟨more', hcons, h⟩ | ⟨-, compound, after, hread, -⟩)
        · exact absurd hfinish hopen
        · cases hcons
          exact h
        · exact absurd hread (readCompound_ne_ok (by rintro c ⟨⟩; exact .inr hchild) _)
    have hjoined : ¬ ∃ more', c :: more = '>' :: more' ∧
        Accepts (readSteps (some left) true more') rest := by
      rintro ⟨more', hcons, -⟩
      exact hchild (List.cons.inj hcons).1
    rw [if_neg hcomma, if_neg hchild, or_iff_right hopen, or_iff_right hjoined]
    simp only [Option.isSome_some, Bool.not_false, Bool.true_and, decide_eq_true_eq]
    by_cases htext : c :: more = text
    · rw [if_pos (congrArg List.length htext)]
      exact iff_of_false not_accepts_error fun h => h.1 htext
    · have hlen : (c :: more).length ≠ text.length := by
        intro hlen
        have hsuffix : c :: more <:+ text := heq ▸ List.dropWhile_suffix _
        exact htext (hsuffix.eq_of_length hlen)
      rw [if_neg hlen, and_iff_right htext]
      exact accepts_afterCompound

theorem steps_iff_toEnd {start rest : List Char} {next : Compound → Chain}
    (ih : ∀ after : List Char, after.length < start.length → ∀ left,
      Accepts (readSteps (some left) false after) rest ↔ GoesOn after rest) :
    (∃ compound after, readCompound start = .ok (compound, after) ∧
      Accepts (readSteps (some (next compound)) false after) rest) ↔ ToEnd start rest := by
  rw [toEnd_iff]
  constructor
  · rintro ⟨compound, after, hread, h⟩
    have hlt := readCompound_shorter hread
    exact ⟨after, (accepts_readCompound.mp ⟨compound, hread⟩).1, (ih after hlt _).mp h⟩
  · rintro ⟨after, hcompound, hgo⟩
    obtain ⟨compound, hread⟩ := accepts_readCompound.mpr ⟨hcompound, hgo.ends⟩
    have hlt := readCompound_shorter hread
    exact ⟨compound, after, hread, (ih after hlt _).mpr hgo⟩

theorem accepts_readSteps_some (left : Chain) (text rest : List Char) :
    Accepts (readSteps (some left) false text) rest ↔ GoesOn text rest := by
  -- on the length: a joint and a compound leave a shorter text for the rest of the chain
  induction hlen : text.length using Nat.strongRecOn generalizing left text with
  | ind n ih =>
    have hshort : ∀ start after : List Char, start.length ≤ text.length →
        after.length < start.length → ∀ left,
        Accepts (readSteps (some left) false after) rest ↔ GoesOn after rest :=
      fun start after hle hlt left => ih _ (hlen ▸ Nat.lt_of_lt_of_le hlt hle) left after rfl
    have htrim := length_trimStart text
    rw [accepts_readSteps_closed, GoesOn]
    refine or_congr_right ⟨?_, ?_⟩
    · rintro (⟨more, hmore, h⟩ | ⟨hne, h⟩)
      · have hle : (Text.trimStart more).length ≤ text.length := by
          have hlong := length_trimStart more
          rw [hmore, List.length_cons] at htrim
          omega
        rw [accepts_readSteps_open (by simp), steps_iff_toEnd (hshort _ · hle)] at h
        exact ⟨_, .child (spaces_iff.mpr hmore) (spaces_iff.mpr rfl), h⟩
      · rw [steps_iff_toEnd (hshort _ · htrim)] at h
        exact ⟨_, .descendant (spaces_iff.mpr rfl) hne.symm, h⟩
    · rintro ⟨start, hjoint, h⟩
      cases hjoint with
      | descendant hspaces hne =>
        rw [← spaces_iff.mp hspaces] at hne h
        exact .inr ⟨hne.symm, (steps_iff_toEnd (hshort _ · htrim)).mpr h⟩
      | @child more _ hspaces hmore =>
        have hle : (Text.trimStart more).length ≤ text.length := by
          have hlong := length_trimStart more
          rw [spaces_iff.mp hspaces, List.length_cons] at htrim
          omega
        rw [← spaces_iff.mp hmore] at h
        refine .inl ⟨more, spaces_iff.mp hspaces, ?_⟩
        rw [accepts_readSteps_open (by simp)]
        exact (steps_iff_toEnd (hshort _ · hle)).mpr h

theorem accepts_readSteps {text rest : List Char} :
    Accepts (readSteps none false text) rest ↔ ToEnd (Text.trimStart text) rest := by
  rw [accepts_readSteps_open rfl]
  exact steps_iff_toEnd fun after _ left => accepts_readSteps_some left after rest

theorem readChains_accepts_iff {text : List Char} :
    (∃ group, readChains text = .ok group) ↔ Grammar.Group Grammar.PaddedCount text := by
  constructor
  · rintro ⟨group, h⟩
    fun_induction readChains text generalizing group with
    | case1 => cases h
    | case2 text chain more hread _ ih =>
      obtain ⟨after, hchain, hspaces, -⟩ := accepts_readSteps.mp ⟨chain, hread⟩
      obtain ⟨others, hothers, -⟩ := eq_ok_of_map_eq_ok h
      exact .cons (spaces_iff.mpr rfl) hchain hspaces (ih others hothers)
    | case3 text chain rest hnext hread =>
      obtain ⟨after, hchain, hspaces, hclose⟩ := accepts_readSteps.mp ⟨chain, hread⟩
      cases rest with
      | nil => exact .last (spaces_iff.mpr rfl) hchain hspaces
      | cons c more =>
        have hcomma : c = ',' := hclose c rfl
        exact absurd (congrArg (List.cons · more) hcomma) (hnext more)
  · intro h
    induction h with
    | @last text start after hstart hchain hspaces =>
      have hend : ToEnd (Text.trimStart text) [] :=
        ⟨after, spaces_iff.mp hstart ▸ hchain, hspaces, by rintro c ⟨⟩⟩
      obtain ⟨chain, hread⟩ := accepts_readSteps.mpr hend
      exact ⟨[chain], by rw [readChains_eq, hread]⟩
    | @cons text start after more hstart hchain hspaces _ ih =>
      have hend : ToEnd (Text.trimStart text) (',' :: more) :=
        ⟨after, spaces_iff.mp hstart ▸ hchain, hspaces, by rintro c ⟨⟩; rfl⟩
      obtain ⟨chain, hread⟩ := accepts_readSteps.mpr hend
      obtain ⟨others, hothers⟩ := ih
      refine ⟨chain :: others, ?_⟩
      rw [readChains_eq, hread]
      change (readChains more).map (chain :: ·) = _
      rw [hothers]
      rfl

theorem parse_isOk_iff {text : String} :
    (∃ group, parse text = .ok group) ↔ ∃ group, readChains text.toList = .ok group := by
  rw [parse]
  cases readChains text.toList with
  | error stop =>
    refine iff_of_false ?_ ?_
    · rintro ⟨group, ⟨⟩⟩
    · rintro ⟨group, ⟨⟩⟩
  | ok group => exact iff_of_true ⟨group, rfl⟩ ⟨group, rfl⟩

/-- A text is read as a group of selectors if and only if it is one. For any other text the answer
is a problem and the number of characters in front of the place where it was noticed. -/
theorem parse_accepts_grammar (text : String) :
    ((∃ group, parse text = .ok group) ↔ Grammar.Group Grammar.PaddedCount text.toList) ∧
    (¬ Grammar.Group Grammar.PaddedCount text.toList →
      ∃ fault read left, parse text = .error fault ∧ text.toList = read ++ left ∧
        readChains text.toList = .error ⟨fault.problem, left⟩ ∧
        fault.offset = read.length ∧ fault.offset ≤ text.length) := by
  have hiff := parse_isOk_iff.trans (@readChains_accepts_iff text.toList)
  refine ⟨hiff, fun hno => ?_⟩
  cases hparse : parse text with
  | ok group => exact absurd (hiff.mp ⟨group, hparse⟩) hno
  | error fault =>
    obtain ⟨read, left, htext, hread, hoffset⟩ := offset_of_parse_eq_error hparse
    refine ⟨fault, read, left, rfl, htext, hread, hoffset, ?_⟩
    rw [hoffset, ← String.length_toList, htext, List.length_append]
    exact Nat.le_add_right _ _

/-- Blanks around the number of a position are read too, though a count alone has none. -/
theorem parse_accepts_blanks_around_count :
    (∃ group, parse ":nth-of-type( 1 )" = .ok group) ∧
      ¬ Grammar.Group Grammar.Count ":nth-of-type( 1 )".toList := by
  let name := "nth-of-type".toList ++ '(' :: [' ', '1', ' ', ')']
  have htext : ":nth-of-type( 1 )".toList = ':' :: name := by decide
  have hname : readIdentifier name = .ok ("nth-of-type", '(' :: [' ', '1', ' ', ')']) :=
    readIdentifier_plain (by decide) (endsName_cons (by decide) (by decide) _)
  have hsimple : ∀ rest, ¬ Grammar.Simple Grammar.Count (':' :: name) rest := by
    intro rest h
    cases h with
    | @position _ _ argument _ hidentifier _ hcount =>
      have hread := hname.symm.trans (readIdentifier_eq_ok_iff.mpr hidentifier)
      have hrest := congrArg Prod.snd (Except.ok.inj hread)
      cases argument with
      | nil => simp at hrest
      | cons c argument =>
        have hc : ' ' = c := (List.cons.inj (List.cons.inj hrest).2).1
        exact absurd (hcount.digit c List.mem_cons_self) (by rw [← hc]; decide)
  have hcompound : ∀ rest, ¬ Grammar.Compound Grammar.Count (':' :: name) rest := by
    intro rest h
    cases h with
    | tag hc _ _ => exact absurd hc (by decide)
    | simple hfirst _ => exact hsimple _ hfirst
  have hchain : ∀ start after, Grammar.Spaces (':' :: name) start →
      ¬ Grammar.Chain Grammar.Count start after := by
    intro start after hspaces h
    rw [← spaces_iff.mp hspaces, trimStart_cons (by decide)] at h
    cases h with
    | single hfirst => exact hcompound _ hfirst
    | step hfirst _ _ => exact hcompound _ hfirst
  constructor
  · have hparse : parse ":nth-of-type( 1 )"
        = .ok [.single { Compound.any with nthOfType := some 1 }] := by
      decide +kernel
    exact ⟨_, hparse⟩
  · rw [htext]
    intro h
    cases h with
    | last hspaces hfirst _ => exact hchain _ _ hspaces hfirst
    | cons hspaces hfirst _ _ => exact hchain _ _ hspaces hfirst

end Pinpoint.Selector
