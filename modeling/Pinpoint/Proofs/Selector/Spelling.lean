import Pinpoint.Proofs.Selector.Acceptance

/-! Selectors as they are written. The grammar says which texts are selectors; here it says what is
written in them, with nothing merged: each compound keeps all its simple selectors in order. What
the reader makes of a text is what is written in it, put together. -/

namespace Pinpoint.Selector

open Grammar (Ends)

inductive Simple where
  | identifier (value : String)
  | className (name : String)
  | condition (condition : Condition)
  | position (n : Nat)
  deriving DecidableEq, Repr

structure Phrase where
  tag : Option String
  simples : List Simple
  deriving DecidableEq, Repr

inductive Row where
  | single (phrase : Phrase)
  | step (left : Row) (combinator : Combinator) (phrase : Phrase)
  deriving DecidableEq, Repr

def Compound.add (c : Compound) : Simple → Compound
  | .identifier value => { c with id := some value }
  | .className name => { c with classes := c.classes ++ [name] }
  | .condition condition => { c with conditions := c.conditions ++ [condition] }
  | .position n => { c with nthOfType := some n }

def Phrase.compound (p : Phrase) : Compound :=
  p.simples.foldl Compound.add { Compound.any with tag := p.tag.map Text.lower }

def Row.chain : Row → Chain
  | single p => .single p.compound
  | step left o p => .step left.chain o p.compound

namespace Spelling

/-! The relations of the grammar once more, each with what the text between the two ends means. -/

inductive Quoted (quote : Char) : List Char → List Char → List Char → Prop where
  | close {rest} : Quoted quote (quote :: rest) [] rest
  | char {c text xs rest} : c ≠ quote → c ≠ '\\' → Quoted quote text xs rest →
    Quoted quote (c :: text) (c :: xs) rest
  | escape {x text middle xs rest} : Grammar.Escape text x middle → Quoted quote middle xs rest →
    Quoted quote ('\\' :: text) (x :: xs) rest

inductive Value : List Char → String → List Char → Prop where
  | identifier {text value rest} : Grammar.Identifier text value rest → Value text value rest
  | double {text xs rest} : Quoted '"' text xs rest → Value ('"' :: text) (String.ofList xs) rest
  | single {text xs rest} : Quoted '\'' text xs rest →
    Value ('\'' :: text) (String.ofList xs) rest

inductive Condition : List Char → Selector.Condition → List Char → Prop where
  | present {text start name after rest} : Grammar.Spaces text start →
    Grammar.Identifier start name after → Grammar.Spaces after (']' :: rest) →
    Condition text (.present (Text.lower name)) rest
  | equals {text start name after more start' value behind rest} : Grammar.Spaces text start →
    Grammar.Identifier start name after → Grammar.Spaces after ('=' :: more) →
    Grammar.Spaces more start' → Value start' value behind → Grammar.Spaces behind (']' :: rest) →
    Condition text (.equals (Text.lower name) value) rest

inductive Argument : List Char → Nat → Prop where
  | intro {before digits after} : (∀ c ∈ before, Text.isBlank c = true) → Grammar.Count digits →
    (∀ c ∈ after, Text.isBlank c = true) →
    Argument (before ++ digits ++ after) (Text.digitsValue 10 digits)

inductive Simple : List Char → Selector.Simple → List Char → Prop where
  | identifier {text value rest} : Grammar.Identifier text value rest →
    Simple ('#' :: text) (.identifier value) rest
  | className {text name rest} : Grammar.Identifier text name rest →
    Simple ('.' :: text) (.className name) rest
  | condition {text condition rest} : Condition text condition rest →
    Simple ('[' :: text) (.condition condition) rest
  | position {text name argument n rest} :
    Grammar.Identifier text name ('(' :: (argument ++ ')' :: rest)) →
    Text.lower name = "nth-of-type" → Argument argument n → Simple (':' :: text) (.position n) rest

inductive Simples : List Char → List Selector.Simple → List Char → Prop where
  | done {text} : Simples text [] text
  | cons {text x middle xs rest} : Simple text x middle → Simples middle xs rest →
    Simples text (x :: xs) rest

inductive Phrase : List Char → Selector.Phrase → List Char → Prop where
  | any {text xs rest} : Simples text xs rest → Phrase ('*' :: text) ⟨none, xs⟩ rest
  | tag {c text name middle xs rest} : isNameStart c = true →
    Grammar.Identifier (c :: text) name middle → Simples middle xs rest →
    Phrase (c :: text) ⟨some name, xs⟩ rest
  | simples {text x middle xs rest} : Simple text x middle → Simples middle xs rest →
    Phrase text ⟨none, x :: xs⟩ rest

inductive Joint : List Char → Combinator → List Char → Prop where
  | descendant {text rest} : Grammar.Spaces text rest → text ≠ rest → Joint text .descendant rest
  | child {text middle rest} : Grammar.Spaces text ('>' :: middle) → Grammar.Spaces middle rest →
    Joint text .child rest

inductive Row : List Char → Selector.Row → List Char → Prop where
  | single {text p rest} : Phrase text p rest → Row text (.single p) rest
  | step {text left joint o middle p rest} : Row text left joint → Joint joint o middle →
    Phrase middle p rest → Row text (.step left o p) rest

inductive Group : List Char → List Selector.Row → Prop where
  | last {text start row after} : Grammar.Spaces text start → Row start row after →
    Grammar.Spaces after [] → Group text [row]
  | cons {text start row after more rows} : Grammar.Spaces text start → Row start row after →
    Grammar.Spaces after (',' :: more) → Group more rows → Group text (row :: rows)

section Exists

/-! Something is written in every text of the grammar. -/

variable {text rest : List Char}

theorem exists_quoted {quote : Char} (h : Grammar.Quoted quote text rest) :
    ∃ xs, Quoted quote text xs rest := by
  induction h with
  | close => exact ⟨[], .close⟩
  | char hc hne _ ih =>
    obtain ⟨xs, hxs⟩ := ih
    exact ⟨_ :: xs, .char hc hne hxs⟩
  | escape hx _ ih =>
    obtain ⟨xs, hxs⟩ := ih
    exact ⟨_ :: xs, .escape hx hxs⟩

theorem exists_value (h : Grammar.Value text rest) : ∃ value, Value text value rest := by
  cases h with
  | identifier hvalue => exact ⟨_, .identifier hvalue⟩
  | double hquoted =>
    obtain ⟨xs, hxs⟩ := exists_quoted hquoted
    exact ⟨_, .double hxs⟩
  | single hquoted =>
    obtain ⟨xs, hxs⟩ := exists_quoted hquoted
    exact ⟨_, .single hxs⟩

theorem exists_condition (h : Grammar.Condition text rest) :
    ∃ condition, Condition text condition rest := by
  cases h with
  | present hstart hname hclose => exact ⟨_, .present hstart hname hclose⟩
  | equals hstart hname hequals hmore hvalue hclose =>
    obtain ⟨value, hvalue⟩ := exists_value hvalue
    exact ⟨_, .equals hstart hname hequals hmore hvalue hclose⟩

theorem exists_simple (h : Grammar.Simple Grammar.PaddedCount text rest) :
    ∃ x, Simple text x rest := by
  cases h with
  | id hvalue => exact ⟨_, .identifier hvalue⟩
  | «class» hname => exact ⟨_, .className hname⟩
  | condition hcondition =>
    obtain ⟨condition, hcondition⟩ := exists_condition hcondition
    exact ⟨_, .condition hcondition⟩
  | position hname hlower hargument =>
    obtain ⟨hbefore, hcount, hafter⟩ := hargument
    exact ⟨_, .position hname hlower (.intro hbefore hcount hafter)⟩

theorem exists_simples (h : Grammar.Simples Grammar.PaddedCount text rest) :
    ∃ xs, Simples text xs rest := by
  induction h using Relation.ReflTransGen.head_induction_on with
  | refl => exact ⟨[], .done⟩
  | head hfirst _ ih =>
    obtain ⟨x, hx⟩ := exists_simple hfirst
    obtain ⟨xs, hxs⟩ := ih
    exact ⟨x :: xs, .cons hx hxs⟩

theorem exists_phrase (h : Grammar.Compound Grammar.PaddedCount text rest) :
    ∃ p, Phrase text p rest := by
  cases h with
  | any hmore =>
    obtain ⟨xs, hxs⟩ := exists_simples hmore
    exact ⟨_, .any hxs⟩
  | tag hc hname hmore =>
    obtain ⟨xs, hxs⟩ := exists_simples hmore
    exact ⟨_, .tag hc hname hxs⟩
  | simple hfirst hmore =>
    obtain ⟨x, hx⟩ := exists_simple hfirst
    obtain ⟨xs, hxs⟩ := exists_simples hmore
    exact ⟨_, .simples hx hxs⟩

theorem exists_joint (h : Grammar.Joint text rest) : ∃ o, Joint text o rest := by
  cases h with
  | descendant hspaces hne => exact ⟨_, .descendant hspaces hne⟩
  | child hspaces hmore => exact ⟨_, .child hspaces hmore⟩

/-- The grammar has the first compound of a chain in front, a row has the last one at its end. -/
theorem exists_row_behind {start joint middle : List Char} {left : Selector.Row} {o : Combinator}
    (hleft : Row start left joint) (hjoint : Joint joint o middle)
    (h : Grammar.Chain Grammar.PaddedCount middle rest) : ∃ row, Row start row rest := by
  induction h generalizing left joint o with
  | single hcompound =>
    obtain ⟨p, hp⟩ := exists_phrase hcompound
    exact ⟨_, .step hleft hjoint hp⟩
  | step hcompound hnext _ ih =>
    obtain ⟨p, hp⟩ := exists_phrase hcompound
    obtain ⟨o', hnext⟩ := exists_joint hnext
    exact ih (.step hleft hjoint hp) hnext

theorem exists_row (h : Grammar.Chain Grammar.PaddedCount text rest) :
    ∃ row, Row text row rest := by
  cases h with
  | single hcompound =>
    obtain ⟨p, hp⟩ := exists_phrase hcompound
    exact ⟨_, .single hp⟩
  | step hcompound hjoint hmore =>
    obtain ⟨p, hp⟩ := exists_phrase hcompound
    obtain ⟨o, hjoint⟩ := exists_joint hjoint
    exact exists_row_behind (.single hp) hjoint hmore

theorem exists_group (h : Grammar.Group Grammar.PaddedCount text) : ∃ rows, Group text rows := by
  induction h with
  | last hstart hchain hend =>
    obtain ⟨row, hrow⟩ := exists_row hchain
    exact ⟨[row], .last hstart hrow hend⟩
  | cons hstart hchain hcomma _ ih =>
    obtain ⟨row, hrow⟩ := exists_row hchain
    obtain ⟨rows, hrows⟩ := ih
    exact ⟨row :: rows, .cons hstart hrow hcomma hrows⟩

end Exists

section Read

/-! Each reader answers what is written. -/

variable {text rest : List Char}

theorem Quoted.read {quote : Char} (hquote : quote ≠ '\\') {xs : List Char}
    (h : Quoted quote text xs rest) : readQuoted quote text = .ok (xs, rest) := by
  induction h with
  | close => rw [readQuoted_cons, if_pos rfl]
  | char hc hne _ ih =>
    rw [readQuoted_cons, if_neg hc, if_neg hne, ih]
    rfl
  | escape hx _ ih =>
    rw [readQuoted_cons, if_neg hquote.symm, if_pos rfl, readEscape_eq_ok_iff.mpr hx]
    dsimp only
    rw [ih]
    rfl

theorem Value.read {value : String} (h : Value text value rest) :
    readValue text = .ok (value, rest) := by
  cases h with
  | identifier hvalue =>
    unfold readValue
    split
    · exact absurd hvalue (not_identifier_of_ends (by rintro c ⟨⟩; decide))
    · exact absurd hvalue (not_identifier_of_ends (by rintro c ⟨⟩; decide))
    · exact readIdentifier_eq_ok_iff.mpr hvalue
  | double hquoted =>
    rw [readValue, hquoted.read (by decide)]
    rfl
  | single hquoted =>
    rw [readValue, hquoted.read (by decide)]
    rfl

theorem Condition.read {condition : Selector.Condition} (h : Condition text condition rest) :
    readCondition text = .ok (condition, rest) := by
  cases h with
  | present hstart hname hclose =>
    simp only [readCondition, spaces_iff.mp hstart, readIdentifier_eq_ok_iff.mpr hname, bind,
      Except.bind, spaces_iff.mp hclose]
  | equals hstart hname hequals hmore hvalue hclose =>
    simp only [readCondition, spaces_iff.mp hstart, readIdentifier_eq_ok_iff.mpr hname, bind,
      Except.bind, spaces_iff.mp hequals, spaces_iff.mp hmore, hvalue.read, spaces_iff.mp hclose]

theorem Argument.read {argument : List Char} {n : Nat} (h : Argument argument n) :
    readPosition (argument ++ ')' :: rest) = .ok (n, rest) := by
  obtain @⟨before, digits, after, hbefore, hcount, hafter⟩ := h
  exact readPosition_padded hbefore hcount hafter rest

theorem Simple.read {x : Selector.Simple} (h : Simple text x rest) (c : Compound) :
    readSimple? c text = some (.ok (c.add x, rest)) := by
  cases h with
  | identifier hvalue =>
    rw [readSimple?, readIdentifier_eq_ok_iff.mpr hvalue]
    rfl
  | className hname =>
    rw [readSimple?, readIdentifier_eq_ok_iff.mpr hname]
    rfl
  | condition hcondition =>
    rw [readSimple?, hcondition.read]
    rfl
  | position hname hlower hargument =>
    simp only [readSimple?, readPseudoClass, readIdentifier_eq_ok_iff.mpr hname, bind, Except.bind,
      if_pos hlower, hargument.read]
    rfl

theorem Simples.read {xs : List Selector.Simple} (h : Simples text xs rest)
    (hend : Ends isMark rest) (c : Compound) :
    readSimples c text = .ok (xs.foldl Compound.add c, rest) := by
  induction h generalizing c with
  | done => exact readSimples_of_none (readSimple?_eq_none_iff.mpr hend)
  | cons hx _ ih =>
    rw [readSimples_of_some (hx.read c), ih hend]
    rfl

theorem Phrase.read {p : Selector.Phrase} (h : Phrase text p rest) (hend : Ends isMark rest) :
    readCompound text = .ok (p.compound, rest) := by
  cases h with
  | any hmore =>
    rw [readCompound, readTag?, if_pos rfl]
    exact hmore.read hend _
  | @tag c text name middle xs rest hc hname hmore =>
    have hstar : c ≠ '*' := by
      rintro rfl
      exact absurd hc (by decide)
    rw [readCompound, readTag?, if_neg hstar, if_pos hc, readIdentifier_eq_ok_iff.mpr hname]
    exact hmore.read hend _
  | simples hfirst hmore =>
    have hread := hfirst.read .any
    rw [readCompound, readTag?_eq_none hread, Option.none_or, hread]
    exact hmore.read hend _

theorem Joint.grammar {o : Combinator} (h : Joint text o rest) : Grammar.Joint text rest := by
  cases h with
  | descendant hspaces hne => exact .descendant hspaces hne
  | child hspaces hmore => exact .child hspaces hmore

/-- A joint and the compound behind it put the compound to the right of the chain. -/
theorem Joint.readSteps {joint : List Char} {o : Combinator} {compound : Compound}
    (h : Joint joint o text) (hread : readCompound text = .ok (compound, rest)) (left : Chain) :
    readSteps (some left) false joint = readSteps (some (.step left o compound)) false rest := by
  cases h with
  | descendant hspaces hne =>
    rw [← spaces_iff.mp hspaces] at hread hne
    exact readSteps_of_readCompound hread (.inr hne.symm)
  | child hspaces hmore =>
    rw [← spaces_iff.mp hmore] at hread
    rw [readSteps_eq, spaces_iff.mp hspaces]
    exact readSteps_of_readCompound hread (.inl rfl)

/-- A row is read from its first compound on, each next one by the joint in front of it. -/
theorem Row.read {start : List Char} {row : Selector.Row} (h : Row start row rest)
    (hstart : Grammar.Spaces text start) (hend : Ends isMark rest) :
    readSteps none false text = readSteps (some row.chain) false rest := by
  induction h with
  | single hp =>
    have hread := hp.read hend
    rw [← spaces_iff.mp hstart] at hread
    exact readSteps_of_readCompound hread (.inl rfl)
  | step _ hjoint hp ih =>
    rw [ih (ends_isMark_of_joint hjoint.grammar)]
    exact hjoint.readSteps (hp.read hend) _

/-- Behind a row stands the end of the text or a comma, and there the chain is finished. -/
theorem Row.read_finish {start after : List Char} {row : Selector.Row} (h : Row start row after)
    (hstart : Grammar.Spaces text start) (hfinish : Finishes after rest) :
    readSteps none false text = .ok (row.chain, rest) := by
  rw [h.read hstart hfinish.ends]
  exact hfinish.readSteps _

theorem Group.read {rows : List Selector.Row} (h : Group text rows) :
    readChains text = .ok (rows.map Selector.Row.chain) := by
  induction h with
  | last hstart hrow hend =>
    rw [readChains_eq, hrow.read_finish hstart ⟨hend, by rintro c ⟨⟩⟩]
    rfl
  | @cons text start row after more rows hstart hrow hcomma _ ih =>
    rw [readChains_eq, hrow.read_finish hstart ⟨hcomma, by rintro c ⟨⟩; rfl⟩]
    change (readChains more).map (row.chain :: ·) = _
    rw [ih]
    rfl

end Read

end Spelling

/-- The reader answers the rows that are written in a text, each compound of them put together. -/
theorem parse_eq_ok_iff {text : String} {g : Group} :
    parse text = .ok g ↔ ∃ rows, Spelling.Group text.toList rows ∧ g = rows.map Row.chain := by
  have hread : ∀ rows, Spelling.Group text.toList rows →
      parse text = .ok (rows.map Row.chain) := by
    intro rows hrows
    rw [parse, hrows.read]
    rfl
  constructor
  · intro h
    have hgrammar := readChains_accepts_iff.mp (parse_isOk_iff.mp ⟨g, h⟩)
    obtain ⟨rows, hrows⟩ := Spelling.exists_group hgrammar
    exact ⟨rows, hrows, Except.ok.inj (h.symm.trans (hread rows hrows))⟩
  · rintro ⟨rows, hrows, rfl⟩
    exact hread rows hrows

end Pinpoint.Selector
