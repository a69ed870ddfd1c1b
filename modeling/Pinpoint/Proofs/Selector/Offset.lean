import Pinpoint.Proofs.Selector.Written

/-! Where a reading stops. Whether it succeeds or fails, what it leaves is an end of the text, so
the offset of a problem counts the characters in front of the place where it was noticed. -/

namespace Pinpoint.Selector

def unread {α : Type} : Reading α → List Char
  | .ok (_, rest) => rest
  | .error stop => stop.rest

section Unread

variable {α β : Type} {text : List Char}

theorem unread_map {f : α × List Char → β × List Char} (hf : ∀ r, (f r).2 = r.2)
    (r : Reading α) : unread (r.map f) = unread r := by
  cases r with
  | error stop => rfl
  | ok read => exact hf read

theorem unread_bind {r : Reading α} {f : α × List Char → Except Stop (β × List Char)}
    (hr : unread r <:+ text) (hf : ∀ a middle, middle <:+ text → unread (f (a, middle)) <:+ text) :
    unread (r.bind f) <:+ text := by
  cases r with
  | error stop => exact hr
  | ok read => exact hf read.1 read.2 hr

end Unread

theorem trimStart_suffix (text : List Char) : Text.trimStart text <:+ text :=
  List.dropWhile_suffix _

theorem suffix_readEscape (text : List Char) : unread (readEscape text) <:+ text := by
  cases text with
  | nil => exact List.suffix_refl []
  | cons c text =>
    rw [readEscape]
    split
    · have hblank : ∀ cs, dropOneBlank cs <:+ cs := by
        intro cs
        cases cs with
        | nil => exact List.suffix_refl []
        | cons b cs =>
          rw [dropOneBlank]
          split
          · exact List.suffix_cons b cs
          · exact List.suffix_refl _
      exact ((hblank _).trans (List.drop_suffix _ _)).trans (List.suffix_cons c text)
    · exact List.suffix_cons c text

theorem suffix_readName (text : List Char) : unread (readName text) <:+ text := by
  fun_induction readName text with
  | case1 => exact List.suffix_refl []
  | case2 text stop hstop =>
    have hescape := suffix_readEscape text
    rw [hstop] at hescape
    exact hescape.trans (List.suffix_cons _ text)
  | case3 text x middle hx _ ih =>
    have hescape := suffix_readEscape text
    rw [hx] at hescape
    rw [unread_map (by intro; rfl)]
    exact (ih.trans hescape).trans (List.suffix_cons _ text)
  | case4 c text _ _ ih =>
    rw [unread_map (by intro; rfl)]
    exact ih.trans (List.suffix_cons c text)
  | case5 => exact List.suffix_refl _

theorem suffix_readIdentifier (text : List Char) : unread (readIdentifier text) <:+ text := by
  have hname := suffix_readName text
  unfold readIdentifier
  split
  · rename_i heq
    rw [heq] at hname
    exact hname
  · rename_i heq
    rw [heq] at hname
    exact hname
  · rename_i heq
    rw [heq] at hname
    exact hname

theorem suffix_readQuoted (quote : Char) (text : List Char) :
    unread (readQuoted quote text) <:+ text := by
  fun_induction readQuoted quote text with
  | case1 => exact List.suffix_refl []
  | case2 text => exact List.suffix_cons quote text
  | case3 text stop hstop _ =>
    have hescape := suffix_readEscape text
    rw [hstop] at hescape
    exact hescape.trans (List.suffix_cons _ text)
  | case4 text x middle hx _ _ ih =>
    have hescape := suffix_readEscape text
    rw [hx] at hescape
    rw [unread_map (by intro; rfl)]
    exact (ih.trans hescape).trans (List.suffix_cons _ text)
  | case5 c text _ _ ih =>
    rw [unread_map (by intro; rfl)]
    exact ih.trans (List.suffix_cons c text)

theorem suffix_readValue (text : List Char) : unread (readValue text) <:+ text := by
  unfold readValue
  split
  · rw [unread_map (by intro; rfl)]
    exact (suffix_readQuoted _ _).trans (List.suffix_cons _ _)
  · rw [unread_map (by intro; rfl)]
    exact (suffix_readQuoted _ _).trans (List.suffix_cons _ _)
  · exact suffix_readIdentifier text

/-- A reader that looks behind blanks at the next character, which it takes in any case. -/
theorem cons_suffix_of_trimStart {c : Char} {text middle more : List Char}
    (h : Text.trimStart middle = c :: more) (hmiddle : middle <:+ text) : more <:+ text :=
  ((List.suffix_cons c more).trans (h ▸ trimStart_suffix middle)).trans hmiddle

theorem suffix_readCondition (text : List Char) : unread (readCondition text) <:+ text := by
  unfold readCondition
  have hname := (suffix_readIdentifier _).trans (trimStart_suffix text)
  refine unread_bind hname fun name after hafter => ?_
  dsimp only
  split
  · rename_i hclose
    exact cons_suffix_of_trimStart hclose hafter
  · rename_i more hequals
    have hmore := cons_suffix_of_trimStart hequals hafter
    have hvalue := ((suffix_readValue _).trans (trimStart_suffix more)).trans hmore
    refine unread_bind hvalue fun value behind hbehind => ?_
    dsimp only
    split
    · rename_i hclose
      exact cons_suffix_of_trimStart hclose hbehind
    · exact ((List.tail_suffix _).trans (trimStart_suffix behind)).trans hbehind
  · exact ((List.tail_suffix _).trans (trimStart_suffix after)).trans hafter

theorem suffix_readPosition (text : List Char) : unread (readPosition text) <:+ text := by
  have hdigits : (Text.trimStart text).dropWhile Char.isDigit <:+ text :=
    (List.dropWhile_suffix _).trans (trimStart_suffix text)
  unfold readPosition
  dsimp only
  split
  · rename_i hclose
    split
    · exact cons_suffix_of_trimStart hclose hdigits
    · exact cons_suffix_of_trimStart hclose hdigits
  · exact ((List.tail_suffix _).trans (trimStart_suffix _)).trans hdigits

theorem suffix_readPseudoClass (text : List Char) : unread (readPseudoClass text) <:+ text := by
  unfold readPseudoClass
  refine unread_bind (suffix_readIdentifier text) fun name after hafter => ?_
  dsimp only
  split
  · split
    · rename_i more
      exact ((suffix_readPosition more).trans (List.suffix_cons _ more)).trans hafter
    · exact (List.tail_suffix after).trans hafter
  · exact hafter

theorem suffix_readSimple? {compound : Compound} {text : List Char} {r : Reading Compound}
    (h : readSimple? compound text = some r) : unread r <:+ text := by
  unfold readSimple? at h
  split at h
  · cases h
    rw [unread_map (by intro; rfl)]
    exact (suffix_readIdentifier _).trans (List.suffix_cons _ _)
  · cases h
    rw [unread_map (by intro; rfl)]
    exact (suffix_readIdentifier _).trans (List.suffix_cons _ _)
  · cases h
    rw [unread_map (by intro; rfl)]
    exact (suffix_readCondition _).trans (List.suffix_cons _ _)
  · cases h
    rw [unread_map (by intro; rfl)]
    exact (suffix_readPseudoClass _).trans (List.suffix_cons _ _)
  · cases h

theorem suffix_readSimples (compound : Compound) (text : List Char) :
    unread (readSimples compound text) <:+ text := by
  fun_induction readSimples compound text with
  | case1 => exact List.suffix_refl _
  | case2 compound text stop hstop => exact suffix_readSimple? hstop
  | case3 compound text new middle hsome _ ih => exact ih.trans (suffix_readSimple? hsome)

theorem suffix_readTag? {text : List Char} {r : Reading Compound} (h : readTag? text = some r) :
    unread r <:+ text := by
  unfold readTag? at h
  split at h
  · cases h
  · split at h
    · cases h
      exact List.suffix_cons _ _
    · split at h
      · cases h
        rw [unread_map (by intro; rfl)]
        exact suffix_readIdentifier _
      · cases h

theorem suffix_readCompound (text : List Char) : unread (readCompound text) <:+ text := by
  have hfirst : ∀ r, (readTag? text).or (readSimple? .any text) = some r → unread r <:+ text := by
    intro r hr
    rcases Option.or_eq_some_iff.mp hr with htag | ⟨-, hsimple⟩
    · exact suffix_readTag? htag
    · exact suffix_readSimple? hsimple
  unfold readCompound
  split
  · exact List.suffix_refl text
  · rename_i stop heq
    exact hfirst _ heq
  · rename_i compound middle heq
    exact (suffix_readSimples compound middle).trans (hfirst _ heq)

theorem unread_finishChain (left : Option Chain) (afterChild : Bool) (text : List Char) :
    unread (finishChain left afterChild text) = text := by
  unfold finishChain
  split
  · rfl
  · split <;> rfl

theorem suffix_readSteps (left : Option Chain) (afterChild : Bool) (text : List Char) :
    unread (readSteps left afterChild text) <:+ text := by
  fun_induction readSteps left afterChild text with
  | case1 left afterChild text heq =>
    rw [unread_finishChain, ← heq]
    exact trimStart_suffix text
  | case2 left afterChild text more heq =>
    rw [unread_finishChain, ← heq]
    exact trimStart_suffix text
  | case3 left afterChild text more _ heq =>
    change '>' :: more <:+ text
    rw [← heq]
    exact trimStart_suffix text
  | case4 left afterChild text more _ heq _ _ ih =>
    exact ih.trans (cons_suffix_of_trimStart heq (List.suffix_refl text))
  | case5 left afterChild text c more heq =>
    change c :: more <:+ text
    rw [← heq]
    exact trimStart_suffix text
  | case6 left afterChild text c more heq _ _ _ stop hstop =>
    have hcompound := suffix_readCompound (c :: more)
    rw [hstop] at hcompound
    exact hcompound.trans (heq ▸ trimStart_suffix text)
  | case7 left afterChild text c more heq _ _ _ compound rest hread _ ih =>
    have hcompound := suffix_readCompound (c :: more)
    rw [hread] at hcompound
    exact (ih.trans hcompound).trans (heq ▸ trimStart_suffix text)

theorem readChains_error_rest {text : List Char} {stop : Stop}
    (h : readChains text = .error stop) : stop.rest <:+ text := by
  have hsteps := suffix_readSteps none false text
  fun_induction readChains text with
  | case1 text stop' hstop =>
    cases h
    rw [hstop] at hsteps
    exact hsteps
  | case2 text chain rest hread _ ih =>
    rw [hread] at hsteps
    cases hrest : readChains rest with
    | error stop' =>
      rw [hrest] at h
      cases h
      have hlater := ih hrest (suffix_readSteps none false rest)
      exact (hlater.trans (List.suffix_cons ',' rest)).trans hsteps
    | ok group =>
      rw [hrest] at h
      cases h
  | case3 => cases h

/-- The offset of a problem is the number of characters in front of it. -/
theorem offset_of_parse_eq_error {text : String} {fault : Fault} (h : parse text = .error fault) :
    ∃ read left, text.toList = read ++ left ∧
      readChains text.toList = .error ⟨fault.problem, left⟩ ∧ fault.offset = read.length := by
  unfold parse at h
  dsimp only at h
  cases hread : readChains text.toList with
  | error stop =>
    rw [hread] at h
    cases h
    obtain ⟨read, htext⟩ := readChains_error_rest hread
    refine ⟨read, stop.rest, htext.symm, rfl, ?_⟩
    dsimp only
    rw [← htext, List.length_append, Nat.add_sub_cancel]
  | ok group =>
    rw [hread] at h
    cases h

end Pinpoint.Selector
