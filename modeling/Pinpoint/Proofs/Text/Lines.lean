import Pinpoint.Text.Lines

/-! Texts cut at a character: one piece for each stretch without it. -/

namespace Pinpoint.Text

variable {sep : Char}

theorem splitAtChar_of_not_mem {cs : List Char} (h : sep ∉ cs) : splitAtChar sep cs = [cs] := by
  induction cs with
  | nil => rfl
  | cons c cs ih =>
    rw [List.mem_cons, not_or] at h
    rw [splitAtChar, if_neg (Ne.symm h.1), ih h.2]

theorem splitAtChar_append {piece : List Char} (h : sep ∉ piece) (rest : List Char) :
    splitAtChar sep (piece ++ sep :: rest) = piece :: splitAtChar sep rest := by
  induction piece with
  | nil => rw [List.nil_append, splitAtChar, if_pos rfl]
  | cons c piece ih =>
    rw [List.mem_cons, not_or] at h
    rw [List.cons_append, splitAtChar, if_neg (Ne.symm h.1), ih h.2]

theorem splitAtChar_ne_nil (cs : List Char) : splitAtChar sep cs ≠ [] := by
  by_cases h : sep ∈ cs
  · obtain ⟨piece, rest, rfl, hpiece⟩ := List.eq_append_cons_of_mem h
    rw [splitAtChar_append hpiece]
    exact List.cons_ne_nil _ _
  · rw [splitAtChar_of_not_mem h]
    exact List.cons_ne_nil _ _

theorem not_mem_of_mem_splitAtChar {cs piece : List Char} (h : piece ∈ splitAtChar sep cs) :
    sep ∉ piece := by
  induction cs generalizing piece with
  | nil =>
    rw [List.mem_singleton.mp h]
    exact List.not_mem_nil
  | cons c cs ih =>
    rw [splitAtChar] at h
    split at h
    · rcases List.mem_cons.mp h with rfl | h
      · exact List.not_mem_nil
      · exact ih h
    · rename_i hne
      split at h
      · rw [List.mem_singleton.mp h]
        simpa using Ne.symm hne
      · rename_i first pieces heq
        rcases List.mem_cons.mp h with rfl | h
        · rw [List.mem_cons, not_or]
          exact ⟨Ne.symm hne, ih (heq ▸ List.mem_cons_self)⟩
        · exact ih (heq ▸ List.mem_cons_of_mem _ h)

theorem intercalate_splitAtChar (cs : List Char) :
    [sep].intercalate (splitAtChar sep cs) = cs := by
  induction cs with
  | nil => rfl
  | cons c cs ih =>
    rw [splitAtChar]
    split
    · rename_i hsep
      cases hrest : splitAtChar sep cs with
      | nil => exact absurd hrest (splitAtChar_ne_nil cs)
      | cons first pieces =>
        rw [List.intercalate_cons_cons, ← hrest, ih, hsep]
        rfl
    · split
      · rename_i hrest
        exact absurd hrest (splitAtChar_ne_nil cs)
      · rename_i first pieces hrest
        rw [hrest] at ih
        cases pieces with
        | nil =>
          rw [List.intercalate_singleton] at ih ⊢
          rw [ih]
        | cons second pieces =>
          rw [List.intercalate_cons_cons] at ih ⊢
          rw [← ih]
          rfl

theorem two_le_length_splitAtChar {cs : List Char} (h : sep ∈ cs) :
    2 ≤ (splitAtChar sep cs).length := by
  obtain ⟨piece, rest, rfl, hpiece⟩ := List.eq_append_cons_of_mem h
  rw [splitAtChar_append hpiece, List.length_cons]
  exact Nat.succ_le_succ (List.length_pos_iff.mpr (splitAtChar_ne_nil rest))

/-- Lines can be told apart again, as long as there is one and no line feed stands in them. -/
theorem split_intercalate {lines : List String} (hne : lines ≠ [])
    (h : ∀ line ∈ lines, '\n' ∉ line.toList) : split '\n' ("\n".intercalate lines) = lines := by
  induction lines with
  | nil => exact absurd rfl hne
  | cons line rest ih =>
    have hline := h line List.mem_cons_self
    cases rest with
    | nil => simp [split, splitAtChar_of_not_mem hline]
    | cons other rest =>
      have hrest := ih (List.cons_ne_nil _ _) fun l hl => h l (List.mem_cons_of_mem _ hl)
      have hjoin : ("\n".intercalate (line :: other :: rest)).toList =
          line.toList ++ '\n' :: ("\n".intercalate (other :: rest)).toList := by
        rw [String.intercalate_cons_cons, String.toList_append, String.toList_append,
          List.append_assoc]
        rfl
      rw [split, hjoin, splitAtChar_append hline, List.map_cons, String.ofList_toList]
      exact congrArg _ hrest

end Pinpoint.Text
