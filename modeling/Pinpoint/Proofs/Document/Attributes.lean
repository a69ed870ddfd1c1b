import Pinpoint.Document.Attributes
import Pinpoint.Proofs.Text.Letters

/-! Attributes as a map. Of several entries with one name the last one stays, the entries of a map,
put in again, make up the same map, and names that are turned to lower case keep their values as
long as they do not meet. -/

namespace Pinpoint.Attributes

theorem lookup_insertEntry_self (name value : String) (l : List (String × String)) :
    (insertEntry name value l).lookup name = some value := by
  fun_induction insertEntry name value l with
  | case1 => exact List.lookup_cons_self
  | case2 => exact List.lookup_cons_self
  | case3 => exact List.lookup_cons_self
  | case4 n v rest hne _ ih =>
    have hbeq : (name == n) = false := by simp [hne]
    rw [List.lookup_cons, hbeq]
    exact ih

theorem lookup_insertEntry_of_ne {name other : String} (h : other ≠ name) (value : String)
    (l : List (String × String)) :
    (insertEntry name value l).lookup other = l.lookup other := by
  have hbeq : (other == name) = false := by simp [h]
  fun_induction insertEntry name value l with
  | case1 => rw [List.lookup_cons, hbeq]
  | case2 v rest => rw [List.lookup_cons, List.lookup_cons, hbeq]
  | case3 n v rest _ _ => rw [List.lookup_cons, hbeq]
  | case4 n v rest _ _ ih => rw [List.lookup_cons, List.lookup_cons, ih]

/-- The last entry of a name gives its value. -/
theorem get?_insertAll (l : List (String × String)) (attributes : Attributes) (name : String) :
    (l.foldl (fun attributes e => attributes.insert e.1 e.2) attributes).get? name =
      (l.reverse.lookup name).or (attributes.get? name) := by
  induction l generalizing attributes with
  | nil => rfl
  | cons e l ih =>
    rw [List.foldl_cons, ih, List.reverse_cons, List.lookup_append, Option.or_assoc]
    congr 1
    by_cases h : name = e.1
    · subst h
      rw [get?, insert, lookup_insertEntry_self, List.lookup_cons_self]
      rfl
    · have hbeq : (name == e.1) = false := by simp [h]
      rw [get?, insert, lookup_insertEntry_of_ne h, List.lookup_cons, hbeq]
      rfl

theorem get?_ofList (l : List (String × String)) (name : String) :
    (ofList l).get? name = l.reverse.lookup name := by
  rw [ofList, get?_insertAll]
  exact Option.or_none

theorem insertEntry_of_lt {name : String} (value : String) {l : List (String × String)}
    (h : ∀ e ∈ l, e.1 < name) : insertEntry name value l = l ++ [(name, value)] := by
  induction l with
  | nil => rfl
  | cons e l ih =>
    have hlt := h e List.mem_cons_self
    have hne : name ≠ e.1 := by
      intro heq
      rw [heq] at hlt
      exact String.lt_irrefl _ hlt
    have hnlt : ¬ name < e.1 := fun hgt => String.lt_irrefl _ (String.lt_trans hlt hgt)
    rw [insertEntry, if_neg hne, if_neg hnlt, ih fun f hf => h f (List.mem_cons_of_mem _ hf)]
    rfl

/-- Entries that come in order, and behind those that are there, are added at the end. -/
theorem entries_insertAll {l : List (String × String)} {attributes : Attributes}
    (h : (attributes.entries ++ l).Pairwise fun a b => a.1 < b.1) :
    (l.foldl (fun attributes e => attributes.insert e.1 e.2) attributes).entries =
      attributes.entries ++ l := by
  induction l generalizing attributes with
  | nil => rw [List.foldl_nil, List.append_nil]
  | cons e l ih =>
    have hbelow : ∀ f ∈ attributes.entries, f.1 < e.1 := by
      intro f hf
      exact (List.pairwise_append.mp h).2.2 f hf e List.mem_cons_self
    have hinsert : (attributes.insert e.1 e.2).entries = attributes.entries ++ [e] :=
      insertEntry_of_lt e.2 hbelow
    have hassoc : attributes.entries ++ e :: l = attributes.entries ++ [e] ++ l := by simp
    rw [hassoc, ← hinsert] at h
    rw [List.foldl_cons, ih h, hinsert, hassoc]

theorem ofList_entries (attributes : Attributes) : ofList attributes.entries = attributes := by
  obtain ⟨entries, hincreasing⟩ := attributes
  have h := @entries_insertAll entries empty hincreasing
  rw [ofList]
  cases hfold : entries.foldl (fun attributes e => attributes.insert e.1 e.2) empty with
  | mk found hfound =>
    rw [hfold] at h
    cases h
    rfl

/-! Names in lower case -/

theorem get?_of_mem {attributes : Attributes} {e : String × String}
    (h : e ∈ attributes.entries) : attributes.get? e.1 = some e.2 := by
  obtain ⟨entries, hincreasing⟩ := attributes
  change e ∈ entries at h
  change entries.lookup e.1 = some e.2
  induction entries with
  | nil => cases h
  | cons f entries ih =>
    obtain ⟨hbelow, hrest⟩ := List.pairwise_cons.mp hincreasing
    rcases List.mem_cons.mp h with rfl | h
    · exact List.lookup_cons_self
    · have hne : e.1 ≠ f.1 := by
        intro heq
        have hlt := hbelow e h
        rw [heq] at hlt
        exact String.lt_irrefl _ hlt
      have hbeq : (e.1 == f.1) = false := by simp [hne]
      rw [List.lookup_cons, hbeq]
      exact ih hrest h

theorem mem_of_get?_eq_some {attributes : Attributes} {name value : String}
    (h : attributes.get? name = some value) : (name, value) ∈ attributes.entries := by
  rw [get?, List.lookup_eq_some_iff] at h
  obtain ⟨before, behind, hentries, -⟩ := h
  rw [hentries]
  exact List.mem_append_right _ List.mem_cons_self

/-- Of the names that agree in lower case the last one gives the value. -/
theorem get?_lower (attributes : Attributes) (name : String) :
    attributes.lower.get? name
      = (attributes.entries.reverse.find? fun e => Text.lower e.1 = name).map Prod.snd := by
  rw [lower, get?_ofList, ← List.map_reverse]
  induction attributes.entries.reverse with
  | nil => rfl
  | cons e l ih =>
    rw [List.map_cons, List.lookup_cons, List.find?_cons]
    by_cases h : Text.lower e.1 = name
    · simp [h]
    · have hbeq : (name == Text.lower e.1) = false := by simp [Ne.symm h]
      simp only [hbeq, h, decide_false]
      exact ih

/-- The attribute has a value that is not empty, and its name is written in one way only. -/
structure CarriesAlone (attributes : Attributes) (name value : String) : Prop where
  get?_eq : attributes.get? name = some value
  ne_empty : value ≠ ""
  alone : ∀ e ∈ attributes.entries, Text.equalIgnoringCase e.1 name = true → e.1 = name

theorem CarriesAlone.get?_lower {attributes : Attributes} {name value : String}
    (h : attributes.CarriesAlone name value) :
    attributes.lower.get? (Text.lower name) = some value := by
  have hmem := mem_of_get?_eq_some h.get?_eq
  rw [Attributes.get?_lower]
  cases hfind : attributes.entries.reverse.find? fun e => Text.lower e.1 = Text.lower name with
  | none =>
    have hnone := List.find?_eq_none.mp hfind _ (List.mem_reverse.mpr hmem)
    exact absurd (decide_eq_true rfl) hnone
  | some e =>
    have hlower : Text.lower e.1 = Text.lower name := by simpa using List.find?_some hfind
    have he := List.mem_reverse.mp (List.mem_of_find?_eq_some hfind)
    have hname : e.1 = name := h.alone e he (by rw [Text.equalIgnoringCase, hlower, beq_self_eq_true])
    have hvalue := get?_of_mem he
    rw [hname, h.get?_eq] at hvalue
    exact hvalue.symm

/-- No name with capitals is left. -/
theorem lower_of_get?_lower {attributes : Attributes} {name value : String}
    (h : attributes.lower.get? name = some value) : Text.lower name = name := by
  rw [get?_lower, Option.map_eq_some_iff] at h
  obtain ⟨e, hfind, -⟩ := h
  have hname : Text.lower e.1 = name := by simpa using List.find?_some hfind
  rw [← hname, Text.lower_lower]

end Pinpoint.Attributes
