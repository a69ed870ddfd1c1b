import Pinpoint.Text.Letters

/-! Attributes: a finite map from names to values, listed by name. The order of names is the order
of their code points, which is also the order of their UTF-8 bytes. -/

namespace Pinpoint

/-- Names increase along the list, so no name occurs twice and equal maps are equal lists. -/
structure Attributes where
  entries : List (String × String)
  increasing : entries.Pairwise fun a b => a.1 < b.1

namespace Attributes

def empty : Attributes := ⟨[], .nil⟩

def get? (attributes : Attributes) (name : String) : Option String :=
  attributes.entries.lookup name

def nonEmpty? (attributes : Attributes) (name : String) : Option String :=
  (attributes.get? name).filter (· ≠ "")

def insertEntry (name value : String) : List (String × String) → List (String × String)
  | [] => [(name, value)]
  | (n, v) :: rest =>
    if name = n then (name, value) :: rest
    else if name < n then (name, value) :: (n, v) :: rest
    else (n, v) :: insertEntry name value rest

theorem fst_of_mem_insertEntry {name value : String} {l : List (String × String)}
    {e : String × String} (h : e ∈ insertEntry name value l) : e.1 = name ∨ e ∈ l := by
  fun_induction insertEntry name value l with
  | case1 => simp_all
  | case2 => grind
  | case3 => grind
  | case4 => grind

theorem increasing_insertEntry {name value : String} {l : List (String × String)}
    (h : l.Pairwise fun a b => a.1 < b.1) :
    (insertEntry name value l).Pairwise fun a b => a.1 < b.1 := by
  fun_induction insertEntry name value l with
  | case1 => simp
  | case2 v rest =>
    rw [List.pairwise_cons] at h ⊢
    exact h
  | case3 n v rest hne hlt =>
    rw [List.pairwise_cons]
    refine ⟨fun e he => ?_, h⟩
    rcases List.mem_cons.1 he with rfl | he
    · exact hlt
    · exact String.lt_trans hlt ((List.pairwise_cons.1 h).1 e he)
  | case4 n v rest hne hnlt ih =>
    rw [List.pairwise_cons] at h ⊢
    refine ⟨fun e he => ?_, ih h.2⟩
    rcases fst_of_mem_insertEntry he with he | he
    · rw [he]
      exact Std.lt_of_le_of_ne (String.not_lt.1 hnlt) (Ne.symm hne)
    · exact h.1 e he

def insert (attributes : Attributes) (name value : String) : Attributes :=
  ⟨insertEntry name value attributes.entries, increasing_insertEntry attributes.increasing⟩

def ofList (entries : List (String × String)) : Attributes :=
  entries.foldl (fun attributes e => attributes.insert e.1 e.2) empty

/-- Names in lower case; of names that then agree the last one in order gives the value. -/
def lower (attributes : Attributes) : Attributes :=
  ofList (attributes.entries.map fun e => (Text.lower e.1, e.2))

end Attributes

end Pinpoint
