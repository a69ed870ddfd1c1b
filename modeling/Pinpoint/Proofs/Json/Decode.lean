import Pinpoint.Json.Decode

/-! Values that are written and read back. A member is found by its name, a list is read item by
item, and a value that is not too deep can be kept until its type is known. -/

namespace Pinpoint.Json

@[simp] theorem valuesOf_nil (name : String) : valuesOf [] name = [] := rfl

@[simp] theorem valuesOf_cons_self (name : String) (v : Value) (rest : List (String × Value)) :
    valuesOf ((name, v) :: rest) name = v :: valuesOf rest name := by
  simp [valuesOf]

@[simp] theorem valuesOf_cons_of_ne {n name : String} (h : n ≠ name) (v : Value)
    (rest : List (String × Value)) : valuesOf ((n, v) :: rest) name = valuesOf rest name := by
  simp [valuesOf, h]

namespace Value

@[simp] theorem record?_object (least : Nat) (names : List String)
    (members : List (String × Value)) : record? least names (.object members) = some members := rfl

variable {α : Type} {write : α → Value} {read? : Value → Option α}

theorem list?_map (h : ∀ a, read? (write a) = some a) (as : List α) :
    list? read? (.array (as.map write)) = some as := by
  have hread : read? ∘ write = fun a => pure (id a) := by
    funext a
    exact h a
  rw [list?, List.mapM_map, hread, List.mapM_pure, List.map_id]
  rfl

@[simp] theorem list?_ofTexts (texts : List String) :
    list? text? (.ofTexts texts) = some texts := by
  have hread : ∀ s, text? (.string s) = some s := fun _ => rfl
  exact list?_map hread texts

theorem nullable?_ofOption (h : ∀ a, read? (write a) = some a) (hnull : read? .null = none)
    (o : Option α) : nullable? read? (.ofOption write o) = some o := by
  cases o with
  | none => rfl
  | some a =>
    have hne : write a ≠ .null := by
      intro heq
      have ha := h a
      rw [heq, hnull] at ha
      cases ha
    rw [ofOption, nullable?, h a]
    · rfl
    · exact hne

/-! Values that can be kept -/

theorem areSound_iff {items : List Value} :
    areSound items = true ↔ ∀ v ∈ items, v.isSound = true := by
  induction items with
  | nil => simp [areSound]
  | cons v items ih => simp [areSound, ih]

theorem areSoundMembers_iff {members : List (String × Value)} :
    areSoundMembers members = true ↔ ∀ m ∈ members, m.2.isSound = true := by
  induction members with
  | nil => simp [areSoundMembers]
  | cons m members ih => simp [areSoundMembers, ih]

theorem depthAll_le_iff {items : List Value} {n : Nat} :
    depthAll items ≤ n ↔ ∀ v ∈ items, v.depth ≤ n := by
  induction items with
  | nil => simp [depthAll]
  | cons v items ih => rw [depthAll, Nat.max_le, ih, List.forall_mem_cons]

theorem depthMembers_le_iff {members : List (String × Value)} {n : Nat} :
    depthMembers members ≤ n ↔ ∀ m ∈ members, m.2.depth ≤ n := by
  induction members with
  | nil => simp [depthMembers]
  | cons m members ih => rw [depthMembers, Nat.max_le, ih, List.forall_mem_cons]

structure Keepable (n : Nat) (v : Value) : Prop where
  sound : v.isSound = true
  depth_le : v.depth ≤ n

theorem keepable_null (n : Nat) : Keepable n .null := ⟨rfl, Nat.zero_le n⟩

theorem keepable_bool (n : Nat) (b : Bool) : Keepable n (.bool b) := ⟨rfl, Nat.zero_le n⟩

theorem keepable_string (n : Nat) (s : String) : Keepable n (.string s) := ⟨rfl, Nat.zero_le n⟩

theorem keepable_array {n : Nat} {items : List Value} (h : ∀ v ∈ items, Keepable n v) :
    Keepable (n + 1) (.array items) where
  sound := areSound_iff.mpr fun v hv => (h v hv).sound
  depth_le := Nat.succ_le_succ (depthAll_le_iff.mpr fun v hv => (h v hv).depth_le)

theorem keepable_object {n : Nat} {members : List (String × Value)}
    (h : ∀ m ∈ members, Keepable n m.2) : Keepable (n + 1) (.object members) where
  sound := areSoundMembers_iff.mpr fun m hm => (h m hm).sound
  depth_le := Nat.succ_le_succ (depthMembers_le_iff.mpr fun m hm => (h m hm).depth_le)

theorem keepable_map {n : Nat} (h : ∀ a, Keepable n (write a)) (as : List α) :
    Keepable (n + 1) (.array (as.map write)) := by
  apply keepable_array
  intro v hv
  obtain ⟨a, -, rfl⟩ := List.mem_map.mp hv
  exact h a

theorem keepable_ofTexts (n : Nat) (texts : List String) : Keepable (n + 1) (.ofTexts texts) :=
  keepable_map (keepable_string n) texts

theorem keepable_ofOption {n : Nat} (h : ∀ a, Keepable n (write a)) (o : Option α) :
    Keepable n (.ofOption write o) := by
  cases o with
  | none => exact keepable_null n
  | some a => exact h a

end Value

theorem keep?_eq {level : Nat} {v : Value} (hsound : v.isSound = true) :
    keep? level v = if level + v.depth ≤ depthLimit then some v else none := by
  simp [keep?, hsound]

theorem keep?_of_keepable {n level : Nat} {v : Value} (h : v.Keepable n)
    (hn : level + n ≤ depthLimit) : keep? level v = some v := by
  have hdepth := h.depth_le
  rw [keep?_eq h.sound, if_pos (by omega)]

/-! Reading what was written -/

def rewrite? {α : Type} (write : α → Value) (read? : Value → Option α) (v : Value) :
    Option Value := (read? v).map write

/-- What is written is read back as it was, so a value that was read and written once stays as it
is from then on. -/
structure Lossless {α : Type} (write : α → Value) (read? : Value → Option α) : Prop where
  read_write : ∀ a, read? (write a) = some a
  settled : ∀ v, (rewrite? write read? v).bind (rewrite? write read?) = rewrite? write read? v

theorem lossless_of_read_write {α : Type} {write : α → Value} {read? : Value → Option α}
    (h : ∀ a, read? (write a) = some a) : Lossless write read? where
  read_write := h
  settled v := by
    cases hv : read? v with
    | none => simp [rewrite?, hv]
    | some a => simp [rewrite?, hv, h a]

/-- What is written is read back as it was when it is at most `limit` deep, and not at all when it
is deeper. Writing can add depth, for what was left out is written too. -/
structure LosslessWithin {α : Type} (limit : Nat) (write : α → Value)
    (read? : Value → Option α) : Prop where
  read_write : ∀ a, read? (write a) = if (write a).depth ≤ limit then some a else none
  settled : ∀ v, (rewrite? write read? v).bind (rewrite? write read?) =
    (rewrite? write read? v).filter (·.depth ≤ limit)

theorem losslessWithin_of_read_write {α : Type} {limit : Nat} {write : α → Value}
    {read? : Value → Option α}
    (h : ∀ a, read? (write a) = if (write a).depth ≤ limit then some a else none) :
    LosslessWithin limit write read? where
  read_write := h
  settled v := by
    cases hv : read? v with
    | none => simp [rewrite?, hv]
    | some a =>
      by_cases hd : (write a).depth ≤ limit <;> simp [rewrite?, Option.filter, hv, h a, hd]

end Pinpoint.Json
