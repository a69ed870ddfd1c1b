import Pinpoint.Proofs.Document.Attributes
import Pinpoint.Proofs.Document.Tree
import Pinpoint.Proofs.Json.Decode
import Pinpoint.Wire.Fixture

/-! Fixtures as JSON. Written markup is read back child by child; only its depth can keep a fixture
from being read, for no more containers stand inside each other than a reader takes. -/

namespace Pinpoint.Wire

open Json

theorem attributes?_ofAttributes (attributes : Attributes) :
    attributes? (ofAttributes attributes) = some attributes := by
  have hentries : (attributes.entries.map fun e => (e.1, Value.string e.2)).mapM
      (fun m => m.2.text?.map fun value => (m.1, value)) = some attributes.entries := by
    rw [List.mapM_map]
    exact List.mapM_pure.trans (congrArg some (List.map_id _))
  simp only [attributes?, ofAttributes, Value.members?, Option.bind_eq_bind, Option.bind_some]
  rw [hentries, Option.bind_some, Attributes.ofList_entries]

theorem markup?_ofMarkup_of_children {tag : String} {attributes : Attributes}
    {children : List MarkupNode} (h : markupNodes? (ofMarkupNodes children) = some children) :
    markup? (ofMarkup ⟨tag, attributes, children⟩) = some ⟨tag, attributes, children⟩ := by
  rw [ofMarkup, markup?]
  simp [markupParts?, children?, h, attributes?_ofAttributes, fill?, MarkupParts.none,
    MarkupParts.markup?, Value.text?]

theorem markupNodes?_ofMarkupNodes (l : List MarkupNode) :
    markupNodes? (ofMarkupNodes l) = some l := by
  induction l using MarkupNode.forest_induction with
  | nil => rw [ofMarkupNodes, markupNodes?]
  | text content rest ih =>
    rw [ofMarkupNodes, markupNodes?, ih]
    rfl
  | element tag attributes children rest ihc ihr =>
    have hmarkup := @markup?_ofMarkup_of_children tag attributes children ihc
    rw [ofMarkupNodes, markupNodes?, hmarkup, ihr]
    intro s hs
    rw [ofMarkup] at hs
    cases hs

theorem markup?_ofMarkup (markup : Markup) : markup? (ofMarkup markup) = some markup := by
  obtain ⟨tag, attributes, children⟩ := markup
  exact markup?_ofMarkup_of_children (markupNodes?_ofMarkupNodes children)

theorem keepable_ofAttributes (n : Nat) (attributes : Attributes) :
    (ofAttributes attributes).Keepable (n + 1) := by
  apply Value.keepable_object
  intro m hm
  obtain ⟨e, -, rfl⟩ := List.mem_map.mp hm
  exact Value.keepable_string n e.2

theorem areSound_ofMarkupNodes (l : List MarkupNode) :
    Value.areSound (ofMarkupNodes l) = true := by
  induction l using MarkupNode.forest_induction with
  | nil => rw [ofMarkupNodes, Value.areSound]
  | text content rest ih =>
    rw [ofMarkupNodes, Value.areSound, ih]
    rfl
  | element tag attributes children rest ihc ihr =>
    have hattributes := (keepable_ofAttributes 0 attributes).sound
    simp [ofMarkupNodes, ofMarkup, Value.areSound, Value.isSound, Value.areSoundMembers,
      hattributes, ihc, ihr]

/-- An element, its children and the list of them: three containers before the first child. -/
theorem depth_ofFixture (f : Fixture) :
    (ofFixture f).depth = Value.depthAll (ofMarkupNodes f.root.children) + 3 := by
  obtain ⟨url, frame, active, ⟨tag, attributes, children⟩⟩ := f
  have hattributes := (keepable_ofAttributes 0 attributes).depth_le
  have hframe : (Value.ofOption ofAttributes frame).depth ≤ 1 :=
    (Value.keepable_ofOption (keepable_ofAttributes 0) frame).depth_le
  have htext : ∀ o : Option String, (Value.ofOption .string o).depth = 0 := by
    intro o
    cases o <;> rfl
  simp only [ofFixture, ofMarkup, Value.depth, Value.depthMembers, htext]
  omega

theorem keepsChildren_ofMarkup (level : Nat) (markup : Markup) :
    keepsChildren level (ofMarkup markup) = true ↔
      ∀ v ∈ ofMarkupNodes markup.children, level + 2 + v.depth ≤ depthLimit := by
  obtain ⟨tag, attributes, children⟩ := markup
  have hsound := Value.areSound_iff.mp (areSound_ofMarkupNodes children)
  simp only [ofMarkup, keepsChildren, keepsItems,
    valuesOf_cons_of_ne (show "tag" ≠ "children" by decide),
    valuesOf_cons_of_ne (show "attrs" ≠ "children" by decide), valuesOf_cons_self, valuesOf_nil,
    List.all_cons, List.all_nil, Bool.and_true, List.all_eq_true]
  refine forall₂_congr fun v hv => ?_
  rw [keep?_eq (hsound v hv)]
  split <;> simp_all

theorem fixture?_ofFixture (f : Fixture) :
    fixture? (ofFixture f) = if (ofFixture f).depth ≤ depthLimit then some f else none := by
  have hroot : markupAt? 1 (ofMarkup f.root) =
      if (ofFixture f).depth ≤ depthLimit then some f.root else none := by
    have hkeeps : keepsChildren 1 (ofMarkup f.root) = true ↔
        (ofFixture f).depth ≤ depthLimit := by
      have hlimit : depthLimit = 124 + 3 := rfl
      rw [keepsChildren_ofMarkup, depth_ofFixture, hlimit, Nat.add_le_add_iff_right,
        Value.depthAll_le_iff]
      refine forall₂_congr fun v _ => ?_
      omega
    rw [markupAt?, markup?_ofMarkup]
    by_cases h : (ofFixture f).depth ≤ depthLimit
    · rw [if_pos h, if_pos (hkeeps.mpr h)]
    · rw [if_neg h, if_neg (mt hkeeps.mp h)]
  have htext : ∀ o : Option String, Value.nullable? Value.text? (.ofOption .string o) = some o :=
    Value.nullable?_ofOption (fun _ => rfl) rfl
  have hframe := Value.nullable?_ofOption attributes?_ofAttributes rfl f.frame
  generalize (ofFixture f).depth = depth at hroot ⊢
  simp only [fixture?, ofFixture, Value.record?_object, Json.optional, defaulted, required,
    valuesOf_nil, valuesOf_cons_self, valuesOf_cons_of_ne, Option.bind_eq_bind, Option.bind_some,
    htext, hframe, hroot, ne_eq, String.reduceEq, not_false_eq_true]
  split <;> rfl

end Pinpoint.Wire
