import Pinpoint.Proofs.Arena.Run

/-! Markup that becomes cells. Its nodes get consecutive numbers in the order in which they are
written, and following the stored children from the first of them leads back to the markup, in
lower case. -/

namespace Pinpoint

def CellData.unpainted : CellData → NodeData
  | text content => .text content
  | element tag attributes _ => .element tag attributes

def CellData.outline? : CellData → Option String
  | text _ => none
  | element _ _ outline => outline

namespace Arena

def data? (a : Arena) (n : NodeId) : Option NodeData :=
  (a.cells[n]?).map fun cell => cell.data.unpainted

def outline? (a : Arena) (n : NodeId) : Option String :=
  (a.cells[n]?).bind fun cell => cell.data.outline?

/-- The nodes of the markup are numbered from `first` on in the order in which they are written, and
they hold what is written in it, in lower case. None of them has an outline. -/
structure Built (a : Arena) (first : NodeId) (markup : Markup) : Prop where
  numbers : ∀ l, InPreorder a.children [first] l ↔ l = List.range' first markup.size
  reads : ∀ l, Reads a.data? a.children [first] l ↔ l = [.element markup.lowered]
  unpainted : ∀ n ∈ List.range' first markup.size, a.outline? n = none

/-- Markup was added as the last child of `parent`. No other cell that was there has changed. -/
structure Appended (a now : Arena) (parent : NodeId) (markup : Markup) : Prop where
  length : now.cells.length = a.cells.length + markup.size
  built : now.Built a.cells.length markup
  below : now.parent? a.cells.length = some parent
  marks : ∀ n ∈ List.range' a.cells.length markup.size, now.isAttached n = a.isAttached parent
  last : now.cells[parent]? = (a.cells[parent]?).map fun cell =>
    { cell with children := cell.children ++ [a.cells.length] }
  others : ∀ n < a.cells.length, n ≠ parent → now.cells[n]? = a.cells[n]?
  page : now.root = a.root ∧ now.url = a.url ∧ now.frame = a.frame ∧ now.active = a.active

variable {a : Arena} {d : Document}

section Represented

variable (h : a.Represents d)

include h

theorem Represents.data?_eq (n : NodeId) : a.data? n = d.data? n := by
  rw [data?, h.cells, d.cell?_eq, Option.map_map]
  cases d.data? n with
  | none => rfl
  | some data => cases data <;> rfl

theorem Represents.outline?_eq_none {n : NodeId} (hn : d.outline n = none) :
    a.outline? n = none := by
  rw [outline?, h.cells, d.cell?_eq, hn]
  cases d.data? n with
  | none => rfl
  | some data => cases data <;> rfl

theorem Represents.built {first : NodeId} {markup : Markup} (hd : d.Built first markup) :
    a.Built first markup := by
  have hdata : a.data? = d.data? := funext h.data?_eq
  have hchildren : a.children = d.childIds := funext h.children_eq
  refine ⟨?_, ?_, fun n hn => h.outline?_eq_none (hd.unpainted n hn)⟩
  · rw [hchildren]
    exact hd.numbers
  · rw [hdata, hchildren]
    exact hd.reads

theorem Represents.appended {now : Arena} {d' : Document} {parent : NodeId} {markup : Markup}
    (hnow : now.Represents d') (hd : d.Sound) (hd' : d'.Sound)
    (happended : d.Appended d' parent markup) (hparent : parent < d.size) :
    a.Appended now parent markup where
  length := by rw [hnow.length_cells hd', h.length_cells hd, happended.size]
  built := h.length_cells hd ▸ hnow.built happended.built
  below := by rw [hnow.parent?_eq, h.length_cells hd, happended.below]
  marks n hn := by
    rw [h.length_cells hd] at hn
    rw [hnow.isAttached_eq hd'.toWellFormed, h.isAttached_eq hd.toWellFormed,
      happended.attached_new n hn]
  last := by
    rw [hnow.cells, h.cells, h.length_cells hd, happended.cell?_old hparent]
    simp only [if_true]
  others n hn hne := by
    rw [h.length_cells hd] at hn
    rw [hnow.cells, h.cells, happended.cell?_old hn]
    simp only [hne.symm, if_false, Option.map_id']
  page := by
    rw [h.root, h.url, h.frame, h.active, hnow.root, hnow.url, hnow.frame, hnow.active]
    exact ⟨congrArg some happended.root, happended.page.1, happended.page.2, happended.active⟩

end Represented

/-- An arena is built from markup, and markup is added below any element of an arena, in the tree
or not, node by node as it is written. Of names that meet in lower case the greatest gives the
value. -/
theorem built_and_appended (markup : Markup) :
    ((ofMarkup markup).Built 0 markup ∧ (ofMarkup markup).cells.length = markup.size ∧
        (ofMarkup markup).root = some 0) ∧
      (∀ start : Arena, start.Initial → ∀ edits now, start.run edits = some now →
        ∀ parent, now.isElement parent = true →
          ∃ grown, now.append parent markup = some (grown, some now.cells.length) ∧
            now.Appended grown parent markup) ∧
      ∀ (attributes : Attributes) (name value : String),
        attributes.lower.get? name = some value ↔
          ∃ e ∈ attributes.entries, Text.lower e.1 = name ∧ e.2 = value ∧
            ∀ f ∈ attributes.entries, Text.lower f.1 = name → f.1 ≤ e.1 := by
  have hmarkup := represents_ofMarkup markup
  have hsound := Document.sound_of_initial (.markup markup)
  refine ⟨⟨hmarkup.built (Document.built_ofMarkup markup), hmarkup.length_cells hsound,
    hmarkup.root.trans (congrArg some (Document.id_number markup 0))⟩,
    fun start hstart edits now hnow parent hparent => ?_,
    fun _ _ _ => Attributes.get?_lower_eq_some_iff⟩
  obtain ⟨d, hinitial, hrepresents⟩ := represents_of_initial hstart
  have hd := (Document.sound_of_initial hinitial).run edits
  obtain ⟨_, heq, hrun⟩ := hrepresents.run (Document.sound_of_initial hinitial) edits
  obtain rfl := Option.some.inj (hnow.symm.trans heq)
  rw [hrun.isElement_eq] at hparent
  obtain ⟨grown, d', hgrown, hd', happended, hrepresents'⟩ := hrun.append hd markup hparent
  have hsound' := hd.perform (.append parent markup)
  rw [Document.perform, hd', Option.getD_some] at hsound'
  exact ⟨grown, hgrown,
    hrun.appended hrepresents' hd hsound' happended (hd.lt_size_of_isElement hparent)⟩

/-- A card goes into a body that is no longer in the tree; two of its names are one in lower case.
-/
theorem built_and_appended_twoNames :
    let card : Markup := ⟨"Div", .ofList [("iD", "y"), ("ID", "x")],
      [.text "Hi", .element (.ofTag "B")]⟩
    let page : Markup := ⟨"html", .empty, [.element (.ofTag "body")]⟩
    ∃ now, (ofMarkup page).run [.detach 1] = some now ∧ now.isElement 1 = true ∧
      (∃ grown, now.append 1 card = some (grown, some now.cells.length) ∧
        now.Appended grown 1 card) ∧
      card.lowered.attributes.get? "id" = some "y" := by
  intro card page
  have hsound := Document.sound_of_initial (.markup page)
  obtain ⟨now, hnow, hrepresents⟩ := (represents_ofMarkup page).run hsound [.detach 1]
  have hparent : now.isElement 1 = true := by
    rw [hrepresents.isElement_eq]
    decide
  obtain ⟨-, happended, hnames⟩ := built_and_appended card
  refine ⟨now, hnow, hparent, happended _ (.markup page) [.detach 1] now hnow 1 hparent, ?_⟩
  exact (hnames card.attributes "id" "y").mpr ⟨("iD", "y"), by decide, by decide, rfl, by decide⟩

end Arena

end Pinpoint
