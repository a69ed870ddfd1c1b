import Pinpoint.Interaction.Session
import Pinpoint.Proofs.Document.Reachable

/-! What is found out about a page depends on its content: the trees, the address and the frame.
Neither the outlines nor the focus show in it. -/

namespace Pinpoint

namespace Document

variable {d d' : Document}

/-! What the tree decides -/

theorem elements_congr (h : d.root = d'.root) : d.elements = d'.elements := by
  rw [elements, attachedPlaces, h]
  rfl

theorem query_congr (h : d.root = d'.root) : d.query = d'.query := by
  funext text
  have hselect : d.select = d'.select := by
    funext g
    rw [select, select, elements_congr h]
  rw [query, query, hselect]

theorem uniqueId?_congr (h : d.root = d'.root) : d.uniqueId? = d'.uniqueId? := by
  have hwith : d.withId = d'.withId := by
    funext value
    rw [withId, withId, elements_congr h]
  funext e
  rw [uniqueId?, uniqueId?, hwith]

theorem climb_congr (h : d.root = d'.root) (settings : Settings) (target : NodeId)
    (levels : List Site) (path : List String) :
    d.climb settings target levels path = d'.climb settings target levels path := by
  induction levels generalizing path with
  | nil => rfl
  | cons level rest ih =>
    have hresolves : ∀ value, d.resolvesTo value target = d'.resolvesTo value target := by
      intro value
      rw [resolvesTo, resolvesTo, query_congr h]
    simp only [climb, hresolves, ih]

theorem structural_congr (h : d.root = d'.root) (settings : Settings) (s : Site) :
    d.structural settings s = d'.structural settings s := by
  rw [structural, structural, h, uniqueId?_congr h]
  simp only [climb_congr h]

theorem pathTo_congr (h : d.root = d'.root) (levels : List Site) :
    d.pathTo levels = d'.pathTo levels := by
  induction levels with
  | nil => rfl
  | cons level rest ih => simp only [pathTo, uniqueId?_congr h, h, ih]

theorem absolute_congr (h : d.root = d'.root) (s : Site) : d.absolute s = d'.absolute s := by
  rw [absolute, absolute, pathTo_congr h]

theorem accessibleName_congr (h : d.root = d'.root) (s : Site) :
    d.accessibleName s = d'.accessibleName s := by
  simp only [accessibleName, labelledBy?, labelFor?, firstWithId?, elements_congr h]

structure SameContent (d d' : Document) : Prop where
  root : d.root = d'.root
  detached : d.detached = d'.detached
  size : d.size = d'.size
  url : d.url = d'.url
  frame : d.frame = d'.frame

namespace SameContent

variable (h : d.SameContent d') (settings : Settings)

include h

theorem frameLocator_eq : d.frameLocator = d'.frameLocator := by
  rw [frameLocator, frameLocator, h.frame]

theorem describe_eq (s : Site) (locator : String) :
    d.describe settings s locator = d'.describe settings s locator := by
  simp only [describe, accessibleName_congr h.root, h.frameLocator_eq]

theorem meaning?_eq (s : Site) (dialect : Dialect) :
    d.meaning? settings s dialect = d'.meaning? settings s dialect := by
  unfold meaning?
  simp only [accessibleName_congr h.root, absolute_congr h.root, h.frameLocator_eq]

theorem strategy_eq (site : Option Site) (locator : String) (dialect : Dialect) :
    d.strategy settings site locator dialect = d'.strategy settings site locator dialect := by
  simp only [strategy, h.meaning?_eq]

theorem preview_eq (site : Option Site) (locator : String) (dialects : List Dialect) :
    d.preview settings site locator dialects = d'.preview settings site locator dialects := by
  simp only [preview, h.strategy_eq]

theorem previewFrame_eq (s : Site) : d.previewFrame settings s = d'.previewFrame settings s := by
  simp only [previewFrame, structural_congr h.root, h.preview_eq]

theorem pick_eq (s : Site) : d.pick settings s = d'.pick settings s := by
  simp only [pick, structural_congr h.root, h.describe_eq]

theorem testCases_eq : d.testCases settings = d'.testCases settings := by
  have hadvise : ∀ s advice, d.advise settings s advice = d'.advise settings s advice := by
    intro s advice
    rw [advise, advise, structural_congr h.root]
  have hcount : ∀ text, d.matchCount text = d'.matchCount text := by
    intro text
    rw [matchCount, matchCount, query_congr h.root]
  simp only [testCases, scan, adviseForms, adviseTyped, adviseAll, adviseFirst, hadvise, hcount,
    elements_congr h.root, h.url]

theorem place?_eq : d.place? = d'.place? := by
  funext id
  rw [place?, place?, places, places, attachedPlaces, attachedPlaces, h.root, h.detached]

theorem site?_eq : d.site? = d'.site? := by
  funext id
  rw [site?, site?, h.place?_eq]

theorem isElement_eq : d.isElement = d'.isElement := by
  funext id
  rw [isElement, isElement, h.site?_eq]

theorem isAttached_eq : d.isAttached = d'.isAttached := by
  funext id
  rw [isAttached, isAttached, attachedPlaces, attachedPlaces, h.root]

theorem resolve_eq (stored : Option String) (subject : Option Site) :
    d.resolve settings stored subject = d'.resolve settings stored subject := by
  simp only [resolve, structural_congr h.root]

end SameContent

theorem sameContent_focus (d : Document) (id : Option NodeId) : d.SameContent (d.focus id) :=
  ⟨rfl, rfl, rfl, rfl, rfl⟩

structure SameUnpainted (d d' : Document) : Prop extends d.SameContent d' where
  active : d.active = d'.active

theorem SameUnpainted.refl (d : Document) : d.SameUnpainted d := ⟨⟨rfl, rfl, rfl, rfl, rfl⟩, rfl⟩

theorem SameUnpainted.trans {e : Document} (h : d.SameUnpainted d') (k : d'.SameUnpainted e) :
    d.SameUnpainted e where
  root := h.root.trans k.root
  detached := h.detached.trans k.detached
  size := h.size.trans k.size
  url := h.url.trans k.url
  frame := h.frame.trans k.frame
  active := h.active.trans k.active

theorem SameUnpainted.symm (h : d.SameUnpainted d') : d'.SameUnpainted d where
  root := h.root.symm
  detached := h.detached.symm
  size := h.size.symm
  url := h.url.symm
  frame := h.frame.symm
  active := h.active.symm

theorem SameUnpainted.subject?_eq (h : d.SameUnpainted d') : d.subject? = d'.subject? := by
  rw [subject?, subject?, active?, active?, body?, body?, h.active, h.isAttached_eq, h.site?_eq,
    h.root]

theorem sameUnpainted_setOutline (d : Document) (id : NodeId) (value : String) :
    d.SameUnpainted (d.perform (.setOutline id value)) := by
  rw [perform, setOutline?]
  split
  · exact ⟨⟨rfl, rfl, rfl, rfl, rfl⟩, rfl⟩
  · exact .refl d

theorem SameUnpainted.update (h : d.SameUnpainted d') (id : NodeId) (f : Element → Element) :
    (d.update id f).SameUnpainted (d'.update id f) where
  root := congrArg (Element.update id f) h.root
  detached := congrArg (Node.updateAll id f) h.detached
  size := h.size
  url := h.url
  frame := h.frame
  active := h.active

/-- An edit does not look at the outlines. -/
theorem SameUnpainted.perform (h : d.SameUnpainted d') (e : Edit) :
    (d.perform e).SameUnpainted (d'.perform e) := by
  cases e with
  | setAttribute id name value =>
    simp only [Document.perform, setAttribute?, h.isElement_eq]
    split
    · exact h.update id _
    · exact h
  | append parent markup =>
    simp only [Document.perform, append?, h.isElement_eq, h.size]
    split
    · have hgrown := h.update parent fun e =>
        { e with children := e.children ++ [.element (markup.number d'.size)] }
      exact ⟨⟨hgrown.root, hgrown.detached, rfl, h.url, h.frame⟩, h.active⟩
    · exact h
  | detach id =>
    simp only [Document.perform, Document.detach, h.place?_eq]
    split
    · rename_i node parent rest _
      refine ⟨⟨congrArg (Element.without id) h.root, ?_, h.size, h.url, h.frame⟩, h.active⟩
      exact congrArg (Node.withoutAll id · ++ [node]) h.detached
    · exact h
  | focus id =>
    refine ⟨⟨h.root, h.detached, h.size, h.url, h.frame⟩, ?_⟩
    simp only [Document.perform, Document.focus, h.isElement_eq]
  | setOutline id value =>
    have hleft := d.sameUnpainted_setOutline id value
    exact hleft.symm.trans (h.trans (d'.sameUnpainted_setOutline id value))
  | withUrl url => exact ⟨⟨h.root, h.detached, h.size, rfl, h.frame⟩, h.active⟩
  | withFrame host => exact ⟨⟨h.root, h.detached, h.size, h.url, rfl⟩, h.active⟩

end Document

end Pinpoint
