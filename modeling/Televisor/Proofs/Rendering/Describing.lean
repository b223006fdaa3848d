import Televisor.Proofs.Markup.Escaping
import Televisor.Proofs.Markup.Scanning
import Televisor.Rendering.Description

namespace Televisor.Rendering

open Markup

/-! Descriptions as renderers write them: services in any number and order, the elements that are read
in any order among others, every text escaped and with blanks around it. -/

namespace Tag

def urlBase : Name := ⟨"URLBase".toList, by decide, by decide⟩

def friendlyName : Name := ⟨"friendlyName".toList, by decide, by decide⟩

def service : Name := ⟨"service".toList, by decide, by decide⟩

def serviceType : Name := ⟨"serviceType".toList, by decide, by decide⟩

def controlUrl : Name := ⟨"controlURL".toList, by decide, by decide⟩

def eventUrl : Name := ⟨"eventSubURL".toList, by decide, by decide⟩

/-- The names that are looked for. -/
def all : List Name :=
  [urlBase, friendlyName, service, serviceType, controlUrl, eventUrl]

end Tag

/-- A part of a document: a piece that is not looked for, or one of the elements `told`. -/
inductive Part (told : List Name) where
  | other (piece : Piece) (apart : ∀ name ∈ Tag.all, piece.name? ≠ some name)
  | field (name : Name) (known : name ∈ told) (attributes : Attributes) (content : Content)

namespace Part

variable {told : List Name}

def pieces : Part told → List Piece
  | .other piece _ => [piece]
  | .field name _ attributes content =>
    [.opening name attributes, .text content.raw content.not_mem_raw, .closing name]

/-- What the part says, if it is the element of that name. -/
def content? (name : Name) : Part told → Option Content
  | .other _ _ => none
  | .field called _ _ content => if called = name then some content else none

end Part

structure Service where
  attributes : Attributes
  parts : List (Part [Tag.serviceType, Tag.controlUrl, Tag.eventUrl])
  type : Content
  control : Content
  event : Content
  typed : parts.findSome? (Part.content? Tag.serviceType) = some type
  controlled : parts.findSome? (Part.content? Tag.controlUrl) = some control
  evented : parts.findSome? (Part.content? Tag.eventUrl) = some event

namespace Service

def inside (service : Service) : List Piece :=
  service.parts.flatMap Part.pieces

def pieces (service : Service) : List Piece :=
  .opening Tag.service service.attributes :: (service.inside ++ [.closing Tag.service])

def controlsRendering (service : Service) : Bool :=
  Text.contains "RenderingControl".toList service.type.text

end Service

inductive Item where
  | part (part : Part [Tag.urlBase, Tag.friendlyName])
  | service (service : Service)

namespace Item

def pieces : Item → List Piece
  | .part element => element.pieces
  | .service offer => offer.pieces

def content? (name : Name) : Item → Option Content
  | .part element => element.content? name
  | .service _ => none

def service? : Item → Option Service
  | .part _ => none
  | .service offer => some offer

end Item

structure Description where
  items : List Item
  base : Option Content
  name : Content
  based : items.findSome? (Item.content? Tag.urlBase) = base
  named : items.findSome? (Item.content? Tag.friendlyName) = some name
  absolute : ∀ content, base = some content → content.text ≠ []

namespace Description

def xml (description : Description) : String :=
  String.ofList (render (description.items.flatMap Item.pieces))

def services (description : Description) : List Service :=
  description.items.filterMap Item.service?

/-- The first service that controls rendering. -/
def renderer? (description : Description) : Option Service :=
  description.services.find? Service.controlsRendering

/-- The device that a description tells of, where `say` is what an element is taken to say. -/
def device (description : Description) (say : Content → List Char) (location : String)
    (service : Service) : Except Failure Device := do
  let base ← parseUrl ((description.base.map (String.ofList ∘ say)).getD location)
  let control ← resolve base (say service.control)
  let event ← resolve base (say service.event)
  return {
    location := location
    friendlyName := some (String.ofList description.name.text)
    serviceType := String.ofList (say service.type)
    controlUrl := control
    eventUrl := event }

end Description

section Parts

variable {told : List Name} {name : Name}

theorem Part.content?_untold (untold : name ∉ told) (part : Part told) : part.content? name = none := by
  cases part with
  | other _ _ => rfl
  | field other known _ _ =>
      rw [content?, if_neg]
      rintro rfl
      exact untold known

theorem Part.not_opening (looked : name ∈ Tag.all) {part : Part told} (silent : part.content? name = none) :
    ∀ piece ∈ part.pieces, ∀ attributes, piece ≠ .opening name attributes := by
  intro piece member attributes
  cases part with
  | other piece apart =>
      obtain rfl := List.mem_singleton.mp member
      rintro rfl
      exact apart name looked rfl
  | field other _ _ content =>
      simp only [pieces, List.mem_cons, List.not_mem_nil, or_false] at member
      rcases member with rfl | rfl | rfl
      · rintro ⟨⟩
        simp [content?] at silent
      · rintro ⟨⟩
      · rintro ⟨⟩

theorem Part.not_closing (looked : name ∈ Tag.all) (untold : name ∉ told) (part : Part told) :
    ∀ piece ∈ part.pieces, piece ≠ .closing name := by
  intro piece member
  cases part with
  | other piece apart =>
      obtain rfl := List.mem_singleton.mp member
      rintro rfl
      exact apart name looked rfl
  | field other known _ content =>
      simp only [pieces, List.mem_cons, List.not_mem_nil, or_false] at member
      rcases member with rfl | rfl | rfl
      · rintro ⟨⟩
      · rintro ⟨⟩
      · rintro ⟨⟩
        exact untold known

theorem Part.elementText? (looked : name ∈ Tag.all) (part : Part told) (rest : List Char) :
    Markup.elementText? (render part.pieces ++ rest) name.letters =
      ((part.content? name).map Content.raw).or (Markup.elementText? rest name.letters) := by
  cases said : part.content? name with
  | none => rw [elementText?_skip (Part.not_opening looked said), Option.map_none, Option.none_or]
  | some content =>
      cases part with
      | other _ _ => cases said
      | field other known attributes told =>
          rw [content?] at said
          split at said
          · rename_i same
            subst same
            cases said
            have unclosed : ∀ piece ∈ [Piece.text content.raw content.not_mem_raw], piece ≠ .closing other :=
              List.forall_mem_singleton.mpr nofun
            have found := elementText?_opening attributes unclosed rest
            simp only [render_cons, render_nil, List.append_nil] at found
            rw [pieces, render_cons, render_cons, render_cons, render_nil, List.append_nil,
              List.append_assoc, List.append_assoc, found]
            rfl
          · cases said

theorem elementText?_parts (looked : name ∈ Tag.all) (parts : List (Part told)) (rest : List Char) :
    Markup.elementText? (render (parts.flatMap Part.pieces) ++ rest) name.letters =
      ((parts.findSome? (Part.content? name)).map Content.raw).or
        (Markup.elementText? rest name.letters) := by
  induction parts with
  | nil => rfl
  | cons part parts ih =>
      rw [List.flatMap_cons, render_append, List.append_assoc, Part.elementText? looked, ih,
        List.findSome?_cons]
      cases part.content? name <;> rfl

end Parts

namespace Service

theorem not_opening {name : Name} (service : Service) (looked : name ∈ Tag.all)
    (untold : name ∉ [Tag.serviceType, Tag.controlUrl, Tag.eventUrl]) :
    ∀ piece ∈ service.inside, ∀ attributes, piece ≠ .opening name attributes := by
  intro piece member
  obtain ⟨part, _, inside⟩ := List.mem_flatMap.mp member
  exact Part.not_opening looked (part.content?_untold untold) piece inside

theorem not_closing (service : Service) : ∀ piece ∈ service.inside, piece ≠ .closing Tag.service := by
  intro piece member
  obtain ⟨part, _, inside⟩ := List.mem_flatMap.mp member
  exact part.not_closing (by decide) (by decide) piece inside

theorem elementText?_inside {name : Name} (service : Service) (looked : name ∈ Tag.all) :
    Markup.elementText? (render service.inside) name.letters =
      (service.parts.findSome? (Part.content? name)).map Content.raw := by
  have found := elementText?_parts looked service.parts []
  rw [List.append_nil, elementText?_none, Option.or_none] at found
  exact found

theorem serviceField_inside {name : Name} {content : Content} (service : Service) (tag : String)
    (looked : name ∈ Tag.all) (said : service.parts.findSome? (Part.content? name) = some content)
    (letters : tag.toList = name.letters) :
    serviceField (render service.inside) tag = .ok content.written := by
  rw [serviceField, trimmedText?, letters, service.elementText?_inside looked, said, Option.map_some,
    Option.map_some, content.trimBlanks_raw]

/-- Blanks and entities have no part in the words that tell a service that controls rendering. -/
theorem isRenderingControl_inside (service : Service) :
    isRenderingControl (render service.inside) = service.controlsRendering := by
  have type : Markup.elementText? (render service.inside) "serviceType".toList =
      some service.type.raw := by
    rw [show "serviceType".toList = Tag.serviceType.letters from rfl,
      service.elementText?_inside (by decide), service.typed, Option.map_some]
  have word : "RenderingControl".toList = 'R' :: "enderingControl".toList := rfl
  have same := service.type.contains_raw word ⟨"RenderingContro".toList, rfl⟩ (by decide) (by decide)
    ⟨by decide, by decide⟩
  rw [isRenderingControl, type, controlsRendering, Bool.eq_iff_iff, ← same]

end Service

section Items

variable {name : Name}

theorem elementText?_items (looked : name ∈ Tag.all) (top : name ∈ [Tag.urlBase, Tag.friendlyName])
    (items : List Item) :
    Markup.elementText? (render (items.flatMap Item.pieces)) name.letters =
      (items.findSome? (Item.content? name)).map Content.raw := by
  induction items with
  | nil => exact elementText?_none
  | cons item items ih =>
      rw [List.flatMap_cons, render_append, List.findSome?_cons]
      cases item with
      | part part =>
          rw [Item.pieces, Item.content?, Part.elementText? looked, ih]
          cases part.content? name <;> rfl
      | service service =>
          have outside : name ≠ Tag.service ∧ name ∉ [Tag.serviceType, Tag.controlUrl, Tag.eventUrl] := by
            simp only [List.mem_cons, List.not_mem_nil, or_false] at top
            rcases top with rfl | rfl <;> decide
          have others : ∀ piece ∈ service.pieces, ∀ attributes, piece ≠ .opening name attributes := by
            refine List.forall_mem_cons.mpr ⟨?_, List.forall_mem_append.mpr ⟨?_, ?_⟩⟩
            · rintro attributes ⟨⟩
              exact outside.1 rfl
            · exact service.not_opening looked outside.2
            · exact List.forall_mem_singleton.mpr fun _ => nofun
          rw [Item.pieces, elementText?_skip others, ih]
          rfl

theorem blocks_items (items : List Item) :
    blocks (render (items.flatMap Item.pieces)) Tag.service.letters =
      (items.filterMap Item.service?).map fun service => render service.inside := by
  induction items with
  | nil => exact blocks_none
  | cons item items ih =>
      rw [List.flatMap_cons, render_append]
      cases item with
      | part part =>
          have untold : Tag.service ∉ [Tag.urlBase, Tag.friendlyName] := by decide
          have others := Part.not_opening (by decide) (part.content?_untold untold)
          rw [Item.pieces, blocks_skip others, ih]
          rfl
      | service service =>
          rw [Item.pieces, Service.pieces, render_cons, render_append, render_cons, render_nil,
            List.append_nil, List.append_assoc, List.append_assoc,
            blocks_opening service.attributes service.not_closing, ih]
          rfl

end Items

end Televisor.Rendering
