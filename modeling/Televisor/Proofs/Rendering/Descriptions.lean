import Televisor.Proofs.Rendering.Describing

namespace Televisor.Rendering

open Markup

/-! What is read of a description. -/

namespace Description

variable (description : Description)

theorem trimmedText?_friendlyName :
    trimmedText? (render (description.items.flatMap Item.pieces)) "friendlyName" =
      some description.name.written := by
  have looked : Tag.friendlyName ∈ Tag.all := by decide
  have found := elementText?_items looked (by decide) description.items
  rw [trimmedText?, show "friendlyName".toList = Tag.friendlyName.letters from rfl, found,
    description.named, Option.map_some, Option.map_some, description.name.trimBlanks_raw]

theorem baseText_items (location : String) :
    baseText location (render (description.items.flatMap Item.pieces)) =
      (description.base.map (String.ofList ∘ Content.written)).getD location := by
  have looked : Tag.urlBase ∈ Tag.all := by decide
  have found := elementText?_items looked (by decide) description.items
  rw [baseText, trimmedText?, show "URLBase".toList = Tag.urlBase.letters from rfl, found,
    description.based]
  cases said : description.base with
  | none => rfl
  | some content =>
      have nonempty : content.written.isEmpty = false := by
        rw [List.isEmpty_eq_false_iff]
        intro empty
        refine description.absolute content said ?_
        have decoded := content.escapes.decode
        rw [empty, decode, decodeWith] at decoded
        exact decoded.symm
      simp only [Option.map_some, content.trimBlanks_raw, nonempty, Option.getD_some]
      rfl

theorem renderingService?_items :
    renderingService? (render (description.items.flatMap Item.pieces)) =
      description.renderer?.map fun service => render service.inside := by
  rw [renderingService?, show "service".toList = Tag.service.letters from rfl, blocks_items,
    List.find?_map]
  have same : isRenderingControl ∘ (fun service : Service => render service.inside) =
      Service.controlsRendering :=
    funext Service.isRenderingControl_inside
  rw [same]
  rfl

/-- What is read of a description, where no blank and no other element matters. -/
theorem parseDescription_xml (location : String) :
    parseDescription location description.xml =
      match description.renderer? with
      | none => (parseUrl ((description.base.map (String.ofList ∘ Content.written)).getD location)).bind
          fun _ => .error (.invalidDescription "no RenderingControl service")
      | some service => description.device Content.written location service := by
  rw [parseDescription, xml, String.toList_ofList, baseText_items, renderingService?_items,
    trimmedText?_friendlyName]
  cases description.renderer? with
  | none => rfl
  | some service =>
      have type := service.serviceField_inside "serviceType" (by decide) service.typed rfl
      have control := service.serviceField_inside "controlURL" (by decide) service.controlled rfl
      have event := service.serviceField_inside "eventSubURL" (by decide) service.evented rfl
      simp only [Option.map_some, type, control, event, device]
      rw [description.name.escapes.unescape]
      rfl

/-- What is read of a description: everything is found, and the name is read as it was meant, but the
types and URLs of services, and the base, are taken as they are written. -/
structure Read (location : String) (result : Except Failure Device) : Prop where
  unlisted : description.renderer? = none → ∃ reason, result = .error (.invalidDescription reason)
  listed : ∀ service, description.renderer? = some service →
    result = description.device Content.written location service
  plain : ∀ service, description.renderer? = some service →
    (∀ content ∈ description.base.toList ++ [service.type, service.control, service.event],
      content.written = content.text) →
    result = description.device Content.text location service
  named : ∀ device, result = .ok device →
    device.friendlyName = some (String.ofList description.name.text)

end Description

theorem bind_ok {α β : Type} {first : Except Failure α} {next : α → Except Failure β} {result : β}
    (told : first.bind next = .ok result) : ∃ value, first = .ok value ∧ next value = .ok result := by
  cases first with
  | error failure => cases told
  | ok value => exact ⟨value, rfl, told⟩

theorem device_named {description : Description} {say : Content → List Char} {location : String}
    {service : Service} {device : Device}
    (told : description.device say location service = .ok device) :
    device.friendlyName = some (String.ofList description.name.text) := by
  obtain ⟨base, _, told⟩ := bind_ok told
  obtain ⟨control, _, told⟩ := bind_ok told
  obtain ⟨event, _, told⟩ := bind_ok told
  cases told
  rfl

/-- A text that cannot be a base is reported as a fault of the description. -/
theorem parseUrl_invalid {text : String} {failure : Failure} (refused : parseUrl text = .error failure) :
    ∃ reason, failure = .invalidDescription reason := by
  unfold parseUrl at refused
  cases read : Url.parse text with
  | error fault =>
      rw [read] at refused
      cases refused
      exact ⟨fault.message, rfl⟩
  | ok url =>
      rw [read] at refused
      cases refused

/-- Two ways to read texts tell the same device if they read these texts in the same way. -/
theorem device_congr {description : Description} {say tell : Content → List Char} {service : Service}
    (same : ∀ content ∈ description.base.toList ++ [service.type, service.control, service.event],
      say content = tell content) (location : String) :
    description.device say location service = description.device tell location service := by
  obtain ⟨base, rest⟩ := List.forall_mem_append.mp same
  have type : say service.type = tell service.type := rest _ (by simp)
  have control : say service.control = tell service.control := rest _ (by simp)
  have event : say service.event = tell service.event := rest _ (by simp)
  have bases : description.base.map (String.ofList ∘ say) = description.base.map (String.ofList ∘ tell) := by
    cases some : description.base with
    | none => rfl
    | some content =>
        have told := base content (by simp [some])
        simp only [Option.map_some, Function.comp_apply, told]
  unfold Description.device
  rw [type, control, event, bases]

/-- Whatever a description says besides, the first service that controls rendering is used, as it is
written. -/
theorem descriptions_read (description : Description) (location : String) :
    description.Read location (parseDescription location description.xml) := by
  have read := description.parseDescription_xml location
  refine ⟨fun none => ?_, fun service some => ?_, fun service some same => ?_, fun device told => ?_⟩
  · rw [none] at read
    rw [read]
    dsimp only
    cases base : parseUrl ((description.base.map (String.ofList ∘ Content.written)).getD location) with
    | error failure =>
        obtain ⟨reason, rfl⟩ := parseUrl_invalid base
        exact ⟨reason, rfl⟩
    | ok url => exact ⟨_, rfl⟩
  · rw [some] at read
    exact read
  · rw [some] at read
    exact read.trans (device_congr same location)
  · rw [told] at read
    cases renderer : description.renderer? with
    | none =>
        rw [renderer] at read
        obtain ⟨_, _, impossible⟩ := bind_ok read.symm
        cases impossible
    | some service =>
        rw [renderer] at read
        exact device_named read.symm

/-- The parts of a service that are read, and nothing besides. -/
def Service.bare (type control event : Content) : Service where
  attributes := .none
  parts := [.field Tag.serviceType (by decide) .none type,
    .field Tag.controlUrl (by decide) .none control, .field Tag.eventUrl (by decide) .none event]
  type := type
  control := control
  event := event
  typed := rfl
  controlled := rfl
  evented := rfl

/-- A renderer that is controlled at an address with a query of two parameters. -/
def queried : Service :=
  .bare (.escaped "urn:schemas-upnp-org:service:RenderingControl:1".toList ⟨by decide, by decide⟩)
    (.escaped "/control?a=1&b=2".toList ⟨by decide, by decide⟩)
    (.escaped "/event".toList ⟨by decide, by decide⟩)

/-- An element that is not looked for, around others. -/
def around (name : Name) (apart : ∀ other ∈ Tag.all, some name ≠ some other) (items : List Item) :
    List Item :=
  .part (.other (.opening name .none) apart) :: (items ++ [.part (.other (.closing name) apart)])

def queriedDescription : Description where
  items :=
    around ⟨"root".toList, by decide, by decide⟩ (by decide) <|
      around ⟨"device".toList, by decide, by decide⟩ (by decide) <|
        .part (.field Tag.friendlyName (by decide) .none
          (.escaped "Bed & Breakfast".toList ⟨by decide, by decide⟩)) ::
        around ⟨"serviceList".toList, by decide, by decide⟩ (by decide) [.service queried]
  base := none
  name := .escaped "Bed & Breakfast".toList ⟨by decide, by decide⟩
  based := rfl
  named := rfl
  absolute := nofun

/-- The ampersand of such an address is sent on as it is written in the document. -/
theorem ampersand_left :
    queriedDescription.renderer? = some queried ∧
      (queriedDescription.device Content.text "http://192.168.1.20:9197/dmr" queried).toOption.map
        Device.controlUrl = some "http://192.168.1.20:9197/control?a=1&b=2" ∧
      (parseDescription "http://192.168.1.20:9197/dmr" queriedDescription.xml).toOption.map
        Device.controlUrl = some "http://192.168.1.20:9197/control?a=1&amp;b=2" := by
  have first : queriedDescription.renderer? = some queried := rfl
  refine ⟨first, by decide +kernel, ?_⟩
  have read := queriedDescription.parseDescription_xml "http://192.168.1.20:9197/dmr"
  rw [first] at read
  rw [read]
  decide +kernel

end Televisor.Rendering
