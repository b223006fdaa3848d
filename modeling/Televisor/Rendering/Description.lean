import Televisor.Markup.Escape
import Televisor.Markup.Scan
import Televisor.Rendering.Error
import Televisor.Url.Parse

namespace Televisor.Rendering

open Markup

/-! The description of a renderer: of its services the first that controls rendering is used. -/

/-- What is needed of a description; the two URLs are absolute. -/
structure Device where
  location : String
  friendlyName : Option String
  serviceType : String
  controlUrl : String
  eventUrl : String
deriving Repr, DecidableEq

def trimmedText? (text : List Char) (tag : String) : Option (List Char) :=
  (elementText? text tag.toList).map Text.trimBlanks

/-- The URL that others are resolved against: the document's own if it has one, otherwise where the
document was found. -/
def baseText (location : String) (document : List Char) : String :=
  match trimmedText? document "URLBase" with
  | some base => if base.isEmpty then location else String.ofList base
  | none => location

def parseUrl (text : String) : Except Failure Url :=
  (Url.parse text).mapError fun failure => .invalidDescription failure.message

def resolve (base : Url) (reference : List Char) : Except Failure String :=
  match base.join (String.ofList reference) with
  | .ok url => .ok url.text
  | .error failure => .error (.invalidDescription failure.message)

def isRenderingControl (service : List Char) : Bool :=
  match elementText? service "serviceType".toList with
  | some serviceType => Text.contains "RenderingControl".toList serviceType
  | none => false

def renderingService? (document : List Char) : Option (List Char) :=
  (blocks document "service".toList).find? isRenderingControl

def serviceField (service : List Char) (tag : String) : Except Failure (List Char) :=
  match trimmedText? service tag with
  | some value => .ok value
  | none => .error (.invalidDescription ("service is missing " ++ tag))

def parseDescription (location xml : String) : Except Failure Device := do
  let document := xml.toList
  let base ← parseUrl (baseText location document)
  match renderingService? document with
  | none => throw (.invalidDescription "no RenderingControl service")
  | some service =>
    let serviceType ← serviceField service "serviceType"
    let control ← serviceField service "controlURL"
    let controlUrl ← resolve base control
    let event ← serviceField service "eventSubURL"
    let eventUrl ← resolve base event
    return {
      location := location
      friendlyName := (trimmedText? document "friendlyName").map fun name =>
        String.ofList (unescape name)
      serviceType := String.ofList serviceType
      controlUrl := controlUrl
      eventUrl := eventUrl }

end Televisor.Rendering
