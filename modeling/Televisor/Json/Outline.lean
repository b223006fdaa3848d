import Televisor.Json.Reader

namespace Televisor.Json

open Data

/-! A JSON text as far as it can be read: the entries of its outermost list or object in order, up
to the point where the text stops being JSON.  A reader that goes through an outline from the
front can refuse a text for what it says before it reaches what is malformed. -/

/-- A value inside the outermost one. -/
inductive Sketch where
  | whole (value : Datum)
  /-- A list or an object that is malformed inside. -/
  | begun (isList : Bool)
  | broken

/-- `closed` holds if the list or object goes on to its end. -/
inductive Outline where
  | scalar (value : Datum)
  | object (fields : List (String × Sketch)) (closed : Bool)
  | list (items : List Sketch) (closed : Bool)
  | malformed

def sketch (tokens : List Token) : Sketch :=
  match readValue? 1 tokens with
  | some (value, _) => .whole value
  | none =>
    match tokens with
    | .openList :: _ => .begun true
    | .openObject :: _ => .begun false
    | _ => .broken

/-- The fields from a key on, whether the object is closed, and what follows it. -/
def outlineFields : List Token → List (String × Sketch) × Bool × List Token
  | .text key :: .colon :: tokens =>
    match _found : readValue? 1 tokens with
    | some (value, .comma :: rest) =>
      let (fields, closed, rest) := outlineFields rest
      ((key, .whole value) :: fields, closed, rest)
    | some (value, .closeObject :: rest) => ([(key, .whole value)], true, rest)
    | some (value, rest) => ([(key, .whole value)], false, rest)
    | none => ([(key, sketch tokens)], false, [])
  | .text key :: tokens => ([(key, .broken)], false, tokens)
  | tokens => ([], false, tokens)
termination_by tokens => tokens.length
decreasing_by
  have bound := readValue?_length_le _found
  simp only [List.length_cons] at bound ⊢
  omega

/-- The items from a value on, whether the list is closed, and what follows it. -/
def outlineItems (tokens : List Token) : List Sketch × Bool × List Token :=
  match _found : readValue? 1 tokens with
  | some (value, .comma :: rest) =>
    let (items, closed, rest) := outlineItems rest
    (.whole value :: items, closed, rest)
  | some (value, .closeList :: rest) => ([.whole value], true, rest)
  | some (value, rest) => ([.whole value], false, rest)
  | none => ([sketch tokens], false, [])
termination_by tokens.length
decreasing_by
  have bound := readValue?_length_le _found
  simp only [List.length_cons] at bound ⊢
  omega

/-- The outline of a text and the words after its outermost value. -/
def outline (tokens : List Token) : Outline × List Token :=
  match tokens with
  | .openObject :: .closeObject :: rest => (.object [] true, rest)
  | .openObject :: rest =>
    let (fields, closed, rest) := outlineFields rest
    (.object fields closed, rest)
  | .openList :: .closeList :: rest => (.list [] true, rest)
  | .openList :: rest =>
    let (items, closed, rest) := outlineItems rest
    (.list items closed, rest)
  | token :: rest =>
    match token.scalar? with
    | some value => (.scalar value, rest)
    | none => (.malformed, rest)
  | [] => (.malformed, [])

def Outline.ofDatum : Datum → Outline
  | .object fields => .object (fields.map fun field => (field.1, .whole field.2)) true
  | .list items => .list (items.map .whole) true
  | value => .scalar value

end Televisor.Json
