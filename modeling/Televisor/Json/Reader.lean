import Televisor.Data.Datum
import Televisor.Json.Token

namespace Televisor.Json

open Data

/-! Reading JSON values from words, with the open lists and objects on a stack. -/

/-- An open list or object with what it holds so far, the latest first; an object waits for the
value of a key. -/
inductive Open where
  | list (items : List Datum)
  | object (fields : List (String × Datum)) (key : String)

inductive Stage where
  | value
  | firstItem
  | afterValue (value : Datum)
  | key (fields : List (String × Datum))
  | firstKey
  | colon (fields : List (String × Datum)) (key : String)

def Token.scalar? : Token → Option Datum
  | .null => some .null
  | .bool b => some (.bool b)
  | .number (.int n) => some (.int n)
  | .number (.float x) => some (.float x)
  | .text s => some (.text s)
  | _ => none

/-- At most this many lists and objects may be open at once. -/
def depthLimit : Nat := 127

def beginValue? (limit : Nat) (stack : List Open) : Token → Option (List Open × Stage)
  | .openList => if stack.length < limit then some (.list [] :: stack, .firstItem) else none
  | .openObject => if stack.length < limit then some (.object [] "" :: stack, .firstKey) else none
  | token => token.scalar?.map fun value => (stack, .afterValue value)

def step? (limit : Nat) (stack : List Open) (stage : Stage) (token : Token) :
    Option (List Open × Stage) :=
  match stage, token, stack with
  | .value, token, stack => beginValue? limit stack token
  | .firstItem, .closeList, .list items :: rest => some (rest, .afterValue (.list items.reverse))
  | .firstItem, token, stack => beginValue? limit stack token
  | .firstKey, .closeObject, _ :: rest => some (rest, .afterValue (.object []))
  | .firstKey, .text key, stack => some (stack, .colon [] key)
  | .key fields, .text key, stack => some (stack, .colon fields key)
  | .colon fields key, .colon, _ :: rest => some (.object fields key :: rest, .value)
  | .afterValue value, .comma, .list items :: rest => some (.list (value :: items) :: rest, .value)
  | .afterValue value, .closeList, .list items :: rest =>
    some (rest, .afterValue (.list (value :: items).reverse))
  | .afterValue value, .comma, .object fields key :: rest =>
    some (.object [] "" :: rest, .key ((key, value) :: fields))
  | .afterValue value, .closeObject, .object fields key :: rest =>
    some (rest, .afterValue (.object ((key, value) :: fields).reverse))
  | _, _, _ => none

/-- The value that is complete when nothing is open any more. -/
def finished? : List Open → Stage → Option Datum
  | [], .afterValue value => some value
  | _, _ => none

/-- Reads the words of one value and returns it with the words after it. -/
def readFrom? (limit : Nat) (stack : List Open) (stage : Stage) :
    List Token → Option (Datum × List Token)
  | [] => (finished? stack stage).map (·, [])
  | token :: rest =>
    match finished? stack stage with
    | some value => some (value, token :: rest)
    | none =>
      match step? limit stack stage token with
      | some (stack, stage) => readFrom? limit stack stage rest
      | none => none

theorem readFrom?_length_le {limit : Nat} {stack : List Open} {stage : Stage}
    {tokens rest : List Token} {value : Datum}
    (found : readFrom? limit stack stage tokens = some (value, rest)) :
    rest.length ≤ tokens.length := by
  induction tokens generalizing stack stage with
  | nil =>
      simp only [readFrom?, Option.map_eq_some_iff, Prod.mk.injEq] at found
      obtain ⟨_, _, _, same⟩ := found
      simp [← same]
  | cons token tail ih =>
      simp only [readFrom?] at found
      split at found
      · simp only [Option.some.injEq, Prod.mk.injEq] at found
        simp [← found.2]
      · split at found
        · have bound := ih found
          simp only [List.length_cons]
          omega
        · contradiction

/-- The value at the head of the words; `depth` lists and objects are already open around it. -/
def readValue? (depth : Nat) (tokens : List Token) : Option (Datum × List Token) :=
  readFrom? (depthLimit - depth) [] .value tokens

theorem readValue?_length_le {depth : Nat} {tokens rest : List Token} {value : Datum}
    (found : readValue? depth tokens = some (value, rest)) : rest.length ≤ tokens.length :=
  readFrom?_length_le found

def parse? (text : String) : Option Datum :=
  match readValue? 0 (tokens text) with
  | some (value, []) => some value
  | _ => none

end Televisor.Json
