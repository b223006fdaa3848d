namespace Televisor.Data

/-! Values of the data formats that settings, commands and states are written in. -/

/-- Fields keep their order and may repeat; a format that has dates gives each as an object of its
own. -/
inductive Datum where
  | null
  | bool (value : Bool)
  | int (value : Int)
  | float (value : Float)
  | text (value : String)
  | list (items : List Datum)
  | object (fields : List (String × Datum))
deriving Repr, Inhabited

namespace Datum

/-- The last field of that name. -/
def field? (name : String) : Datum → Option Datum
  | .object fields => (fields.reverse.find? (·.1 == name)).map (·.2)
  | _ => none

/-- Of fields that share a name the last value is kept, at the place of the first. -/
def distinctFields (fields : List (String × Datum)) : List (String × Datum) :=
  fields.foldl (fun kept field =>
    if kept.any (·.1 == field.1) then
      kept.map fun old => if old.1 == field.1 then field else old
    else kept ++ [field]) []

end Datum

end Televisor.Data
