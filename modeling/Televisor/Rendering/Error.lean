namespace Televisor.Rendering

/-! What can go wrong between this program and a renderer. -/

inductive Failure where
  | connection (url : String) (message : String)
  /-- A subscription or description request was answered with a status that is no success. -/
  | response (url : String) (status : Nat)
  /-- The renderer refused an action. -/
  | actionResponse (action : String) (status : Nat)
  | invalidDescription (reason : String)
  | http (message : String)
  | io (message : String)
deriving Repr, DecidableEq

namespace Failure

def isConnection : Failure → Bool
  | .connection .. => true
  | _ => false

def isRejection : Failure → Bool
  | .response .. => true
  | _ => false

def message : Failure → String
  | .connection url message => "cannot reach " ++ url ++ ": " ++ message
  | .response url status => "device responded " ++ toString status ++ " to " ++ url
  | .actionResponse action status =>
    "action " ++ action ++ " rejected with status " ++ toString status
  | .invalidDescription reason => "invalid device description: " ++ reason
  | .http message => "http error: " ++ message
  | .io message => "io error: " ++ message

end Failure

end Televisor.Rendering
