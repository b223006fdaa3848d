import Televisor.Remote.Line
import Televisor.Rendering.Error
import Televisor.Text.Quoted
import Televisor.Wake.Mac

namespace Televisor.Controller

/-! Why a command failed. -/

inductive Misuse where
  | noKeys
  | volumeOutside (text : String)
  | channel (mediaId : String)
  | mediaType (kind : String)
  | source (name : String)
deriving Repr, DecidableEq

def Misuse.message : Misuse → String
  | .noKeys => "no keys given"
  | .volumeOutside text => "volume " ++ text ++ " outside 0.0..=1.0"
  | .channel mediaId => "channel " ++ Text.quoted mediaId
  | .mediaType kind => "media type " ++ Text.quoted kind
  | .source name => "source " ++ Text.quoted name

inductive Failure where
  | misuse (fault : Misuse)
  | unsupported (feature : String)
  | remote (cause : Remote.Failure)
  | rendering (cause : Rendering.Failure)
  | wake (cause : Wake.Failure)
deriving Repr, DecidableEq

namespace Failure

/-- Whether the caller is at fault, rather than the television or the network. -/
def isCallerError : Failure → Bool
  | .misuse _ => true
  | .unsupported _ => true
  | _ => false

def message : Failure → String
  | .misuse fault => "invalid input: " ++ fault.message
  | .unsupported feature => feature ++ " is not supported by this TV"
  | .remote cause => cause.message
  | .rendering cause => cause.message
  | .wake cause => cause.message

end Failure

end Televisor.Controller
