import Televisor.Api.Message
import Televisor.Digest.Sha1
import Televisor.Text.Base64
import Televisor.Text.Search
import Televisor.Text.Utf8

namespace Televisor.Api

/-! The request that turns a connection into a WebSocket. -/

/-- What a client's key is completed with before it is hashed. -/
def acceptSuffix : String := "258EAFA5-E914-47DA-95CA-C5AB0DC85B11"

/-- Proves to a client that its key has been read. -/
def acceptKey (key : String) : String :=
  String.ofList (Text.Base64.encode (Digest.sha1 (Text.utf8Bytes (key ++ acceptSuffix).toList)))

def lowered (text : String) : List Char :=
  text.toList.map Char.toLower

def mentions (headers : Headers) (name word : String) : Bool :=
  match header? headers name with
  | some value => Text.contains word.toList (lowered value)
  | none => false

def isExactly (headers : Headers) (name word : String) : Bool :=
  match header? headers name with
  | some value => lowered value == word.toList
  | none => false

/-- The answer key of a handshake, or the answer that refuses it. -/
def readHandshake (request : Request) : Except Response String :=
  if request.method ≠ "GET" then
    .error (.text 405 "Request method must be \x60GET\x60")
  else if !mentions request.headers "connection" "upgrade" then
    .error (.text 400 "Connection header did not include 'upgrade'")
  else if !isExactly request.headers "upgrade" "websocket" then
    .error (.text 400 "\x60Upgrade\x60 header did not include 'websocket'")
  else if !isExactly request.headers "sec-websocket-version" "13" then
    .error (.text 400 "\x60Sec-WebSocket-Version\x60 header did not include '13'")
  else
    match header? request.headers "sec-websocket-key" with
    | none => .error (.text 400 "\x60Sec-WebSocket-Key\x60 header missing")
    | some key =>
      if request.upgradable then .ok (acceptKey key)
      else
        .error (.text 426
          "WebSocket request couldn't be upgraded since no upgrade state was present")

end Televisor.Api
