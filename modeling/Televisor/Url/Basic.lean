import Televisor.Url.Address

namespace Televisor

/-! URLs as the WHATWG standard reads and writes them. -/

namespace Url

inductive Host where
  | domain (name : List Char)
  | address (address : Address)
deriving Repr, DecidableEq

def Host.text : Host → String
  | .domain name => String.ofList name
  | .address (.v4 value) => v4Text value
  | .address (.v6 words) => "[" ++ v6Text words ++ "]"

/-- User information, host and port; the user information is kept as it is written. -/
structure Authority where
  user : List Char
  host : Option Host
  port : Option Nat
deriving Repr, DecidableEq

/-- A path is a list of segments, or one opaque text that nothing can be resolved against. -/
inductive Path where
  | segments (list : List (List Char))
  | opaqueText (text : List Char)
deriving Repr, DecidableEq

inductive Failure where
  | emptyHost
  | invalidDomain
  | invalidPort
  | invalidV4
  | invalidV6
  | invalidHostCharacter
  | relativeWithoutBase
  | relativeToOpaque
deriving Repr, DecidableEq

def Failure.message : Failure → String
  | .emptyHost => "empty host"
  | .invalidDomain => "invalid international domain name"
  | .invalidPort => "invalid port number"
  | .invalidV4 => "invalid IPv4 address"
  | .invalidV6 => "invalid IPv6 address"
  | .invalidHostCharacter => "invalid domain character"
  | .relativeWithoutBase => "relative URL without a base"
  | .relativeToOpaque => "relative URL with a cannot-be-a-base base"

end Url

structure Url where
  scheme : String
  authority : Option Url.Authority
  path : Url.Path
  query : Option (List Char)
  fragment : Option (List Char)
deriving Repr, DecidableEq

namespace Url

/-- Schemes whose URLs always have a path and whose hosts are domain names or addresses. -/
def isSpecialScheme (scheme : String) : Bool :=
  ["http", "https", "ws", "wss", "ftp", "file"].contains scheme

def defaultPort? (scheme : String) : Option Nat :=
  match scheme with
  | "http" => some 80
  | "ws" => some 80
  | "https" => some 443
  | "wss" => some 443
  | "ftp" => some 21
  | _ => none

def isSpecial (url : Url) : Bool :=
  isSpecialScheme url.scheme

def Authority.text (authority : Authority) : String :=
  let user := if authority.user.isEmpty then "" else String.ofList authority.user ++ "@"
  let port :=
    match authority.port with
    | some port => ":" ++ toString port
    | none => ""
  user ++ (authority.host.map Host.text).getD "" ++ port

def segmentsText (segments : List (List Char)) : String :=
  String.ofList (segments.flatMap ('/' :: ·))

/-- The path as it is written; without an authority it must not begin with two slashes. -/
def pathText (url : Url) : String :=
  match url.path with
  | .opaqueText text => String.ofList text
  | .segments segments =>
    let guarded :=
      match url.authority, segments with
      | none, [] :: _ :: _ => "/."
      | _, _ => ""
    guarded ++ segmentsText segments

def text (url : Url) : String :=
  let authority :=
    match url.authority with
    | some authority => "//" ++ authority.text
    | none => ""
  let behind (mark : String) (part : Option (List Char)) : String :=
    match part with
    | some part => mark ++ String.ofList part
    | none => ""
  url.scheme ++ ":" ++ authority ++ url.pathText ++ behind "?" url.query ++ behind "#" url.fragment

def host? (url : Url) : Option Host :=
  url.authority.bind (·.host)

/-- The port that is written, or the one its scheme implies. -/
def effectivePort? (url : Url) : Option Nat :=
  match url.authority.bind (·.port) with
  | some port => some port
  | none => defaultPort? url.scheme

def isHttp (url : Url) : Bool :=
  url.scheme == "http" || url.scheme == "https"

end Url

end Televisor
