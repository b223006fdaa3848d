import Televisor.Url.Basic
import Televisor.Url.Domain

namespace Televisor.Url

/-! Reading URLs, alone or against a base, by the rules of the WHATWG standard. -/

def isSlash (c : Char) : Bool :=
  c = '/' || c = '\\'

/-- The scheme before the first colon, in lower case, and the text after the colon. -/
def splitScheme? (text : List Char) : Option (String × List Char) :=
  let isSchemeChar (c : Char) : Bool := c.isAlphanum || c = '+' || c = '-' || c = '.'
  match text with
  | first :: _ =>
    if first.isAlpha then
      match text.dropWhile isSchemeChar with
      | ':' :: rest => some (String.ofList ((text.takeWhile isSchemeChar).map Char.toLower), rest)
      | _ => none
    else none
  | [] => none

/-- Splits off the user information, which ends at the last at sign before the path. -/
def splitUser (special : Bool) (text : List Char) : Except Failure (List Char × List Char) :=
  let ends (c : Char) : Bool := c = '/' || c = '?' || c = '#' || (special && c = '\\')
  let authority := text.takeWhile (!ends ·)
  if authority.contains '@' then
    let host := (authority.reverse.takeWhile (· != '@')).reverse
    let user := authority.take (authority.length - host.length - 1)
    let rest := text.drop (user.length + 1)
    if user.isEmpty then
      match rest with
      | c :: _ => if ends c then .error .emptyHost else .ok ([], rest)
      | [] => .ok ([], rest)
    else .ok (user, rest)
  else .ok ([], text)

/-- User information as it is kept: a name, and a password if there is one that is not empty. -/
def encodeUser (user : List Char) : List Char :=
  let name := user.takeWhile (· != ':')
  let password := (user.dropWhile (· != ':')).drop 1
  let encoded := percentEncode isUserUnsafe
  if password.isEmpty then encoded name else encoded name ++ ':' :: encoded password

/-- The host's text and what follows it; colons inside square brackets belong to the host. -/
def splitHost (special inBrackets : Bool) : List Char → List Char × List Char
  | [] => ([], [])
  | c :: rest =>
    if (c = ':' && !inBrackets) || c = '/' || c = '?' || c = '#' || (special && c = '\\') then
      ([], c :: rest)
    else
      let inBrackets := if c = '[' then true else if c = ']' then false else inBrackets
      let (host, after) := splitHost special inBrackets rest
      (c :: host, after)

def readBracketed (text : List Char) : Except Failure Host :=
  if text.getLast? = some ']' then
    match readV6? text.dropLast with
    | some words => .ok (.address (.v6 words))
    | none => .error .invalidV6
  else .error .invalidV6

def readHost (text : List Char) : Except Failure Host :=
  match text with
  | '[' :: rest => readBracketed rest
  | text =>
    match readDomain? text with
    | none => .error .invalidDomain
    | some domain =>
      if domain.isEmpty then .error .emptyHost
      else if endsInNumber domain then
        match readV4? domain with
        | some value => .ok (.address (.v4 value))
        | none => .error .invalidV4
      else .ok (.domain domain)

def readOpaqueHost (text : List Char) : Except Failure Host :=
  match text with
  | '[' :: rest => readBracketed rest
  | text =>
    let isForbidden (c : Char) : Bool :=
      ['\x00', '\t', '\n', '\r', ' ', '#', '/', ':', '<', '>', '?', '@', '[', '\\', ']', '^',
        '|'].contains c
    if text.any isForbidden then .error .invalidHostCharacter
    else .ok (.domain (percentEncode isControl text))

/-- The port after its colon; one that the scheme implies is dropped. -/
def readPort (scheme : String) (text : List Char) : Except Failure (Option Nat × List Char) :=
  let digits := text.takeWhile Char.isDigit
  let rest := text.dropWhile Char.isDigit
  let ended :=
    match rest with
    | [] => true
    | c :: _ => isSlash c || c = '?' || c = '#'
  match Text.digitsValue? 0 digits with
  | none => .error .invalidPort
  | some port =>
    if 65535 < port || !ended then .error .invalidPort
    else if digits.isEmpty || defaultPort? scheme = some port then .ok (none, rest)
    else .ok (some port, rest)

def readHostAndPort (scheme : String) (text : List Char) :
    Except Failure (Option Host × Option Nat × List Char) := do
  let special := isSpecialScheme scheme
  let (hostText, rest) := splitHost special false text
  if special && hostText.isEmpty then throw .emptyHost
  let host ← if special then readHost hostText else readOpaqueHost hostText
  let host := if host = .domain [] then none else some host
  match rest with
  | ':' :: rest =>
    if host.isNone then throw .emptyHost
    let (port, rest) ← readPort scheme rest
    return (host, port, rest)
  | rest => return (host, none, rest)

def isDoubleDot (segment : List Char) : Bool :=
  ["..", "%2e%2e", "%2e.", ".%2e"].contains (String.ofList (segment.map Char.toLower))

def isSingleDot (segment : List Char) : Bool :=
  [".", "%2e"].contains (String.ofList (segment.map Char.toLower))

def isDriveLetter : List Char → Bool
  | [letter, mark] => letter.isAlpha && (mark = ':' || mark = '|')
  | _ => false

/-- Whether a path's text begins with a drive letter that is a segment of its own. -/
def startsWithDrive (text : List Char) : Bool :=
  isDriveLetter (text.take 2) &&
    match text.drop 2 with
    | [] => true
    | c :: _ => isSlash c || c = '?' || c = '#'

/-- Removes the last segment, but never the drive letter of a file. -/
def shorten (file : Bool) (segments : List (List Char)) : List (List Char) :=
  match segments with
  | [[letter, ':']] => if file && letter.isAlpha then segments else []
  | segments => segments.dropLast

/-- Adds one segment, given whether it is the last, to those before it. -/
def addSegment (file : Bool) (before : List (List Char)) (segment : List Char) (last : Bool) :
    List (List Char) :=
  let encoded := percentEncode isPathUnsafe segment
  if isDoubleDot encoded then
    let shorter := shorten file before
    if last then shorter ++ [[]] else shorter
  else if isSingleDot encoded then
    if last then before ++ [[]] else before
  else if file && before.isEmpty && isDriveLetter encoded then
    before ++ [encoded.take 1 ++ [':']]
  else before ++ [encoded]

/-- Adds the segments of a path's text, which begins after a slash. -/
def addSegments (file : Bool) (before : List (List Char)) : List (List Char) → List (List Char)
  | [] => before
  | [segment] => addSegment file before segment true
  | segment :: rest => addSegments file (addSegment file before segment false) rest

def pathPieces (special : Bool) (text : List Char) : List (List Char) :=
  splitAll '/' (if special then text.map fun c => if c = '\\' then '/' else c else text)

def splitPath (text : List Char) : List Char × List Char :=
  text.span fun c => c != '?' && c != '#'

def readSuffix (special : Bool) (text : List Char) : Option (List Char) × Option (List Char) :=
  let fragmentOf (text : List Char) : Option (List Char) :=
    match text with
    | '#' :: fragment => some (percentEncode isFragmentUnsafe fragment)
    | _ => none
  match text with
  | '?' :: rest =>
    let query := rest.takeWhile (· != '#')
    let encoded := percentEncode (if special then isSpecialQueryUnsafe else isQueryUnsafe) query
    (some encoded, fragmentOf (rest.dropWhile (· != '#')))
  | text => (none, fragmentOf text)

/-- A URL with the path, query and fragment that the text after its authority holds; `before` are
the segments the path goes on from. -/
def withPath (scheme : String) (authority : Option Authority) (before : List (List Char))
    (text : List Char) : Url :=
  let special := isSpecialScheme scheme
  let (path, suffix) := splitPath text
  let (query, fragment) := readSuffix special suffix
  let segments := addSegments (scheme == "file") before (pathPieces special path)
  ⟨scheme, authority, .segments segments, query, fragment⟩

def dropSlash (special : Bool) (text : List Char) : List Char :=
  match text with
  | '/' :: rest => rest
  | '\\' :: rest => if special then rest else text
  | text => text

def readAuthority (scheme : String) (text : List Char) : Except Failure Url := do
  let special := isSpecialScheme scheme
  let (user, rest) ← splitUser special text
  let encoded := encodeUser user
  let (host, port, rest) ← readHostAndPort scheme rest
  if host.isNone && !encoded.isEmpty then throw .emptyHost
  let authority : Authority := ⟨encoded, host, port⟩
  let startsPath :=
    match rest with
    | [] => false
    | c :: _ => c != '?' && c != '#'
  if special || startsPath then return withPath scheme (some authority) [] (dropSlash special rest)
  else
    let (query, fragment) := readSuffix special rest
    return ⟨scheme, some authority, .segments [], query, fragment⟩

def readFileHost (text : List Char) : Except Failure (Option Host) := do
  if text.isEmpty then return none
  let host ← readHost text
  return if host = .domain "localhost".toList then none else some host

/-- A path removes all leading empty segments in a file's URL. -/
def dropEmptySegments (segments : List (List Char)) : List (List Char) :=
  match segments.dropWhile List.isEmpty with
  | [] => [[]]
  | segments => segments

def fileUrl (host : Option Host) (before : List (List Char)) (text : List Char) : Url :=
  let url := withPath "file" (some ⟨[], host, none⟩) before text
  match url.path with
  | .segments segments => { url with path := .segments (dropEmptySegments segments) }
  | _ => url

def segments (url : Url) : List (List Char) :=
  match url.path with
  | .segments segments => segments
  | .opaqueText _ => []

def withFragmentOf (base : Url) (text : List Char) : Url :=
  { base with fragment := (readSuffix base.isSpecial text).2 }

def withSuffixOf (base : Url) (text : List Char) : Url :=
  let (query, fragment) := readSuffix base.isSpecial text
  { base with query := query, fragment := fragment }

/-- A file's URL from the text after the slash of a path that is given from the root: the drive or
the host of the base stays. -/
def fileFromRoot (base : Option Url) (text : List Char) : Url :=
  if startsWithDrive text then fileUrl none [] text
  else
    match (base.map segments).getD [] with
    | drive :: _ =>
      if isDriveLetter drive then fileUrl none [drive] text
      else fileUrl (base.bind host?) [] text
    | [] => fileUrl (base.bind host?) [] text

def readFile (base : Option Url) (text : List Char) : Except Failure Url :=
  match text with
  | first :: rest =>
    if isSlash first then
      match rest with
      | second :: rest =>
        if isSlash second then do
          let hostText := rest.takeWhile fun c => !isSlash c && c != '?' && c != '#'
          if isDriveLetter hostText then return fileUrl none [] rest
          let host ← readFileHost hostText
          let path := dropSlash true (rest.drop hostText.length)
          return fileUrl (if startsWithDrive path then none else host) [] path
        else .ok (fileFromRoot base (second :: rest))
      | [] => .ok (fileFromRoot base [])
    else
      match base with
      | none => .ok (fileUrl none [] text)
      | some base =>
        if first = '?' then .ok (base.withSuffixOf text)
        else if first = '#' then .ok (base.withFragmentOf text)
        else if startsWithDrive text then .ok (fileUrl none [] text)
        else .ok (fileUrl base.host? (shorten true base.segments) text)
  | [] =>
    match base with
    | none => .ok (fileUrl none [] [])
    | some base => .ok (base.withFragmentOf [])

/-- A text without a scheme, or with the base's own, against a base with a path. -/
def readRelative (base : Url) (text : List Char) : Except Failure Url :=
  let special := base.isSpecial
  match text with
  | [] => .ok (base.withFragmentOf [])
  | '?' :: _ => .ok (base.withSuffixOf text)
  | '#' :: _ => .ok (base.withFragmentOf text)
  | first :: rest =>
    if isSlash first then
      match rest with
      | second :: after =>
        if isSlash second then
          if first = '/' && second = '/' then readAuthority base.scheme after
          else readAuthority base.scheme (text.dropWhile isSlash)
        else .ok (withPath base.scheme base.authority [] rest)
      | [] => .ok (withPath base.scheme base.authority [] rest)
    else if special || !base.segments.isEmpty then
      .ok (withPath base.scheme base.authority base.segments.dropLast text)
    else .ok (withPath base.scheme base.authority [] text)

/-- A text after the scheme of neither a file nor another special URL. -/
def readGeneral (scheme : String) (text : List Char) : Except Failure Url :=
  match text with
  | '/' :: '/' :: rest => readAuthority scheme rest
  | '/' :: rest => .ok (withPath scheme none [] rest)
  | text =>
    let (path, suffix) := splitPath text
    let (query, fragment) := readSuffix false suffix
    .ok ⟨scheme, none, .opaqueText (percentEncode isControl path), query, fragment⟩

def readAfterScheme (base : Option Url) (scheme : String) (text : List Char) : Except Failure Url :=
  if scheme = "file" then readFile (base.filter (·.scheme == "file")) text
  else if isSpecialScheme scheme then
    match base with
    | some base =>
      if (text.takeWhile isSlash).length < 2 && base.scheme = scheme then readRelative base text
      else readAuthority scheme (text.dropWhile isSlash)
    | none => readAuthority scheme (text.dropWhile isSlash)
  else readGeneral scheme text

/-- Control characters and spaces at the ends do not count, nor do tabs and line ends anywhere. -/
def clean (text : List Char) : List Char :=
  let isEdge (c : Char) : Bool := c.toNat ≤ 0x20
  let trimmed := ((text.dropWhile isEdge).reverse.dropWhile isEdge).reverse
  trimmed.filter fun c => c != '\t' && c != '\n' && c != '\r'

/-- Reads a URL, resolving a relative one against the base. -/
def read (base : Option Url) (text : String) : Except Failure Url :=
  let text := clean text.toList
  match splitScheme? text with
  | some (scheme, rest) => readAfterScheme base scheme rest
  | none =>
    match base with
    | none => .error .relativeWithoutBase
    | some base =>
      match base.path with
      | .opaqueText _ =>
        match text with
        | '#' :: _ => .ok (base.withFragmentOf text)
        | _ => .error .relativeToOpaque
      | .segments _ =>
        if base.scheme = "file" then readFile (some base) text else readRelative base text

def parse (text : String) : Except Failure Url :=
  read none text

def join (base : Url) (text : String) : Except Failure Url :=
  read (some base) text

end Televisor.Url
