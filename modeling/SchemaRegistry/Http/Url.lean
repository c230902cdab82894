import SchemaRegistry.Http.Host
/-!
# Addresses of leaders

The address of a leader is a base to which the path of a request is added. `Url.parse` reads it:
scheme, host and port, the segments of the path, query and fragment, each in its one written form.
Control characters and spaces around an address are dropped, as are tabs and line ends within it.
`Url.extend` adds segments, each of which is encoded as a whole, so that a slash in it does not cut
it. A segment that is one or two points names no step and is left out. `Url.addQuery` adds a
parameter behind those that the base has.

A name and password in the address are sent apart from it and do not show in it, unless they are no
text.
-/

set_option autoImplicit false

namespace SchemaRegistry

def UrlFlaw.message : UrlFlaw → String
  | .relative => "relative URL without a base"
  | .emptyHost => "empty host"
  | .invalidPort => "invalid port number"
  | .invalidIpv4 => "invalid IPv4 address"
  | .invalidIpv6 => "invalid IPv6 address"
  | .invalidDomain => "invalid international domain name"
  | .domainCharacter => "invalid domain character"
  | .notABase => "cannot be a base"

structure Url where
  scheme : List Char
  /-- Host and port, where there can be a host. -/
  authority : Option (List Char)
  /-- Whether a point is written in front of the path, so that the path is not taken for a host. -/
  guarded : Bool
  segments : List (List Char)
  query : Option (List Char)
  fragment : Option (List Char)
  deriving DecidableEq

namespace Url

/-! ## Schemes -/

/-- The schemes of the web, which need a host, and their ports. -/
def webPorts : List (List Char × Nat) := [
  ("http".toList, 80), ("https".toList, 443), ("ws".toList, 80), ("wss".toList, 443),
  ("ftp".toList, 21)]

def isWeb (scheme : List Char) : Bool :=
  (webPorts.lookup scheme).isSome

/-- The scheme of files. -/
def isFile (scheme : List Char) : Bool :=
  scheme == "file".toList

/-- Whether a backslash cuts a path as a slash does and no path is empty. -/
def isSpecial (scheme : List Char) : Bool :=
  isWeb scheme || isFile scheme

/-- The scheme and what follows its colon. -/
def splitScheme? (cs : List Char) : Option (List Char × List Char) :=
  let isPart (c : Char) := c.isAlphanum || c == '+' || c == '-' || c == '.'
  match cs with
  | [] => none
  | c :: _ =>
    if c.isAlpha then
      match cs.dropWhile isPart with
      | ':' :: rest => some ((cs.takeWhile isPart).map Char.toLower, rest)
      | _ => none
    else none

/-! ## Host and port -/

/-- The host in front of the first colon outside brackets, and what follows it. -/
def splitHost (inBrackets : Bool) : List Char → List Char × List Char
  | [] => ([], [])
  | c :: rest =>
    if c = ':' ∧ ¬ inBrackets then ([], c :: rest)
    else
      let inBrackets := if c = '[' then true else if c = ']' then false else inBrackets
      let (host, rest) := splitHost inBrackets rest
      (c :: host, rest)

/-- The port behind a colon, where one is given that is not the scheme's own, and what follows it. A
backslash ends it where none can stand. -/
def readPort (scheme : List Char) (cs : List Char) :
    Except UrlFlaw (Option Nat × List Char) :=
  let digits := cs.takeWhile Char.isDigit
  let rest := cs.dropWhile Char.isDigit
  let n := (Host.number? 10 digits).getD 0
  if 65535 < n ∨ (rest.head?.any (· ≠ '\\')) then .error .invalidPort
  -- A colon without digits gives no port, and so does the scheme's own port.
  else if digits.isEmpty ∨ webPorts.lookup scheme = some n then .ok (none, rest)
  else .ok (some n, rest)

/-- A name and a password in front of a host. -/
structure Credentials where
  name : List Char
  password : List Char

namespace Credentials

def ofChars (cs : List Char) : Credentials :=
  { name := cs.takeWhile (· ≠ ':'), password := (cs.dropWhile (· ≠ ':')).drop 1 }

/-- The credentials as they are written. Those that are empty are not. -/
def chars (c : Credentials) : List Char :=
  let encode := Percent.encode Percent.inUser
  let password := if c.password.isEmpty then [] else ':' :: encode c.password
  if c.name.isEmpty && c.password.isEmpty then [] else encode c.name ++ password ++ ['@']

/-- Whether they can be sent apart from the address. A password that is no text is lost behind a
name, and keeps all in place where there is no name. -/
def isMovable (c : Credentials) : Bool :=
  let isText (cs : List Char) : Bool :=
    (Text.ofOctets? (Percent.decode (Text.octets (String.ofList cs)))).isSome
  isText c.name && (!c.name.isEmpty || isText c.password)

/-- What is left of them in the address. -/
def shown (c : Credentials) : List Char :=
  if c.isMovable then [] else c.chars

end Credentials

/-- The text in front of the last at sign, if there is one, and the text behind it. -/
def splitUser (cs : List Char) : Option (List Char) × List Char :=
  let behind := (cs.reverse.takeWhile (· ≠ '@')).reverse
  if behind.length < cs.length then (some (cs.take (cs.length - behind.length - 1)), behind)
  else (none, cs)

/-- The authority of an address in its written form, and what follows a port in it. `isLast` says
that the address ends behind it. -/
def readAuthority (scheme : List Char) (isLast : Bool) (cs : List Char) :
    Except UrlFlaw (List Char × List Char) :=
  let (user, behind) := splitUser cs
  let credentials := Credentials.ofChars (user.getD [])
  let (host, rest) := splitHost false behind
  -- Nothing may stand where a host is expected: not in front of a port, nor behind a name.
  let expected := isWeb scheme || !rest.isEmpty || !credentials.chars.isEmpty ||
    (user == some [] && !isLast)
  if host.isEmpty && expected then .error .emptyHost
  else
    match if isWeb scheme then Host.webChars host else Host.opaqueChars host with
    | .error flaw => .error flaw
    | .ok host =>
      (readPort scheme (rest.drop 1)).map fun (port, rest) =>
        let port := match port with
          | none => []
          | some n => ':' :: Nat.toDigits 10 n
        (credentials.shown ++ host ++ port, rest)

/-! ## Paths -/

/-- Whether a segment says to stay. -/
def isStay (segment : List Char) : Bool :=
  segment.map Char.toLower == ['.'] || segment.map Char.toLower == "%2e".toList

/-- Whether a segment says to go up. -/
def isUp (segment : List Char) : Bool :=
  ["..".toList, ".%2e".toList, "%2e.".toList, "%2e%2e".toList].contains
    (segment.map Char.toLower)

/-- Whether a segment names a drive: a letter and a colon, or a bar for it. -/
def isDrive : List Char → Bool
  | [c, mark] => c.isAlpha && (mark == ':' || mark == '|')
  | _ => false

/-- One step up, the last segment being the first. Nothing is above a drive. -/
def goUp : List (List Char) → List (List Char)
  | [] => []
  | last :: rest => if isDrive last then last :: rest else rest

/-- The segments behind those that have been gone through, the last of those first. If drives are
looked for, one that comes first is written with a colon. -/
def resolve (drives : Bool) (done : List (List Char)) : List (List Char) → List (List Char)
  | [] => done.reverse
  | segment :: rest =>
    -- At the end of a path, going up and staying leave the path open, as a slash does.
    if isUp segment then resolve drives (if rest.isEmpty then [] :: goUp done else goUp done) rest
    else if isStay segment then resolve drives (if rest.isEmpty then [] :: done else done) rest
    else
      let segment := if drives && done.isEmpty && isDrive segment
        then segment.take 1 ++ [':']
        else Percent.encode Percent.inPath segment
      resolve drives (segment :: done) rest

/-- Whether a slash stands there, in the schemes in which a backslash is one. -/
def isSlash (special : Bool) (c : Char) : Bool :=
  c == '/' || (special && c == '\\')

/-- The segments of a path. -/
def segmentsOf (special drives : Bool) (path : List Char) : List (List Char) :=
  match path with
  | [] => if special then [[]] else []
  | c :: rest =>
    let steps := if isSlash special c then rest else path
    resolve drives [] (Text.splitAt (isSlash special) steps)

/-! ## Reading -/

/-- What separates the parts of an address from what comes before. -/
def endsAuthority (special : Bool) (c : Char) : Bool :=
  c == '?' || c == '#' || isSlash special c

/-- Path, query and fragment of an address. -/
def readTail (scheme : List Char) (authority : Option (List Char)) (drives : Bool)
    (cs : List Char) : Url :=
  let special := isSpecial scheme
  let path := cs.takeWhile fun c => c != '?' && c != '#'
  let rest := cs.dropWhile fun c => c != '?' && c != '#'
  let query := match rest with
    | '?' :: rest => some (Percent.encode (Percent.inQuery special) (rest.takeWhile (· ≠ '#')))
    | _ => none
  let fragment := match rest.dropWhile (· ≠ '#') with
    | '#' :: rest => some (Percent.encode Percent.inFragment rest)
    | _ => none
  let segments := segmentsOf special drives path
  let guarded := authority.isNone && 1 < segments.length && segments.head? == some []
  { scheme, authority, guarded, segments, query, fragment }

/-- Without tabs and line ends, which are not looked at. -/
def dropBreaks (cs : List Char) : List Char :=
  cs.filter fun c => c != '\t' && c != '\n' && c != '\r'

/-- Without the control characters and spaces around an address, and tabs and line ends in it. -/
def clean (cs : List Char) : List Char :=
  let isOuter (c : Char) := c.toNat ≤ 0x20
  dropBreaks ((cs.dropWhile isOuter).reverse.dropWhile isOuter).reverse

/-- An address from behind the two slashes in front of its authority. -/
def readFrom (scheme : List Char) (cs : List Char) : Except UrlFlaw Url :=
  let ends := endsAuthority (isSpecial scheme)
  let path := cs.dropWhile (!ends ·)
  (readAuthority scheme path.isEmpty (cs.takeWhile (!ends ·))).map fun (authority, rest) =>
    readTail scheme (some authority) false (rest ++ path)

/-! ## Files -/

/-- The host of a file in its written form. This computer itself has none. -/
def readFileHost (host : List Char) : Except UrlFlaw (List Char) :=
  if host.isEmpty then .ok []
  else (Host.webChars host).map fun host => if host = "localhost".toList then [] else host

/-- The path of a file, which begins with one slash only. -/
def trimSegments (segments : List (List Char)) : List (List Char) :=
  match segments.dropWhile (·.isEmpty) with
  | [] => [[]]
  | segments => segments

/-- The address of a file, from the first slash of its path on. A drive belongs to no host. -/
def readFilePath (scheme host : List Char) (drives : Bool) (cs : List Char) : Url :=
  let u := readTail scheme (some host) drives cs
  let isLocal := u.segments.head?.any isDrive
  { u with
    authority := some (if isLocal then [] else host)
    segments := trimSegments u.segments }

/-- The address of a file, from behind the colon. Behind an empty host a drive is left as it is. -/
def readFile (scheme : List Char) (cs : List Char) : Except UrlFlaw Url :=
  match cs with
  | a :: b :: rest =>
    if isSlash true a && isSlash true b then
      let host := rest.takeWhile (!endsAuthority true ·)
      if isDrive host then .ok (readFilePath scheme [] true ('/' :: rest))
      else (readFileHost host).map fun written =>
        readFilePath scheme written (!written.isEmpty) (rest.drop host.length)
    else .ok (readFilePath scheme [] true (if isSlash true a then cs else '/' :: cs))
  | _ => .ok (readFilePath scheme [] true (if cs.any (isSlash true) then cs else '/' :: cs))

/-! ## All addresses -/

/-- The address that a text gives. -/
def parse (s : String) : Except UrlFlaw Url :=
  match splitScheme? (clean s.toList) with
  | none => .error .relative
  | some (scheme, rest) =>
    -- An address of the web may have any number of slashes here, or none.
    if isWeb scheme then
      readFrom scheme (rest.dropWhile (isSlash true))
    else if isFile scheme then readFile scheme rest
    else
      match rest with
      | '/' :: '/' :: rest => readFrom scheme rest
      | '/' :: _ => .ok (readTail scheme none false rest)
      | _ => .error .notABase

/-! ## Extending -/

/-- The path without an empty segment at its end. -/
def dropEmptyEnd (segments : List (List Char)) : List (List Char) :=
  if 1 < segments.length ∧ segments.getLast? = some [] then segments.dropLast else segments

/-- The path with a step added. A path that is only a slash has none yet. A step of points alone
names none; if it only becomes one when tabs and line ends are dropped, it is taken for one, and
leaves the path open. -/
def addStep (special : Bool) (segments : List (List Char)) (step : String) : List (List Char) :=
  if step = "." ∨ step = ".." then segments
  else
    let segments := if segments = [[]] then [] else segments
    let cs := dropBreaks step.toList
    if cs = ['.', '.'] then (goUp segments.reverse).reverse ++ [[]]
    else if cs = ['.'] then segments ++ [[]]
    else segments ++ [Percent.encode (Percent.inSegment special) cs]

/-- The address with steps added to its path. -/
def extend (u : Url) (steps : List String) : Url :=
  { u with segments := steps.foldl (addStep (isSpecial u.scheme)) (dropEmptyEnd u.segments) }

/-- The address with a parameter added to its query. -/
def addQuery (u : Url) (name value : String) : Url :=
  let pair := name.toList ++ '=' :: value.toList
  let query := match u.query with
    | none | some [] => pair
    | some query => query ++ '&' :: pair
  { u with query := some query }

/-! ## Writing -/

def pathChars (u : Url) : List Char :=
  u.segments.flatMap fun segment => '/' :: segment

/-- Path and query, which is what a request asks for. -/
def targetChars (u : Url) : List Char :=
  u.pathChars ++ match u.query with
    | none => []
    | some query => '?' :: query

def chars (u : Url) : List Char :=
  u.scheme ++ ':' :: (match u.authority with
    | none => []
    | some authority => '/' :: '/' :: authority) ++ (if u.guarded then ['/', '.'] else [])
    ++ u.targetChars
    ++ match u.fragment with
      | none => []
      | some fragment => '#' :: fragment

/-- The address as it is written. -/
def text (u : Url) : String :=
  String.ofList u.chars

/-- What the request asks for. -/
def target (u : Url) : String :=
  String.ofList u.targetChars

/-! ## Reaching -/

/-- Whether the address names a host. -/
def hasHost (u : Url) : Bool :=
  match u.authority with
  | some (_ :: _) => true
  | _ => false

/-- The longest address that a request can have. -/
def maxLength : Nat := 65534

/-- The characters of a host that must not stand in a request. -/
def isUnsendable (c : Char) : Bool :=
  c == '"' || c == '\x60' || c == '\x7b' || c == '\x7d'

/-- Whether requests can be sent to the address. -/
def isReachable (u : Url) : Bool :=
  (u.scheme == "http".toList || u.scheme == "https".toList) && u.chars.length ≤ maxLength &&
    !(u.authority.getD []).any isUnsendable

end Url

end SchemaRegistry
