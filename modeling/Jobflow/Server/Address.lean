import Jobflow.Fault
import Jobflow.Server.Host
import Jobflow.Text.Lowercase

/-!
# Server addresses

A server is given by a URL: a scheme, which may be left out, a user and a password, which
may be left out as well, a host and a port. What follows the host and port does not count.
The address that requests are sent to has the scheme, the host in small letters and the
port, unless it is zero.
-/

namespace Jobflow.Server

/-- Where a server is, and who is known to it. -/
structure Address where
  /-- The user, if given. -/
  user : Option String
  /-- The password, if given. -/
  password : Option String
  /-- The URL without user and password. -/
  url : String
deriving DecidableEq, Repr

/-- The scheme of URLs that name none. -/
def defaultScheme : List Char := "http".toList

/-- The mark between scheme and host. -/
def schemeMark : List Char := "://".toList

/-- Whether a URL starts with a scheme made of letters. -/
def hasScheme (url : List Char) : Bool :=
  let scheme := url.takeWhile Char.isAlpha
  !scheme.isEmpty && schemeMark.isPrefixOf (url.drop scheme.length)

/-- A URL with its scheme, the default one if it has none. -/
def withScheme (url : List Char) : List Char :=
  if hasScheme url then url else defaultScheme ++ schemeMark ++ url

/-- The parts of a URL that say where the server is: the scheme in small letters, and what
stands between the scheme and the first slash, question mark or number sign. Tabs and line
ends are dropped first. -/
def authority (url : List Char) : List Char × List Char :=
  let clean := url.filter fun c => c ≠ '\t' && c ≠ '\r' && c ≠ '\n'
  let scheme := clean.takeWhile (· ≠ ':')
  let rest := clean.drop (scheme.length + 1)
  let found := if "//".toList.isPrefixOf rest then rest.drop 2 else []
  (scheme.map Char.toLower, found.takeWhile fun c => c ≠ '/' && c ≠ '?' && c ≠ '#')

/-- Characters whose compatible form holds one of the marks that structure a URL. -/
def hiddenMarks : List Nat :=
  [0x2047, 0x2048, 0x2049, 0x2100, 0x2101, 0x2105, 0x2106, 0x2a74, 0xfe13, 0xfe16, 0xfe55,
    0xfe56, 0xfe5f, 0xfe6b, 0xff03, 0xff0f, 0xff1a, 0xff1f, 0xff20]

/-- Whether the brackets in an authority are in order: there are none, or an address stands
between the first opening bracket and the next closing one. -/
def bracketsInOrder (authority : List Char) : Bool :=
  let opened := authority.contains '['
  let closed := authority.contains ']'
  if opened && closed then
    isBracketed (((authority.dropWhile (· ≠ '[')).drop 1).takeWhile (· ≠ ']'))
  else !opened && !closed

/-- Whether an authority can be taken apart. -/
def isSplittable (authority : List Char) : Bool :=
  bracketsInOrder authority && !(authority.any fun c => hiddenMarks.contains c.toNat)

/-- The user and password in an authority: what is before the last at sign, cut at its
first colon. -/
def userOf (authority : List Char) : Option String × Option String :=
  match Text.cutLast? (· == '@') authority with
  | none => (none, none)
  | some (info, _) =>
    match Text.cutFirst? (· == ':') info with
    | none => (some (String.ofList info), none)
    | some (user, password) => (some (String.ofList user), some (String.ofList password))

/-- Cut a text at the first character satisfying a test, or leave it whole. -/
def cutOr (at? : Char → Bool) (cs : List Char) : List Char × List Char :=
  (Text.cutFirst? at? cs).getD (cs, [])

/-- The host in an authority, without its brackets, and the text of its port, empty if
there is none. -/
def hostOf (authority : List Char) : List Char × List Char :=
  let place :=
    match Text.cutLast? (· == '@') authority with
    | none => authority
    | some (_, place) => place
  match Text.cutFirst? (· == '[') place with
  | some (_, bracketed) =>
    let (host, rest) := cutOr (· == ']') bracketed
    (host, (cutOr (· == ':') rest).2)
  | none => cutOr (· == ':') place

/-- A host in small letters; a zone after a percent sign stays as it is. -/
def lowerHost (host : List Char) : String :=
  Text.lower (String.ofList (host.takeWhile (· ≠ '%'))) ++
    String.ofList (host.dropWhile (· ≠ '%'))

/-- The number of a port, none if the text is empty. -/
def portOf (port : List Char) : Except Mishap (Option Nat) :=
  if port.isEmpty then .ok none
  else if !port.all Char.isDigit then .error .badValue
  else
    let number := port.foldl (fun value c => 10 * value + (c.toNat - 0x30)) 0
    if number ≤ 65535 then .ok (some number) else .error .badValue

/-- The text of a port after a host. -/
def portText : Option Nat → String
  | none | some 0 => ""
  | some port => ":" ++ toString port

namespace Address

/-- The address in a URL. -/
def ofUrl (url : String) : Except Fault Address := do
  let url := withScheme url.toList
  let trimmed := (url.reverse.dropWhile (· == '/')).reverse
  let (scheme, authority) := authority trimmed
  unless isSplittable authority do throw (.mishap .badValue)
  let (host, port) := hostOf authority
  if host.isEmpty then throw (.refused (.malformedUrl (String.ofList url)))
  let port ← (portOf port).mapError Fault.mishap
  let (user, password) := userOf authority
  return { user, password
           url := String.ofList scheme ++ "://" ++ lowerHost host ++ portText port }

end Address

end Jobflow.Server
