import ReplayFlow.Fault
import ReplayFlow.Service.Host
import ReplayFlow.Text.Case

/-!
Targets of requests: a scheme, an authority, a path and a query, of which each may
be missing. A target with a scheme and a host is whole; from any other only the
path is taken, and it starts at the root.
-/

namespace ReplayFlow.Service

/-- Who is asked: a user, a host, and the number that may follow it after a colon, as it is
written. -/
structure Authority where
  user : List Char := []
  host : List Char := []
  number : List Char := []
  deriving DecidableEq

structure Target where
  scheme : List Char
  authority : Authority
  path : List Char
  query : List Char

namespace Authority

/-- The host that a text starts with: up to the last closing bracket if it starts with an
opening one, or else up to a colon. -/
def hostOf (text : List Char) : List Char :=
  if text.head? = some '[' && ']' ∈ text then Text.dropEndWhile (· ≠ ']') text
  else text.takeWhile (· != ':')

/-- The last `@` parts the user from the host. -/
def ofText (text : List Char) : Authority :=
  let rest := (text.reverse.takeWhile (· != '@')).reverse
  let user := (text.take (text.length - rest.length)).dropLast
  let host := hostOf rest
  match rest.drop host.length with
  | ':' :: number => { user, host, number }
  | number => { user, host, number }

/-- Whether the host, if there is one, has the right form, and a number its digits. -/
def isReadable (a : Authority) : Bool :=
  Host.isHost a.host && (a.number = [] || (Text.readInt? a.number).isSome)

end Authority

namespace Target

/-- The most characters that a target, or a part of it once it is encoded, may have. -/
def sizeLimit : Nat := 65536

/-- The scheme of a text and what follows its colon. A colon with nothing before it counts
for nothing. -/
def splitScheme (text : List Char) : List Char × List Char :=
  let inScheme (c : Char) : Bool := c.isAlphanum || c ∈ ['+', '.', '-']
  let scheme := text.takeWhile inScheme
  match text.drop scheme.length with
  | ':' :: rest => if scheme.head?.all Char.isAlpha then (scheme, rest) else ([], text)
  | _ => ([], text)

/-- The authority of a text, after two slashes, and what follows it. -/
def splitAuthority (text : List Char) : Authority × List Char :=
  match Text.after? ['/', '/'] text with
  | some rest =>
    let authority := rest.takeWhile fun c => c ∉ ['/', '?', '#']
    (.ofText authority, rest.drop authority.length)
  | none => ({}, text)

/-- The parts of a target; a fragment is none of them. -/
def ofText (text : List Char) : Target :=
  let (scheme, rest) := splitScheme text
  let (authority, rest) := splitAuthority rest
  let path := rest.takeWhile fun c => c ∉ ['?', '#']
  { scheme, authority, path
    query := (rest.drop path.length).takeWhile (· != '#') }

/-- Whether nothing goes before the path. -/
def isPathAlone (t : Target) : Bool := t.scheme = [] && t.authority = {}

/-- A path that stands alone is told from an authority and from a scheme by its start. -/
def isReadable (t : Target) : Bool :=
  t.authority.isReadable &&
    !(t.isPathAlone && (Text.startsWith ['/', '/'] t.path || Text.startsWith [':'] t.path))

/-- The size of a text in which a character that is not plain is written by its bytes. -/
def encodedSize (plain : Char → Bool) : List Char → Nat
  | [] => 0
  | c :: text =>
    (if plain c then 1 else 3 * (Utf8.encodeChar c).length) + encodedSize plain text

def isPlainInQuery (c : Char) : Bool :=
  0x20 < c.toNat && c.toNat < 0x7F && c ∉ ['"', '<', '>']

def isPlainInPath (c : Char) : Bool := isPlainInQuery c && c ∉ ['\x60', '\x7b', '\x7d']

/-- A path without `.`, and without what `..` takes back. -/
def withoutDots (path : List Char) : List Char :=
  let kept := (Text.pieces '/' path).foldl (fun acc piece =>
    if piece = ['.'] then acc
    else if piece = ['.', '.'] then if acc = [] ∨ acc = [[]] then acc else acc.dropLast
    else acc ++ [piece]) []
  Text.join ['/'] kept

/-- Whether a target names the host that it is sent to. -/
def namesHost (t : Target) : Bool := t.scheme ≠ [] && t.authority.host ≠ []

/-- The path of a target from the root on; it was freed of dots before if it did not stand
alone. -/
def rootedPath (t : Target) : List Char :=
  '/' :: (if t.isPathAlone then t.path else withoutDots t.path).dropWhile (· = '/')

/-- Whether the parts that are taken from a target have a size to be sent. -/
def fits (t : Target) : Bool :=
  t.namesHost ||
    (encodedSize isPlainInPath t.rootedPath ≤ sizeLimit &&
      encodedSize isPlainInQuery t.query ≤ sizeLimit)

/-- Reads a target. It is not too long, and control characters are written by their codes. -/
def ofString? (text : String) : Option Target :=
  let isControl (c : Char) : Bool := c.toNat < 0x20 || c.toNat = 0x7F
  let t := ofText text.toList
  if text.length ≤ sizeLimit && !text.toList.any isControl && t.isReadable && t.fits then some t
  else none

/-- The path of a target that names its host. A scheme has to have answers of one request
each, and a host no colons, since its number goes after the first. -/
def pathAtHost (t : Target) : Except Fault (List Char) :=
  let scheme := lowercase (String.ofList t.scheme)
  if scheme ∉ ["http", "https", "ws", "wss"] then .error .unknownScheme
  else if ':' ∈ t.authority.host then .error .unclearHost
  else if scheme = "ws" ∨ scheme = "wss" then .error .conversation
  else .ok (withoutDots t.path)

/-- The path that a target leads to, without `.` and `..`, as it is written. -/
def writtenPath (t : Target) : Except Fault (List Char) :=
  if t.namesHost then t.pathAtHost else .ok (withoutDots t.rootedPath)

end Target

end ReplayFlow.Service
