import Parley.Net.Address
import Parley.Url.HostName

/-!
# Locators with an authority

A locator is a scheme, an authority (user, password, host and port) and a path with a query and a
fragment. `parse?` reads those with an authority: after a scheme of the web any number of slashes
of either slant, after another scheme two slashes. `render` writes a locator in its normal form.

Only the host and the port can make a locator invalid once its scheme is known.
-/

namespace Parley

inductive Url.Host where
  | name (text : List Char)
  | version4 (address : Nat)
  | version6 (groups : List Nat)
  deriving DecidableEq, Repr

structure Url where
  scheme : List Char
  user : List Char
  password : Option (List Char)
  host : Url.Host
  port : Option Nat
  path : List (List Char)
  query : Option (List Char)
  fragment : Option (List Char)
  deriving DecidableEq, Repr

namespace Url

/-- The schemes of the web with their ports. -/
def webPorts : List (String × Nat) :=
  [("http", 80), ("https", 443), ("ws", 80), ("wss", 443), ("ftp", 21)]

def defaultPort? (scheme : List Char) : Option Nat :=
  (webPorts.find? fun entry => entry.1.toList == scheme).map Prod.snd

def isWeb (scheme : List Char) : Bool := (defaultPort? scheme).isSome

def percentByte (b : UInt8) : List Char :=
  ['%', (Text.hexDigit (b.toNat / 16)).toUpper, (Text.hexDigit (b.toNat % 16)).toUpper]

/-- Encodes control characters, those beyond ASCII, and those of `extra`. -/
def percentEncode (extra : String) (text : List Char) : List Char :=
  text.flatMap fun c =>
    if c.toNat < 32 ∨ 127 ≤ c.toNat ∨ extra.toList.contains c then
      (String.singleton c).toUTF8.toList.flatMap percentByte
    else [c]

def userCharacters : String := " \"<>`#?\x7b\x7d/:;=@[\\]^|"

def pathCharacters : String := " \"<>`#?\x7b\x7d"

def fragmentCharacters : String := " \"<>`"

def queryCharacters (web : Bool) : String := if web then " \"<>#'" else " \"<>#"

/-- The bytes of a text whose percent codes are decoded; what is no code stays. -/
def percentDecode : List Char → List UInt8
  | '%' :: a :: b :: rest =>
    match Text.hexValue? a, Text.hexValue? b with
    | some x, some y => UInt8.ofNat (16 * x + y) :: percentDecode rest
    | _, _ => '%'.toNat.toUInt8 :: percentDecode (a :: b :: rest)
  | c :: rest => (String.singleton c).toUTF8.toList ++ percentDecode rest
  | [] => []

def isSchemeChar (c : Char) : Bool :=
  c.isAlphanum || c == '+' || c == '-' || c == '.'

/-- The scheme in small letters, and the text after its colon. -/
def scheme? (text : List Char) : Option (List Char × List Char) :=
  match text.takeWhile isSchemeChar, text.dropWhile isSchemeChar with
  | c :: scheme, ':' :: rest =>
    if c.isAlpha then some ((c :: scheme).map Letter.lowerAscii, rest) else none
  | _, _ => none

/-- Whether a character ends the authority. -/
def endsAuthority (web : Bool) (c : Char) : Bool :=
  c == '/' || c == '?' || c == '#' || (web && c == '\\')

/-- Splits at the last at-sign. -/
def splitUser (authority : List Char) : Option (List Char) × List Char :=
  if authority.contains '@' then
    let reversed := authority.reverse
    (some ((reversed.dropWhile (· != '@')).drop 1).reverse,
      (reversed.takeWhile (· != '@')).reverse)
  else (none, authority)

/-- User and password, encoded; an empty password is none. -/
def credentials (text : List Char) : List Char × Option (List Char) :=
  let user := text.takeWhile (· != ':')
  let password := (text.dropWhile (· != ':')).drop 1
  (percentEncode userCharacters user,
    if password.isEmpty then none else some (percentEncode userCharacters password))

/-- The host before the first colon outside brackets, and the rest. -/
def splitHost (inside : Bool) : List Char → List Char × List Char
  | [] => ([], [])
  | c :: rest =>
    if c = ':' ∧ !inside then ([], c :: rest)
    else
      let inside := if c = '[' then true else if c = ']' then false else inside
      let (host, rest) := splitHost inside rest
      (c :: host, rest)

def bracketed? : List Char → Option (List Char)
  | '[' :: rest => if rest.getLast? = some ']' then some rest.dropLast else none
  | _ => none

/-- The host of a web address. -/
def webHost? (text : List Char) : Option Host :=
  if text.head? = some '[' then (bracketed? text).bind Net.Version6.parse? |>.map .version6
  else do
    let decoded ← String.fromUTF8? ⟨(percentDecode text).toArray⟩
    let name ← HostName.toAscii? decoded.toList
    guard !name.isEmpty
    if Net.Version4.endsInNumber name then (Net.Version4.parse? name).map .version4
    else pure (.name name)

/-- The host of another address, which is kept as it is. -/
def plainHost? (text : List Char) : Option Host :=
  if text.head? = some '[' then (bracketed? text).bind Net.Version6.parse? |>.map .version6
  else if text.any fun c => c == '\x00' || " #/:<>?@[\\]^|".toList.contains c then none
  else some (.name (percentEncode "" text))

/-- A port after its colon; the usual one of the scheme is left out. -/
def port? (scheme digits : List Char) : Option (Option Nat) :=
  if digits.isEmpty then some none
  else if !digits.all Text.isDigit then none
  else
    let port := Text.natOfDigits digits
    if 65535 < port then none
    else some (if defaultPort? scheme = some port then none else some port)

/-- Segments that name the directory itself. -/
def isDot (segment : List Char) : Bool :=
  [".", "%2e"].any fun s => s.toList == segment.map Letter.lowerAscii

/-- Segments that name the directory above. -/
def isDoubleDot (segment : List Char) : Bool :=
  ["..", "%2e.", ".%2e", "%2e%2e"].any fun s => s.toList == segment.map Letter.lowerAscii

/-- Segments that name a drive: a letter and a colon or an upright stroke. -/
def isDrive : List Char → Bool
  | [letter, mark] => letter.isAlpha && (mark == ':' || mark == '|')
  | _ => false

/-- The segments above the last one, in reverse; there is nothing above a drive. -/
def parent : List (List Char) → List (List Char)
  | [] => []
  | segment :: above => if isDrive segment then segment :: above else above

/-- Resolves the dots of a path, `done` holding the segments so far in reverse. -/
def resolveDots (done : List (List Char)) : List (List Char) → List (List Char)
  | [] => done.reverse
  | segment :: rest =>
    let last := rest.isEmpty
    if isDoubleDot segment then
      resolveDots (if last then [] :: parent done else parent done) rest
    else if isDot segment then resolveDots (if last then [] :: done else done) rest
    else resolveDots (segment :: done) rest

/-- The segments of a path after the authority. -/
def pathSegments (web : Bool) (text : List Char) : List (List Char) :=
  let text := if web then text.map fun c => if c = '\\' then '/' else c else text
  match text with
  | [] => if web then [[]] else []
  | '/' :: rest => resolveDots [] ((Text.splitAt '/' rest).map (percentEncode pathCharacters))
  | rest => resolveDots [] ((Text.splitAt '/' rest).map (percentEncode pathCharacters))

/-- Drops blanks and controls at the ends, and tabs and line ends everywhere. -/
def clean (text : List Char) : List Char :=
  let outer (c : Char) : Bool := c.toNat ≤ 32
  (Text.dropEndWhile outer (text.dropWhile outer)).filter fun c =>
    !(c == '\t' || c == '\n' || c == '\r')

/-- The text behind the slashes that introduce the authority. -/
def authority? (web : Bool) (text : List Char) : Option (List Char) :=
  if web then some (text.dropWhile fun c => c == '/' || c == '\\')
  else Text.stripStart? ['/', '/'] text

def parse? (text : List Char) : Option Url := do
  let (scheme, rest) ← scheme? (clean text)
  let web := isWeb scheme
  guard (scheme != "file".toList)
  let rest ← authority? web rest
  let ends := endsAuthority web
  let (userInfo, place) := splitUser (rest.takeWhile fun c => !ends c)
  let (hostText, behindHost) := splitHost false place
  let portText := behindHost.takeWhile (· != '\\')
  let tail := behindHost.dropWhile (· != '\\') ++ rest.dropWhile fun c => !ends c
  guard !(hostText.isEmpty && (web || !portText.isEmpty || userInfo.any (· != [':'])))
  let host ← if web then webHost? hostText else plainHost? hostText
  let port ← port? scheme (portText.drop 1)
  let (user, password) := credentials (userInfo.getD [])
  let beforeFragment := tail.takeWhile (· != '#')
  let fragment := (tail.dropWhile (· != '#')).drop 1
  let pathText := beforeFragment.takeWhile (· != '?')
  let query := (beforeFragment.dropWhile (· != '?')).drop 1
  pure {
    scheme, user, password, host, port
    path := pathSegments web pathText
    query := if beforeFragment.contains '?' then
      some (percentEncode (queryCharacters web) query) else none
    fragment := if tail.contains '#' then
      some (percentEncode fragmentCharacters fragment) else none }

def Host.render : Host → List Char
  | .name text => text
  | .version4 address => Net.Version4.render address
  | .version6 groups => '[' :: (Net.Version6.render groups ++ [']'])

/-- User, password and the at-sign that ends them. -/
def renderUser (user : List Char) : Option (List Char) → List Char
  | some password => user ++ ':' :: (password ++ ['@'])
  | none => if user.isEmpty then [] else user ++ ['@']

def render (url : Url) : List Char :=
  url.scheme ++ ':' :: '/' :: '/' :: (renderUser url.user url.password ++ url.host.render ++
    (url.port.map fun p => ':' :: (toString p).toList).getD [] ++
    url.path.flatMap ('/' :: ·) ++
    (url.query.map ('?' :: ·)).getD [] ++ (url.fragment.map ('#' :: ·)).getD [])

/-- The text of a locator with its password, if it has one, replaced by three stars. A text that
is no locator with a password is kept. -/
def maskPassword (text : String) : String :=
  match parse? text.toList with
  | some url =>
    if url.password.isSome then
      String.ofList ({ url with password := some ['*', '*', '*'] } : Url).render
    else text
  | none => text

end Url

end Parley
