import Parley.Url.Query
import Parley.Word

/-!
# Addresses of key-value servers

An address is a locator that names a host, with the number of a database for its path, or the
path of a socket on this machine, with that number in its query. The query of either may choose a
version of the protocol.
-/

namespace Parley.Redis

def hostSchemes : List String := ["redis", "valkey"]

def socketSchemes : List String := ["redis+unix", "valkey+unix", "unix"]

def protocols : List String := ["2", "resp2", "3", "resp3"]

/-- Whether a text is the number of a database. -/
def isDatabase (text : List Char) : Bool := (Text.integer? text).any Word.isInt64

/-- Whether a path is empty or the number of a database, slashes at its ends aside. -/
def isDatabasePath (path : List (List Char)) : Bool :=
  match ((path.dropWhile List.isEmpty).reverse.dropWhile List.isEmpty) with
  | [] => true
  | [number] => isDatabase number
  | _ => false

/-- Whether the percent codes of a text spell characters. -/
def isDecodable (text : List Char) : Bool :=
  (String.fromUTF8? ⟨(Url.percentDecode text).toArray⟩).isSome

/-- Whether a query asks for no protocol or for a known one. -/
def hasKnownProtocol (query : List Char) : Bool :=
  (Url.queryValue? query "protocol").all fun name => protocols.contains (String.ofList name)

/-- Hosts that stand for every address of a machine, to which nobody can connect. -/
def isWildcard (host : Url.Host) : Bool :=
  host == .name "0.0.0.0".toList || host == .version6 (List.replicate 8 0)

/-- Whether a locator names a host and a database on it. -/
def isHostAddress (url : Url) : Bool :=
  url.host != .name [] && !isWildcard url.host && isDatabasePath url.path &&
    isDecodable url.user && url.password.all isDecodable &&
    hasKnownProtocol (url.query.getD [])

/-- The query behind the path of a socket, of which `text` is all that follows the scheme. A host
may stand in front of the path only if it is this machine. -/
def socketQuery? (scheme text : List Char) : Option (List Char) :=
  match text with
  | '/' :: '/' :: _ => do
    let url ← Url.parse? (scheme ++ ':' :: text)
    guard (url.host = .name [] ∨ url.host = .name "localhost".toList)
    guard !url.path.isEmpty
    pure (url.query.getD [])
  | '/' :: path => some (((path.takeWhile (· != '#')).dropWhile (· != '?')).drop 1)
  | _ => none

/-- Whether the query of a socket is one that a server understands. -/
def isSocketQuery (query : List Char) : Bool :=
  (Url.queryValue? query "db").all isDatabase && hasKnownProtocol query

/-- Whether a text is the address of a server. -/
def isAddress (text : String) : Bool :=
  match Url.scheme? (Url.clean text.toList) with
  | none => false
  | some (scheme, rest) =>
    if socketSchemes.contains (String.ofList scheme) then
      (socketQuery? scheme rest).any isSocketQuery
    else hostSchemes.contains (String.ofList scheme) && (Url.parse? text.toList).any isHostAddress

end Parley.Redis
