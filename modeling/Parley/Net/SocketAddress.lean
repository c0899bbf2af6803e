import Parley.Net.Address
import Parley.Word

/-!
# Socket addresses

A numeric address and a port: `1.2.3.4:80`, or `[::1]:80` with an optional scope after a percent
sign. Numbers of a version four address have no leading zeros; ports and scopes may have them.
-/

namespace Parley.Net

inductive SocketAddress where
  | version4 (address : Nat) (port : Nat)
  | version6 (groups : List Nat) (scope : Nat) (port : Nat)
  deriving DecidableEq, Repr

namespace SocketAddress

/-- A number in decimal, below a bound. -/
def number? (bound : Nat) (text : List Char) : Option Nat :=
  if text.isEmpty ∨ ¬ text.all Text.isDigit then none
  else
    let n := Text.natOfDigits text
    if n < bound then some n else none

def port? (text : List Char) : Option Nat := number? 65536 text

def address4? (text : List Char) : Option Nat := do
  match ← (Text.splitAt '.' text).mapM Version6.byte? with
  | [a, b, c, d] => pure (((a * 256 + b) * 256 + c) * 256 + d)
  | _ => none

/-- A version six address and its scope, zero when none is given. -/
def address6? (text : List Char) : Option (List Nat × Nat) :=
  match Text.splitAt '%' text with
  | [groups] => (Version6.parse? groups).map (·, 0)
  | [groups, scope] => do pure (← Version6.parse? groups, ← number? Word.size32 scope)
  | _ => none

def ofChars? (text : List Char) : Option SocketAddress :=
  match text with
  | '[' :: rest =>
    match Text.splitAt ']' rest with
    | [inner, ':' :: port] => do
      let (groups, scope) ← address6? inner
      pure (.version6 groups scope (← port? port))
    | _ => none
  | text =>
    match Text.splitAt ':' text with
    | [address, port] => do pure (.version4 (← address4? address) (← port? port))
    | _ => none

def parse? (text : String) : Option SocketAddress := ofChars? text.toList

/-- Groups in which a version four address is embedded show it with dots. -/
def groupsText (groups : List Nat) : List Char :=
  match groups with
  | [0, 0, 0, 0, 0, 0xffff, a, b] => "::ffff:".toList ++ Version4.render (a * 65536 + b)
  | groups => Version6.render groups

def toChars : SocketAddress → List Char
  | version4 address port => Version4.render address ++ ':' :: (toString port).toList
  | version6 groups scope port =>
    let scopeText := if scope = 0 then [] else '%' :: (toString scope).toList
    '[' :: (groupsText groups ++ scopeText ++ ']' :: ':' :: (toString port).toList)

instance : ToString SocketAddress := ⟨fun a => String.ofList a.toChars⟩

end SocketAddress

end Parley.Net
