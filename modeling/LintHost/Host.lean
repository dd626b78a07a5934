import LintHost.Host.Address
import LintHost.Host.Domain
import LintHost.Text.Utf8
import LintHost.Uri.Percent

/-!
# Hosts

The host of a URI is a name or a numeric address. In the schemes that the web knows a name is a
domain name, and a name that ends in a number is an address; in all other schemes a name is
opaque and is only percent-encoded.
-/

namespace LintHost

/-- A host in normal form. -/
inductive Host where
  | name (text : List Char)
  | v4 (address : Nat)
  | v6 (pieces : List Nat)
deriving DecidableEq, Inhabited

/-- Why a text is no URI. -/
inductive UriError where
  | noScheme
  | emptyHost
  | invalidPort
  | invalidDomain
  | invalidAddress4
  | invalidAddress6
  | invalidCharacter
deriving DecidableEq, Inhabited

/-- The wording of an error in a URI. -/
def UriError.message : UriError → String
  | .noScheme => "relative URL without a base"
  | .emptyHost => "empty host"
  | .invalidPort => "invalid port number"
  | .invalidDomain => "invalid international domain name"
  | .invalidAddress4 => "invalid IPv4 address"
  | .invalidAddress6 => "invalid IPv6 address"
  | .invalidCharacter => "invalid domain character"

namespace Host

/-- The host of a local file. -/
def empty : Host := .name []

/-- The written form of a host. -/
def text : Host → List Char
  | .name text => text
  | .v4 address => V4.write address
  | .v6 pieces => '[' :: V6.write pieces ++ [']']

/-- The host between brackets. -/
def ofBrackets (cs : List Char) : Except UriError Host :=
  match cs.reverse with
  | ']' :: inner =>
    match V6.read? inner.reverse with
    | some pieces => .ok (.v6 pieces)
    | none => .error .invalidAddress6
  | _ => .error .invalidAddress6

/-- Reads a host of the web. -/
def ofText (cs : List Char) : Except UriError Host :=
  match cs with
  | '[' :: rest => ofBrackets rest
  | _ =>
    match Domain.toAscii? (Text.decode8Lossy (Uri.decode cs)) with
    | none => .error .invalidDomain
    | some [] => .error .emptyHost
    | some domain =>
      if V4.isMeant domain then
        match V4.read? domain with
        | some address => .ok (.v4 address)
        | none => .error .invalidAddress4
      else .ok (.name domain)

/-- Whether a character may not stand in an opaque host. -/
def isForbidden (c : Char) : Bool :=
  c.toNat == 0 || " #/:<>?@[\\]^|".toList.contains c

/-- Reads a host of any other scheme. -/
def ofOpaque (cs : List Char) : Except UriError Host :=
  match cs with
  | '[' :: rest => ofBrackets rest
  | _ => if cs.any isForbidden then .error .invalidCharacter else .ok (.name (Uri.encode [] cs))

end Host

end LintHost
