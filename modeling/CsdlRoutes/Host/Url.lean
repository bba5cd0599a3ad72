import CsdlRoutes.Host.Address
import CsdlRoutes.Host.Domain
import CsdlRoutes.Number.Whole
import CsdlRoutes.Text.Lower

/-!
# Addresses of documents

The address of a document on a server has an authority between the slashes behind the scheme and what
follows: perhaps a user with an at sign, a host, and perhaps a port behind a colon.

* `Url.Authority.read` takes an authority apart.
* `Url.isUsable` says which addresses are asked for at all.
-/

namespace CsdlRoutes.Host.Url

/-- A host, and the text for a port. -/
structure Authority where
  host : List Char
  port : List Char
  deriving DecidableEq, Repr

/-- The part behind the last place where a character stands, or everything. -/
def behindLast (mark : Char) (cs : List Char) : List Char :=
  (cs.reverse.takeWhile (· != mark)).reverse

/-- The part up to the last place where a character stands, and the part behind it, if it stands
somewhere. -/
def splitBehindLast? (mark : Char) (cs : List Char) : Option (List Char × List Char) :=
  let behind := behindLast mark cs
  if cs.contains mark then some (cs.take (cs.length - behind.length), behind) else none

/-- A text without a colon at its start. -/
def withoutColon (cs : List Char) : List Char := if cs.head? = some ':' then cs.drop 1 else cs

namespace Authority

/-- Takes an authority apart. A host in brackets reaches up to the last bracket, and any other one up to
the first colon. -/
def read (cs : List Char) : Authority :=
  let place := behindLast '@' cs
  match if place.head? = some '[' then splitBehindLast? ']' place else none with
  | some (host, rest) => ⟨host, withoutColon rest⟩
  | none => ⟨place.takeWhile (· != ':'), withoutColon (place.dropWhile (· != ':'))⟩

/-- Whether a host is in brackets. -/
def isBracketed (a : Authority) : Bool := a.host.head? == some '[' && a.host.getLast? == some ']'

/-- Whether there can be such a host. A host of ASCII is not looked into, unless it is an address or
looks like one. -/
def hasUsableHost (a : Authority) : Bool :=
  if looksLikeFourParts a.host then isFourPartAddress a.host
  else if a.isBracketed then isEightPartAddress ((a.host.drop 1).dropLast)
  else
    a.host.all (·.toNat < 128) || isDomainName (Text.lower (String.ofList a.host)).toList

/-- Whether there can be such a port: a whole number, or none. -/
def hasUsablePort (a : Authority) : Bool :=
  a.port.isEmpty || (Number.readWhole? (String.ofList a.port)).isSome

end Authority

/-- The greatest number of characters of an address. -/
def longest : Nat := 65536

/-- Whether a character is a control character of ASCII. -/
def isControl (c : Char) : Bool := c.toNat < 32 || c.toNat == 127

/-- The authority of an address. -/
def authorityOf (url : String) : Authority :=
  let behindScheme := (url.toList.dropWhile (· != '/')).drop 2
  Authority.read (behindScheme.takeWhile fun c => c != '/' && c != '?' && c != '#')

/-- Whether an address is asked for at all. -/
def isUsable (url : String) : Bool :=
  let authority := authorityOf url
  url.length ≤ longest && !url.toList.any isControl && authority.hasUsableHost &&
    authority.hasUsablePort

end CsdlRoutes.Host.Url
