import CrawlFrontier.Idna.Label
import CrawlFrontier.Text.Percent
import CrawlFrontier.Url.Ipv6

/-!
# Hosts

What stands behind the two slashes of a URL: a domain name, an address, or, for schemes without
rules of their own, any text. Every part of a URL escapes control characters and all characters
beyond ASCII; most parts escape also those that would end the part. The percent sign is never
escaped, so a text that is escaped already stays as it is.
-/

namespace CrawlFrontier.Url

open CrawlFrontier.Text CrawlFrontier.Idna

/-- Why a text is not a URL. -/
inductive ParseError where
  | emptyHost
  | invalidDomainName
  | invalidPort
  | invalidIpv4
  | invalidIpv6
  | invalidDomainCharacter
  | relativeWithoutBase
  | relativeToPlainText
  deriving DecidableEq, Repr

/-- The wording of a cause. -/
def ParseError.message : ParseError → String
  | .emptyHost => "empty host"
  | .invalidDomainName => "invalid international domain name"
  | .invalidPort => "invalid port number"
  | .invalidIpv4 => "invalid IPv4 address"
  | .invalidIpv6 => "invalid IPv6 address"
  | .invalidDomainCharacter => "invalid domain character"
  | .relativeWithoutBase => "relative URL without a base"
  | .relativeToPlainText => "relative URL with a cannot-be-a-base base"

/-- Controls and characters beyond ASCII. -/
def isControl (c : Char) : Bool := c.toNat < 0x20 || 0x7F ≤ c.toNat

/-- What a fragment escapes. -/
def escapedInFragment (c : Char) : Bool := isControl c || [' ', '"', '<', '>', '\x60'].contains c

/-- What a query escapes if the scheme is none of those with rules of their own. -/
def escapedInQuery (c : Char) : Bool := isControl c || [' ', '"', '#', '<', '>'].contains c

/-- What the query of a special scheme escapes. -/
def escapedInSpecialQuery (c : Char) : Bool := escapedInQuery c || c == '\''

/-- What a segment of a path escapes. -/
def escapedInPath (c : Char) : Bool := escapedInFragment c || ['#', '?', '\x7b', '\x7d'].contains c

/-- What user names and passwords escape. -/
def escapedInCredentials (c : Char) : Bool :=
  escapedInPath c || ['/', ':', ';', '=', '@', '[', '\\', ']', '^', '|'].contains c

/-- The host of a URL. -/
inductive Host where
  | domain (name : String)
  | ipv4 (address : Ipv4)
  | ipv6 (address : Ipv6)
  | verbatim (text : String)
  deriving DecidableEq, Repr

namespace Host

/-- The characters of a host as it is printed. -/
def chars : Host → List Char
  | domain name => name.toList
  | ipv4 address => address.text
  | ipv6 address => '[' :: address.text ++ [']']
  | verbatim text => text.toList

/-- The printed host. -/
def text (host : Host) : String := String.ofList host.chars

/-- Whether nothing is printed for the host. -/
def isEmpty (host : Host) : Bool := host.chars.isEmpty

/-- Reads an address in square brackets, given what follows the first bracket. -/
def parseBracketed (text : List Char) : Except ParseError Host :=
  match text.reverse with
  | ']' :: inner =>
    match Ipv6.parse? inner.reverse with
    | some address => .ok (.ipv6 address)
    | none => .error .invalidIpv6
  | _ => .error .invalidIpv6

/-- The host that a domain name in ASCII is: an address if its last label is a number. -/
def ofAscii (name : List Char) : Except ParseError Host :=
  if name.isEmpty then .error .emptyHost
  else if Ipv4.endsInNumber name then
    match Ipv4.parse? name with
    | some address => .ok (.ipv4 address)
    | none => .error .invalidIpv4
  else .ok (.domain (String.ofList name))

/-- Reads a domain name, of which characters may be escaped. -/
def parseDomain (text : List Char) : Except ParseError Host :=
  match fromUtf8? (percentDecode text) >>= toAscii? with
  | some name => ofAscii name
  | none => .error .invalidDomainName

/-- Reads the host of a special scheme. -/
def parse : List Char → Except ParseError Host
  | '[' :: rest => parseBracketed rest
  | text => parseDomain text

/-- Whether a character may not stand in a host of any kind. -/
def isForbiddenVerbatim (c : Char) : Bool :=
  ['\x00', '\t', '\n', '\r', ' ', '#', '/', ':', '<', '>', '?', '@', '[', '\\', ']', '^',
    '|'].contains c

/-- Reads the host of a scheme without rules of its own. -/
def parseVerbatim : List Char → Except ParseError Host
  | '[' :: rest => parseBracketed rest
  | text =>
    if text.any isForbiddenVerbatim then .error .invalidDomainCharacter
    else .ok (.verbatim (String.ofList (percentEncode isControl text)))

end Host

end CrawlFrontier.Url
