import CrawlFrontier.Url.Host

/-!
# URLs

A URL is kept in its parts, each in its escaped form. Printing puts the parts together with the
marks that stand between them.
-/

namespace CrawlFrontier

/-- The path of a URL: segments, or a plain text where the scheme is followed by no slash. -/
inductive Url.Path where
  | segments (list : List String)
  | verbatim (text : String)
  deriving DecidableEq, Repr

/-- A URL in its parts. An empty user name or password is absent; a port is present only if it is
not that of the scheme. -/
structure Url where
  scheme : String
  username : String
  password : String
  host : Option Url.Host
  port : Option UInt16
  path : Url.Path
  query : Option String
  fragment : Option String
  deriving DecidableEq, Repr

namespace Url

/-- How the URLs of a scheme are read: those of files, those of the other schemes that need a host,
and all others. -/
inductive SchemeClass where
  | file
  | special
  | general
  deriving DecidableEq, Repr

/-- The ports that need not be written. -/
def defaultPort? (scheme : String) : Option UInt16 :=
  if scheme = "http" ∨ scheme = "ws" then some 80
  else if scheme = "https" ∨ scheme = "wss" then some 443
  else if scheme = "ftp" then some 21
  else none

/-- The class of a scheme. -/
def SchemeClass.ofScheme (scheme : String) : SchemeClass :=
  if scheme = "file" then .file
  else if (defaultPort? scheme).isSome then .special
  else .general

/-- Whether a character ends a segment of a path. -/
def SchemeClass.separates (kind : SchemeClass) (c : Char) : Bool :=
  c == '/' || (c == '\\' && kind != .general)

/-- The characters of a path as it is printed behind the host. -/
def Path.chars : Path → List Char
  | .segments list => list.flatMap fun segment => '/' :: segment.toList
  | .verbatim text => text.toList

/-- User name and password as they are printed in front of the host. -/
def credentialChars (url : Url) : List Char :=
  let password := if url.password = "" then [] else ':' :: url.password.toList
  if url.username = "" ∧ url.password = "" then []
  else url.username.toList ++ password ++ ['@']

/-- The port as it is printed behind the host. -/
def portChars (url : Url) : List Char :=
  match url.port with
  | some port => ':' :: Nat.toDigits 10 port.toNat
  | none => []

/-- What is printed between the scheme and the path. Without a host, a path that begins with two
slashes would be taken for one, so a full stop is put in front of it. -/
def authorityChars (url : Url) : List Char :=
  match url.host, url.path with
  | some host, _ => '/' :: '/' :: url.credentialChars ++ host.chars ++ url.portChars
  | none, .segments ("" :: _ :: _) => ['/', '.']
  | none, _ => []

/-- An optional part with the mark in front of it. -/
def markedChars (mark : Char) : Option String → List Char
  | some text => mark :: text.toList
  | none => []

/-- The characters of a URL. -/
def chars (url : Url) : List Char :=
  url.scheme.toList ++ ':' :: url.authorityChars ++ url.path.chars ++
    markedChars '?' url.query ++ markedChars '#' url.fragment

/-- The printed URL. -/
def toString (url : Url) : String := String.ofList url.chars

instance : ToString Url := ⟨Url.toString⟩

/-- The printed path. -/
def pathText (url : Url) : String := String.ofList url.path.chars

/-- The printed host, if anything is printed for it. -/
def hostText? (url : Url) : Option String :=
  match url.host with
  | some host => if host.isEmpty then none else some host.text
  | none => none

/-- The segments of the path; a plain text has none. -/
def segments (url : Url) : List String :=
  match url.path with
  | .segments list => list
  | .verbatim _ => []

/-- Whether the scheme is one of the two that pages are fetched by. -/
def isWeb (url : Url) : Bool := url.scheme = "http" ∨ url.scheme = "https"

end Url

end CrawlFrontier
