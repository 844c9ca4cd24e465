import CrawlFrontier.Text.Blank
import CrawlFrontier.Url.Form
import CrawlFrontier.Url.Parser

/-!
# Canonical URLs

Pages are fetched by two schemes only. Of their URLs the canonical form leaves out what does not
change the page: `www.` in front of the host, empty segments, the fragment, and what queries tell
about the visitor. Two links to one page have one canonical URL, which is the key under which the
page is known. The normal form of a path is that of the names behind its slashes, and that of a query
is the list of its pairs in order.
-/

namespace CrawlFrontier

open CrawlFrontier.Text

/-- The choices that canonical URLs depend on. -/
structure Rules where
  /-- Whether `www.` in front of a host is left out. -/
  stripWww : Bool := true
  /-- Whether the whole query is left out. -/
  stripQuery : Bool := false
  /-- Query keys that are left out besides those that always are. -/
  trackingParams : List String := []
  deriving DecidableEq, Repr

/-- Why a text has no canonical URL. -/
inductive UrlError where
  | parse (cause : String)
  | invalidScheme (scheme : String)
  | missingDomain
  | malformed (cause : String)
  deriving DecidableEq, Repr

/-- The wording of an error. -/
def UrlError.message : UrlError → String
  | .parse cause => "Failed to parse URL: " ++ cause
  | .invalidScheme scheme => "Invalid URL scheme: " ++ scheme
  | .missingDomain => "Missing domain in URL"
  | .malformed cause => "Malformed URL: " ++ cause

/-- The error of a text that is no URL. -/
def UrlError.ofParseError (error : Url.ParseError) : UrlError := .parse error.message

namespace Canonical

/-- Adds a name to a path, of which the names are given in reverse. -/
def enter (front : List (List Char)) (name : List Char) : List (List Char) :=
  if name = [] ∨ name = ['.'] then front
  else if name = ['.', '.'] then front.drop 1
  else name :: front

/-- The names that are left of a path. -/
def names (path : List Char) : List (List Char) := ((path.splitOn '/').foldl enter []).reverse

/-- The normal form of a path. -/
def normalizePath (path : List Char) : List Char := '/' :: ['/'].intercalate (names path)

/-- Keys that are always left out. -/
def trackingKeys : List String :=
  ["utm_source", "utm_medium", "utm_campaign", "utm_term", "utm_content", "fbclid", "gclid",
    "mc_eid", "ref", "source"]

/-- The beginning of keys that are always left out. -/
def trackingStart : List Char := ['u', 't', 'm', '_']

/-- Whether a key is left out. -/
def isTracking (rules : Rules) (key : String) : Bool :=
  trackingKeys.contains key || trackingStart.isPrefixOf key.toList ||
    rules.trackingParams.contains key

/-- The order of pairs: by key, then by value. -/
def pairLe (a b : String × String) : Bool := a.1 < b.1 || (a.1 == b.1 && a.2 ≤ b.2)

/-- The pairs of a query that count, in order. -/
def keptPairs (rules : Rules) (query : String) : List (String × String) :=
  ((Url.Form.readPairs query.toList).filter fun pair => !isTracking rules pair.1).mergeSort pairLe

/-- The normal form of a query; a query without pairs is none. -/
def normalizeQuery (rules : Rules) (query : Option String) : Option String :=
  match query with
  | none => none
  | some query =>
    let kept := if rules.stripQuery then [] else keptPairs rules query
    if kept.isEmpty then none else some (String.ofList (Url.Form.writePairs kept))

/-- The label that is left out in front of a host. -/
def wwwLabel : List Char := ['w', 'w', 'w', '.']

/-- The host without the label that does not matter, in lower case. -/
def bareHost (rules : Rules) (host : String) : List Char :=
  let host := lower host.toList
  if rules.stripWww && wwwLabel.isPrefixOf host then host.drop wwwLabel.length else host

/-- The URL with the given host, which is read again if it is another. -/
def replaceHost (url : Url) (old : String) (host : List Char) : Except UrlError Url :=
  if host = old.toList then .ok url
  else
    match url.setHost host with
    | .ok url => .ok url
    | .error error => .error (.malformed ("Failed to set host: " ++ error.message))

/-- The URL without what does not change the page. -/
def canonicalize (rules : Rules) (url : Url) : Except UrlError Url := do
  if !url.isWeb then throw (.invalidScheme url.scheme)
  match url.hostText? with
  | none => throw .missingDomain
  | some old =>
    let host := bareHost rules old
    if host.isEmpty then throw .missingDomain
    let url ← replaceHost url old host
    let url := url.setPath (normalizePath url.path.chars)
    pure { url with fragment := none, query := normalizeQuery rules url.query }

end Canonical

open CrawlFrontier.Canonical

/-- A URL in canonical form. -/
structure CanonicalUrl where
  url : Url
  deriving DecidableEq, Repr

namespace CanonicalUrl

/-- Puts a URL into canonical form. -/
def ofUrl (rules : Rules) (url : Url) : Except UrlError CanonicalUrl :=
  (canonicalize rules url).map (⟨·⟩)

/-- Reads a URL and puts it into canonical form. -/
def parse (rules : Rules) (text : String) : Except UrlError CanonicalUrl :=
  match Url.parseFrom none (trim text.toList) with
  | .ok url => ofUrl rules url
  | .error error => .error (.ofParseError error)

/-- The canonical URL that a link names on the page with this URL. -/
def join (rules : Rules) (base : CanonicalUrl) (link : String) : Except UrlError CanonicalUrl :=
  match Url.parseFrom (some base.url) (trim link.toList) with
  | .ok url => ofUrl rules url
  | .error error => .error (.ofParseError error)

/-- The text under which the page is known. -/
def key (url : CanonicalUrl) : String := url.url.toString

instance : ToString CanonicalUrl := ⟨key⟩

end CanonicalUrl

end CrawlFrontier
