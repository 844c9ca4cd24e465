import CrawlFrontier.Discovery.Link
import CrawlFrontier.Xml.Reader

/-!
# Links of sitemaps

A sitemap lists locations: the text of an element `loc` directly in an element `url` is the URL of a
page, and directly in an element `sitemap` it is the URL of another sitemap. Names are compared
without regard to case and without what stands in front of their first colon.
-/

namespace CrawlFrontier.Sitemap

open CrawlFrontier.Text CrawlFrontier.Xml

/-- The name of an element without what tells its vocabulary, in lower case. -/
def localName (name : List Char) : List Char :=
  match splitFirst ':' name with
  | (_, some name) => lower name
  | (name, none) => lower name

/-- The character that a number stands for; no text has the character of number zero. -/
def numberedChar? (base : Nat) (digits : List Char) : Option Char := do
  if digits.isEmpty then none
  else
    let n ← numeral? base digits
    if n = 0 ∨ ¬n.isValidChar then none else some (Char.ofNat n)

/-- The text that a reference stands for; one that says nothing known is left out. -/
def resolveReference : List Char → List Char
  | '#' :: 'x' :: digits => (numberedChar? 16 digits).toList
  | '#' :: digits => (numberedChar? 10 digits).toList
  | name =>
    if name = "lt".toList then ['<']
    else if name = "gt".toList then ['>']
    else if name = "amp".toList then ['&']
    else if name = "apos".toList then ['\'']
    else if name = "quot".toList then ['"']
    else []

/-- Where a scan stands: the names of the open elements, the innermost first, and the text since the
last location began, if none was finished since. -/
structure Scan where
  elements : List (List Char)
  location : Option (List Char)

/-- The name of the elements that hold locations. -/
def locName : List Char := ['l', 'o', 'c']

/-- The link of a location in an element of the given name. -/
def link? (base : Url) (parent : Option (List Char)) (location : List Char) : Option Link :=
  (Link.resolve? base location).bind fun url =>
    if parent = some "sitemap".toList then some (Link.toSitemap url)
    else if parent = some "url".toList then some (Link.classified url)
    else none

/-- Adds text to the location that is being read. -/
def Scan.add (scan : Scan) (text : List Char) : Scan :=
  { scan with location := scan.location.map (· ++ text) }

/-- Takes notice of a piece of the document, and returns the link that it completes. -/
def Scan.step (base : Url) (scan : Scan) : Event → Scan × Option Link
  | .opened name =>
    let name := localName name
    (⟨name :: scan.elements, if name = locName then some [] else scan.location⟩, none)
  | .closed _ =>
    match scan.elements with
    | [] => (scan, none)
    | name :: outer =>
      if name = locName then
        (⟨outer, none⟩, scan.location.bind (link? base outer.head?))
      else (⟨outer, scan.location⟩, none)
  | .text content => (scan.add content, none)
  | .reference name => (scan.add (resolveReference name), none)
  | .selfClosed _ | .ignored => (scan, none)

/-- The links that the pieces of a document complete. -/
def Scan.links (base : Url) (scan : Scan) : List Event → List Link
  | [] => []
  | event :: events =>
    let (scan, link) := scan.step base event
    link.toList ++ Scan.links base scan events

/-- The links of a sitemap up to its first fault, and whether it has none. -/
def links (base : Url) (text : String) : List Link × Bool :=
  let document := Xml.read text
  (Scan.links base ⟨[], none⟩ document.events, document.wellFormed)

end CrawlFrontier.Sitemap
