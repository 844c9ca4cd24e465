import CrawlFrontier.Discovery.Link
import CrawlFrontier.Html.Document

/-!
# Links of pages

A page links to other pages by elements `a`, unless what they name is to be downloaded, and it names
its own canonical URL by elements `link`.
-/

namespace CrawlFrontier.Page

open CrawlFrontier.Html CrawlFrontier.Text

/-- The destination that an element `a` names for reading. -/
def anchorTarget? (element : Element) : Option (List Char) :=
  if element.name = "a" ∧ valueOf? "download" element.attributes = none then
    valueOf? "href" element.attributes
  else none

/-- Whether an element says that it names the canonical URL. In HTML the case of the word does not
matter. -/
def isCanonical (element : Element) : Bool :=
  (valueOf? "rel" element.attributes).any fun relation =>
    (if element.space = .html then lower relation else relation) = "canonical".toList

/-- The canonical URL that an element `link` names. -/
def canonicalTarget? (element : Element) : Option (List Char) :=
  if element.name = "link" ∧ isCanonical element then valueOf? "href" element.attributes
  else none

/-- The link to a destination. -/
def link? (base : Url) (target : List Char) : Option Link :=
  (Link.resolve? base target).map Link.classified

/-- The links of a page: first those to other pages, and then the canonical URLs. -/
def links (base : Url) (body : String) : List Link :=
  let elements := Html.elements body
  (elements.filterMap anchorTarget? ++ elements.filterMap canonicalTarget?).filterMap (link? base)

end CrawlFrontier.Page
