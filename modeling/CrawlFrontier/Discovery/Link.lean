import CrawlFrontier.DocumentKind
import CrawlFrontier.Url.Parser

/-!
# Links

What a document says about other documents: a URL and the kind of document that is expected there.
Links that lead to no page are left out.
-/

namespace CrawlFrontier

open CrawlFrontier.Text

/-- The host of a URL in lower case. -/
def Url.domain? (url : Url) : Option String :=
  url.hostText?.map fun host => String.ofList (lower host.toList)

/-- The URL of the file with the rules for robots on the same host. -/
def Url.robots? (url : Url) : Option Url := (url.join "/robots.txt").toOption

/-- The kind of document that the path of a URL promises. -/
def Url.kind (url : Url) : DocumentKind :=
  let path := lower url.path.chars
  let last := (path.splitOn '/').getLast?.getD []
  if path = "/robots.txt".toList then .robots
  else if occursIn "sitemap".toList last &&
      (".xml".toList.isSuffixOf last || ".xml.gz".toList.isSuffixOf last) then .sitemap
  else .content

/-- A link as it was found. -/
structure Link where
  url : String
  kind : DocumentKind
  deriving DecidableEq, Repr

namespace Link

/-- The beginnings of links that lead to no page. -/
def pagelessSchemes : List (List Char) :=
  ["javascript:".toList, "mailto:".toList, "tel:".toList, "data:".toList]

/-- The URL of the page that a link names, if it names one. -/
def resolve? (base : Url) (href : List Char) : Option Url :=
  let href := trim href
  if href.isEmpty || href.head? == some '#' then none
  else if pagelessSchemes.any (startsWithLower · href) then none
  else (Url.parseFrom (some base) href).toOption.filter (·.isWeb)

/-- A link to a document of the kind that its URL promises. -/
def classified (url : Url) : Link := ⟨url.toString, url.kind⟩

/-- A link to a sitemap. -/
def toSitemap (url : Url) : Link := ⟨url.toString, .sitemap⟩

end Link

end CrawlFrontier
