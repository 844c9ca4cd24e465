import CrawlFrontier.Discovery.Page
import CrawlFrontier.Discovery.Sitemap
import CrawlFrontier.Frontier.Basic

/-!
# Documents of a crawl

The kind with which a document was queued says how its links are found. A crawl takes the next URL,
offers the links of its document, and goes on until nothing waits. In a file for robots each line
names a value after a key and a colon, and a number sign begins a comment: the key `sitemap` names
the URL of a sitemap, and all other lines are for others to read.
-/

namespace CrawlFrontier

namespace Robots

open CrawlFrontier.Text

/-- The value that a line gives for sitemaps. -/
def sitemapValue? (line : List Char) : Option (List Char) :=
  match splitFirst ':' (trim (splitFirst '#' line).1) with
  | (key, some value) => if lower (trim key) = "sitemap".toList then some value else none
  | (_, none) => none

/-- The links of a file for robots. -/
def links (base : Url) (body : String) : List Link :=
  (lines body.toList).filterMap fun line =>
    (sitemapValue? line).bind fun value => (Link.resolve? base value).map Link.toSitemap

end Robots

/-- The links of a document of a kind, and what there is to report of it. -/
def DocumentKind.links (kind : DocumentKind) (base : Url) (body : String) :
    List Link × List Notice :=
  match kind with
  | .unclassified | .content => (Page.links base body, [])
  | .sitemap =>
    match Sitemap.links base body with
    | (links, true) => (links, [])
    | (links, false) => (links, [.malformedSitemap])
  | .robots => (Robots.links base body, [])

namespace Frontier

/-- Offers the links of a document that was fetched. -/
def offerDocument (frontier : Frontier) (source : QueuedUrl) (body : String) :
    Outcome Summary :=
  let (links, notices) := source.kind.links source.url.url body
  let outcome := frontier.offerDiscovered links
  let found : Notice := .discovered links.length source.url.key source.kind
  ⟨outcome.frontier, outcome.answer, notices ++ found :: outcome.notices⟩

/-- Takes at most so many URLs in turn and offers the links of their documents, and returns for each
URL what became of the links. -/
def crawl (frontier : Frontier) (document : String → String) :
    Nat → Outcome (List (QueuedUrl × Summary))
  | 0 => ⟨frontier, [], []⟩
  | limit + 1 =>
    match frontier.next with
    | (none, frontier) => ⟨frontier, [], []⟩
    | (some source, frontier) =>
      let first := frontier.offerDocument source (document source.url.key)
      let rest := first.frontier.crawl document limit
      ⟨rest.frontier, (source, first.answer) :: rest.answer, first.notices ++ rest.notices⟩

end Frontier

end CrawlFrontier
