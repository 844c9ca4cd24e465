import CrawlFrontier.Text.Ascii
import CrawlFrontier.Text.Blank

/-!
# Kinds of documents

What a URL is expected to lead to. The kind decides how the links of a fetched document are found,
and only documents of content are counted as such.
-/

namespace CrawlFrontier

open CrawlFrontier.Text

/-- What a URL is expected to lead to. -/
inductive DocumentKind where
  | unclassified
  | content
  | sitemap
  | robots
  deriving DecidableEq, Repr

namespace DocumentKind

/-- Whether the kind is content. -/
def isContent : DocumentKind → Bool
  | content => true
  | unclassified | sitemap | robots => false

/-- The tag by which lists and reports name a kind. -/
def tag : DocumentKind → String
  | unclassified => "none"
  | content => "content"
  | sitemap => "sitemap"
  | robots => "robots_txt"

instance : ToString DocumentKind := ⟨tag⟩

/-- All kinds. -/
def all : List DocumentKind := [unclassified, content, sitemap, robots]

/-- The kind that a tag names, whatever its letters' case and the white space around it. The empty
tag and a short form for robots files are understood too. -/
def ofTag? (text : String) : Option DocumentKind :=
  let name := String.ofList (lower (trim text.toList))
  if name = "" ∨ name = "none" then some unclassified
  else if name = "content" then some content
  else if name = "sitemap" then some sitemap
  else if name = "robots_txt" ∨ name = "robots" then some robots
  else none

end DocumentKind

end CrawlFrontier
