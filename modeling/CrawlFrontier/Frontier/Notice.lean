import CrawlFrontier.Canonical.Url
import CrawlFrontier.DocumentKind

/-!
# Notices

What operations report besides their answers, and the wording and weight of each report.
-/

namespace CrawlFrontier

/-- How much a notice matters. -/
inductive Level where
  | debug
  | info
  | warn
  deriving DecidableEq, Repr

/-- The name of a level. -/
def Level.name : Level → String
  | debug => "DEBUG"
  | info => "INFO"
  | warn => "WARN"

/-- A report of an operation. -/
inductive Notice where
  | forgot (url : String) (kind : DocumentKind)
  | cleared (count : Nat)
  | malformedSitemap
  | discovered (links : Nat) (url : String) (kind : DocumentKind)
  | rejectedLink (url : String) (error : UrlError)
  | retracted (url : String)
  | reset (dropped : Nat)
  | progress (offers total content queued : Nat)
  | unknownTag (line : Nat) (tag : String)
  | rejectedCandidate (worker line : Nat) (url : String) (error : UrlError)
  deriving DecidableEq, Repr

namespace Notice

/-- How much a notice matters. -/
def level : Notice → Level
  | forgot .. | cleared _ | discovered .. | retracted _ => .debug
  | reset _ | progress .. => .info
  | malformedSitemap | rejectedLink .. | unknownTag .. | rejectedCandidate .. => .warn

/-- The wording of a notice. -/
def message : Notice → String
  | forgot url kind => s!"Forgot seen URL {url} ({kind})"
  | cleared count => s!"Cleared seen URL store ({count} URLs forgotten)"
  | malformedSitemap => "Malformed sitemap XML"
  | discovered links url kind => s!"Discovered {links} links in {url} ({kind})"
  | rejectedLink url error => s!"Rejected discovered link {url}: {error.message}"
  | retracted url => s!"Retracted {url}"
  | reset dropped => s!"Frontier reset ({dropped} queued URLs dropped)"
  | progress offers total content queued =>
    s!"Progress: {offers} offers, {total} URLs seen ({content} content), {queued} queued"
  | unknownTag line tag => s!"Line {line}: unknown tag '{tag}', treating as unclassified"
  | rejectedCandidate worker line url error =>
    s!"Worker {worker}: line {line}: rejected {url}: {error.message}"

/-- A notice as a line of a log. -/
def text (notice : Notice) : String := notice.level.name ++ " " ++ notice.message

end Notice

end CrawlFrontier
