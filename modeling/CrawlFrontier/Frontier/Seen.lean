import Std.Data.ExtHashMap
import CrawlFrontier.Frontier.Notice

/-!
# The store of seen URLs

The first mark of a URL records what it is expected to lead to; later marks change nothing until the
URL is forgotten. How many of the URLs are content is counted along the way.
-/

namespace CrawlFrontier

/-- The URLs that were seen, each with its kind, and how many of them are content. -/
structure SeenStore where
  kinds : Std.ExtHashMap String DocumentKind
  content : Nat

namespace SeenStore

/-- A store in which no URL was seen. -/
def empty : SeenStore := ⟨∅, 0⟩

/-- How many URLs were seen. -/
def size (store : SeenStore) : Nat := store.kinds.size

/-- How many of the seen URLs are not content. -/
def otherSize (store : SeenStore) : Nat := store.size - store.content

/-- Whether a URL was seen. -/
def contains (store : SeenStore) (url : String) : Bool := store.kinds.contains url

/-- The kind that was recorded for a URL, if it was seen. -/
def kind? (store : SeenStore) (url : String) : Option DocumentKind := store.kinds[url]?

/-- Whether no URL was seen. -/
def isEmpty (store : SeenStore) : Bool := store.kinds.isEmpty

/-- Marks a URL as seen, and says whether it was new. -/
def mark (store : SeenStore) (url : String) (kind : DocumentKind) : Bool × SeenStore :=
  if store.contains url then (false, store)
  else
    (true, ⟨store.kinds.insert url kind,
      if kind.isContent then store.content + 1 else store.content⟩)

/-- Forgets a URL. -/
def forget (store : SeenStore) (url : String) : SeenStore × List Notice :=
  match store.kind? url with
  | none => (store, [])
  | some kind =>
    (⟨store.kinds.erase url, if kind.isContent then store.content - 1 else store.content⟩,
      [.forgot url kind])

/-- Forgets all URLs. -/
def clear (store : SeenStore) : SeenStore × List Notice := (empty, [.cleared store.size])

end SeenStore

end CrawlFrontier
