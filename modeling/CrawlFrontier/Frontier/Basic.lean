import CrawlFrontier.Config.Read
import CrawlFrontier.Discovery.Link
import CrawlFrontier.Frontier.Queue
import CrawlFrontier.Frontier.Seen
import CrawlFrontier.Frontier.Summary

/-!
# The frontier of a crawl

URLs wait in a queue to be fetched. Each is put there at most once, because the store of seen URLs
is asked first; a URL that is taken back can be put there again.
-/

namespace CrawlFrontier

/-- A URL that waits to be fetched. -/
structure QueuedUrl where
  url : CanonicalUrl
  kind : DocumentKind
  deriving DecidableEq, Repr

/-- The state of a crawl. Progress is reported after every `interval` offers, if there is one. -/
structure Frontier where
  seen : SeenStore
  rules : Rules
  queue : Queue QueuedUrl
  /-- How many canonical URLs were offered since the last reset. The machine keeps this number in
  sixty-four bits, which no number of offers exceeds that a crawl can make. -/
  offers : Nat
  interval : Option Nat

/-- What an operation gives: the frontier after it, its answer and its notices in order. -/
structure Outcome (α : Type) where
  frontier : Frontier
  answer : α
  notices : List Notice

namespace Frontier

/-- A frontier over a store that is given; progress is not reported. -/
def withSeen (seen : SeenStore) (rules : Rules) : Frontier := ⟨seen, rules, .empty, 0, none⟩

/-- A frontier for a new crawl. -/
def ofConfig (config : Config) : Frontier :=
  { withSeen .empty config.rules with interval := some (max config.progressInterval 1) }

/-- How many URLs wait. -/
def pending (frontier : Frontier) : Nat := frontier.queue.length

/-- The URLs that wait, the next in front. -/
def queued (frontier : Frontier) : List QueuedUrl := frontier.queue.toList

/-- The report that is due after an offer. -/
def progressNotices (frontier : Frontier) : List Notice :=
  match frontier.interval with
  | some interval =>
    if frontier.offers % interval = 0 then
      [.progress frontier.offers frontier.seen.size frontier.seen.content frontier.pending]
    else []
  | none => []

/-- Counts an offer. -/
def countOffer (frontier : Frontier) : Frontier := { frontier with offers := frontier.offers + 1 }

/-- Puts a URL into the queue if it is new. -/
def enter (frontier : Frontier) (url : CanonicalUrl) (kind : DocumentKind) : Frontier × Offer :=
  match frontier.seen.mark url.key kind with
  | (true, seen) => ({ frontier with seen, queue := frontier.queue.push ⟨url, kind⟩ }, .enqueued)
  | (false, seen) => ({ frontier with seen }, .duplicate)

/-- Offers a canonical URL. -/
def offerUrl (frontier : Frontier) (url : CanonicalUrl) (kind : DocumentKind) : Outcome Offer :=
  let (entered, offer) := frontier.enter url kind
  let counted := entered.countOffer
  ⟨counted, offer, counted.progressNotices⟩

/-- Offers the canonical URL of a text. -/
def offer (frontier : Frontier) (text : String) (kind : DocumentKind) :
    Outcome (Except UrlError Offer) :=
  match CanonicalUrl.parse frontier.rules text with
  | .error error => ⟨frontier, .error error, []⟩
  | .ok url =>
    let outcome := frontier.offerUrl url kind
    ⟨outcome.frontier, .ok outcome.answer, outcome.notices⟩

/-- The notice of an offered link that was refused. -/
def rejectionNotices (link : Link) : Except UrlError Offer → List Notice
  | .ok _ => []
  | .error error => [.rejectedLink link.url error]

/-- Offers links in order, going on from a summary. -/
def offerLinks (frontier : Frontier) (summary : Summary) : List Link → Outcome Summary
  | [] => ⟨frontier, summary, []⟩
  | link :: links =>
    let first := frontier.offer link.url link.kind
    let rest := first.frontier.offerLinks (summary.record first.answer) links
    ⟨rest.frontier, rest.answer,
      first.notices ++ rejectionNotices link first.answer ++ rest.notices⟩

/-- Offers links that were discovered. -/
def offerDiscovered (frontier : Frontier) (links : List Link) : Outcome Summary :=
  frontier.offerLinks .empty links

/-- Offers a page to begin with, and in front of it the file with the rules for robots. -/
def seed (frontier : Frontier) (text : String) : Outcome (Except UrlError Offer) :=
  match CanonicalUrl.parse frontier.rules text with
  | .error error => ⟨frontier, .error error, []⟩
  | .ok url =>
    match url.url.robots? with
    | none =>
      let outcome := frontier.offerUrl url .content
      ⟨outcome.frontier, .ok outcome.answer, outcome.notices⟩
    | some robots =>
      match CanonicalUrl.parse frontier.rules robots.toString with
      | .error error => ⟨frontier, .error error, []⟩
      | .ok robots =>
        let first := frontier.offerUrl robots .robots
        let second := first.frontier.offerUrl url .content
        ⟨second.frontier, .ok second.answer, first.notices ++ second.notices⟩

/-- Takes the next URL out of the queue. -/
def next (frontier : Frontier) : Option QueuedUrl × Frontier :=
  match frontier.queue.pop? with
  | some (item, queue) => (some item, { frontier with queue })
  | none => (none, frontier)

/-- Takes a URL back: it is neither seen nor does it wait. -/
def retract (frontier : Frontier) (url : CanonicalUrl) : Frontier × List Notice :=
  let (seen, notices) := frontier.seen.forget url.key
  ({ frontier with seen, queue := frontier.queue.filter (·.url.key ≠ url.key) },
    notices ++ [.retracted url.key])

/-- Begins a new crawl with the same settings. -/
def reset (frontier : Frontier) : Frontier × List Notice :=
  let (seen, notices) := frontier.seen.clear
  ({ frontier with seen, queue := .empty, offers := 0 }, notices ++ [.reset frontier.pending])

end Frontier

end CrawlFrontier
