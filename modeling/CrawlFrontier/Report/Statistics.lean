import CrawlFrontier.Frontier.Basic
import CrawlFrontier.Report.Decimal

/-!
# Statistics of a crawl

How much was seen, what became of the offers, and which share of the valid offers brought nothing
new. A report says when it was made; the clock gives that time as a text.
-/

namespace CrawlFrontier

/-- The numbers of a report. -/
structure Statistics where
  seen : Nat
  content : Nat
  other : Nat
  offers : Summary
  pending : Nat
  /-- When the numbers were taken. -/
  time : String
  deriving DecidableEq, Repr

namespace Statistics

/-- The numbers of a frontier after the offers of a summary, at the given time. -/
def ofFrontier (frontier : Frontier) (offers : Summary) (time : String) : Statistics :=
  ⟨frontier.seen.size, frontier.seen.content, frontier.seen.otherSize, offers, frontier.pending,
    time⟩

/-- The share of duplicates among the valid offers, in percent. -/
def duplicateRate (offers : Summary) : Float :=
  if offers.valid = 0 then 0 else Float.ofNat offers.duplicates / Float.ofNat offers.valid * 100

/-- The share of duplicates as it is printed. -/
def rateText (offers : Summary) : String := Report.fixed 1 (duplicateRate offers)

/-- The lines of the report. -/
def report (s : Statistics) : List String :=
  ["=== Frontier Statistics ===", "",
    "Seen URLs:",
    "  Total distinct: " ++ toString s.seen,
    "  Content: " ++ toString s.content,
    "  Other (sitemaps, robots.txt, untagged): " ++ toString s.other,
    "",
    "Offers:",
    "  Enqueued: " ++ toString s.offers.enqueued,
    "  Duplicates: " ++ toString s.offers.duplicates,
    "  Rejected: " ++ toString s.offers.rejected,
    "  Pending in queue: " ++ toString s.pending,
    "",
    "Duplicate Rate: " ++ rateText s.offers ++ "% (" ++ toString s.offers.duplicates ++ " / " ++
      toString s.offers.valid ++ " valid offers)",
    "Generated at: " ++ s.time]

end Statistics

end CrawlFrontier
