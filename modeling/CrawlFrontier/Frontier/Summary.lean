import CrawlFrontier.Canonical.Url

/-!
# Outcomes of offers

A URL that is offered is taken up, known already, or no URL that can be fetched. A summary counts
the three.
-/

namespace CrawlFrontier

/-- What became of an offered URL. -/
inductive Offer where
  | enqueued
  | duplicate
  deriving DecidableEq, Repr

/-- How many offers had which outcome. Together the three are the number of the offers, so that they
have room in sixty-four bits as long as that number has. -/
structure Summary where
  enqueued : Nat
  duplicates : Nat
  rejected : Nat
  deriving DecidableEq, Repr

namespace Summary

/-- The summary of no offers. -/
def empty : Summary := ⟨0, 0, 0⟩

/-- How many URLs were offered. -/
def offered (summary : Summary) : Nat := summary.enqueued + summary.duplicates + summary.rejected

/-- How many offers were valid. -/
def valid (summary : Summary) : Nat := summary.enqueued + summary.duplicates

/-- The summary with one more outcome. -/
def record (summary : Summary) : Except UrlError Offer → Summary
  | .ok .enqueued => { summary with enqueued := summary.enqueued + 1 }
  | .ok .duplicate => { summary with duplicates := summary.duplicates + 1 }
  | .error _ => { summary with rejected := summary.rejected + 1 }

/-- The summary of the offers of both. -/
def add (a b : Summary) : Summary :=
  ⟨a.enqueued + b.enqueued, a.duplicates + b.duplicates, a.rejected + b.rejected⟩

instance : Add Summary := ⟨add⟩

end Summary

end CrawlFrontier
