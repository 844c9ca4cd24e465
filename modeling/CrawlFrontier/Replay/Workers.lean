import CrawlFrontier.Frontier.Basic
import CrawlFrontier.Replay.Candidate

/-!
# Replaying recorded crawls

Candidates are dealt to workers in turn, and the workers offer them to one frontier. Here every
worker offers one candidate in each round, so that the candidates are offered in their order.
-/

namespace CrawlFrontier

namespace Replay

/-- A candidate and the number of the worker that offers it. -/
structure Task where
  worker : Nat
  candidate : Candidate
  deriving DecidableEq, Repr

/-- Deals candidates to workers in turn; no workers count as one. -/
def deal (workers : Nat) (candidates : List Candidate) : List Task :=
  candidates.zipIdx.map fun (candidate, i) => ⟨i % max workers 1, candidate⟩

/-- The notice of a candidate that was refused. -/
def rejectionNotices (task : Task) : Except UrlError Offer → List Notice
  | .ok _ => []
  | .error error =>
    [.rejectedCandidate task.worker task.candidate.line task.candidate.url error]

/-- Lets the workers offer their candidates, going on from a summary. -/
def run (frontier : Frontier) (summary : Summary) : List Task → Outcome Summary
  | [] => ⟨frontier, summary, []⟩
  | task :: tasks =>
    let first := frontier.offer task.candidate.url task.candidate.kind
    let rest := run first.frontier (summary.record first.answer) tasks
    ⟨rest.frontier, rest.answer,
      first.notices ++ rejectionNotices task first.answer ++ rest.notices⟩

end Replay

/-- Offers candidates through workers. -/
def Frontier.replay (frontier : Frontier) (candidates : List Candidate) (workers : Nat) :
    Outcome Summary :=
  Replay.run frontier .empty (Replay.deal workers candidates)

end CrawlFrontier
