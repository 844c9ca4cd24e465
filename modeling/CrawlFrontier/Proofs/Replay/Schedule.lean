import CrawlFrontier.Proofs.Replay.Accounts
import Mathlib.Algebra.GroupWithZero.Nat

/-!
# Schedules of replays

The workers of a replay offer their candidates side by side. Each goes through its own candidates in
order; an offer is one step and the counting of it another, and between two steps of one worker the
others may take any of theirs. Main statement: every schedule comes to an end, and how it ends is
said by the list of candidates alone. A replay that offers the candidates in the order of the list
is one of the schedules.
-/

namespace CrawlFrontier.Replay

/-- The candidates of each worker, in the order of the workers. -/
def batches (workers : Nat) (candidates : List Candidate) : List (List Candidate) :=
  (List.range (max workers 1)).map fun worker =>
    ((deal workers candidates).filter (·.worker = worker)).map (·.candidate)

/-- A worker with the candidates that it has still to offer. It owes a count if its last offer was
not refused and is not counted yet. -/
structure Worker where
  batch : List Candidate
  owes : Bool
  summary : Summary

/-- A frontier and the workers that share it. -/
structure Stage where
  frontier : Frontier
  workers : List Worker

namespace Stage

/-- The beginning of a replay. -/
def start (frontier : Frontier) (candidates : List Candidate) (workers : Nat) : Stage :=
  ⟨frontier, (batches workers candidates).map (⟨·, false, .empty⟩)⟩

/-- The summaries of the workers together. -/
def merged (stage : Stage) : Summary :=
  (stage.workers.map (·.summary)).foldl (· + ·) .empty

/-- Whether all workers are done. -/
def Done (stage : Stage) : Prop :=
  ∀ worker ∈ stage.workers, worker.batch = [] ∧ worker.owes = false

/-- How many steps are left at most. -/
def remaining (stage : Stage) : Nat :=
  (stage.workers.map fun worker => 2 * worker.batch.length + worker.owes.toNat).sum

/-- What may happen next: a worker offers its next candidate, or counts its last offer. -/
inductive Step : Stage → Stage → Prop where
  | offer (frontier : Frontier) (front back : List Worker) (candidate : Candidate)
      (rest : List Candidate) (summary : Summary) :
      Step ⟨frontier, front ++ ⟨candidate :: rest, false, summary⟩ :: back⟩
        ⟨(attempt frontier candidate).1, front ++
          ⟨rest, (attempt frontier candidate).2.toOption.isSome,
            summary.record (attempt frontier candidate).2⟩ :: back⟩
  | count (frontier : Frontier) (front back : List Worker) (batch : List Candidate)
      (summary : Summary) :
      Step ⟨frontier, front ++ ⟨batch, true, summary⟩ :: back⟩
        ⟨frontier.countOffer, front ++ ⟨batch, false, summary⟩ :: back⟩

/-- The stages that a replay gets into. -/
inductive Reached (first : Stage) : Stage → Prop where
  | refl : Reached first first
  | step {stage next : Stage} (reached : Reached first stage) (step : Step stage next) :
      Reached first next

end Stage

/-- Items with numbers below a bound are those with each of the numbers. -/
theorem flatMap_range_filter_perm {α : Type} (number : α → Nat) (bound : Nat) (items : List α)
    (below : ∀ item ∈ items, number item < bound) :
    ((List.range bound).flatMap fun i => items.filter (number · = i)).Perm items := by
  induction bound generalizing items with
  | zero =>
    have none : items = [] := List.eq_nil_iff_forall_not_mem.mpr fun item member =>
      Nat.not_lt_zero _ (below item member)
    rw [none]
    exact .refl _
  | succ bound ih =>
    have front := ih (items.filter (number · < bound)) fun item member =>
      of_decide_eq_true (List.mem_filter.mp member).2
    have inner : ((List.range bound).flatMap fun i => items.filter (number · = i)) =
        (List.range bound).flatMap fun i =>
          (items.filter (number · < bound)).filter (number · = i) := by
      apply List.flatMap_congr
      intro i member
      have small := List.mem_range.mp member
      rw [List.filter_filter]
      apply List.filter_congr
      intro item _
      grind
    have last : items.filter (number · = bound) = items.filter fun item =>
        !decide (number item < bound) := by
      apply List.filter_congr
      intro item member
      have := below item member
      simp only [← decide_not, decide_eq_decide]
      omega
    rw [List.range_succ, List.flatMap_append, List.flatMap_singleton, inner, last]
    exact (front.append_right _).trans (List.filter_append_perm _ _)

/-- The tasks are the candidates in order. -/
theorem map_deal (workers : Nat) (candidates : List Candidate) :
    (deal workers candidates).map (·.candidate) = candidates := by
  rw [deal, List.map_map]
  exact List.zipIdx_map_fst 0 candidates

/-- Candidates are dealt to the workers that there are. -/
theorem worker_lt_of_mem_deal (workers : Nat) (candidates : List Candidate) :
    ∀ task ∈ deal workers candidates, task.worker < max workers 1 := by
  intro task member
  obtain ⟨⟨candidate, i⟩, -, rfl⟩ := List.mem_map.mp member
  have some : 0 < max workers 1 := by omega
  exact Nat.mod_lt i some

/-- Dealing the candidates to the workers loses none and repeats none. -/
theorem flatten_batches_perm (workers : Nat) (candidates : List Candidate) :
    (batches workers candidates).flatten.Perm candidates := by
  have tasks := (flatMap_range_filter_perm Task.worker _ _
    (worker_lt_of_mem_deal workers candidates)).map Task.candidate
  rw [map_deal, List.map_flatMap] at tasks
  rwa [batches, ← List.flatMap_def]

namespace Stage

/-- Adding up summaries adds up each of their counts. -/
theorem foldl_add (summaries : List Summary) (first : Summary) :
    summaries.foldl (· + ·) first =
      ⟨first.enqueued + (summaries.map (·.enqueued)).sum,
        first.duplicates + (summaries.map (·.duplicates)).sum,
        first.rejected + (summaries.map (·.rejected)).sum⟩ := by
  induction summaries generalizing first with
  | nil => rfl
  | cons summary summaries ih =>
    rw [List.foldl_cons, ih]
    simp only [List.map_cons, List.sum_cons, Summary.mk.injEq]
    change _ + _ + _ = _ ∧ _ + _ + _ = _ ∧ _ + _ + _ = _
    omega

/-- An answer that one worker records is recorded in all summaries together. -/
theorem foldl_record (front back : List Summary) (summary : Summary)
    (answer : Except UrlError Offer) :
    (front ++ summary.record answer :: back).foldl (· + ·) Summary.empty =
      ((front ++ summary :: back).foldl (· + ·) Summary.empty).record answer := by
  rw [foldl_add, foldl_add]
  rcases answer with error | offer
  · simp [Summary.record]
    omega
  · cases offer with
    | enqueued => simp [Summary.record]; omega
    | duplicate => simp [Summary.record]; omega

/-- At the beginning nothing is counted. -/
theorem merged_start (frontier : Frontier) (candidates : List Candidate) (workers : Nat) :
    (start frontier candidates workers).merged = .empty := by
  have empty (batches : List (List Candidate)) :
      ((batches.map (Worker.mk · false .empty)).map (·.summary)).foldl (· + ·) Summary.empty =
        .empty := by
    induction batches with
    | nil => rfl
    | cons batch batches ih => exact ih
  exact empty _

/-- The candidates that were offered so far, in some order, and those that are left are all the
candidates, and the frontier and the summaries account for those that were offered. -/
def Accounted (frontier : Frontier) (candidates : List Candidate) (stage : Stage) : Prop :=
  ∃ offered entered, (offered ++ stage.workers.flatMap (·.batch)).Perm candidates ∧
    Accounts frontier offered entered stage.frontier stage.merged

/-- At the beginning nothing was offered, and the workers have all candidates. -/
theorem accounted_start (frontier : Frontier) (candidates : List Candidate) (workers : Nat) :
    Accounted frontier candidates (start frontier candidates workers) := by
  refine ⟨[], [], ?_, ?_⟩
  · have dealt := flatten_batches_perm workers candidates
    simpa [start, List.flatMap_map, List.flatMap_id'] using dealt
  · rw [merged_start]
    exact Accounts.nothing frontier

/-- Every step keeps the account: an offer moves a candidate from those that are left to those that
were offered. -/
theorem Step.accounted {frontier : Frontier} {candidates : List Candidate} {stage next : Stage}
    (step : Step stage next) (accounted : Accounted frontier candidates stage) :
    Accounted frontier candidates next := by
  obtain ⟨offered, entered, all, account⟩ := accounted
  cases step with
  | offer shared front back candidate rest summary =>
    obtain ⟨more, attempted⟩ := account.attempt candidate
    refine ⟨offered ++ [candidate], more, List.Perm.trans ?_ all, ?_⟩
    · simp only [List.flatMap_append, List.flatMap_cons, List.append_assoc, List.cons_append,
        List.nil_append]
      exact List.Perm.append_left _ List.perm_middle.symm
    · have merged := foldl_record (front.map (·.summary)) (back.map (·.summary)) summary
        (attempt shared candidate).2
      simp only [Stage.merged, List.map_append, List.map_cons] at attempted
      simpa only [Stage.merged, List.map_append, List.map_cons, merged] using attempted
  | count shared front back batch summary =>
    refine ⟨offered, entered, ?_, ?_⟩
    · simpa only [List.flatMap_append, List.flatMap_cons] using all
    · have counted := account.countOffer
      simpa only [Stage.merged, List.map_append, List.map_cons] using counted

/-- The account is kept all the way. -/
theorem Reached.accounted {frontier : Frontier} {candidates : List Candidate} {workers : Nat}
    {stage : Stage} (reached : Reached (start frontier candidates workers) stage) :
    Accounted frontier candidates stage := by
  induction reached with
  | refl => exact accounted_start frontier candidates workers
  | step reached step ih => exact step.accounted ih

/-- When all workers are done, the frontier and the summaries account for all candidates. -/
theorem Reached.accounts {frontier : Frontier} {candidates : List Candidate} {workers : Nat}
    {stage : Stage} (reached : Reached (start frontier candidates workers) stage)
    (done : stage.Done) :
    ∃ entered, Accounts frontier candidates entered stage.frontier stage.merged := by
  obtain ⟨offered, entered, all, account⟩ := reached.accounted
  have nothing : stage.workers.flatMap (·.batch) = [] :=
    List.flatMap_eq_nil_iff.mpr fun worker member => (done worker member).1
  rw [nothing, List.append_nil] at all
  exact ⟨entered, account.perm all⟩

/-- Every step leaves fewer steps. -/
theorem Step.remaining_lt {stage next : Stage} (step : Step stage next) :
    next.remaining < stage.remaining := by
  cases step with
  | offer frontier front back candidate rest summary =>
    have owed := Bool.toNat_lt (attempt frontier candidate).2.toOption.isSome
    simp only [remaining, List.map_append, List.map_cons, List.sum_append, List.sum_cons,
      List.length_cons, Bool.toNat_false]
    omega
  | count frontier front back batch summary =>
    simp only [remaining, List.map_append, List.map_cons, List.sum_append, List.sum_cons,
      Bool.toNat_true, Bool.toNat_false]
    omega

/-- As long as a worker is not done, something may happen. -/
theorem done_or_step (stage : Stage) : stage.Done ∨ ∃ next, Step stage next := by
  by_cases done : stage.Done
  · exact .inl done
  · right
    simp only [Done, not_forall] at done
    obtain ⟨⟨batch, owes, summary⟩, member, busy⟩ := done
    obtain ⟨front, back, here⟩ := List.append_of_mem member
    obtain ⟨frontier, workers⟩ := stage
    simp only at here
    rw [here]
    cases owes with
    | true => exact ⟨_, .count frontier front back batch summary⟩
    | false =>
      cases batch with
      | nil => exact absurd ⟨rfl, rfl⟩ busy
      | cons candidate rest => exact ⟨_, .offer frontier front back candidate rest summary⟩

/-- Every stage leads to one in which all workers are done. -/
theorem exists_reached_done {first : Stage} (stage : Stage) (reached : Reached first stage) :
    ∃ last, Reached first last ∧ last.Done := by
  rcases stage.done_or_step with done | ⟨next, step⟩
  · exact ⟨stage, reached, done⟩
  · exact exists_reached_done next (reached.step step)
termination_by stage.remaining
decreasing_by exact step.remaining_lt

end Stage

/-- The offers of candidates in the order of the list, by one worker. -/
def inOrder (frontier : Frontier) (candidates : List Candidate) : Outcome Summary :=
  frontier.offerDiscovered (candidates.map fun candidate => ⟨candidate.url, candidate.kind⟩)

/-- Offering links in order keeps the account of the candidates that they are. -/
theorem offerLinks_accounts {before : Frontier} {offered : List Candidate}
    {entered : List QueuedUrl} {after : Frontier} {summary : Summary}
    (account : Accounts before offered entered after summary) (candidates : List Candidate) :
    ∃ more, Accounts before (offered ++ candidates) more
      (after.offerLinks summary
        (candidates.map fun candidate => ⟨candidate.url, candidate.kind⟩)).frontier
      (after.offerLinks summary
        (candidates.map fun candidate => ⟨candidate.url, candidate.kind⟩)).answer := by
  induction candidates generalizing offered entered after summary with
  | nil =>
    rw [List.append_nil]
    exact ⟨entered, account⟩
  | cons candidate candidates ih =>
    obtain ⟨more, attempted⟩ := account.attempt candidate
    have step := offer_eq_attempt after candidate
    rw [List.map_cons, Frontier.offerLinks, step.1]
    rcases step.2 with same | same <;> rw [same]
    · simpa only [List.append_assoc, List.singleton_append] using ih attempted
    · simpa only [List.append_assoc, List.singleton_append] using ih attempted.countOffer

/-- Offering tasks in order is offering their candidates as links. -/
theorem run_eq_offerLinks (frontier : Frontier) (summary : Summary) (tasks : List Task) :
    (run frontier summary tasks).frontier = (frontier.offerLinks summary
        (tasks.map fun task => ⟨task.candidate.url, task.candidate.kind⟩)).frontier ∧
      (run frontier summary tasks).answer = (frontier.offerLinks summary
        (tasks.map fun task => ⟨task.candidate.url, task.candidate.kind⟩)).answer := by
  induction tasks generalizing frontier summary with
  | nil => exact ⟨rfl, rfl⟩
  | cons task tasks ih =>
    have rest := ih (frontier.offer task.candidate.url task.candidate.kind).frontier
      (summary.record (frontier.offer task.candidate.url task.candidate.kind).answer)
    simp only [run, List.map_cons, Frontier.offerLinks, rest, and_self]

/-- A replay whose workers offer one candidate in each round offers them in order. -/
theorem replay_eq_inOrder (frontier : Frontier) (candidates : List Candidate) (workers : Nat) :
    (frontier.replay candidates workers).frontier = (inOrder frontier candidates).frontier ∧
      (frontier.replay candidates workers).answer = (inOrder frontier candidates).answer := by
  have dealt := congrArg
    (List.map fun candidate => (⟨candidate.url, candidate.kind⟩ : Link))
    (map_deal workers candidates)
  rw [List.map_map] at dealt
  have same := run_eq_offerLinks frontier .empty (deal workers candidates)
  rw [inOrder, Frontier.offerDiscovered, ← dealt]
  exact same

/-- A replay ends, and how it ends depends neither on the number of workers nor on the schedule. In
every stage that it gets into the workers are done or may go on, and every step leaves fewer steps.
When they are done, the summary is that of offers in the order of the list: the candidates without a
canonical URL are refused, there is one new URL for each key that was offered and not seen before,
and the rest are duplicates. Exactly what was seen before and what was offered is seen then. The new
URLs wait behind those that waited before, each once and with the kind of one of its candidates. If
all candidates with one canonical URL carry one kind, then also the recorded kinds and the number of
URLs of content are those of offers in the order of the list. -/
theorem schedule_independent (frontier : Frontier) (candidates : List Candidate)
    (workers : Nat) :
    (∀ stage, Stage.Reached (.start frontier candidates workers) stage →
      (stage.Done ∨ ∃ next, Stage.Step stage next) ∧
        ∀ next, Stage.Step stage next → next.remaining < stage.remaining) ∧
    ∀ stage, Stage.Reached (.start frontier candidates workers) stage → stage.Done →
      (stage.merged = (inOrder frontier candidates).answer ∧
        stage.merged = (frontier.replay candidates workers).answer ∧
        stage.merged.rejected =
          candidates.countP (fun candidate => (canonical? frontier.rules candidate).isNone) ∧
        stage.merged.enqueued = (freshKeys frontier candidates).card ∧
        stage.merged.offered = candidates.length) ∧
      (∀ key, stage.frontier.seen.contains key = true ↔
        frontier.seen.contains key = true ∨ key ∈ offeredKeys frontier.rules candidates) ∧
      (∃ entered, stage.frontier.queued = frontier.queued ++ entered ∧
        (entered.map fun item => item.url.key).Nodup ∧
        (entered.map fun item => item.url.key).toFinset = freshKeys frontier candidates ∧
        ∀ item ∈ entered, stage.frontier.seen.kind? item.url.key = some item.kind ∧
          ∃ candidate ∈ candidates, canonical? frontier.rules candidate = some item.url ∧
            candidate.kind = item.kind) ∧
      (Consistent frontier.rules candidates →
        (∀ key, stage.frontier.seen.kind? key =
          (inOrder frontier candidates).frontier.seen.kind? key) ∧
        stage.frontier.seen.content = (inOrder frontier candidates).frontier.seen.content) := by
  constructor
  · intro stage _
    exact ⟨stage.done_or_step, fun next step => step.remaining_lt⟩
  · intro stage reached done
    obtain ⟨entered, account⟩ := reached.accounts done
    obtain ⟨_, ordered⟩ := offerLinks_accounts (Accounts.nothing frontier) candidates
    have summary := account.summary_unique ordered
    refine ⟨⟨summary, summary.trans (replay_eq_inOrder frontier candidates workers).2.symm,
      account.rejected, account.enqueued_eq_card, account.total⟩, account.contains_iff, ?_, ?_⟩
    · refine ⟨entered, account.queued, account.distinct, account.toFinset_entered, ?_⟩
      intro item member
      exact ⟨(account.recorded _ _).mpr (.inr ⟨item, member, rfl, rfl⟩),
        account.named item member⟩
    · intro consistent
      exact ⟨account.kind?_unique ordered consistent, account.content_unique ordered consistent⟩

/-- Two spellings of one URL and a candidate that is none. -/
def spellings : List Candidate :=
  [⟨"http://[::1]/", .content, 1⟩, ⟨"x", .content, 2⟩, ⟨"http://[::1]/#top", .sitemap, 3⟩]

/-- Two workers that race with two spellings of one URL take up one of them. -/
theorem schedule_independent_spellings :
    ∃ stage, Stage.Reached (.start (.withSeen .empty {}) spellings 2) stage ∧ stage.Done ∧
      stage.merged = ⟨1, 1, 1⟩ := by
  have keys : offeredKeys {} spellings = ["http://[::1]/", "http://[::1]/"] := by decide
  have fresh : freshKeys (.withSeen .empty {}) spellings = {"http://[::1]/"} := by
    rw [freshKeys, show (Frontier.withSeen .empty {}).rules = {} from rfl, keys]
    ext key
    simp [SeenStore.contains_eq_isSome_kind?, Frontier.withSeen]
  obtain ⟨stage, reached, done⟩ := Stage.exists_reached_done _
    (Stage.Reached.refl : Stage.Reached (.start (.withSeen .empty {}) spellings 2) _)
  obtain ⟨⟨_, _, rejected, enqueued, total⟩, _⟩ :=
    (schedule_independent (.withSeen .empty {}) spellings 2).2 stage reached done
  have refused : (spellings.countP fun candidate => (canonical? {} candidate).isNone) = 1 := by
    decide
  rw [fresh, Finset.card_singleton] at enqueued
  refine ⟨stage, reached, done, ?_⟩
  have rejected' : stage.merged.rejected = 1 := rejected.trans refused
  have total' : stage.merged.offered = 3 := total
  cases h : stage.merged
  simp only [h, Summary.offered, Summary.mk.injEq] at *
  omega
end CrawlFrontier.Replay
