import CrawlFrontier.Command.Run
import CrawlFrontier.Proofs.Replay.Candidate
import CrawlFrontier.Proofs.Replay.Rounds
import CrawlFrontier.Proofs.Steps

/-!
# Reports of runs

A run reads its candidates, replays them through workers and prints what became of them. The lines
and the workers, the store, the queue and the summaries count the same things, each on its own. Main
statement: what is printed accounts for every candidate, and it depends neither on the number of
workers nor on their schedule, but for the order of the URLs that are listed and for their kinds.
-/

namespace CrawlFrontier.Command

open CrawlFrontier.Replay

/-- What is printed at a time when the workers of a replay are done. -/
def printed (time : String) (arguments : Arguments) (frontier : Frontier) (summary : Summary) :
    List String :=
  (if arguments.printNew then frontier.queued.map queuedLine else []) ++
    if arguments.quiet then [] else (Statistics.ofFrontier frontier summary time).report

/-- What a run with the given files may print at a time, if the workers may take their steps in any
order. -/
inductive MayPrint (files : String → Option (List UInt8)) (time : String) (arguments : Arguments) :
    List String → Prop where
  | replayed {config : Config} {candidates : List Candidate} {notices : List Notice}
      {stage : Stage} (configured : effectiveConfig files arguments = .ok config)
      (loaded : Candidate.load (files arguments.input) = .whole (candidates, notices))
      (reached : Stage.Reached (.start (.ofConfig config) candidates config.workers) stage)
      (done : stage.Done) :
      MayPrint files time arguments (printed time arguments stage.frontier stage.merged)

/-- A report and the URLs that are listed in front of it account for candidates. -/
structure AccountsFor (rules : Rules) (candidates : List Candidate) (listed : List QueuedUrl)
    (statistics : Statistics) : Prop where
  /-- Every candidate is taken up, known already or refused. -/
  every : statistics.offers.enqueued + statistics.offers.duplicates + statistics.offers.rejected =
    candidates.length
  /-- The valid offers are those that were not refused. -/
  valid : statistics.offers.valid = statistics.offers.enqueued + statistics.offers.duplicates
  /-- The candidates without a canonical URL are refused. -/
  rejected : statistics.offers.rejected =
    candidates.countP fun candidate => (canonical? rules candidate).isNone
  /-- What was taken up is seen. -/
  total : statistics.seen = statistics.offers.enqueued
  /-- What was taken up waits. -/
  pending : statistics.pending = statistics.offers.enqueued
  /-- What is seen is content or not. -/
  kinds : statistics.content + statistics.other = statistics.seen
  /-- What was taken up is listed. -/
  length : listed.length = statistics.offers.enqueued
  /-- No URL is listed twice. -/
  distinct : (listed.map fun item => item.url.key).Nodup
  /-- The listed URLs of content are those that are counted. -/
  content : (listed.countP fun item => item.kind = .content) = statistics.content
  /-- The listed URLs are those of the candidates. -/
  keys : (listed.map fun item => item.url.key).toFinset = (offeredKeys rules candidates).toFinset
  /-- Each of them has the kind of one of its candidates. -/
  named : ∀ item ∈ listed, ∃ candidate ∈ candidates,
    canonical? rules candidate = some item.url ∧ candidate.kind = item.kind

/-- The configuration that a run reads, whatever number of workers the command line gives. -/
def fileConfig (files : String → Option (List UInt8)) (arguments : Arguments) :
    Except Failure Config :=
  match arguments.config with
  | none => .ok {}
  | some path => (Config.load (files path)).mapError (.config path)

/-- The configuration with the number of workers that the command line gives. -/
def chooseWorkers (base : Config) : Option Nat → Except Failure Config
  | none => .ok base
  | some count =>
    if Config.validWorkers count then .ok { base with workers := count }
    else .error (.workers count)

/-- A number of workers is chosen if it is in range. -/
theorem chooseWorkers_eq_ok_iff {base config : Config} {workers : Option Nat} :
    chooseWorkers base workers = .ok config ↔
      (∀ count ∈ workers, Config.validWorkers count = true) ∧
        config = { base with workers := workers.getD base.workers } := by
  cases workers with
  | none =>
    constructor
    · intro same
      obtain rfl := Except.ok.inj same
      exact ⟨nofun, rfl⟩
    · rintro ⟨-, rfl⟩
      rfl
  | some count =>
    by_cases valid : Config.validWorkers count = true
    · rw [chooseWorkers, if_pos valid]
      constructor
      · intro same
        obtain rfl := Except.ok.inj same
        refine ⟨fun number mem => ?_, rfl⟩
        obtain rfl := Option.some.inj mem
        exact valid
      · rintro ⟨-, rfl⟩
        rfl
    · rw [chooseWorkers, if_neg valid]
      constructor
      · intro same
        cases same
      · rintro ⟨all, -⟩
        exact absurd (all count rfl) valid

/-- The configuration of a run is read, and then the number of workers is chosen. -/
theorem effectiveConfig_eq_bind (files : String → Option (List UInt8)) (arguments : Arguments) :
    effectiveConfig files arguments =
      (fileConfig files arguments).bind fun base => chooseWorkers base arguments.workers := by
  unfold effectiveConfig fileConfig
  cases arguments.config <;> cases arguments.workers <;> rfl

/-- A run has a configuration if one is read and the number of workers is chosen. -/
theorem effectiveConfig_eq_ok_iff {files : String → Option (List UInt8)} {arguments : Arguments}
    {config : Config} :
    effectiveConfig files arguments = .ok config ↔
      ∃ base, fileConfig files arguments = .ok base ∧
        chooseWorkers base arguments.workers = .ok config := by
  rw [effectiveConfig_eq_bind]
  exact bind_eq_ok

/-- When the workers of a replay are done, what waits and the counters account for the candidates.
-/
theorem accountsFor_of_done (time : String) {config : Config} {candidates : List Candidate}
    {workers : Nat} {stage : Stage}
    (reached : Stage.Reached (.start (.ofConfig config) candidates workers) stage)
    (done : stage.Done) :
    AccountsFor config.rules candidates stage.frontier.queued
      (.ofFrontier stage.frontier stage.merged time) := by
  obtain ⟨entered, account⟩ := reached.accounts done
  obtain ⟨keys, tallied⟩ := reached.tallied ⟨∅, SeenStore.tallied_empty⟩
  have rules : (Frontier.ofConfig config).rules = config.rules := rfl
  have queued : stage.frontier.queued = entered := account.queued
  have unseen (key : String) : (Frontier.ofConfig config).seen.kind? key = none :=
    SeenStore.kind?_empty key
  have keysEntered : keys = (entered.map fun item => item.url.key).toFinset := by
    ext key
    rw [tallied.mem, account.contains_iff, List.mem_toFinset, account.fresh]
    simp [unseen, SeenStore.contains_eq_isSome_kind?]
  have size : stage.frontier.seen.size = entered.length := by
    rw [tallied.size, keysEntered, List.toFinset_card_of_nodup account.distinct, List.length_map]
  have content : stage.frontier.seen.content = entered.countP fun item => item.kind.isContent := by
    rw [account.content]
    exact Nat.zero_add _
  have offeredKeysEntered : (entered.map fun item => item.url.key).toFinset =
      (offeredKeys config.rules candidates).toFinset := by
    ext key
    rw [List.mem_toFinset, account.fresh, List.mem_toFinset]
    simp [unseen, rules]
  have pending : stage.frontier.pending = stage.merged.enqueued := by
    have length : stage.frontier.queued.length = stage.frontier.pending :=
      Queue.length_toList stage.frontier.queue
    rw [← length, queued, account.enqueued]
  have kinds : stage.frontier.seen.content + stage.frontier.seen.otherSize =
      stage.frontier.seen.size := by
    have least := tallied.content_le
    unfold SeenStore.otherSize
    omega
  have listed : (entered.countP fun item => item.kind = .content) =
      stage.frontier.seen.content := by
    rw [content]
    apply List.countP_congr
    intro item _
    cases item.kind <;> simp [DocumentKind.isContent]
  rw [queued]
  exact
    { every := account.total
      valid := rfl
      rejected := account.rejected
      total := size.trans account.enqueued.symm
      pending
      kinds
      length := account.enqueued.symm
      distinct := account.distinct
      content := listed
      keys := offeredKeysEntered
      named := account.named }

namespace AccountsFor

variable {rules : Rules} {candidates : List Candidate} {listed listed' : List QueuedUrl}
  {statistics statistics' : Statistics}

/-- As many URLs were taken up as candidates have keys. -/
theorem enqueued_eq_card (account : AccountsFor rules candidates listed statistics) :
    statistics.offers.enqueued = (offeredKeys rules candidates).toFinset.card := by
  rw [← account.keys, List.toFinset_card_of_nodup account.distinct, List.length_map, account.length]

end AccountsFor

end CrawlFrontier.Command
