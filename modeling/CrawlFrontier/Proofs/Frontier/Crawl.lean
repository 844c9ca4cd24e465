import CrawlFrontier.Proofs.Frontier.Order
import CrawlFrontier.Proofs.Replay.Schedule

/-!
# Crawls over documents

A crawl fetches the URL that waits first, offers the links of its document, and goes on until
nothing waits. Only finitely many URLs have a document, but documents may link to each other in
circles, so the queue can grow while it is drained. Main statement: the crawl ends, it fetches no URL
twice, and whatever a fetched document links to was known at the start or is fetched too.
-/

namespace CrawlFrontier

open Replay (Accounts)

/-- The document of a URL, if it is one of the given ones; every other document is empty. -/
def documentOf (documents : List (String × String)) (key : String) : String :=
  (documents.lookup key).getD ""

/-- The links of the document of a URL, found as its kind says. -/
def QueuedUrl.linksIn (source : QueuedUrl) (document : String → String) : List Link :=
  (source.kind.links source.url.url (document source.url.key)).1

/-- A link as a candidate that comes from no line. -/
def Candidate.ofLink (link : Link) : Candidate := ⟨link.url, link.kind, 0⟩

/-- An empty document has no links, whatever its kind. -/
theorem DocumentKind.links_empty (kind : DocumentKind) (base : Url) :
    (kind.links base "").1 = [] := by
  cases kind with
  | unclassified | content =>
    change Page.links base "" = []
    cbv
  | sitemap =>
    have nothing : Sitemap.links base "" = ([], true) := by cbv
    rw [links, nothing]
  | robots =>
    change Robots.links base "" = []
    cbv

/-- A URL without a document links to nothing. -/
theorem QueuedUrl.linksIn_documentOf {documents : List (String × String)} {source : QueuedUrl}
    (missing : source.url.key ∉ documents.map (·.1)) :
    source.linksIn (documentOf documents) = [] := by
  have unfound : documents.lookup source.url.key = none := by
    refine List.lookup_eq_none_iff.mpr fun entry member => bne_iff_ne.mpr ?_
    exact fun same => missing (List.mem_map.mpr ⟨entry, member, same.symm⟩)
  rw [linksIn, documentOf, unfound, Option.getD_none, DocumentKind.links_empty]

namespace Frontier

variable {document : String → String}

/-- Whether a URL is known and does not wait. -/
def IsSettled (frontier : Frontier) (key : String) : Prop :=
  frontier.seen.contains key = true ∧ key ∉ frontier.queued.map fun item => item.url.key

/-- Fetches a URL: it is the next one, and the links of its document are offered. -/
def fetch (frontier : Frontier) (document : String → String) (source : QueuedUrl) :
    Outcome Summary :=
  frontier.next.2.offerDocument source (document source.url.key)

/-- The URLs that a crawl fetches. -/
def fetched (frontier : Frontier) (document : String → String) (limit : Nat) : List QueuedUrl :=
  (frontier.crawl document limit).answer.map (·.1)

/-- A crawl ends when nothing waits. -/
theorem crawl_of_queued_eq_nil {frontier : Frontier} (nothing : frontier.queued = [])
    (limit : Nat) : frontier.crawl document limit = ⟨frontier, [], []⟩ := by
  cases limit with
  | zero => rfl
  | succ limit =>
    have next : frontier.next = (none, frontier) := by
      rw [Frontier.next, Queue.pop?_eq_none_iff.mpr nothing]
    rw [crawl, next]

/-- A crawl fetches the URL that waits first and goes on. -/
theorem crawl_succ {frontier : Frontier} {source : QueuedUrl} {rest : List QueuedUrl}
    (waits : frontier.queued = source :: rest) (limit : Nat) :
    frontier.crawl document (limit + 1) =
      let first := frontier.fetch document source
      let others := first.frontier.crawl document limit
      ⟨others.frontier, (source, first.answer) :: others.answer,
        first.notices ++ others.notices⟩ := by
  have next : frontier.next = (some source, frontier.next.2) := by
    apply Prod.ext
    · rw [next_answer, waits, List.head?_cons]
    · rfl
  rw [crawl, next]
  rfl

/-- A crawl that has ended stays as it is. -/
theorem crawl_add {frontier : Frontier} {limit : Nat}
    (ended : (frontier.crawl document limit).frontier.queued = []) (more : Nat) :
    frontier.crawl document (limit + more) = frontier.crawl document limit := by
  induction limit generalizing frontier with
  | zero => exact crawl_of_queued_eq_nil ended (0 + more)
  | succ limit ih =>
    cases waits : frontier.queued with
    | nil => rw [crawl_of_queued_eq_nil waits, crawl_of_queued_eq_nil waits]
    | cons source rest =>
      rw [crawl_succ waits] at ended
      rw [Nat.add_right_comm, crawl_succ waits, crawl_succ waits]
      simp only [ih ended]

/-- Offering links keeps the account of the candidates that they are. -/
theorem exists_accounts_offerLinks (frontier : Frontier) (links : List Link) :
    ∃ entered, Accounts frontier (links.map .ofLink) entered
      (frontier.offerLinks .empty links).frontier (frontier.offerLinks .empty links).answer := by
  have back : (links.map Candidate.ofLink).map
      (fun candidate => (⟨candidate.url, candidate.kind⟩ : Link)) = links := by
    rw [List.map_map]
    exact List.map_id _
  have account := Replay.offerLinks_accounts (Accounts.nothing frontier) (links.map .ofLink)
  rwa [back, List.nil_append] at account

/-- What a fetch does: the URL that waited first does so no more, and the links of its document that
were not known wait behind the others. -/
structure Fetched (document : String → String) (before : Frontier) (source : QueuedUrl)
    (entered : List QueuedUrl) (after : Frontier) : Prop where
  /-- The rules stay. -/
  rules : after.rules = before.rules
  /-- The frontier stays safe. -/
  safe : after.Safe
  /-- The new URLs wait behind the others. -/
  queued : after.queued = before.queued.tail ++ entered
  /-- There are at most as many new URLs as links. -/
  few : entered.length ≤ (source.linksIn document).length
  /-- The new URLs were not known. -/
  fresh : ∀ item ∈ entered, ¬before.seen.contains item.url.key = true
  /-- Only the new URLs become known. -/
  contains_iff : ∀ key, after.seen.contains key = true ↔
    before.seen.contains key = true ∨ key ∈ entered.map fun item => item.url.key
  /-- All links of the document that have a canonical URL are known. -/
  links : ∀ link ∈ source.linksIn document, ∀ url,
    CanonicalUrl.parse before.rules link.url = .ok url → after.seen.contains url.key = true

/-- Every fetch does so: its account is that of the links as candidates. -/
theorem Safe.exists_fetched {frontier : Frontier} (safe : frontier.Safe)
    (document : String → String) (source : QueuedUrl) :
    ∃ entered,
      Fetched document frontier source entered (frontier.fetch document source).frontier := by
  obtain ⟨entered, account⟩ :=
    exists_accounts_offerLinks frontier.next.2 (source.linksIn document)
  have unseen (key : String) : frontier.next.2.seen.kind? key = none ↔
      ¬frontier.seen.contains key = true := by
    rw [seen_next, SeenStore.contains_eq_isSome_kind?, Option.not_isSome_iff_eq_none]
  refine ⟨entered, account.rules.trans frontier.next_rules, ?_, ?_, ?_, ?_, ?_, ?_⟩
  · change (frontier.next.2.offerLinks .empty (source.linksIn document)).frontier.Safe
    rw [offerLinks_frontier]
    exact safe.next.foldl_act _
  · rw [← queued_next]
    exact account.queued
  · have total := account.total
    rw [Summary.offered, List.length_map] at total
    rw [← account.enqueued]
    omega
  · intro item member
    exact (unseen _).mp ((account.fresh _).mp (List.mem_map_of_mem member)).2
  · intro key
    rw [account.fresh, unseen]
    refine (account.contains_iff key).trans ?_
    rw [seen_next]
    by_cases known : frontier.seen.contains key = true
    · simp [known]
    · simp [known]
  · intro link member url parsed
    refine (account.contains_iff url.key).mpr (.inr (List.mem_filterMap.mpr ?_))
    refine ⟨.ofLink link, List.mem_map_of_mem member, ?_⟩
    rw [Candidate.ofLink, Replay.canonical?, next_rules, parsed]
    rfl

namespace Fetched

variable {before after : Frontier} {source : QueuedUrl} {rest entered : List QueuedUrl}

/-- A URL that does not wait and is known does not begin to wait. -/
theorem not_mem_queued (step : Fetched document before source entered after) {key : String}
    (known : before.seen.contains key = true)
    (apart : key ∉ before.queued.tail.map fun item => item.url.key) :
    key ∉ after.queued.map fun item => item.url.key := by
  rw [step.queued, List.map_append, List.mem_append]
  rintro (waited | new)
  · exact apart waited
  · obtain ⟨item, member, rfl⟩ := List.mem_map.mp new
    exact step.fresh item member known

/-- A settled URL stays settled. -/
theorem isSettled (step : Fetched document before source entered after) {key : String}
    (settled : before.IsSettled key) : after.IsSettled key := by
  refine ⟨(step.contains_iff key).mpr (.inl settled.1), step.not_mem_queued settled.1 ?_⟩
  rw [List.map_tail]
  exact fun waited => settled.2 (List.mem_of_mem_tail waited)

/-- The URL that is fetched is settled from then on. -/
theorem isSettled_source (step : Fetched document before source entered after) (safe : before.Safe)
    (waits : before.queued = source :: rest) : after.IsSettled source.url.key := by
  have known := safe.contains_of_mem_queued (waits ▸ List.mem_cons_self)
  refine ⟨(step.contains_iff _).mpr (.inl known), step.not_mem_queued known ?_⟩
  have distinct := safe.distinct
  rw [waits, List.map_cons, List.nodup_cons] at distinct
  rw [waits, List.tail_cons]
  exact distinct.1

/-- What becomes known waits. -/
theorem known_or_waits (step : Fetched document before source entered after) {key : String}
    (known : after.seen.contains key = true) :
    before.seen.contains key = true ∨ key ∈ after.queued.map fun item => item.url.key := by
  rw [step.queued, List.map_append, List.mem_append]
  exact ((step.contains_iff key).mp known).imp_right .inr

end Fetched

/-- What is known of a crawl and the URLs that it has fetched. -/
structure Crawled (document : String → String) (before : Frontier) (sources : List QueuedUrl)
    (after : Frontier) : Prop where
  /-- No URL is fetched twice. -/
  distinct : (sources.map fun source => source.url.key).Nodup
  /-- No URL is fetched that was settled. -/
  unsettled : ∀ source ∈ sources, ¬before.IsSettled source.url.key
  /-- What waits is fetched unless it still waits. -/
  waited : ∀ item ∈ before.queued, item ∈ sources ∨ item ∈ after.queued
  /-- What is known stays known. -/
  kept : ∀ key, before.seen.contains key = true → after.seen.contains key = true
  /-- What becomes known is fetched unless it still waits. -/
  known : ∀ key, after.seen.contains key = true → before.seen.contains key = true ∨
    (key ∈ sources.map fun source => source.url.key) ∨
      key ∈ after.queued.map fun item => item.url.key
  /-- The canonical URLs that fetched documents link to are known. -/
  links : ∀ source ∈ sources, ∀ link ∈ source.linksIn document, ∀ url,
    CanonicalUrl.parse before.rules link.url = .ok url → after.seen.contains url.key = true
  /-- Everything that is fetched or still waits has waited before or was linked to. -/
  count : sources.length + after.queued.length ≤
    before.queued.length + (sources.map fun source => (source.linksIn document).length).sum

namespace Crawled

variable {before middle after : Frontier} {source : QueuedUrl}
  {rest entered sources : List QueuedUrl}

/-- A crawl that has fetched nothing. -/
theorem nothing (frontier : Frontier) : Crawled document frontier [] frontier where
  distinct := List.nodup_nil
  unsettled := by simp
  waited _ waits := .inr waits
  kept _ known := known
  known _ known := .inl known
  links := by simp
  count := by simp

/-- A crawl that fetches a URL and goes on. -/
theorem cons (others : Crawled document middle sources after)
    (step : Fetched document before source entered middle) (safe : before.Safe)
    (waits : before.queued = source :: rest) :
    Crawled document before (source :: sources) after where
  distinct := by
    rw [List.map_cons, List.nodup_cons]
    refine ⟨?_, others.distinct⟩
    -- The first URL is settled once it is fetched, and no other URL is settled when it is fetched.
    intro again
    obtain ⟨other, member, same⟩ := List.mem_map.mp again
    exact others.unsettled other member (same ▸ step.isSettled_source safe waits)
  unsettled other member settled := by
    rcases List.mem_cons.mp member with rfl | member
    · exact settled.2 (List.mem_map_of_mem (waits ▸ List.mem_cons_self))
    · exact others.unsettled other member (step.isSettled settled)
  waited item member := by
    rw [waits] at member
    rcases List.mem_cons.mp member with rfl | member
    · exact .inl List.mem_cons_self
    · have waited : item ∈ middle.queued := by
        rw [step.queued, waits]
        exact List.mem_append_left _ member
      exact (others.waited item waited).imp_left (List.mem_cons_of_mem _)
  kept key known := others.kept key ((step.contains_iff key).mpr (.inl known))
  known key known := by
    rw [List.map_cons, List.mem_cons]
    rcases others.known key known with known | fetched | waits'
    · rcases step.known_or_waits known with known | waited
      · exact .inl known
      · obtain ⟨item, member, rfl⟩ := List.mem_map.mp waited
        exact .inr ((others.waited item member).imp
          (fun fetched => .inr (List.mem_map_of_mem fetched)) List.mem_map_of_mem)
    · exact .inr (.inl (.inr fetched))
    · exact .inr (.inr waits')
  links other member link among url parsed := by
    rcases List.mem_cons.mp member with rfl | member
    · exact others.kept _ (step.links link among url parsed)
    · exact others.links other member link among url (step.rules ▸ parsed)
  count := by
    have count := others.count
    have few := step.few
    rw [step.queued, waits, List.tail_cons, List.length_append] at count
    rw [waits, List.map_cons, List.sum_cons, List.length_cons, List.length_cons]
    omega

end Crawled

/-- What is known of a crawl, however far it goes. -/
theorem Safe.crawled {frontier : Frontier} (safe : frontier.Safe) (document : String → String)
    (limit : Nat) :
    Crawled document frontier (frontier.fetched document limit)
      (frontier.crawl document limit).frontier := by
  induction limit generalizing frontier with
  | zero => exact .nothing frontier
  | succ limit ih =>
    cases waits : frontier.queued with
    | nil =>
      rw [fetched, crawl_of_queued_eq_nil waits]
      exact .nothing frontier
    | cons source rest =>
      obtain ⟨entered, step⟩ := safe.exists_fetched document source
      rw [fetched, crawl_succ waits]
      exact (ih step.safe).cons step safe waits

instance (frontier : Frontier) (key : String) : Decidable (frontier.IsSettled key) :=
  inferInstanceAs (Decidable (_ ∧ _))

/-- The URLs among the given ones that are not settled yet. -/
def unsettled (frontier : Frontier) (keys : Finset String) : Finset String :=
  keys.filter fun key => ¬frontier.IsSettled key

namespace Fetched

variable {before after : Frontier} {source : QueuedUrl} {rest entered : List QueuedUrl}
  {keys : Finset String}

/-- A fetch leaves no more URLs unsettled. -/
theorem unsettled_subset (step : Fetched document before source entered after) :
    after.unsettled keys ⊆ before.unsettled keys := by
  intro key member
  obtain ⟨among, unsettled⟩ := Finset.mem_filter.mp member
  exact Finset.mem_filter.mpr ⟨among, fun settled => unsettled (step.isSettled settled)⟩

/-- The fetch of one of the URLs leaves fewer of them unsettled. -/
theorem unsettled_ssubset (step : Fetched document before source entered after)
    (safe : before.Safe) (waits : before.queued = source :: rest)
    (among : source.url.key ∈ keys) : after.unsettled keys ⊂ before.unsettled keys := by
  refine (Finset.ssubset_iff_of_subset step.unsettled_subset).mpr ⟨source.url.key, ?_, ?_⟩
  · refine Finset.mem_filter.mpr ⟨among, fun settled => settled.2 ?_⟩
    exact List.mem_map_of_mem (waits ▸ List.mem_cons_self)
  · intro member
    exact (Finset.mem_filter.mp member).2 (step.isSettled_source safe waits)

/-- A fetch leaves fewer of the URLs that may have links unsettled, or fewer URLs wait. -/
theorem progress (step : Fetched document before source entered after)
    (safe : before.Safe) (waits : before.queued = source :: rest)
    (silent : source.url.key ∉ keys → source.linksIn document = []) :
    Prod.Lex (· < ·) (· < ·) ((after.unsettled keys).card, after.queued.length)
      ((before.unsettled keys).card, before.queued.length) := by
  by_cases among : source.url.key ∈ keys
  · exact .left _ _ (Finset.card_lt_card (step.unsettled_ssubset safe waits among))
  · -- Nothing is offered, so the queue only loses the URL that is fetched.
    have few := step.few
    rw [silent among, List.length_nil, Nat.le_zero] at few
    have fewer : after.queued.length < before.queued.length := by
      rw [step.queued, waits, List.tail_cons, List.length_append, few, List.length_cons]
      omega
    have subset : after.unsettled keys ⊆ before.unsettled keys := step.unsettled_subset
    rcases Nat.lt_or_eq_of_le (Finset.card_le_card subset) with less | same
    · exact .left _ _ less
    · rw [same]
      exact .right _ fewer

end Fetched

/-- A crawl ends if only finitely many URLs have documents with links. The queue may grow, but only
by a fetch that settles one of these URLs for good. -/
theorem Safe.exists_ended {frontier : Frontier} (safe : frontier.Safe) (keys : Finset String)
    (silent : ∀ source : QueuedUrl, source.url.key ∉ keys → source.linksIn document = []) :
    ∃ limit, (frontier.fetched document limit).length = limit ∧
      (frontier.crawl document limit).frontier.queued = [] := by
  cases waits : frontier.queued with
  | nil => exact ⟨0, rfl, waits⟩
  | cons source rest =>
    obtain ⟨entered, step⟩ := safe.exists_fetched document source
    have progress := step.progress safe waits (silent source)
    obtain ⟨limit, counted, ended⟩ := step.safe.exists_ended keys silent
    refine ⟨limit + 1, ?_, ?_⟩
    · rw [fetched, crawl_succ waits]
      exact congrArg (· + 1) counted
    · rw [crawl_succ waits]
      exact ended
termination_by ((frontier.unsettled keys).card, frontier.queued.length)
decreasing_by exact progress

end Frontier

/-- Only the given documents have links to count. -/
theorem sum_length_linksIn (documents : List (String × String)) (sources : List QueuedUrl) :
    (sources.map fun source => (source.linksIn (documentOf documents)).length).sum =
      ((sources.filter (·.url.key ∈ documents.map (·.1))).map fun source =>
        (source.linksIn (documentOf documents)).length).sum := by
  induction sources with
  | nil => rfl
  | cons source sources ih =>
    by_cases among : source.url.key ∈ documents.map (·.1)
    · rw [List.filter_cons, if_pos (decide_eq_true among), List.map_cons, List.sum_cons, ih,
        List.map_cons, List.sum_cons]
    · rw [List.filter_cons, if_neg (by simpa using among), List.map_cons, List.sum_cons, ih,
        QueuedUrl.linksIn_documentOf among, List.length_nil, Nat.zero_add]

namespace System

/-- A crawl over finitely many documents ends, whatever state its frontier is in when it begins and
however the documents link to each other. It fetches no more URLs than waited and than the fetched
documents have links, and none of them twice. Every link of a fetched document that has a canonical
URL was known when the crawl began or is fetched. -/
theorem crawl_ends_complete {system : System} (reached : Reachable system)
    (documents : List (String × String)) :
    ∃ limit sources, system.frontier.fetched (documentOf documents) limit = sources ∧
      sources.length = limit ∧
      (system.frontier.crawl (documentOf documents) limit).frontier.queued = [] ∧
      (∀ more, system.frontier.crawl (documentOf documents) (limit + more) =
        system.frontier.crawl (documentOf documents) limit) ∧
      limit ≤ system.frontier.queued.length +
        ((sources.filter (·.url.key ∈ documents.map (·.1))).map fun source =>
          (source.linksIn (documentOf documents)).length).sum ∧
      (sources.map fun source => source.url.key).Nodup ∧
      ∀ source ∈ sources, ∀ link ∈ source.linksIn (documentOf documents), ∀ url,
        CanonicalUrl.parse system.frontier.rules link.url = .ok url →
          system.frontier.seen.contains url.key = true ∨
            url.key ∈ sources.map fun source => source.url.key := by
  have silent (source : QueuedUrl)
      (missing : source.url.key ∉ (documents.map (·.1)).toFinset) :
      source.linksIn (documentOf documents) = [] :=
    QueuedUrl.linksIn_documentOf fun member => missing (List.mem_toFinset.mpr member)
  obtain ⟨limit, counted, ended⟩ := reached.safe.exists_ended _ silent
  have crawled := reached.safe.crawled (documentOf documents) limit
  refine ⟨limit, _, rfl, counted, ended, Frontier.crawl_add ended, ?_, crawled.distinct, ?_⟩
  · have count := crawled.count
    rwa [counted, ended, List.length_nil, Nat.add_zero, sum_length_linksIn] at count
  · intro source member link among url parsed
    rcases crawled.known _ (crawled.links source member link among url parsed) with
      known | fetched | waits
    · exact .inl known
    · exact .inr fetched
    · rw [ended] at waits
      exact absurd waits List.not_mem_nil

/-- A page of a host without a name. -/
def unnamedPage (name : String) : CanonicalUrl :=
  ⟨{ scheme := "http", username := "", password := "", port := none
     host := some (.ipv6 ⟨[0, 0, 0, 0, 0, 0, 0, 2], rfl⟩)
     path := .segments [name], query := none, fragment := none }⟩

/-- A new frontier to which the front page was offered. -/
def offered : Frontier :=
  (Frontier.withSeen .empty {}).perform (.offerUrl (unnamedPage "") .content)

/-- Two pages that link to each other. -/
def circle : List (String × String) :=
  [("http://[::2]/", "<a href=b>"), ("http://[::2]/b", "<a href=/>")]

/-- A crawl over two pages that link to each other ends, and it fetches both, each once. -/
theorem crawl_ends_complete_circle :
    ∃ system limit sources, Reachable system ∧
      system.frontier.queued = [⟨unnamedPage "", .content⟩] ∧
      system.frontier.fetched (documentOf circle) limit = sources ∧
      (system.frontier.crawl (documentOf circle) limit).frontier.queued = [] ∧
      (sources.map fun source => source.url.key).Nodup ∧
      "http://[::2]/" ∈ (sources.map fun source => source.url.key) ∧
      "http://[::2]/b" ∈ sources.map fun source => source.url.key := by
  have start : Recorded ⟨.withSeen .empty {}, fun _ => []⟩ [] := .new (.withSeen .empty {})
  have reached : Reachable ⟨offered, fun _ => []⟩ :=
    (start.perform (.offerUrl (unnamedPage "") .content)).reachable
  have waits : offered.queued = [⟨unnamedPage "", .content⟩] := by cbv
  have unknown : offered.seen.contains "http://[::2]/b" = false := by cbv
  have rules : offered.rules = {} := by
    rw [offered, Frontier.perform_eq_foldl_act, Frontier.foldl_act_rules]
    rfl
  obtain ⟨limit, sources, rfl, _, ended, _, _, distinct, complete⟩ :=
    crawl_ends_complete reached circle
  -- The front page has waited, so it is fetched, and it links to the other page.
  have waited := (reached.safe.crawled (documentOf circle) limit).waited
    ⟨unnamedPage "", .content⟩ (waits ▸ List.mem_cons_self)
  rw [ended] at waited
  have first := waited.resolve_right List.not_mem_nil
  have parsed : CanonicalUrl.parse {} "http://[::2]/b" = .ok (unnamedPage "b") := by
    decide +kernel
  have second := complete _ first ⟨"http://[::2]/b", .content⟩ (by decide +kernel) _
    (rules ▸ parsed)
  have key : (unnamedPage "b").key = "http://[::2]/b" := by decide +kernel
  rw [key, unknown] at second
  refine ⟨_, limit, _, reached, waits, rfl, ended, distinct, ?_,
    second.resolve_left Bool.false_ne_true⟩
  exact List.mem_map.mpr ⟨_, first, by decide +kernel⟩

end System

end CrawlFrontier
