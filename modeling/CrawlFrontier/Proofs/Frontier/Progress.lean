import CrawlFrontier.Proofs.Frontier.Retract
import CrawlFrontier.Proofs.Frontier.Seeding

/-!
# Reports of progress

Every offer of a canonical URL is counted, whatever becomes of it, and after each so many offers
there is a report. Operations are taken apart into their offers: what an operation does, and what it
reports of progress, is what its offers do and report one after the other. Main statement: among the
offers since a reset every one whose number is a multiple of the interval is reported, with the
sizes of what was seen and what waits, and no other.
-/

namespace CrawlFrontier

/-- Whether a notice reports progress. -/
def Notice.isProgress : Notice → Bool
  | progress .. => true
  | forgot .. | cleared _ | malformedSitemap | discovered .. | rejectedLink .. | retracted _
  | reset _ | unknownTag .. | rejectedCandidate .. => false

namespace Operation

/-- The offer of a text, if it has a canonical URL. -/
def textOffers (rules : Rules) (text : String) (kind : DocumentKind) : List QueuedUrl :=
  match CanonicalUrl.parse rules text with
  | .error _ => []
  | .ok url => [⟨url, kind⟩]

/-- The offers of links; those that are refused are none. -/
def linkOffers (rules : Rules) (links : List Link) : List QueuedUrl :=
  links.flatMap fun link => textOffers rules link.url link.kind

/-- The canonical URLs that an operation offers, each with its kind, in order. -/
def offers (rules : Rules) : Operation → List QueuedUrl
  | offer text kind => textOffers rules text kind
  | offerUrl url kind => [⟨url, kind⟩]
  | offerDiscovered links => linkOffers rules links
  | offerDocument source body => linkOffers rules (source.kind.links source.url.url body).1
  | seed text => seedOffers rules text
  | next | retract _ | reset => []

end Operation

/-- What is known of the offer with the given number. -/
structure Outcome.Reports {α : Type} (interval number : Nat) (outcome : Outcome α) : Prop where
  /-- The interval is the one of the frontier. -/
  configured : outcome.frontier.interval = some interval
  /-- The number is what the frontier has counted. -/
  counted : outcome.frontier.offers = number
  /-- There is a report if the number is a multiple of the interval; it states the number and the
  sizes after the offer. -/
  reported : outcome.notices =
    if interval ∣ number then
      [.progress number outcome.frontier.seen.size outcome.frontier.seen.content
        outcome.frontier.pending]
    else []
  /-- No more URLs are content than were seen. -/
  content_le : outcome.frontier.seen.content ≤ outcome.frontier.seen.size
  /-- No more URLs were seen than were offered. -/
  size_le : outcome.frontier.seen.size ≤ number
  /-- No more URLs wait than were seen. -/
  pending_le : outcome.frontier.pending ≤ outcome.frontier.seen.size

namespace Frontier

/-- What offers give, one after the other. -/
def outcomes (frontier : Frontier) : List QueuedUrl → List (Outcome Offer)
  | [] => []
  | item :: items =>
    let outcome := frontier.offerUrl item.url item.kind
    outcome :: outcome.frontier.outcomes items

/-- The frontier after offers, one after the other. -/
def offerAll (frontier : Frontier) (items : List QueuedUrl) : Frontier :=
  items.foldl (fun frontier item => (frontier.offerUrl item.url item.kind).frontier) frontier

/-- What the offers of operations give, one operation after the other. -/
def offerOutcomes (frontier : Frontier) : List Operation → List (Outcome Offer)
  | [] => []
  | operation :: operations =>
    frontier.outcomes (operation.offers frontier.rules) ++
      (frontier.perform operation).offerOutcomes operations

/-- The reports of progress among the notices of operations. -/
def progressLines (frontier : Frontier) (operations : List Operation) : List Notice :=
  ((frontier.replies (operations.map .operation)).flatMap (·.notices)).filter Notice.isProgress

variable {frontier : Frontier} {interval : Nat}

/-- As many outcomes as offers. -/
@[simp] theorem length_outcomes (frontier : Frontier) (items : List QueuedUrl) :
    (frontier.outcomes items).length = items.length := by
  induction items generalizing frontier with
  | nil => rfl
  | cons item items ih => rw [outcomes, List.length_cons, ih, List.length_cons]

/-- The outcomes of offers behind others. -/
theorem outcomes_append (frontier : Frontier) (first second : List QueuedUrl) :
    frontier.outcomes (first ++ second) =
      frontier.outcomes first ++ (frontier.offerAll first).outcomes second := by
  induction first generalizing frontier with
  | nil => rfl
  | cons item first ih =>
    rw [List.cons_append, outcomes, ih]
    rfl

/-- The frontier after offers behind others. -/
theorem offerAll_append (frontier : Frontier) (first second : List QueuedUrl) :
    frontier.offerAll (first ++ second) = (frontier.offerAll first).offerAll second :=
  List.foldl_append

/-- What is reported after an offer is progress. -/
theorem filter_isProgress_progressNotices (frontier : Frontier) :
    frontier.progressNotices.filter Notice.isProgress = frontier.progressNotices := by
  unfold progressNotices
  split
  · split <;> rfl
  · rfl

/-- An offer reports nothing but progress. -/
theorem filter_isProgress_offerUrl (frontier : Frontier) (url : CanonicalUrl)
    (kind : DocumentKind) :
    (frontier.offerUrl url kind).notices.filter Notice.isProgress =
      (frontier.offerUrl url kind).notices :=
  filter_isProgress_progressNotices _

/-- Whether an operation does what offers do, and reports of progress what they report. -/
structure IsOffers {α : Type} (frontier : Frontier) (items : List QueuedUrl)
    (outcome : Outcome α) : Prop where
  done : outcome.frontier = frontier.offerAll items
  reported : outcome.notices.filter Notice.isProgress =
    (frontier.outcomes items).flatMap (·.notices)

/-- Offers are done one operation after the other. -/
theorem IsOffers.trans {α β γ : Type} {items more : List QueuedUrl} {first : Outcome α}
    {second : Outcome β} {outcome : Outcome γ} (front : frontier.IsOffers items first)
    (back : first.frontier.IsOffers more second) (done : outcome.frontier = second.frontier)
    (reported : outcome.notices.filter Notice.isProgress =
      first.notices.filter Notice.isProgress ++ second.notices.filter Notice.isProgress) :
    frontier.IsOffers (items ++ more) outcome where
  done := by
    rw [done, back.done, front.done, offerAll_append]
  reported := by
    rw [reported, back.reported, front.reported, front.done, outcomes_append, List.flatMap_append]

/-- The offer of a canonical URL is one offer. -/
theorem isOffers_offerUrl (frontier : Frontier) (url : CanonicalUrl) (kind : DocumentKind) :
    frontier.IsOffers [⟨url, kind⟩] (frontier.offerUrl url kind) where
  done := rfl
  reported := by
    rw [filter_isProgress_offerUrl]
    exact (List.append_nil _).symm

/-- The offer of a text is the offer of its canonical URL. -/
theorem isOffers_offer (frontier : Frontier) (text : String) (kind : DocumentKind) :
    frontier.IsOffers (Operation.textOffers frontier.rules text kind)
      (frontier.offer text kind) := by
  unfold offer Operation.textOffers
  cases CanonicalUrl.parse frontier.rules text with
  | error error => exact ⟨rfl, rfl⟩
  | ok url =>
    have single := frontier.isOffers_offerUrl url kind
    exact ⟨single.done, single.reported⟩

/-- The offer of a text keeps the rules. -/
theorem offer_rules (frontier : Frontier) (text : String) (kind : DocumentKind) :
    (frontier.offer text kind).frontier.rules = frontier.rules := by
  rw [offer_frontier, foldl_act_rules]

/-- The offer of links is the offer of their canonical URLs; a link that is refused is reported as
such, and not as progress. -/
theorem isOffers_offerLinks (frontier : Frontier) (summary : Summary) (links : List Link) :
    frontier.IsOffers (Operation.linkOffers frontier.rules links)
      (frontier.offerLinks summary links) := by
  induction links generalizing frontier summary with
  | nil => exact ⟨rfl, rfl⟩
  | cons link links ih =>
    have first := frontier.isOffers_offer link.url link.kind
    have rest := ih (frontier.offer link.url link.kind).frontier
      (summary.record (frontier.offer link.url link.kind).answer)
    have refused (answer : Except UrlError Offer) :
        (rejectionNotices link answer).filter Notice.isProgress = [] := by
      cases answer <;> rfl
    rw [offer_rules] at rest
    rw [offerLinks, Operation.linkOffers, List.flatMap_cons]
    refine first.trans rest rfl ?_
    simp only [List.filter_append, refused, List.append_nil]

/-- A seed is the offers of its two URLs, if both are read. -/
theorem isOffers_seed (frontier : Frontier) (text : String) :
    frontier.IsOffers (Operation.seedOffers frontier.rules text) (frontier.seed text) := by
  rcases frontier.seed_cases text with ⟨page, robots, parsed, found⟩ | ⟨nothing, error, refused⟩
  · rw [seed_of_robots? parsed found, Operation.seedOffers_of_robots? parsed found]
    have file := frontier.isOffers_offerUrl robots .robots
    refine file.trans (isOffers_offerUrl _ page .content) rfl ?_
    simp only [List.filter_append]
  · rw [refused, nothing]
    exact ⟨rfl, rfl⟩

/-- What is found in a document is reported, and not as progress. -/
theorem filter_isProgress_links (kind : DocumentKind) (base : Url) (body : String) :
    (kind.links base body).2.filter Notice.isProgress = [] := by
  unfold DocumentKind.links
  split
  · rfl
  · rfl
  · split <;> rfl
  · rfl

/-- What a document leads to is offered as links; what is reported of the document is no
progress. -/
theorem isOffers_offerDocument (frontier : Frontier) (source : QueuedUrl) (body : String) :
    frontier.IsOffers
      (Operation.linkOffers frontier.rules (source.kind.links source.url.url body).1)
      (frontier.offerDocument source body) := by
  have links := frontier.isOffers_offerLinks .empty (source.kind.links source.url.url body).1
  unfold offerDocument
  refine ⟨links.done, ?_⟩
  rw [List.filter_append, filter_isProgress_links]
  exact links.reported

/-- Another answer makes no difference to the offers. -/
theorem IsOffers.map {α β : Type} {items : List QueuedUrl} {outcome : Outcome α}
    (isOffers : frontier.IsOffers items outcome) (change : α → β) :
    frontier.IsOffers items (outcome.map change) :=
  ⟨isOffers.done, isOffers.reported⟩

/-- An operation is made of its offers, or it is one of those that offer nothing. -/
theorem isOffers_operate_or (frontier : Frontier) (operation : Operation) :
    frontier.IsOffers (operation.offers frontier.rules) (frontier.operate operation) ∨
      operation = .next ∨ (∃ url, operation = .retract url) ∨ operation = .reset := by
  cases operation with
  | offer text kind => exact .inl ((frontier.isOffers_offer text kind).map _)
  | offerUrl url kind =>
    exact .inl ((frontier.isOffers_offerUrl url kind).map fun offer => Answer.offer (.ok offer))
  | offerDiscovered links => exact .inl ((frontier.isOffers_offerLinks .empty links).map _)
  | offerDocument source body => exact .inl ((frontier.isOffers_offerDocument source body).map _)
  | seed text => exact .inl ((frontier.isOffers_seed text).map _)
  | next => exact .inr (.inl rfl)
  | retract url => exact .inr (.inr (.inl ⟨url, rfl⟩))
  | reset => exact .inr (.inr (.inr rfl))

/-- What an operation reports of progress is what its offers report. -/
theorem filter_isProgress_operate (frontier : Frontier) (operation : Operation) :
    (frontier.operate operation).notices.filter Notice.isProgress =
      (frontier.outcomes (operation.offers frontier.rules)).flatMap (·.notices) := by
  rcases frontier.isOffers_operate_or operation with offers | rfl | ⟨url, rfl⟩ | rfl
  · exact offers.reported
  · rfl
  · change ((frontier.seen.forget url.key).2 ++ [Notice.retracted url.key]).filter _ = []
    rw [SeenStore.forget_notices]
    cases frontier.seen.kind? url.key <;> rfl
  · rfl

/-- The operations report the progress that their offers report. -/
theorem progressLines_eq (frontier : Frontier) (operations : List Operation) :
    frontier.progressLines operations =
      (frontier.offerOutcomes operations).flatMap (·.notices) := by
  induction operations generalizing frontier with
  | nil => rfl
  | cons operation operations ih =>
    have rest := ih (frontier.perform operation)
    rw [← operate_frontier] at rest
    rw [offerOutcomes, List.flatMap_append, ← filter_isProgress_operate, ← operate_frontier, ← rest]
    exact List.filter_append ..

/-- Every offer is counted. -/
theorem offers_offerAll (frontier : Frontier) (items : List QueuedUrl) :
    (frontier.offerAll items).offers = frontier.offers + items.length := by
  induction items generalizing frontier with
  | nil => rfl
  | cons item items ih =>
    have counted := ih (frontier.offerUrl item.url item.kind).frontier
    rwa [offerUrl_offers, Nat.add_right_comm] at counted

/-- An operation counts its offers, unless it is a reset. -/
theorem offers_perform (frontier : Frontier) {operation : Operation} (kept : operation ≠ .reset) :
    (frontier.perform operation).offers =
      frontier.offers + (operation.offers frontier.rules).length := by
  rcases frontier.isOffers_operate_or operation with offers | rfl | ⟨url, rfl⟩ | rfl
  · rw [← operate_frontier, offers.done, offers_offerAll]
  · exact frontier.next_offers
  · rfl
  · exact absurd rfl kept

/-- The counter never exceeds the number of the offers that were made, so it has room in as many bits
as that number. -/
theorem offers_after_le (frontier : Frontier) (operations : List Operation) :
    (frontier.after (operations.map .operation)).offers ≤
      frontier.offers + (frontier.offerOutcomes operations).length := by
  induction operations generalizing frontier with
  | nil => exact Nat.le_refl _
  | cons operation operations ih =>
    have rest := ih (frontier.perform operation)
    have first : (frontier.perform operation).offers ≤
        frontier.offers + (operation.offers frontier.rules).length := by
      by_cases reset : operation = .reset
      · rw [reset]
        exact Nat.zero_le _
      · exact (frontier.offers_perform reset).le
    rw [← operate_frontier] at rest first
    rw [offerOutcomes, List.length_append, length_outcomes, ← Nat.add_assoc, ← operate_frontier]
    exact rest.trans (Nat.add_le_add_right first _)

/-- What holds of a frontier between operations, if its store is changed by nobody else: it is safe,
the counters are right, and no more URLs were seen than were offered. -/
structure Steady (frontier : Frontier) (interval : Nat) : Prop where
  safe : frontier.Safe
  tallied : ∃ keys, frontier.seen.Tallied keys
  size_le : frontier.seen.size ≤ frontier.offers
  configured : frontier.interval = some interval

/-- A frontier for a new crawl is steady. -/
theorem steady_ofConfig (config : Config) :
    (ofConfig config).Steady (max config.progressInterval 1) where
  safe := safe_of_queued_eq_nil rfl
  tallied := ⟨∅, SeenStore.tallied_empty⟩
  size_le := SeenStore.tallied_empty.size.le
  configured := rfl

/-- Offers keep a frontier steady: one URL more was seen at most. -/
theorem Steady.offerUrl (steady : frontier.Steady interval) (url : CanonicalUrl)
    (kind : DocumentKind) : (frontier.offerUrl url kind).frontier.Steady interval := by
  obtain ⟨keys, tallied⟩ := steady.tallied
  have settings := frontier.sameSettings_act (.enter url kind)
  constructor
  · exact (steady.safe.enter url kind).act .count
  · exact exists_tallied_act tallied (.enter url kind)
  · rw [offerUrl_offers, seen_offerUrl]
    have before := steady.size_le
    by_cases seen : frontier.seen.contains url.key = true
    · rw [SeenStore.mark_of_contains seen]
      exact Nat.le_succ_of_le before
    · rw [SeenStore.size_mark seen]
      exact Nat.succ_le_succ before
  · exact settings.2.trans steady.configured

/-- Any number of offers keep a frontier steady. -/
theorem Steady.offerAll (steady : frontier.Steady interval) (items : List QueuedUrl) :
    (frontier.offerAll items).Steady interval := by
  induction items generalizing frontier with
  | nil => exact steady
  | cons item items ih => exact ih (steady.offerUrl item.url item.kind)

/-- Taking the next URL keeps a frontier steady. -/
theorem Steady.next (steady : frontier.Steady interval) : frontier.next.2.Steady interval where
  safe := steady.safe.next
  tallied := by
    obtain ⟨keys, tallied⟩ := steady.tallied
    exact exists_tallied_act tallied .take
  size_le := by
    rw [seen_next, next_offers]
    exact steady.size_le
  configured := (frontier.sameSettings_act .take).2.trans steady.configured

/-- Taking a URL back keeps a frontier steady: one URL less was seen at most. -/
theorem Steady.retract (steady : frontier.Steady interval) (url : CanonicalUrl) :
    (frontier.retract url).1.Steady interval := by
  obtain ⟨keys, tallied⟩ := steady.tallied
  have fewer := Nat.le_of_add_right_le (tallied.size_forget url.key).le
  exact ⟨steady.safe.retract url, exists_tallied_act tallied (.withdraw url),
    fewer.trans steady.size_le, steady.configured⟩

/-- A reset makes a frontier steady again. -/
theorem Steady.reset (steady : frontier.Steady interval) : frontier.reset.1.Steady interval where
  safe := safe_of_queued_eq_nil rfl
  tallied := ⟨∅, SeenStore.tallied_empty⟩
  size_le := SeenStore.tallied_empty.size.le
  configured := steady.configured

/-- An operation keeps a frontier steady. -/
theorem Steady.perform (steady : frontier.Steady interval) (operation : Operation) :
    (frontier.perform operation).Steady interval := by
  rcases frontier.isOffers_operate_or operation with offers | rfl | ⟨url, rfl⟩ | rfl
  · rw [← operate_frontier, offers.done]
    exact steady.offerAll _
  · exact steady.next
  · exact steady.retract url
  · exact steady.reset

/-- No more URLs wait than were seen: they are distinct, and each was seen. -/
theorem Safe.pending_le (safe : frontier.Safe) {keys : Finset String}
    (tallied : frontier.seen.Tallied keys) : frontier.pending ≤ frontier.seen.size := by
  have within : (frontier.queued.map (·.url.key)).toFinset ⊆ keys := by
    intro key member
    obtain ⟨item, waits, rfl⟩ := List.mem_map.mp (List.mem_toFinset.mp member)
    exact (tallied.mem _).mpr (safe.contains_of_mem_queued waits)
  rw [← length_map_key_queued, ← List.toFinset_card_of_nodup safe.distinct, tallied.size]
  exact Finset.card_le_card within

/-- An offer to a steady frontier is reported by its number. -/
theorem Steady.reports (steady : frontier.Steady interval) (url : CanonicalUrl)
    (kind : DocumentKind) :
    (frontier.offerUrl url kind).Reports interval (frontier.offers + 1) := by
  have after := steady.offerUrl url kind
  obtain ⟨keys, tallied⟩ := after.tallied
  have counted := frontier.offerUrl_offers url kind
  have notices : (frontier.offerUrl url kind).notices =
      (frontier.offerUrl url kind).frontier.progressNotices := rfl
  constructor
  · exact after.configured
  · exact counted
  · rw [notices, progressNotices, after.configured]
    simp only [counted, Nat.dvd_iff_mod_eq_zero]
  · exact tallied.content_le
  · exact counted ▸ after.size_le
  · exact after.safe.pending_le tallied

/-- Offers to a steady frontier are reported by their numbers. -/
theorem Steady.reports_outcomes (steady : frontier.Steady interval) {items : List QueuedUrl}
    {i : Nat} {outcome : Outcome Offer} (found : (frontier.outcomes items)[i]? = some outcome) :
    outcome.Reports interval (frontier.offers + i + 1) := by
  induction items generalizing frontier i with
  | nil => cases found
  | cons item items ih =>
    have first := steady.reports item.url item.kind
    cases i with
    | zero =>
      obtain rfl := Option.some.inj found
      exact first
    | succ i =>
      have rest := ih (steady.offerUrl item.url item.kind) found
      rwa [offerUrl_offers, Nat.add_right_comm frontier.offers 1 i] at rest

/-- The offers of operations without a reset are reported by their numbers. -/
theorem Steady.reports_offerOutcomes (steady : frontier.Steady interval)
    {operations : List Operation} (kept : .reset ∉ operations) {i : Nat} {outcome : Outcome Offer}
    (found : (frontier.offerOutcomes operations)[i]? = some outcome) :
    outcome.Reports interval (frontier.offers + i + 1) := by
  induction operations generalizing frontier i with
  | nil => cases found
  | cons operation operations ih =>
    obtain ⟨other, others⟩ := not_or.mp (List.mem_cons.not.mp kept)
    have counted := frontier.offers_perform (Ne.symm other)
    rw [offerOutcomes] at found
    -- The first operation counts its own offers; the others count on from where it ended.
    by_cases own : i < (frontier.outcomes (operation.offers frontier.rules)).length
    · rw [List.getElem?_append_left own] at found
      exact steady.reports_outcomes found
    · rw [List.getElem?_append_right (Nat.le_of_not_lt own)] at found
      have rest := ih (steady.perform operation) others found
      rw [length_outcomes] at own rest
      rw [counted] at rest
      have number : frontier.offers + (operation.offers frontier.rules).length +
          (i - (operation.offers frontier.rules).length) + 1 = frontier.offers + i + 1 := by
        omega
      rwa [number] at rest

/-- Of outcomes that are reported by their numbers, one in each interval has a report. -/
theorem length_flatMap_notices {outcomes : List (Outcome Offer)}
    (reports : ∀ (i : Nat) (outcome : Outcome Offer), outcomes[i]? = some outcome →
      outcome.Reports interval (i + 1)) :
    (outcomes.flatMap (·.notices)).length = outcomes.length / interval := by
  induction outcomes using List.reverseRecOn with
  | nil => simp
  | append_singleton outcomes outcome ih =>
    have before := ih fun i other found => reports i other <| by
      rw [List.getElem?_append_left (List.getElem?_eq_some_iff.mp found).1, found]
    -- One more outcome raises the quotient exactly if its number is a multiple of the interval.
    have last := (reports outcomes.length outcome (by simp)).reported
    rw [List.flatMap_append, List.length_append, before, List.flatMap_singleton, last,
      List.length_append, List.length_singleton, Nat.succ_div]
    split <;> rfl

/-- There are as many outcomes as the operations have offers. -/
theorem length_offerOutcomes (frontier : Frontier) (operations : List Operation) :
    (frontier.offerOutcomes operations).length =
      (operations.flatMap fun operation => operation.offers frontier.rules).length := by
  induction operations generalizing frontier with
  | nil => rfl
  | cons operation operations ih =>
    have rules : (frontier.perform operation).rules = frontier.rules := by
      rw [perform_eq_foldl_act, foldl_act_rules]
    rw [offerOutcomes, List.length_append, length_outcomes, ih, rules, List.flatMap_cons,
      List.length_append]

/-- A frontier for a new crawl is as it was when its history ends with a reset. -/
theorem after_eq_ofConfig (config : Config) {history : List Operation}
    (begins : history = [] ∨ ∃ earlier, history = earlier ++ [.reset]) :
    (ofConfig config).after (history.map .operation) = ofConfig config := by
  rcases begins with rfl | ⟨earlier, rfl⟩
  · rfl
  · rw [List.map_append, List.map_singleton, after_append_reset]
    rfl

/-- Whatever the configuration says, the interval is not zero. Since a frontier was made for it, or
was last reset, every operation with offers is what its offers are, one after the other, and they
are counted: offers of URLs that were seen too, and both offers of a seed, but no text that is
refused. The offer whose number is a multiple of the interval is reported, with its number and the
sizes after it, and no other; on every report no more URLs are content than were seen, no more were
seen than were offered, and no more wait than were seen. So there are as many reports as the
interval goes into the number of offers. -/
theorem progress_every_interval (config : Config) {history later : List Operation}
    (begins : history = [] ∨ ∃ earlier, history = earlier ++ [.reset])
    (kept : Operation.reset ∉ later) :
    let interval := max config.progressInterval 1
    let start := (ofConfig config).after (history.map .operation)
    let outcomes := start.offerOutcomes later
    0 < interval ∧
      (∀ operation ∈ later, ∀ frontier : Frontier,
        frontier.IsOffers (operation.offers frontier.rules) (frontier.operate operation) ∨
          operation = .next ∨ ∃ url, operation = .retract url) ∧
      outcomes.length = (later.flatMap fun operation => operation.offers config.rules).length ∧
      (∀ (i : Nat) (outcome : Outcome Offer), outcomes[i]? = some outcome →
        outcome.Reports interval (i + 1)) ∧
      start.progressLines later = outcomes.flatMap (·.notices) ∧
      (start.progressLines later).length = outcomes.length / interval := by
  intro interval start outcomes
  have fresh : start = ofConfig config := after_eq_ofConfig config begins
  have steady : start.Steady interval := fresh ▸ steady_ofConfig config
  have reports (i : Nat) (outcome : Outcome Offer) (found : outcomes[i]? = some outcome) :
      outcome.Reports interval (i + 1) := by
    have numbered := steady.reports_offerOutcomes kept found
    have none : start.offers = 0 := by
      rw [fresh]
      rfl
    rwa [none, Nat.zero_add] at numbered
  have lines := start.progressLines_eq later
  refine ⟨Nat.one_pos.trans_le (le_max_right _ _), ?_, ?_, reports, lines, ?_⟩
  · intro operation among frontier
    refine (frontier.isOffers_operate_or operation).imp_right fun others => ?_
    exact others.imp_right fun last => last.resolve_right (ne_of_mem_of_not_mem among kept)
  · have rules : start.rules = config.rules := by
      rw [fresh]
      rfl
    have length := start.length_offerOutcomes later
    rwa [rules] at length
  · rw [lines]
    exact length_flatMap_notices reports

/-- Of three offers after a reset, with an interval of two, the second is reported, although it
brought nothing new and one offer was made before the reset. -/
theorem progress_every_interval_two :
    let config : Config := { progressInterval := 2 }
    let history : List Operation := [.offerUrl System.frontPage .content, .reset]
    let later : List Operation := [.offerUrl System.frontPage .content,
      .offerUrl System.frontPage .sitemap, .retract System.frontPage,
      .offerUrl System.frontPage .sitemap]
    let start := (ofConfig config).after (history.map .operation)
    start.progressLines later = [.progress 2 1 1 1] ∧
      (start.progressLines later).length = (start.offerOutcomes later).length / 2 := by
  intro config history later start
  have kept : Operation.reset ∉ later := by
    simp [later]
  obtain ⟨-, -, -, -, -, count⟩ := progress_every_interval config
    (.inr ⟨[.offerUrl System.frontPage .content], rfl⟩) kept
  refine ⟨?_, count⟩
  cbv
  have one : ((Std.DHashMap.emptyWithCapacity : Std.DHashMap String fun _ => DocumentKind).insert
      "http://a/" .content).size = 1 := by
    simp [Std.DHashMap.size_insert]
  exact congrArg (fun size => [Notice.progress 2 size 1 1]) one

end Frontier

end CrawlFrontier
