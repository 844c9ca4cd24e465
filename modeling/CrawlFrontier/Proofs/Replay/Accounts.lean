import CrawlFrontier.Proofs.Frontier.Safety
import CrawlFrontier.Replay.Workers
import Mathlib.Data.Finset.Card
import Mathlib.Data.List.Perm.Basic

/-!
# Accounts of offered candidates

What the offers of candidates leave behind, said without an order: how many were refused, taken up
and known already, what the store records, and what waits behind the URLs that waited before. An
account is kept up to date by one more offer, and it does not depend on the order of the offers.
-/

namespace CrawlFrontier.Replay

/-- The canonical URL of a candidate, if it has one. -/
def canonical? (rules : Rules) (candidate : Candidate) : Option CanonicalUrl :=
  (CanonicalUrl.parse rules candidate.url).toOption

/-- The keys of the candidates that have a canonical URL. -/
def offeredKeys (rules : Rules) (candidates : List Candidate) : List String :=
  candidates.filterMap fun candidate => (canonical? rules candidate).map (·.key)

/-- The keys of the candidates that were not seen before. -/
def freshKeys (frontier : Frontier) (candidates : List Candidate) : Finset String :=
  (offeredKeys frontier.rules candidates).toFinset.filter
    fun key => ¬frontier.seen.contains key = true

/-- Whether all candidates with one canonical URL carry one kind. -/
def Consistent (rules : Rules) (candidates : List Candidate) : Prop :=
  ∀ first ∈ candidates, ∀ second ∈ candidates, ∀ url other,
    canonical? rules first = some url → canonical? rules second = some other →
      url.key = other.key → first.kind = second.kind

/-- What became of the offers of candidates: `entered` are the URLs that were put into the queue. -/
structure Accounts (before : Frontier) (offered : List Candidate) (entered : List QueuedUrl)
    (after : Frontier) (summary : Summary) : Prop where
  /-- The rules stay. -/
  rules : after.rules = before.rules
  /-- Candidates without a canonical URL are refused. -/
  rejected : summary.rejected = offered.countP fun candidate =>
    (canonical? before.rules candidate).isNone
  /-- As many offers were taken up as URLs were entered. -/
  enqueued : summary.enqueued = entered.length
  /-- Every offer is counted once. -/
  total : summary.offered = offered.length
  /-- The entered URLs wait behind those that waited before. -/
  queued : after.queued = before.queued ++ entered
  /-- No URL is entered twice. -/
  distinct : (entered.map fun item => item.url.key).Nodup
  /-- The URLs that were offered and not seen before are entered. -/
  fresh : ∀ key, key ∈ (entered.map fun item => item.url.key) ↔
    key ∈ offeredKeys before.rules offered ∧ before.seen.kind? key = none
  /-- Each of them is entered for a candidate, with the kind of that candidate. -/
  named : ∀ item ∈ entered, ∃ candidate ∈ offered,
    canonical? before.rules candidate = some item.url ∧ candidate.kind = item.kind
  /-- The store records what it recorded before and the entered URLs. -/
  recorded : ∀ key kind, after.seen.kind? key = some kind ↔
    before.seen.kind? key = some kind ∨ ∃ item ∈ entered, item.url.key = key ∧ item.kind = kind
  /-- The entered URLs of content are counted. -/
  content : after.seen.content =
    before.seen.content + entered.countP fun item => item.kind.isContent

/-- Offers a candidate without counting the offer. -/
def attempt (frontier : Frontier) (candidate : Candidate) : Frontier × Except UrlError Offer :=
  match CanonicalUrl.parse frontier.rules candidate.url with
  | .error error => (frontier, .error error)
  | .ok url =>
    ((frontier.enter url candidate.kind).1, .ok (frontier.enter url candidate.kind).2)

/-- An offer gives the answer of the attempt, and it counts the offer if it was not refused. -/
theorem offer_eq_attempt (frontier : Frontier) (candidate : Candidate) :
    (frontier.offer candidate.url candidate.kind).answer = (attempt frontier candidate).2 ∧
      ((frontier.offer candidate.url candidate.kind).frontier = (attempt frontier candidate).1 ∨
        (frontier.offer candidate.url candidate.kind).frontier =
          (attempt frontier candidate).1.countOffer) := by
  unfold Frontier.offer attempt
  cases CanonicalUrl.parse frontier.rules candidate.url with
  | error cause => exact ⟨rfl, .inl rfl⟩
  | ok url => exact ⟨rfl, .inr rfl⟩

/-- One more candidate adds its key, if it has one. -/
theorem offeredKeys_append_singleton (rules : Rules) (candidates : List Candidate)
    (candidate : Candidate) :
    offeredKeys rules (candidates ++ [candidate]) =
      offeredKeys rules candidates ++ ((canonical? rules candidate).map (·.key)).toList := by
  rw [offeredKeys, List.filterMap_append, ← offeredKeys]
  cases named : canonical? rules candidate with
  | none => simp [named]
  | some url => simp [named]

/-- Whatever becomes of an offer, it is counted. -/
theorem offered_record (summary : Summary) (answer : Except UrlError Offer) :
    (summary.record answer).offered = summary.offered + 1 := by
  rcases answer with error | offer
  · simp only [Summary.record, Summary.offered]
    omega
  · cases offer with
    | enqueued => simp only [Summary.record, Summary.offered]; omega
    | duplicate => simp only [Summary.record, Summary.offered]; omega

namespace Accounts

variable {before after : Frontier} {offered : List Candidate} {entered : List QueuedUrl}
  {summary : Summary}

/-- Before anything is offered the account is empty. -/
theorem nothing (frontier : Frontier) : Accounts frontier [] [] frontier .empty where
  rules := rfl
  rejected := rfl
  enqueued := rfl
  total := rfl
  queued := (List.append_nil _).symm
  distinct := List.nodup_nil
  fresh := by simp [offeredKeys]
  named := by simp
  recorded := by simp
  content := rfl

/-- Counting an offer keeps the account. -/
theorem countOffer (account : Accounts before offered entered after summary) :
    Accounts before offered entered after.countOffer summary :=
  ⟨account.rules, account.rejected, account.enqueued, account.total, account.queued,
    account.distinct, account.fresh, account.named, account.recorded, account.content⟩

/-- The order of the offers does not matter. -/
theorem perm (account : Accounts before offered entered after summary) {other : List Candidate}
    (same : offered.Perm other) : Accounts before other entered after summary where
  rules := account.rules
  rejected := account.rejected.trans (same.countP_eq _)
  enqueued := account.enqueued
  total := account.total.trans same.length_eq
  queued := account.queued
  distinct := account.distinct
  fresh key := by
    have keys : (offeredKeys before.rules offered).Perm (offeredKeys before.rules other) :=
      same.filterMap _
    rw [account.fresh, keys.mem_iff]
  named item waits := by
    obtain ⟨candidate, member, rest⟩ := account.named item waits
    exact ⟨candidate, same.mem_iff.mp member, rest⟩
  recorded := account.recorded
  content := account.content

/-- One more candidate with a canonical URL adds no refusal. -/
theorem rejected_append (account : Accounts before offered entered after summary)
    {candidate : Candidate} {url : CanonicalUrl}
    (good : canonical? before.rules candidate = some url) :
    summary.rejected = (offered ++ [candidate]).countP fun candidate =>
      (canonical? before.rules candidate).isNone := by
  rw [List.countP_append, ← account.rejected]
  simp [good]

/-- One more candidate adds one to the number of offers. -/
theorem total_append (account : Accounts before offered entered after summary)
    (candidate : Candidate) (answer : Except UrlError Offer) :
    (summary.record answer).offered = (offered ++ [candidate]).length := by
  rw [offered_record, account.total, List.length_append, List.length_singleton]

/-- One more candidate takes no entered URL away from the candidate that it was entered for. -/
theorem named_append (account : Accounts before offered entered after summary)
    (candidate : Candidate) {item : QueuedUrl} (waits : item ∈ entered) :
    ∃ found ∈ offered ++ [candidate],
      canonical? before.rules found = some item.url ∧ found.kind = item.kind := by
  obtain ⟨found, member, rest⟩ := account.named item waits
  exact ⟨found, List.mem_append_left _ member, rest⟩

/-- A URL that is not seen was not seen before. -/
theorem kind?_of_unseen (account : Accounts before offered entered after summary) {key : String}
    (new : ¬after.seen.contains key = true) : before.seen.kind? key = none := by
  cases old : before.seen.kind? key with
  | none => rfl
  | some kind =>
    have found := (account.recorded key kind).mpr (.inl old)
    rw [SeenStore.kind?_eq_none new] at found
    cases found

/-- A URL that is not seen is none of the entered ones. -/
theorem key_ne_of_unseen (account : Accounts before offered entered after summary) {key : String}
    (new : ¬after.seen.contains key = true) {item : QueuedUrl} (member : item ∈ entered) :
    item.url.key ≠ key := by
  rintro rfl
  have found := (account.recorded _ item.kind).mpr (.inr ⟨item, member, rfl, rfl⟩)
  rw [SeenStore.kind?_eq_none new] at found
  cases found

/-- Entering a URL that is not seen adds its record to those of the account. -/
theorem recorded_enter (account : Accounts before offered entered after summary)
    {url : CanonicalUrl} (new : ¬after.seen.contains url.key = true) (entry : DocumentKind)
    (key : String) (kind : DocumentKind) :
    (after.enter url entry).1.seen.kind? key = some kind ↔
      before.seen.kind? key = some kind ∨
        ∃ item ∈ entered ++ [⟨url, entry⟩], item.url.key = key ∧ item.kind = kind := by
  rw [Frontier.seen_enter, SeenStore.kind?_mark, SeenStore.kind?_eq_none new, Option.getD_none]
  by_cases same : key = url.key
  · have old : before.seen.kind? key = none := by rw [same, account.kind?_of_unseen new]
    rw [if_pos same, old]
    simp only [reduceCtorEq, false_or, List.mem_append, List.mem_singleton, Option.some.injEq]
    constructor
    · rintro rfl
      exact ⟨_, .inr rfl, same.symm, rfl⟩
    · rintro ⟨item, member | rfl, named, rfl⟩
      · exact absurd (named.trans same) (account.key_ne_of_unseen new member)
      · rfl
  · rw [if_neg same, account.recorded]
    simp only [List.mem_append, List.mem_singleton]
    constructor
    · rintro (old | ⟨item, member, rest⟩)
      · exact .inl old
      · exact .inr ⟨item, .inl member, rest⟩
    · rintro (old | ⟨item, member | rfl, rest⟩)
      · exact .inl old
      · exact .inr ⟨item, member, rest⟩
      · exact absurd rest.1.symm same

/-- One more candidate that is refused adds to the refusals. -/
theorem refuse (account : Accounts before offered entered after summary) {candidate : Candidate}
    {error : UrlError} (bad : canonical? before.rules candidate = none) :
    Accounts before (offered ++ [candidate]) entered after (summary.record (.error error)) where
  rules := account.rules
  rejected := by
    rw [List.countP_append, ← account.rejected]
    simp [bad, Summary.record]
  enqueued := account.enqueued
  total := account.total_append candidate _
  queued := account.queued
  distinct := account.distinct
  fresh key := by
    rw [account.fresh, offeredKeys_append_singleton, bad]
    simp
  named _ waits := account.named_append candidate waits
  recorded := account.recorded
  content := account.content

/-- One more candidate whose URL was seen adds to the duplicates: if it was not seen before, it was
entered for an earlier candidate. -/
theorem repeated (account : Accounts before offered entered after summary)
    {candidate : Candidate} {url : CanonicalUrl}
    (good : canonical? before.rules candidate = some url)
    (seen : after.seen.contains url.key = true) :
    Accounts before (offered ++ [candidate]) entered after (summary.record (.ok .duplicate)) where
  rules := account.rules
  rejected := account.rejected_append good
  enqueued := account.enqueued
  total := account.total_append candidate _
  queued := account.queued
  distinct := account.distinct
  fresh key := by
    rw [account.fresh, offeredKeys_append_singleton, good, List.mem_append]
    simp only [Option.map_some, Option.toList_some, List.mem_singleton]
    constructor
    · rintro ⟨member, new⟩
      exact ⟨.inl member, new⟩
    · rintro ⟨member | rfl, new⟩
      · exact ⟨member, new⟩
      · rw [SeenStore.contains_eq_isSome_kind?] at seen
        obtain ⟨kind, found⟩ := Option.isSome_iff_exists.mp seen
        rcases (account.recorded _ _).mp found with old | ⟨item, member, same, _⟩
        · rw [new] at old
          cases old
        · exact (account.fresh _).mp (List.mem_map.mpr ⟨item, member, same⟩)
  named _ waits := account.named_append candidate waits
  recorded := account.recorded
  content := account.content

/-- One more candidate whose URL was not seen is entered. -/
theorem enter (account : Accounts before offered entered after summary)
    {candidate : Candidate} {url : CanonicalUrl}
    (good : canonical? before.rules candidate = some url)
    (new : ¬after.seen.contains url.key = true) :
    Accounts before (offered ++ [candidate]) (entered ++ [⟨url, candidate.kind⟩])
      (after.enter url candidate.kind).1 (summary.record (.ok .enqueued)) where
  rules := (after.enter_rules url candidate.kind).trans account.rules
  rejected := account.rejected_append good
  enqueued := by simp [Summary.record, account.enqueued]
  total := account.total_append candidate _
  queued := by rw [Frontier.queued_enter, if_neg new, account.queued, List.append_assoc]
  distinct := by
    rw [List.map_append, List.map_singleton]
    apply List.nodup_append.mpr
    refine ⟨account.distinct, List.pairwise_singleton _ _, ?_⟩
    intro key member other last same
    rw [List.mem_singleton.mp last] at same
    obtain ⟨item, waits, named⟩ := List.mem_map.mp member
    exact account.key_ne_of_unseen new waits (named.trans same)
  fresh key := by
    rw [offeredKeys_append_singleton, good, List.map_append, List.mem_append, List.mem_append,
      account.fresh]
    simp only [Option.map_some, Option.toList_some, List.map_singleton, List.mem_singleton]
    constructor
    · rintro (⟨member, fresh⟩ | rfl)
      · exact ⟨.inl member, fresh⟩
      · exact ⟨.inr rfl, account.kind?_of_unseen new⟩
    · rintro ⟨member | rfl, fresh⟩
      · exact .inl ⟨member, fresh⟩
      · exact .inr rfl
  named item waits := by
    rcases List.mem_append.mp waits with waits | last
    · exact account.named_append candidate waits
    · rw [List.mem_singleton.mp last]
      exact ⟨candidate, by simp, good, rfl⟩
  recorded := account.recorded_enter new candidate.kind
  content := by
    rw [Frontier.seen_enter, SeenStore.content_mark new, account.content, List.countP_append,
      List.countP_singleton, Nat.add_assoc]

/-- One more offer keeps the account up to date. -/
theorem attempt (account : Accounts before offered entered after summary) (candidate : Candidate) :
    ∃ more, Accounts before (offered ++ [candidate]) more (Replay.attempt after candidate).1
      (summary.record (Replay.attempt after candidate).2) := by
  have rules := account.rules
  cases parsed : CanonicalUrl.parse before.rules candidate.url with
  | error error =>
    have bad : canonical? before.rules candidate = none := by
      rw [canonical?, parsed]
      rfl
    have step : Replay.attempt after candidate = (after, .error error) := by
      unfold Replay.attempt
      rw [rules, parsed]
    rw [step]
    exact ⟨entered, account.refuse bad⟩
  | ok url =>
    have good : canonical? before.rules candidate = some url := by
      rw [canonical?, parsed]
      rfl
    have step : Replay.attempt after candidate =
        ((after.enter url candidate.kind).1, .ok (after.enter url candidate.kind).2) := by
      unfold Replay.attempt
      rw [rules, parsed]
    rw [step]
    by_cases seen : after.seen.contains url.key = true
    · have same : after.enter url candidate.kind = (after, .duplicate) := by
        rw [Frontier.enter, SeenStore.mark_of_contains seen]
      rw [same]
      exact ⟨entered, account.repeated good seen⟩
    · have answer : (after.enter url candidate.kind).2 = .enqueued := by
        rw [Frontier.enter_answer, if_neg seen]
      rw [answer]
      exact ⟨_, account.enter good seen⟩

/-- The keys of the entered URLs are those that were offered and not seen before. -/
theorem toFinset_entered (account : Accounts before offered entered after summary) :
    (entered.map fun item => item.url.key).toFinset = freshKeys before offered := by
  ext key
  rw [List.mem_toFinset, account.fresh, freshKeys, Finset.mem_filter, List.mem_toFinset,
    SeenStore.contains_eq_isSome_kind?]
  simp

/-- As many offers were taken up as there are keys that were offered and not seen before. -/
theorem enqueued_eq_card (account : Accounts before offered entered after summary) :
    summary.enqueued = (freshKeys before offered).card := by
  rw [account.enqueued, ← account.toFinset_entered, List.toFinset_card_of_nodup account.distinct,
    List.length_map]

/-- What was seen before and what was offered is seen, and nothing else. -/
theorem contains_iff (account : Accounts before offered entered after summary) (key : String) :
    after.seen.contains key = true ↔
      before.seen.contains key = true ∨ key ∈ offeredKeys before.rules offered := by
  simp only [SeenStore.contains_eq_isSome_kind?, Option.isSome_iff_exists, account.recorded]
  constructor
  · rintro ⟨kind, old | ⟨item, member, named, _⟩⟩
    · exact .inl ⟨kind, old⟩
    · exact .inr ((account.fresh key).mp (List.mem_map.mpr ⟨item, member, named⟩)).1
  · rintro (⟨kind, old⟩ | member)
    · exact ⟨kind, .inl old⟩
    · cases old : before.seen.kind? key with
      | some kind => exact ⟨kind, .inl rfl⟩
      | none =>
        obtain ⟨item, waits, named⟩ :=
          List.mem_map.mp ((account.fresh key).mpr ⟨member, old⟩)
        exact ⟨item.kind, .inr ⟨item, waits, named, rfl⟩⟩

variable {entered' : List QueuedUrl} {after' : Frontier} {summary' : Summary}

/-- The summary does not depend on the order of the offers. -/
theorem summary_unique (account : Accounts before offered entered after summary)
    (other : Accounts before offered entered' after' summary') : summary = summary' := by
  have enqueued := account.enqueued_eq_card.trans other.enqueued_eq_card.symm
  have rejected := account.rejected.trans other.rejected.symm
  have total := account.total.trans other.total.symm
  cases summary
  cases summary'
  simp only [Summary.offered, Summary.mk.injEq] at *
  omega

/-- The entered URLs and their kinds do not depend on the order of the offers if all candidates
with one canonical URL carry one kind. -/
theorem entered_subset (account : Accounts before offered entered after summary)
    (other : Accounts before offered entered' after' summary')
    (consistent : Consistent before.rules offered) {item : QueuedUrl} (member : item ∈ entered) :
    ∃ item' ∈ entered', item'.url.key = item.url.key ∧ item'.kind = item.kind := by
  have new := (account.fresh item.url.key).mp (List.mem_map.mpr ⟨item, member, rfl⟩)
  obtain ⟨item', member', same⟩ := List.mem_map.mp ((other.fresh _).mpr new)
  obtain ⟨candidate, offers, named, kind⟩ := account.named item member
  obtain ⟨candidate', offers', named', kind'⟩ := other.named item' member'
  have kinds := consistent candidate' offers' candidate offers _ _ named' named same
  exact ⟨item', member', same, by rw [← kind', ← kind, kinds]⟩

/-- What is recorded does not depend on the order of the offers if all candidates with one
canonical URL carry one kind. -/
theorem kind?_unique (account : Accounts before offered entered after summary)
    (other : Accounts before offered entered' after' summary')
    (consistent : Consistent before.rules offered) (key : String) :
    after.seen.kind? key = after'.seen.kind? key := by
  apply Option.ext
  intro kind
  rw [account.recorded, other.recorded]
  constructor
  · rintro (old | ⟨item, member, rfl, rfl⟩)
    · exact .inl old
    · exact .inr (account.entered_subset other consistent member)
  · rintro (old | ⟨item, member, rfl, rfl⟩)
    · exact .inl old
    · exact .inr (other.entered_subset account consistent member)

/-- How many URLs of content are counted does not depend on the order of the offers if all
candidates with one canonical URL carry one kind. -/
theorem content_unique (account : Accounts before offered entered after summary)
    (other : Accounts before offered entered' after' summary')
    (consistent : Consistent before.rules offered) :
    after.seen.content = after'.seen.content := by
  let entry := fun item : QueuedUrl => (item.url.key, item.kind)
  have distinct : (entered.map entry).Nodup :=
    List.Nodup.of_map Prod.fst (by rw [List.map_map]; exact account.distinct)
  have distinct' : (entered'.map entry).Nodup :=
    List.Nodup.of_map Prod.fst (by rw [List.map_map]; exact other.distinct)
  have same : (entered.map entry).Perm (entered'.map entry) := by
    apply (List.perm_ext_iff_of_nodup distinct distinct').mpr
    intro pair
    simp only [List.mem_map]
    constructor
    · rintro ⟨item, member, rfl⟩
      obtain ⟨item', member', key, kind⟩ := account.entered_subset other consistent member
      exact ⟨item', member', by simp only [entry, key, kind]⟩
    · rintro ⟨item, member, rfl⟩
      obtain ⟨item', member', key, kind⟩ := other.entered_subset account consistent member
      exact ⟨item', member', by simp only [entry, key, kind]⟩
  have counts := same.countP_eq fun pair => pair.2.isContent
  rw [List.countP_map, List.countP_map] at counts
  rw [account.content, other.content]
  exact congrArg (before.seen.content + ·) counts

end Accounts

end CrawlFrontier.Replay
