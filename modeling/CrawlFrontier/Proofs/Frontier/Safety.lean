import CrawlFrontier.Proofs.Frontier.Actions
import CrawlFrontier.Proofs.Frontier.Seen
import Mathlib.Logic.Function.Basic

/-!
# Safety of a shared frontier

Any number of workers share a frontier. Each performs one operation after another, and between two
actions of one worker the others may perform any of theirs. The store may belong to other frontiers
too, which mark URLs in it at any time. Main statement: in every state that is reached in this way
no two of the waiting URLs are the same, and each of them is recorded in the store with the kind
with which it waits.
-/

namespace CrawlFrontier

namespace Frontier

/-- The waiting URLs are distinct and recorded. The store is asked before a URL is put into the
queue, so the first part is kept because of the second. -/
structure Safe (frontier : Frontier) : Prop where
  /-- No two waiting URLs are the same. -/
  distinct : (frontier.queued.map fun item => item.url.key).Nodup
  /-- The store records every waiting URL with the kind with which it waits. -/
  recorded : ∀ item ∈ frontier.queued, frontier.seen.kind? item.url.key = some item.kind

/-- Entering a URL that was seen changes nothing. -/
theorem enter_of_contains {frontier : Frontier} {url : CanonicalUrl}
    (seen : frontier.seen.contains url.key = true) (kind : DocumentKind) :
    frontier.enter url kind = (frontier, .duplicate) := by
  rw [enter, SeenStore.mark_of_contains seen]

/-- Entering a URL that was not seen marks it and puts it at the end. -/
theorem enter_of_not_contains {frontier : Frontier} {url : CanonicalUrl}
    (fresh : ¬frontier.seen.contains url.key = true) (kind : DocumentKind) :
    frontier.enter url kind =
      ({ frontier with
        seen := (frontier.seen.mark url.key kind).2, queue := frontier.queue.push ⟨url, kind⟩ },
        .enqueued) := by
  have marked : frontier.seen.mark url.key kind = (true, (frontier.seen.mark url.key kind).2) := by
    refine Prod.ext ?_ rfl
    rw [SeenStore.mark_fst, Bool.not_eq_true', Bool.eq_false_iff]
    exact fresh
  rw [enter, marked]

/-- What waits after a URL was entered: the URL is put at the end if it is new. -/
theorem queued_enter (frontier : Frontier) (url : CanonicalUrl) (kind : DocumentKind) :
    (frontier.enter url kind).1.queued =
      if frontier.seen.contains url.key then frontier.queued
      else frontier.queued ++ [⟨url, kind⟩] := by
  by_cases seen : frontier.seen.contains url.key = true
  · rw [enter_of_contains seen, if_pos seen]
  · rw [enter_of_not_contains seen, if_neg seen]
    exact Queue.toList_push _ _

/-- Entering a URL finds out whether it was seen. -/
theorem enter_answer (frontier : Frontier) (url : CanonicalUrl) (kind : DocumentKind) :
    (frontier.enter url kind).2 =
      if frontier.seen.contains url.key then .duplicate else .enqueued := by
  by_cases seen : frontier.seen.contains url.key = true
  · rw [enter_of_contains seen, if_pos seen]
  · rw [enter_of_not_contains seen, if_neg seen]

/-- What is seen after a URL was entered: it is marked. -/
theorem seen_enter (frontier : Frontier) (url : CanonicalUrl) (kind : DocumentKind) :
    (frontier.enter url kind).1.seen = (frontier.seen.mark url.key kind).2 := by
  by_cases seen : frontier.seen.contains url.key = true
  · rw [enter_of_contains seen, SeenStore.mark_of_contains seen]
  · rw [enter_of_not_contains seen]

/-- What waits after an offer: the URL is put at the end if it is new. -/
theorem queued_offerUrl (frontier : Frontier) (url : CanonicalUrl) (kind : DocumentKind) :
    (frontier.offerUrl url kind).frontier.queued =
      if frontier.seen.contains url.key then frontier.queued
      else frontier.queued ++ [⟨url, kind⟩] :=
  frontier.queued_enter url kind

/-- An offer finds out whether the URL was seen. -/
theorem offerUrl_answer (frontier : Frontier) (url : CanonicalUrl) (kind : DocumentKind) :
    (frontier.offerUrl url kind).answer =
      if frontier.seen.contains url.key then .duplicate else .enqueued :=
  frontier.enter_answer url kind

/-- What is seen after an offer: the URL is marked. -/
theorem seen_offerUrl (frontier : Frontier) (url : CanonicalUrl) (kind : DocumentKind) :
    (frontier.offerUrl url kind).frontier.seen = (frontier.seen.mark url.key kind).2 :=
  frontier.seen_enter url kind

/-- An offer adds the URL to what was seen. -/
theorem contains_offerUrl (frontier : Frontier) (url : CanonicalUrl) (kind : DocumentKind)
    (key : String) :
    (frontier.offerUrl url kind).frontier.seen.contains key = true ↔
      frontier.seen.contains key = true ∨ url.key = key := by
  rw [seen_offerUrl, SeenStore.contains_eq_isSome_kind?, SeenStore.contains_eq_isSome_kind?,
    SeenStore.kind?_mark]
  by_cases same : key = url.key
  · simp [same]
  · simp [same, Ne.symm same]

/-- An offer is counted. -/
theorem offerUrl_offers (frontier : Frontier) (url : CanonicalUrl) (kind : DocumentKind) :
    (frontier.offerUrl url kind).frontier.offers = frontier.offers + 1 := by
  change (frontier.enter url kind).1.offers + 1 = _
  by_cases seen : frontier.seen.contains url.key = true
  · rw [enter_of_contains seen]
  · rw [enter_of_not_contains seen]

/-- The next URL is the first that waits, and the others wait on. -/
theorem queued_next (frontier : Frontier) : frontier.next.2.queued = frontier.queued.tail := by
  unfold next queued
  split
  · next item rest popped => rw [Queue.toList_of_pop?_eq_some popped, List.tail_cons]
  · next popped => rw [Queue.pop?_eq_none_iff.mp popped, List.tail_nil]

/-- What is taken is the first that waits. -/
theorem next_answer (frontier : Frontier) : frontier.next.1 = frontier.queued.head? := by
  unfold next queued
  split
  · next item rest popped => rw [Queue.toList_of_pop?_eq_some popped, List.head?_cons]
  · next popped => rw [Queue.pop?_eq_none_iff.mp popped, List.head?_nil]

/-- The event of entering a URL says whether it was seen. -/
theorem event?_enter (frontier : Frontier) (url : CanonicalUrl) (kind : DocumentKind) :
    frontier.event? (.enter url kind) =
      some (if frontier.seen.contains url.key then .known ⟨url, kind⟩
        else .enqueued ⟨url, kind⟩) := by
  rw [event?, enter_answer]
  split <;> rfl

/-- The event of taking a URL hands out the first that waits. -/
theorem event?_take (frontier : Frontier) :
    frontier.event? .take = frontier.queued.head?.map .handed := by
  rw [event?, next_answer]

/-- Taking the next URL leaves the store alone. -/
theorem seen_next (frontier : Frontier) : frontier.next.2.seen = frontier.seen := by
  unfold next
  split <;> rfl

/-- Taking the next URL is no offer. -/
theorem next_offers (frontier : Frontier) : frontier.next.2.offers = frontier.offers := by
  unfold next
  split <;> rfl

/-- What waits after a URL was taken back: all but that URL. -/
theorem queued_retract (frontier : Frontier) (url : CanonicalUrl) :
    (frontier.retract url).1.queued =
      frontier.queued.filter fun item => item.url.key ≠ url.key :=
  Queue.toList_filter _ _

/-- What is seen after a URL was taken back: all but that URL. -/
theorem seen_retract (frontier : Frontier) (url : CanonicalUrl) :
    (frontier.retract url).1.seen = (frontier.seen.forget url.key).1 :=
  rfl

/-- A URL that waits is known. -/
theorem Safe.contains_of_mem_queued {frontier : Frontier} (safe : frontier.Safe)
    {item : QueuedUrl} (waits : item ∈ frontier.queued) :
    frontier.seen.contains item.url.key = true := by
  rw [SeenStore.contains_eq_isSome_kind?, safe.recorded item waits, Option.isSome_some]

/-- A frontier in which nothing waits is safe. -/
theorem safe_of_queued_eq_nil {frontier : Frontier} (nothing : frontier.queued = []) :
    frontier.Safe := by
  constructor
  · rw [nothing]
    exact List.nodup_nil
  · rw [nothing]
    intro item waits
    contradiction

/-- Entering a URL keeps a frontier safe: a URL that is put into the queue was not in the store, so
it is none of those that wait. -/
theorem Safe.enter {frontier : Frontier} (safe : frontier.Safe) (url : CanonicalUrl)
    (kind : DocumentKind) : (frontier.enter url kind).1.Safe := by
  have queue := frontier.queued_enter url kind
  have store := frontier.seen_enter url kind
  by_cases seen : frontier.seen.contains url.key = true
  · rw [if_pos seen] at queue
    rw [SeenStore.mark_of_contains seen] at store
    exact ⟨queue ▸ safe.distinct, by rw [queue, store]; exact safe.recorded⟩
  · rw [if_neg seen] at queue
    have fresh := SeenStore.kind?_eq_none seen
    have apart : url.key ∉ frontier.queued.map fun item => item.url.key := by
      intro waits
      obtain ⟨item, member, same⟩ := List.mem_map.mp waits
      have found := safe.recorded item member
      rw [same, fresh] at found
      contradiction
    constructor
    · rw [queue, List.map_append, List.map_singleton]
      exact List.nodup_append.mpr ⟨safe.distinct, List.pairwise_singleton _ _, by
        intro key waits other last same
        rw [List.mem_singleton.mp last] at same
        exact apart (same ▸ waits)⟩
    · intro item member
      rw [queue, List.mem_append, List.mem_singleton] at member
      rw [store]
      rcases member with member | rfl
      · exact SeenStore.kind?_mark_of_eq_some (safe.recorded item member) _ _
      · rw [SeenStore.kind?_mark, if_pos rfl, fresh, Option.getD_none]

/-- Taking the next URL keeps a frontier safe. -/
theorem Safe.next {frontier : Frontier} (safe : frontier.Safe) : frontier.next.2.Safe := by
  constructor
  · rw [queued_next, List.map_tail]
    exact safe.distinct.sublist (List.tail_sublist _)
  · rw [queued_next, seen_next]
    intro item member
    exact safe.recorded item (List.mem_of_mem_tail member)

/-- Taking a URL back keeps a frontier safe: its record goes, and so does its place. -/
theorem Safe.retract {frontier : Frontier} (safe : frontier.Safe) (url : CanonicalUrl) :
    (frontier.retract url).1.Safe := by
  constructor
  · rw [queued_retract]
    exact safe.distinct.sublist (List.filter_sublist.map _)
  · rw [queued_retract, seen_retract]
    intro item member
    obtain ⟨waits, apart⟩ := List.mem_filter.mp member
    rw [SeenStore.kind?_forget, if_neg (of_decide_eq_true apart)]
    exact safe.recorded item waits

/-- Every action keeps a frontier safe. -/
theorem Safe.act {frontier : Frontier} (safe : frontier.Safe) (action : Action) :
    (frontier.act action).Safe := by
  cases action with
  | enter url kind => exact safe.enter url kind
  | count => exact ⟨safe.distinct, safe.recorded⟩
  | take => exact safe.next
  | withdraw url => exact safe.retract url
  | clear => exact safe_of_queued_eq_nil rfl
  | recount => exact ⟨safe.distinct, safe.recorded⟩

/-- Every sequence of actions keeps a frontier safe. -/
theorem Safe.foldl_act {frontier : Frontier} (safe : frontier.Safe) (actions : List Action) :
    (actions.foldl Frontier.act frontier).Safe := by
  induction actions generalizing frontier with
  | nil => exact safe
  | cons action actions ih => exact ih (safe.act action)

/-- A mark of another user of the store keeps a frontier safe: records are only added. -/
theorem Safe.marked {frontier : Frontier} (safe : frontier.Safe) (url : String)
    (kind : DocumentKind) : (frontier.marked url kind).Safe :=
  ⟨safe.distinct, fun item waits =>
    SeenStore.kind?_mark_of_eq_some (safe.recorded item waits) url kind⟩

/-- The frontiers that a crawl may begin with: one for a configuration, or one over any store. -/
inductive IsNew : Frontier → Prop where
  | ofConfig (config : Config) : IsNew (ofConfig config)
  | withSeen (seen : SeenStore) (rules : Rules) : IsNew (withSeen seen rules)

/-- Nothing waits in a new frontier. -/
theorem IsNew.queued_eq_nil {frontier : Frontier} (new : frontier.IsNew) :
    frontier.queued = [] := by
  cases new with
  | ofConfig config => rfl
  | withSeen seen rules => rfl

end Frontier

/-- A frontier and, for each of its workers, the actions that are left of its operation. -/
structure System where
  frontier : Frontier
  pending : Nat → List Action

namespace System

/-- What may happen next: a worker that has nothing to do begins an operation, a worker performs its
next action, or another user of the store marks a URL. -/
inductive Step : System → System → Prop where
  | begin {system : System} (worker : Nat) (operation : Operation)
      (idle : system.pending worker = []) :
      Step system { system with
        pending := Function.update system.pending worker
          (operation.actions system.frontier.rules) }
  | act {system : System} (worker : Nat) (action : Action) (rest : List Action)
      (due : system.pending worker = action :: rest) :
      Step system
        ⟨system.frontier.act action, Function.update system.pending worker rest⟩
  | mark {system : System} (url : String) (kind : DocumentKind) :
      Step system { system with frontier := system.frontier.marked url kind }

/-- The states that a new frontier gets into. -/
inductive Reachable : System → Prop where
  | new {frontier : Frontier} (new : frontier.IsNew) : Reachable ⟨frontier, fun _ => []⟩
  | step {system next : System} (reached : Reachable system) (step : Step system next) :
      Reachable next

/-- Every step keeps the frontier safe. -/
theorem Step.safe {system next : System} (step : Step system next)
    (safe : system.frontier.Safe) : next.frontier.Safe := by
  cases step with
  | begin worker operation idle => exact safe
  | act worker action rest due => exact safe.act action
  | mark url kind => exact safe.marked url kind

/-- A frontier is safe in every state that it gets into. -/
theorem Reachable.safe {system : System} (reached : Reachable system) :
    system.frontier.Safe := by
  induction reached with
  | new new => exact Frontier.safe_of_queued_eq_nil new.queued_eq_nil
  | step reached step ih => exact step.safe ih

/-- However the actions of the workers and the marks of others follow each other, no two waiting
URLs are the same, and the store records each of them with the kind with which it waits. -/
theorem reachable_queued_distinct_recorded {system : System} (reached : Reachable system) :
    (system.frontier.queued.map fun item => item.url.key).Nodup ∧
      ∀ item ∈ system.frontier.queued,
        system.frontier.seen.kind? item.url.key = some item.kind :=
  ⟨reached.safe.distinct, reached.safe.recorded⟩

/-- The front page of a host. -/
def frontPage : CanonicalUrl :=
  ⟨{ scheme := "http", username := "", password := "", host := some (.domain "a"), port := none
     path := .segments [""], query := none, fragment := none }⟩

/-- Two workers offer one URL as different kinds, and another user of the store has marked a third:
the URL waits once, with the kind of the worker that came first. -/
theorem reachable_queued_distinct_recorded_race :
    ∃ system, Reachable system ∧ system.frontier.queued = [⟨frontPage, .sitemap⟩] ∧
      (system.frontier.queued.map fun item => item.url.key).Nodup ∧
      ∀ item ∈ system.frontier.queued,
        system.frontier.seen.kind? item.url.key = some item.kind := by
  have reached : Reachable ⟨.withSeen .empty {}, fun _ => []⟩ := .new (.withSeen .empty {})
  have called := (reached.step (.begin 0 (.offerUrl frontPage .sitemap) rfl)).step
    (.begin 1 (.offerUrl frontPage .content) rfl)
  have entered := (called.step (.act 0 (.enter frontPage .sitemap) [.count] rfl)).step
    (.act 1 (.enter frontPage .content) [.count] rfl)
  refine ⟨_, entered, ?_, reachable_queued_distinct_recorded entered⟩
  have first : ((Frontier.withSeen .empty {}).enter frontPage .sitemap).1.queued =
      [⟨frontPage, .sitemap⟩] := by
    have fresh : ¬(Frontier.withSeen .empty {}).seen.contains frontPage.key = true := by
      simp [SeenStore.contains_eq_isSome_kind?, Frontier.withSeen]
    rw [Frontier.queued_enter, if_neg fresh]
    rfl
  have known : ((Frontier.withSeen .empty {}).enter frontPage .sitemap).1.seen.contains
      frontPage.key = true := by
    rw [SeenStore.contains_eq_isSome_kind?, Frontier.seen_enter, SeenStore.kind?_mark, if_pos rfl]
    rfl
  change (((Frontier.withSeen .empty {}).enter frontPage .sitemap).1.enter frontPage
    .content).1.queued = _
  rw [Frontier.queued_enter, if_pos known, first]

end System

end CrawlFrontier
