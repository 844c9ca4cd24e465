import CrawlFrontier.Proofs.Canonical.Made
import CrawlFrontier.Proofs.Frontier.Session
import CrawlFrontier.Proofs.Frontier.Sharing

/-!
# URLs that are taken back

Who takes a URL back takes its record out of the store and its place out of the queue, and nothing
else. The store knows the URL by its key, and so does the queue, so both lose the same URL. Main
statement: afterwards the URL is as unknown as one that was never offered, and it makes no
difference whether other URLs are offered or taken back before or after it.
-/

namespace CrawlFrontier

open Relation (ReflTransGen)

namespace SeenStore

/-- A store is known by its records and its counter. -/
theorem eq_of_kind? {first second : SeenStore} (kinds : ∀ key, first.kind? key = second.kind? key)
    (content : first.content = second.content) : first = second := by
  obtain ⟨kindsFirst, contentFirst⟩ := first
  obtain ⟨kindsSecond, contentSecond⟩ := second
  obtain rfl : contentFirst = contentSecond := content
  obtain rfl : kindsFirst = kindsSecond := Std.ExtHashMap.ext_getElem? kinds
  rfl

/-- What forgetting a URL takes from the counter. -/
theorem content_forget_eq (store : SeenStore) (url : String) :
    (store.forget url).1.content =
      store.content - if store.kind? url = some .content then 1 else 0 := by
  cases found : store.kind? url with
  | none =>
    rw [forget_of_kind?_eq_none found]
    rfl
  | some kind =>
    rw [SeenStore.content_forget found]
    cases kind <;> rfl

/-- What a mark adds to the counter. -/
theorem content_mark_eq (store : SeenStore) (url : String) (kind : DocumentKind) :
    (store.mark url kind).2.content =
      store.content + if store.kind? url = none ∧ kind = .content then 1 else 0 := by
  cases found : store.kind? url with
  | none =>
    have fresh : ¬store.contains url = true := by simp [contains_eq_isSome_kind?, found]
    rw [content_mark fresh]
    cases kind <;> rfl
  | some recorded =>
    have seen : store.contains url = true := by simp [contains_eq_isSome_kind?, found]
    rw [mark_of_contains seen]
    simp

/-- Two URLs are forgotten in either order. -/
theorem forget_comm (store : SeenStore) (first second : String) :
    ((store.forget first).1.forget second).1 = ((store.forget second).1.forget first).1 := by
  by_cases same : first = second
  · rw [same]
  · refine eq_of_kind? (fun key => ?_) ?_
    · simp only [kind?_forget]
      split <;> split <;> rfl
    · simp only [content_forget_eq, kind?_forget, if_neg same, if_neg (Ne.symm same)]
      exact Nat.sub_right_comm _ _ _

/-- A URL is forgotten before another is marked or after. It must have been counted if it is
content, else the mark that comes first would be taken from the counter instead. -/
theorem Tallied.forget_mark {store : SeenStore} {keys : Finset String}
    (tallied : store.Tallied keys) {url other : String} (apart : other ≠ url)
    (kind : DocumentKind) :
    ((store.mark other kind).2.forget url).1 = ((store.forget url).1.mark other kind).2 := by
  refine eq_of_kind? (fun key => ?_) ?_
  · simp only [kind?_forget, kind?_mark, if_neg apart]
    by_cases same : key = url
    · rw [if_pos same, if_neg (same ▸ Ne.symm apart), if_pos same]
    · rw [if_neg same, if_neg same]
  · simp only [content_forget_eq, content_mark_eq, kind?_forget, kind?_mark, if_neg apart,
      if_neg (Ne.symm apart)]
    by_cases content : store.kind? url = some .content
    · have positive := tallied.content_pos content
      rw [if_pos content]
      omega
    · rw [if_neg content, Nat.sub_zero, Nat.sub_zero]

/-- A call that does not mark an unknown URL leaves it unknown. -/
theorem kind?_call_eq_none {store : SeenStore} {key : String} (unknown : store.kind? key = none)
    {call : Call} (silent : ¬∃ kind, call = .mark key kind) :
    (store.call call).kind? key = none := by
  cases call with
  | mark url kind =>
    have apart : key ≠ url := by
      rintro rfl
      exact silent ⟨kind, rfl⟩
    rw [SeenStore.call, kind?_mark, if_neg apart, unknown]
  | forget url => rw [SeenStore.call, kind?_forget, unknown, ite_self]
  | clear => exact kind?_clear store key

/-- What is reported of a URL that is forgotten is told by its record. -/
theorem forget_notices (store : SeenStore) (url : String) :
    (store.forget url).2 = (store.kind? url).toList.map (.forgot url) := by
  unfold forget
  split
  · next missing => rw [missing]; rfl
  · next kind found => rw [found]; rfl

/-- Forgetting a URL that was seen takes away one URL of those that are counted. -/
theorem Tallied.size_forget {store : SeenStore} {keys : Finset String}
    (tallied : store.Tallied keys) (url : String) :
    (store.forget url).1.size + (if store.contains url then 1 else 0) = store.size := by
  by_cases seen : store.contains url = true
  · have positive : 0 < store.size := by
      rw [tallied.size]
      exact Finset.card_pos.mpr ⟨url, (tallied.mem url).mpr seen⟩
    rw [SeenStore.size_forget seen, if_pos seen]
    omega
  · rw [forget_of_kind?_eq_none (kind?_eq_none seen), if_neg seen, Nat.add_zero]

/-- Forgetting a URL of content takes away one of those that are counted as such. -/
theorem Tallied.content_forget {store : SeenStore} {keys : Finset String}
    (tallied : store.Tallied keys) (url : String) :
    (store.forget url).1.content + (if store.kind? url = some .content then 1 else 0) =
      store.content := by
  rw [content_forget_eq]
  by_cases content : store.kind? url = some .content
  · have positive := tallied.content_pos content
    rw [if_pos content]
    omega
  · rw [if_neg content]
    rfl

end SeenStore

/-- The call of the store that an action makes, if it makes one. -/
def Action.call? : Action → Option SeenStore.Call
  | enter url kind => some (.mark url.key kind)
  | withdraw url => some (.forget url.key)
  | clear => some .clear
  | count | take | recount => none

/-- Who marks a URL in the store offers it. -/
theorem Action.offeredKey?_of_call? {action : Action} {key : String} {kind : DocumentKind}
    (marks : action.call? = some (.mark key kind)) : action.offeredKey? = some key := by
  cases action with
  | enter url own =>
    rw [call?, Option.some.injEq, SeenStore.Call.mark.injEq] at marks
    rw [offeredKey?, marks.1]
  | withdraw url => cases marks
  | clear => cases marks
  | count | take | recount => cases marks

namespace Frontier

variable {frontier : Frontier} {url other : CanonicalUrl}

/-- As many URLs wait as there are keys of waiting URLs. -/
theorem length_map_key_queued (frontier : Frontier) :
    (frontier.queued.map (·.url.key)).length = frontier.pending := by
  rw [List.length_map]
  exact frontier.queue.length_toList

/-- Of URLs that wait, the one that is taken back waits no longer. -/
theorem Safe.pending_retract_add (safe : frontier.Safe) (url : CanonicalUrl) :
    (frontier.retract url).1.pending +
      (if url.key ∈ frontier.queued.map (·.url.key) then 1 else 0) = frontier.pending := by
  -- The keys are distinct, so to leave out all that are the same is to leave out one.
  have keys : (frontier.retract url).1.queued.map (·.url.key) =
      (frontier.queued.map (·.url.key)).erase url.key := by
    rw [queued_retract, safe.distinct.erase_eq_filter, List.filter_map]
    refine congrArg _ (List.filter_congr fun item _ => ?_)
    rw [Bool.eq_iff_iff]
    simp
  rw [← length_map_key_queued, ← length_map_key_queued, keys]
  split
  · next waits => exact List.length_erase_add_one waits
  · next absent => rw [List.erase_of_not_mem absent, Nat.add_zero]

/-- Two URLs are taken back in either order. -/
theorem retract_comm (frontier : Frontier) (url other : CanonicalUrl) :
    ((frontier.retract url).1.retract other).1 = ((frontier.retract other).1.retract url).1 := by
  have seen := frontier.seen.forget_comm url.key other.key
  have queue : (frontier.queue.filter (·.url.key ≠ url.key)).filter (·.url.key ≠ other.key) =
      (frontier.queue.filter (·.url.key ≠ other.key)).filter (·.url.key ≠ url.key) := by
    simp only [Queue.filter, List.filter_comm]
  change Frontier.mk _ _ _ _ _ = Frontier.mk _ _ _ _ _
  rw [Frontier.mk.injEq]
  exact ⟨seen, rfl, queue, rfl, rfl⟩

/-- What is reported of a URL that is taken back does not depend on another that was taken back
before. -/
theorem retract_notices (frontier : Frontier) (apart : url.key ≠ other.key) :
    ((frontier.retract other).1.retract url).2 = (frontier.retract url).2 := by
  have record : (frontier.seen.forget other.key).1.kind? url.key = frontier.seen.kind? url.key := by
    rw [SeenStore.kind?_forget, if_neg apart]
  change ((frontier.seen.forget other.key).1.forget url.key).2 ++ [.retracted url.key] =
    (frontier.seen.forget url.key).2 ++ [.retracted url.key]
  rw [SeenStore.forget_notices, SeenStore.forget_notices, record]

/-- Another URL is entered before one is taken back or after, with the same answer. -/
theorem enter_retract {keys : Finset String} (tallied : frontier.seen.Tallied keys)
    (apart : other.key ≠ url.key) (kind : DocumentKind) :
    (frontier.retract url).1.enter other kind =
      (((frontier.enter other kind).1.retract url).1, (frontier.enter other kind).2) := by
  have known : (frontier.retract url).1.seen.contains other.key =
      frontier.seen.contains other.key := by
    rw [seen_retract, SeenStore.contains_eq_isSome_kind?, SeenStore.contains_eq_isSome_kind?,
      SeenStore.kind?_forget, if_neg apart]
  by_cases seen : frontier.seen.contains other.key = true
  · rw [enter_of_contains seen, enter_of_contains (known.trans seen)]
  · have pushed : (frontier.queue.push ⟨other, kind⟩).filter (·.url.key ≠ url.key) =
        (frontier.queue.filter (·.url.key ≠ url.key)).push ⟨other, kind⟩ := by
      simp [Queue.filter, Queue.push, apart]
    rw [enter_of_not_contains seen, enter_of_not_contains (known.symm ▸ seen)]
    refine Prod.ext ?_ rfl
    change Frontier.mk _ _ _ _ _ = Frontier.mk _ _ _ _ _
    rw [Frontier.mk.injEq]
    exact ⟨(tallied.forget_mark apart kind).symm, rfl, pushed.symm, rfl, rfl⟩

/-- Another URL is offered before one is taken back or after, with the same answer. -/
theorem offerUrl_retract {keys : Finset String} (tallied : frontier.seen.Tallied keys)
    (apart : other.key ≠ url.key) (kind : DocumentKind) :
    ((frontier.retract url).1.offerUrl other kind).answer =
        (frontier.offerUrl other kind).answer ∧
      ((frontier.retract url).1.offerUrl other kind).frontier =
        ((frontier.offerUrl other kind).frontier.retract url).1 := by
  have entered := enter_retract tallied apart kind
  constructor
  · change ((frontier.retract url).1.enter other kind).2 = (frontier.enter other kind).2
    rw [entered]
  · change ((frontier.retract url).1.enter other kind).1.countOffer = _
    rw [entered]
    rfl

/-- An action does to the store what its call does. -/
theorem seen_act (frontier : Frontier) (action : Action) :
    (frontier.act action).seen = (action.call?.map frontier.seen.call).getD frontier.seen := by
  cases action with
  | enter url kind => exact frontier.seen_enter url kind
  | take => exact frontier.seen_next
  | count | withdraw url | clear | recount => rfl

/-- An action that does not offer an unknown URL leaves it unknown. -/
theorem kind?_act_eq_none {key : String} (unknown : frontier.seen.kind? key = none)
    {action : Action} (silent : action.offeredKey? ≠ some key) :
    (frontier.act action).seen.kind? key = none := by
  rw [seen_act]
  cases makes : action.call? with
  | none => exact unknown
  | some call =>
    refine SeenStore.kind?_call_eq_none unknown ?_
    rintro ⟨kind, rfl⟩
    exact silent (Action.offeredKey?_of_call? makes)

/-- Actions that do not offer an unknown URL leave it unknown. -/
theorem kind?_foldl_act_eq_none {key : String} (unknown : frontier.seen.kind? key = none)
    {actions : List Action} (silent : ∀ action ∈ actions, action.offeredKey? ≠ some key) :
    (actions.foldl act frontier).seen.kind? key = none := by
  induction actions generalizing frontier with
  | nil => exact unknown
  | cons action actions ih =>
    obtain ⟨first, others⟩ := List.forall_mem_cons.mp silent
    exact ih (kind?_act_eq_none unknown first) others

end Frontier

/-- Whether a request offers the URL with a key, or marks it in the store. -/
def Request.Offers (rules : Rules) (key : String) : Request → Prop
  | .operation asked => key ∈ asked.offeredKeys rules
  | .store call => ∃ kind, call = .mark key kind
  | .question _ => False

namespace Frontier

variable {frontier : Frontier} {key : String}

/-- A request that does not offer an unknown URL leaves it unknown. -/
theorem kind?_respond_eq_none (unknown : frontier.seen.kind? key = none) {request : Request}
    (silent : ¬request.Offers frontier.rules key) :
    (frontier.respond request).frontier.seen.kind? key = none := by
  cases request with
  | operation operation =>
    change (frontier.operate operation).frontier.seen.kind? key = none
    rw [operate_frontier, perform_eq_foldl_act]
    refine kind?_foldl_act_eq_none unknown fun action member offers => silent ?_
    exact List.mem_filterMap.mpr ⟨action, member, offers⟩
  | store call =>
    have after : (frontier.respond (.store call)).frontier.seen = frontier.seen.call call := by
      cases call <;> rfl
    rw [after]
    exact SeenStore.kind?_call_eq_none unknown silent
  | question question => exact unknown

/-- A session in which an unknown URL is not offered leaves it unknown. -/
theorem kind?_after_eq_none (unknown : frontier.seen.kind? key = none) {later : List Request}
    (silent : ∀ request ∈ later, ¬request.Offers frontier.rules key) :
    (frontier.after later).seen.kind? key = none := by
  induction later generalizing frontier with
  | nil => exact unknown
  | cons request later ih =>
    obtain ⟨first, others⟩ := List.forall_mem_cons.mp silent
    have rules := (frontier.sameSettings_respond request).1
    exact ih (kind?_respond_eq_none unknown first) (rules ▸ others)

/-- The offer of an unknown URL is taken up. -/
theorem offerUrl_of_kind?_eq_none {url : CanonicalUrl}
    (unknown : frontier.seen.kind? url.key = none) (kind : DocumentKind) :
    (frontier.offerUrl url kind).answer = .enqueued ∧
      (frontier.offerUrl url kind).frontier.seen.kind? url.key = some kind ∧
      (frontier.offerUrl url kind).frontier.queued = frontier.queued ++ [⟨url, kind⟩] := by
  have fresh : ¬frontier.seen.contains url.key = true := by
    rw [SeenStore.contains_eq_isSome_kind?, unknown]
    exact Bool.false_ne_true
  refine ⟨?_, ?_, ?_⟩
  · rw [offerUrl_answer, if_neg fresh]
  · rw [seen_offerUrl, SeenStore.kind?_mark, if_pos rfl, unknown, Option.getD_none]
  · rw [queued_offerUrl, if_neg fresh]

/-- Every action keeps the counters of the store right. -/
theorem exists_tallied_act {keys : Finset String} (tallied : frontier.seen.Tallied keys)
    (action : Action) : ∃ keys, (frontier.act action).seen.Tallied keys := by
  rw [seen_act]
  cases action.call? with
  | none => exact ⟨keys, tallied⟩
  | some call => exact tallied.call call

end Frontier

namespace System

/-- Every step keeps the counters of the store right. -/
theorem Step.exists_tallied {system next : System} (step : Step system next)
    {keys : Finset String} (tallied : system.frontier.seen.Tallied keys) :
    ∃ keys, next.frontier.seen.Tallied keys := by
  cases step with
  | begin worker operation idle => exact ⟨keys, tallied⟩
  | act worker action rest due => exact Frontier.exists_tallied_act tallied action
  | mark url kind => exact tallied.call (.mark url kind)

variable {first : Frontier} {calls : List SeenStore.Call} {system : System}

/-- What a new frontier gets into is reached. -/
theorem reachable_of_reflTransGen (new : first.IsNew)
    (reached : ReflTransGen Step ⟨first, fun _ => []⟩ system) : Reachable system := by
  induction reached with
  | refl => exact .new new
  | tail _ step ih => exact ih.step step

/-- The counters are right in every state that a frontier over a store with a history gets into. -/
theorem exists_tallied_of_reflTransGen (history : first.seen = .run .empty calls)
    (reached : ReflTransGen Step ⟨first, fun _ => []⟩ system) :
    ∃ keys, system.frontier.seen.Tallied keys := by
  induction reached with
  | refl =>
    rw [history]
    exact SeenStore.tallied_run calls
  | tail _ step ih =>
    obtain ⟨keys, tallied⟩ := ih
    exact step.exists_tallied tallied

/-- The front page of another host. -/
def otherPage : CanonicalUrl := ⟨{ frontPage.url with host := some (.domain "b") }⟩

/-- In every state that a new frontier gets into over a store with a history, taking a URL back
leaves it neither recorded nor waiting. The other URLs keep their records and wait on in their
order. Of the numbers of URLs that were seen, that are content and that wait, each falls by one
exactly if the URL was among them, and no offer is counted. When the URL is offered again, whatever
is asked of the frontier and its store in between, the offer is taken up: its kind is recorded, and
it waits behind all others. It makes no difference whether a URL with another key is taken back or
offered before or after, and canonical URLs that were made are the same if their keys are. -/
theorem retract_forgets_one (new : first.IsNew) (history : first.seen = .run .empty calls)
    (reached : ReflTransGen Step ⟨first, fun _ => []⟩ system) (url : CanonicalUrl) :
    let before := system.frontier
    let left := (system.frontier.retract url).1
    (left.seen.contains url.key = false ∧ ∀ item ∈ left.queued, item.url.key ≠ url.key) ∧
      ((∀ key ≠ url.key, left.seen.kind? key = before.seen.kind? key) ∧
        left.queued = before.queued.filter fun item => item.url.key ≠ url.key) ∧
      (left.seen.size + (if before.seen.contains url.key then 1 else 0) = before.seen.size ∧
        left.seen.content + (if before.seen.kind? url.key = some .content then 1 else 0) =
          before.seen.content ∧
        left.pending + (if url.key ∈ before.queued.map (·.url.key) then 1 else 0) =
          before.pending ∧
        left.offers = before.offers) ∧
      (∀ later kind, (∀ request ∈ later, ¬request.Offers before.rules url.key) →
        ((left.after later).offerUrl url kind).answer = .enqueued ∧
        ((left.after later).offerUrl url kind).frontier.seen.kind? url.key = some kind ∧
        ((left.after later).offerUrl url kind).frontier.queued =
          (left.after later).queued ++ [⟨url, kind⟩]) ∧
      (∀ other : CanonicalUrl, other.key ≠ url.key →
        (left.retract other).1 = ((before.retract other).1.retract url).1 ∧
        (left.retract other).2 = (before.retract other).2 ∧
        ∀ kind, (left.offerUrl other kind).answer = (before.offerUrl other kind).answer ∧
          (left.offerUrl other kind).frontier =
            ((before.offerUrl other kind).frontier.retract url).1) ∧
      ∀ other : CanonicalUrl, url.IsMade → other.IsMade → (other.key = url.key ↔ other = url) := by
  intro before left
  have safe := (reachable_of_reflTransGen new reached).safe
  obtain ⟨keys, tallied⟩ := exists_tallied_of_reflTransGen history reached
  have records (key : String) : left.seen.kind? key =
      if key = url.key then none else before.seen.kind? key :=
    before.seen.kind?_forget url.key key
  have unknown : left.seen.kind? url.key = none := by
    rw [records, if_pos rfl]
  have queue : left.queued = before.queued.filter fun item => item.url.key ≠ url.key :=
    before.queued_retract url
  refine ⟨⟨?_, ?_⟩, ⟨?_, queue⟩, ⟨?_, ?_, ?_, rfl⟩, ?_, ?_, ?_⟩
  · rw [SeenStore.contains_eq_isSome_kind?, unknown]
    rfl
  · intro item waits
    rw [queue] at waits
    exact of_decide_eq_true (List.mem_filter.mp waits).2
  · intro key apart
    rw [records, if_neg apart]
  · exact tallied.size_forget url.key
  · exact tallied.content_forget url.key
  · exact safe.pending_retract_add url
  · intro later kind silent
    exact Frontier.offerUrl_of_kind?_eq_none (Frontier.kind?_after_eq_none unknown silent) kind
  · intro other apart
    exact ⟨before.retract_comm url other, before.retract_notices apart,
      Frontier.offerUrl_retract tallied apart⟩
  · intro other made otherMade
    exact otherMade.key_inj made

/-- A URL that waits as content is taken back while another waits behind it: the other waits on, and
the URL is taken up again behind it. -/
theorem retract_forgets_one_pair :
    ∃ system : System, ReflTransGen Step ⟨.ofConfig {}, fun _ => []⟩ system ∧
      system.frontier.queued = [⟨frontPage, .content⟩, ⟨otherPage, .sitemap⟩] ∧
      (system.frontier.retract frontPage).1.queued = [⟨otherPage, .sitemap⟩] ∧
      (system.frontier.retract frontPage).1.seen.content + 1 = system.frontier.seen.content ∧
      ((system.frontier.retract frontPage).1.offerUrl frontPage .robots).answer = .enqueued := by
  have called : ReflTransGen Step ⟨.ofConfig {}, fun _ => []⟩ _ :=
    .tail (.single (.begin 0 (.offerUrl frontPage .content) rfl))
      (.begin 1 (.offerUrl otherPage .sitemap) rfl)
  have entered := (called.tail (.act 0 (.enter frontPage .content) [.count] rfl)).tail
    (.act 1 (.enter otherPage .sitemap) [.count] rfl)
  have history : (Frontier.ofConfig {}).seen = .run .empty [] := rfl
  obtain ⟨-, ⟨-, queue⟩, ⟨-, content, -, -⟩, again, -, -⟩ :=
    retract_forgets_one (.ofConfig {}) history entered frontPage
  refine ⟨_, entered, ?_, ?_, ?_, ?_⟩
  · cbv
  · rw [queue]
    cbv
  · have recorded : (((Frontier.ofConfig {}).enter frontPage .content).1.enter otherPage
        .sitemap).1.seen.kind? frontPage.key = some .content := by
      cbv
    exact (congrArg _ (if_pos recorded).symm).trans content
  · exact (again [] .robots (List.forall_mem_nil _)).1

end System

end CrawlFrontier
