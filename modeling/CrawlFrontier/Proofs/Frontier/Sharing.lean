import CrawlFrontier.Proofs.Frontier.Safety
import Mathlib.Data.List.Permutation

/-!
# Frontiers over one store

Any number of frontiers are made over one store. Each has its own queue and its own rules, and what
an action does to the store is seen by all of them. Workers perform operations of any of the
frontiers, but nothing is taken back. Main statement: of all offers of one URL exactly one is taken
up, unless the store contained the URL from the start, and the URL comes into the queue of the
frontier to which that offer was made and into no other.
-/

namespace CrawlFrontier

/-- Whether an action takes nothing back. -/
def Action.keeps : Action → Bool
  | enter _ _ | count | take | recount => true
  | withdraw _ | clear => false

/-- The key of the URL that an action offers, if it offers one. -/
def Action.offeredKey? : Action → Option String
  | enter url _ => some url.key
  | count | take | withdraw _ | clear | recount => none

namespace Operation

/-- Whether an operation takes nothing back. -/
def keeps : Operation → Bool
  | offer _ _ | offerUrl _ _ | offerDiscovered _ | offerDocument _ _ | seed _ | next => true
  | retract _ | reset => false

/-- The keys of the URLs that an operation offers. -/
def offeredKeys (rules : Rules) (operation : Operation) : List String :=
  (operation.actions rules).filterMap Action.offeredKey?

/-- An offer of a text takes nothing back. -/
theorem keeps_of_offersText {rules : Rules} {action : Action} (offers : action.OffersText rules) :
    action.keeps = true := by
  cases action with
  | enter url kind => rfl
  | count => rfl
  | take | withdraw url | clear | recount => exact absurd offers not_false

/-- No action takes anything back if its operation does not. -/
theorem keeps_of_mem_actions {rules : Rules} {operation : Operation}
    (keeps : operation.keeps = true) {action : Action} (member : action ∈ operation.actions rules) :
    action.keeps = true := by
  rcases cases_of_mem_actions member with
    offers | ⟨url, kind, -, rfl⟩ | ⟨-, rfl⟩ | ⟨url, rfl, -⟩ | ⟨rfl, -⟩
  · exact keeps_of_offersText offers
  · rfl
  · rfl
  · cases keeps
  · cases keeps

end Operation

namespace Frontier

open Log

/-- An action that takes nothing back adds the URL that it offers to the store. -/
theorem contains_act (frontier : Frontier) {action : Action} (keeps : action.keeps = true)
    (key : String) :
    (frontier.act action).seen.contains key = true ↔
      frontier.seen.contains key = true ∨ action.offeredKey? = some key := by
  cases action with
  | enter url kind =>
    change (frontier.enter url kind).1.seen.contains key = true ↔ _ ∨ some url.key = some key
    rw [seen_enter, SeenStore.contains_eq_isSome_kind?, SeenStore.contains_eq_isSome_kind?,
      SeenStore.kind?_mark, Option.some.injEq]
    by_cases same : key = url.key
    · simp [same]
    · simp [same, Ne.symm same]
  | take =>
    change frontier.next.2.seen.contains key = true ↔ _
    rw [seen_next]
    simp [Action.offeredKey?]
  | count | recount => simp [act, countOffer, Action.offeredKey?]
  | withdraw url | clear => cases keeps

/-- An action that takes nothing back hands out what waits first, and the URL whose offer it takes
up waits last. -/
theorem handedOut_append_queued_act (frontier : Frontier) {action : Action}
    (keeps : action.keeps = true) :
    handedOut (frontier.event? action).toList ++ (frontier.act action).queued =
      frontier.queued ++ takenUp (frontier.event? action).toList := by
  cases action with
  | enter url kind =>
    change _ ++ (frontier.enter url kind).1.queued = _
    rw [event?_enter, queued_enter]
    by_cases seen : frontier.seen.contains url.key = true
    · rw [if_pos seen, if_pos seen]
      exact (List.append_nil frontier.queued).symm
    · rw [if_neg seen, if_neg seen]
      rfl
  | take =>
    change _ ++ frontier.next.2.queued = _
    rw [event?_take, queued_next]
    cases frontier.queued with
    | nil => rfl
    | cons item rest => simp [handedOut, takenUp, Event.handed?, Event.enqueued?]
  | count | recount => exact (List.append_nil frontier.queued).symm
  | withdraw url | clear => cases keeps

end Frontier

/-- The frontiers over one store and, for each worker, the actions that are left of its operation,
each with the frontier that it belongs to. -/
structure Fleet (ι : Type) where
  frontiers : ι → Frontier
  pending : Nat → List (ι × Action)

namespace Fleet

open Frontier (Event)
open Frontier.Log

variable {ι : Type} [DecidableEq ι]

/-- The frontiers after an action of one of them: what it does to the store is seen by all. -/
def act (frontiers : ι → Frontier) (name : ι) (action : Action) (other : ι) : Frontier :=
  if other = name then (frontiers name).act action
  else { frontiers other with seen := ((frontiers name).act action).seen }

/-- The events of an action, each with the frontier that it belongs to. -/
def eventsOf (frontiers : ι → Frontier) (name : ι) (action : Action) : List (ι × Event) :=
  ((frontiers name).event? action).toList.map (name, ·)

/-- What frontiers over one store get into while nothing is taken back, with the operations that
were begun and the events that were shown to the workers. -/
inductive Run (seen : SeenStore) :
    Fleet ι → List (ι × Operation) → List (ι × Event) → Prop where
  | start {frontiers : ι → Frontier} (new : ∀ name, (frontiers name).IsNew)
      (shared : ∀ name, (frontiers name).seen = seen) : Run seen ⟨frontiers, fun _ => []⟩ [] []
  | begin {fleet : Fleet ι} {begun : List (ι × Operation)} {events : List (ι × Event)}
      (run : Run seen fleet begun events) (worker : Nat) (name : ι) (operation : Operation)
      (keeps : operation.keeps = true) (idle : fleet.pending worker = []) :
      Run seen { fleet with
        pending := Function.update fleet.pending worker
          ((operation.actions (fleet.frontiers name).rules).map (name, ·)) }
        (begun ++ [(name, operation)]) events
  | act {fleet : Fleet ι} {begun : List (ι × Operation)} {events : List (ι × Event)}
      (run : Run seen fleet begun events) (worker : Nat) (name : ι) (action : Action)
      (rest : List (ι × Action)) (due : fleet.pending worker = (name, action) :: rest) :
      Run seen ⟨act fleet.frontiers name action, Function.update fleet.pending worker rest⟩ begun
        (events ++ eventsOf fleet.frontiers name action)

/-- The events of one frontier. -/
def logOf (name : ι) (events : List (ι × Event)) : List Event :=
  events.filterMap fun entry => if entry.1 = name then some entry.2 else none

/-- The URLs whose offers were taken up, each with the frontier to which it was offered. -/
def entries (events : List (ι × Event)) : List (ι × QueuedUrl) :=
  events.filterMap fun entry => entry.2.enqueued?.map (entry.1, ·)

/-- The keys of the URLs whose offers were answered. -/
def offeredKeys (events : List (ι × Event)) : List String :=
  events.filterMap fun entry => entry.2.offered?.map (·.url.key)

omit [DecidableEq ι] in
/-- The entries of one sequence of events after another. -/
theorem entries_append (first second : List (ι × Event)) :
    entries (first ++ second) = entries first ++ entries second :=
  List.filterMap_append

omit [DecidableEq ι] in
/-- The offers of one sequence of events after another. -/
theorem offeredKeys_append (first second : List (ι × Event)) :
    offeredKeys (first ++ second) = offeredKeys first ++ offeredKeys second :=
  List.filterMap_append

/-- No action changes the rules of a frontier. -/
theorem act_rules (frontiers : ι → Frontier) (name : ι) (action : Action) (other : ι) :
    (act frontiers name action other).rules = (frontiers other).rules := by
  unfold act
  split
  · next same => rw [same, Frontier.act_rules]
  · rfl

/-- All frontiers see the store of the one that acted. -/
theorem act_seen (frontiers : ι → Frontier) (name : ι) (action : Action) (other : ι) :
    (act frontiers name action other).seen = ((frontiers name).act action).seen := by
  unfold act
  split <;> rfl

omit [DecidableEq ι] in
/-- The events of an action say which URL it offered. -/
theorem offeredKeys_eventsOf (frontiers : ι → Frontier) (name : ι) (action : Action) :
    offeredKeys (eventsOf frontiers name action) = action.offeredKey?.toList := by
  cases action with
  | enter url kind =>
    rw [eventsOf, Frontier.event?_enter]
    split <;> rfl
  | take =>
    rw [eventsOf, Frontier.event?_take]
    cases (frontiers name).queued <;> rfl
  | count | withdraw url | clear | recount => rfl

omit [DecidableEq ι] in
/-- The offer of an action is taken up exactly if the store did not contain its URL. -/
theorem map_entries_eventsOf (frontiers : ι → Frontier) (name : ι) (action : Action) :
    (entries (eventsOf frontiers name action)).map (·.2.url.key) =
      action.offeredKey?.toList.filter fun key => ¬(frontiers name).seen.contains key = true := by
  cases action with
  | enter url kind =>
    rw [eventsOf, Frontier.event?_enter]
    by_cases seen : (frontiers name).seen.contains url.key = true
    · simp [seen, entries, Event.enqueued?, Action.offeredKey?]
    · simp [seen, entries, Event.enqueued?, Action.offeredKey?]
  | take =>
    rw [eventsOf, Frontier.event?_take]
    cases (frontiers name).queued <;> rfl
  | count | withdraw url | clear | recount => rfl

/-- The events of an action are added to those of the frontier that acts. -/
theorem logOf_append_eventsOf (events : List (ι × Event)) (frontiers : ι → Frontier) (name : ι)
    (action : Action) (other : ι) :
    logOf other (events ++ eventsOf frontiers name action) = logOf other events ++
      if other = name then ((frontiers name).event? action).toList else [] := by
  rw [logOf, List.filterMap_append]
  by_cases same : other = name
  · simp [logOf, eventsOf, same, List.filterMap_map]
  · simp [logOf, eventsOf, same, Ne.symm same, List.filterMap_map]

/-- The entries of one frontier are the URLs that its events say were taken up. -/
theorem map_filter_entries (name : ι) (events : List (ι × Event)) :
    ((entries events).filter (·.1 = name)).map (·.2) = takenUp (logOf name events) := by
  rw [entries, logOf, takenUp, List.filter_filterMap, List.map_filterMap, List.filterMap_filterMap]
  congr 1
  funext entry
  by_cases same : entry.1 = name
  · cases found : entry.2.enqueued? <;> simp [same, found]
  · cases found : entry.2.enqueued? <;> simp [same]

/-- What is known of frontiers over one store while nothing is taken back. -/
structure Ledger (seen : SeenStore) (frontiers : ι → Frontier) (events : List (ι × Event)) :
    Prop where
  /-- The store contains what it contained and what was offered. -/
  contains_iff : ∀ name key, (frontiers name).seen.contains key = true ↔
    seen.contains key = true ∨ key ∈ offeredKeys events
  /-- No two entries have the same URL, whatever frontiers they belong to. -/
  distinct : ((entries events).map (·.2.url.key)).Nodup
  /-- There is an entry for each URL that was offered and that the store did not contain. -/
  fresh : ∀ key, key ∈ (entries events).map (·.2.url.key) ↔
    ¬seen.contains key = true ∧ key ∈ offeredKeys events
  /-- The entries of a frontier come into its queue in order and are handed out in order. -/
  line : ∀ name, takenUp (logOf name events) =
    handedOut (logOf name events) ++ (frontiers name).queued

namespace Ledger

variable {seen : SeenStore} {frontiers : ι → Frontier} {events : List (ι × Event)}

/-- Before anything is offered the ledger is empty. -/
theorem start (new : ∀ name, (frontiers name).IsNew)
    (shared : ∀ name, (frontiers name).seen = seen) : Ledger seen frontiers [] where
  contains_iff name key := by simp [shared, offeredKeys]
  distinct := List.nodup_nil
  fresh key := by simp [entries, offeredKeys]
  line name := by rw [(new name).queued_eq_nil]; rfl

/-- An offer adds its URL to what the store contains. -/
theorem contains_iff_act (ledger : Ledger seen frontiers events) (name : ι) {action : Action}
    (keeps : action.keeps = true) (other : ι) (key : String) :
    (act frontiers name action other).seen.contains key = true ↔
      seen.contains key = true ∨
        key ∈ offeredKeys (events ++ eventsOf frontiers name action) := by
  rw [act_seen, Frontier.contains_act _ keeps, ledger.contains_iff, offeredKeys_append,
    List.mem_append, offeredKeys_eventsOf, Option.mem_toList, or_assoc]

/-- An offer that is taken up adds an entry, and its URL is none of those that have one. -/
theorem map_entries_act (ledger : Ledger seen frontiers events) (name : ι) (action : Action) :
    (entries (events ++ eventsOf frontiers name action)).map (·.2.url.key) =
      (entries events).map (·.2.url.key) ++
        action.offeredKey?.toList.filter fun key =>
          ¬(seen.contains key = true ∨ key ∈ offeredKeys events) := by
  have unseen : (fun key => decide ¬(frontiers name).seen.contains key = true) =
      fun key => decide ¬(seen.contains key = true ∨ key ∈ offeredKeys events) := by
    funext key
    rw [decide_eq_decide, ledger.contains_iff]
  rw [entries_append, List.map_append, map_entries_eventsOf, unseen]

/-- Every action that takes nothing back keeps the ledger. -/
theorem act (ledger : Ledger seen frontiers events) (name : ι) {action : Action}
    (keeps : action.keeps = true) :
    Ledger seen (act frontiers name action) (events ++ eventsOf frontiers name action) where
  contains_iff := ledger.contains_iff_act name keeps
  distinct := by
    rw [ledger.map_entries_act]
    refine List.nodup_append.mpr ⟨ledger.distinct, ?_, ?_⟩
    · exact (Option.toList_nodup _).filter _
    · -- A URL that has an entry was offered, and an offer is taken up only if it was not.
      rintro key member other new rfl
      have unknown := of_decide_eq_true (List.mem_filter.mp new).2
      exact unknown (.inr ((ledger.fresh key).mp member).2)
  fresh key := by
    rw [ledger.map_entries_act, List.mem_append, ledger.fresh, List.mem_filter,
      Option.mem_toList, decide_eq_true_iff, offeredKeys_append, List.mem_append,
      offeredKeys_eventsOf, Option.mem_toList]
    by_cases known : key ∈ offeredKeys events
    · simp [known]
    · simp [known, and_comm]
  line other := by
    rw [logOf_append_eventsOf]
    by_cases same : other = name
    · subst same
      have moved := (frontiers other).handedOut_append_queued_act keeps
      have queued : (Fleet.act frontiers other action other).queued =
          ((frontiers other).act action).queued := by rw [Fleet.act, if_pos rfl]
      rw [if_pos rfl, takenUp, handedOut, List.filterMap_append, List.filterMap_append,
        ← takenUp, ← takenUp, ← handedOut, ← handedOut, ledger.line, List.append_assoc,
        List.append_assoc, queued, moved]
    · have queued : (Fleet.act frontiers name action other).queued = (frontiers other).queued := by
        rw [Fleet.act, if_neg same]
        rfl
      rw [if_neg same, List.append_nil, queued, ledger.line]

/-- Exactly one offer of a URL is taken up if the URL was offered and not known from the start. -/
theorem countP_entries (ledger : Ledger seen frontiers events) (key : String) :
    (entries events).countP (·.2.url.key = key) =
      if seen.contains key = true ∨ key ∉ offeredKeys events then 0 else 1 := by
  have counted : (entries events).countP (·.2.url.key = key) =
      ((entries events).map (·.2.url.key)).count key := by
    rw [List.count, List.countP_map]
    exact List.countP_congr fun entry _ => by simp
  rw [counted]
  split
  · next without =>
    refine List.count_eq_zero.mpr fun member => ?_
    obtain ⟨unknown, offered⟩ := (ledger.fresh key).mp member
    exact without.elim unknown fun unoffered => unoffered offered
  · next otherwise =>
    obtain ⟨unknown, offered⟩ := not_or.mp otherwise
    exact List.count_eq_one_of_mem ledger.distinct
      ((ledger.fresh key).mpr ⟨unknown, not_not.mp offered⟩)

/-- No other entry has the URL of an entry. -/
theorem filter_entries (ledger : Ledger seen frontiers events) {entry : ι × QueuedUrl}
    (member : entry ∈ entries events) :
    (entries events).filter (·.2.url.key = entry.2.url.key) = [entry] := by
  obtain ⟨unknown, offered⟩ := (ledger.fresh _).mp (List.mem_map_of_mem member)
  have one : ((entries events).filter (·.2.url.key = entry.2.url.key)).length = 1 := by
    rw [← List.countP_eq_length_filter, ledger.countP_entries,
      if_neg (not_or.mpr ⟨unknown, not_not.mpr offered⟩)]
  obtain ⟨only, single⟩ := List.length_eq_one_iff.mp one
  have found : entry ∈ (entries events).filter (·.2.url.key = entry.2.url.key) :=
    List.mem_filter.mpr ⟨member, decide_eq_true rfl⟩
  rw [single] at found ⊢
  rw [List.mem_singleton.mp found]

end Ledger

/-- The keys of the URLs that actions offer. -/
def dueKeys (actions : List (ι × Action)) : List String :=
  actions.filterMap fun entry => entry.2.offeredKey?

/-- Whether a worker is about to offer a URL. -/
def Due (pending : Nat → List (ι × Action)) (key : String) : Prop :=
  ∃ worker, key ∈ dueKeys (pending worker)

omit [DecidableEq ι] in
/-- The actions of an operation offer what the operation offers. -/
theorem dueKeys_actions (name : ι) (rules : Rules) (operation : Operation) :
    dueKeys ((operation.actions rules).map (name, ·)) = operation.offeredKeys rules := by
  rw [dueKeys, List.filterMap_map]
  rfl

omit [DecidableEq ι] in
/-- The first of the actions offers its URL, and the others offer theirs. -/
theorem mem_dueKeys_cons (name : ι) (action : Action) (rest : List (ι × Action)) (key : String) :
    key ∈ dueKeys ((name, action) :: rest) ↔
      action.offeredKey? = some key ∨ key ∈ dueKeys rest := by
  cases offers : action.offeredKey? with
  | none => simp [dueKeys, offers]
  | some offered => simp [dueKeys, offers, eq_comm]

omit [DecidableEq ι] in
/-- When a worker gets other actions, these are about to be offered instead of its own. -/
theorem due_update_iff (pending : Nat → List (ι × Action)) (worker : Nat)
    (actions : List (ι × Action)) (key : String) :
    Due (Function.update pending worker actions) key ↔
      key ∈ dueKeys actions ∨ ∃ other ≠ worker, key ∈ dueKeys (pending other) :=
  Function.exists_update_iff pending fun _ actions => key ∈ dueKeys actions

omit [DecidableEq ι] in
/-- A URL is about to be offered by one worker or by another. -/
theorem due_iff (pending : Nat → List (ι × Action)) (worker : Nat) (key : String) :
    Due pending key ↔ key ∈ dueKeys (pending worker) ∨
      ∃ other ≠ worker, key ∈ dueKeys (pending other) := by
  have split := due_update_iff pending worker (pending worker) key
  rwa [Function.update_eq_self] at split

namespace Run

variable {seen : SeenStore} {fleet : Fleet ι} {begun : List (ι × Operation)}
  {events : List (ι × Event)}

/-- No worker is about to take anything back. -/
theorem keeps_of_mem_pending (run : Run seen fleet begun events) :
    ∀ worker, ∀ entry ∈ fleet.pending worker, entry.2.keeps = true := by
  induction run with
  | start new shared => exact fun _ _ member => absurd member List.not_mem_nil
  | begin run worker name operation keeps idle ih =>
    refine (Function.forall_update_iff _ fun _ (actions : List (ι × Action)) =>
      ∀ entry ∈ actions, entry.2.keeps = true).mpr
      ⟨?_, fun other _ => ih other⟩
    intro entry member
    obtain ⟨action, among, rfl⟩ := List.mem_map.mp member
    exact Operation.keeps_of_mem_actions keeps among
  | act run worker name action rest due ih =>
    refine (Function.forall_update_iff _ fun _ (actions : List (ι × Action)) =>
      ∀ entry ∈ actions, entry.2.keeps = true).mpr
      ⟨?_, fun other _ => ih other⟩
    intro entry member
    exact ih worker entry (due ▸ List.mem_cons_of_mem _ member)

/-- The ledger is kept all the way. -/
theorem ledger (run : Run seen fleet begun events) : Ledger seen fleet.frontiers events := by
  induction run with
  | start new shared => exact .start new shared
  | begin run worker name operation keeps idle ih => exact ih
  | act run worker name action rest due ih =>
    exact ih.act name (run.keeps_of_mem_pending worker _ (due ▸ List.mem_cons_self))

/-- What the operations offer that were begun is offered or is about to be. -/
theorem mem_offeredKeys_or_due_iff (run : Run seen fleet begun events) (key : String) :
    key ∈ offeredKeys events ∨ Due fleet.pending key ↔
      ∃ entry ∈ begun, key ∈ entry.2.offeredKeys (fleet.frontiers entry.1).rules := by
  induction run with
  | start new shared => simp [offeredKeys, Due, dueKeys]
  | @begin fleet begun events run worker name operation keeps idle ih =>
    have nothing : key ∉ dueKeys (fleet.pending worker) := by rw [idle]; exact List.not_mem_nil
    change _ ∨ Due (Function.update fleet.pending worker _) key ↔
      ∃ entry ∈ begun ++ [(name, operation)],
        key ∈ entry.2.offeredKeys (fleet.frontiers entry.1).rules
    rw [due_iff _ worker, or_iff_right nothing] at ih
    rw [due_update_iff, dueKeys_actions]
    simp only [List.mem_append, List.mem_singleton, or_and_right, exists_or, exists_eq_left, ← ih]
    exact (or_congr_right or_comm).trans or_assoc.symm
  | @act fleet begun events run worker name action rest due ih =>
    simp only [act_rules]
    rw [← ih, due_update_iff, due_iff fleet.pending worker, due, mem_dueKeys_cons,
      offeredKeys_append, List.mem_append, offeredKeys_eventsOf, Option.mem_toList, or_assoc,
      or_assoc]

/-- While nothing is taken back, of all offers of one URL to frontiers over one store exactly one is
taken up, unless the store contained the URL from the start or nobody offered it. What comes into
the queue of a frontier are the URLs whose offers to it were taken up, in order, so a URL comes into
one queue, once, and into no other. The store contains what it contained from the start and what was
offered; when no worker has anything left to do, that is what the operations offer that were
begun. -/
theorem taken_up_once (run : Run seen fleet begun events) :
    (∀ key, (entries events).countP (·.2.url.key = key) =
      if seen.contains key = true ∨ key ∉ offeredKeys events then 0 else 1) ∧
    (∀ name, handedOut (logOf name events) ++ (fleet.frontiers name).queued =
      ((entries events).filter (·.1 = name)).map (·.2)) ∧
    (∀ entry ∈ entries events, ∀ name,
      ((handedOut (logOf name events) ++ (fleet.frontiers name).queued).filter
        (·.url.key = entry.2.url.key)) = if name = entry.1 then [entry.2] else []) ∧
    (∀ name key, (fleet.frontiers name).seen.contains key = true ↔
      seen.contains key = true ∨ key ∈ offeredKeys events) ∧
    ((∀ worker, fleet.pending worker = []) → ∀ key, key ∈ offeredKeys events ↔
      ∃ entry ∈ begun, key ∈ entry.2.offeredKeys (fleet.frontiers entry.1).rules) := by
  have ledger := run.ledger
  have line (name : ι) : handedOut (logOf name events) ++ (fleet.frontiers name).queued =
      ((entries events).filter (·.1 = name)).map (·.2) := by
    rw [map_filter_entries, ledger.line]
  refine ⟨ledger.countP_entries, line, ?_, ledger.contains_iff, ?_⟩
  · intro entry member name
    have swapped : ((entries events).filter (·.1 = name)).filter
        (·.2.url.key = entry.2.url.key) = [entry].filter (·.1 = name) := by
      rw [List.filter_comm, ledger.filter_entries member]
    rw [line, List.filter_map, Function.comp_def, swapped]
    by_cases same : name = entry.1
    · simp [same]
    · simp [same, Ne.symm same]
  · intro idle key
    rw [← run.mem_offeredKeys_or_due_iff, or_iff_left]
    rintro ⟨worker, due⟩
    rw [idle worker] at due
    exact List.not_mem_nil due

/-- Two workers offer one URL to two frontiers as different kinds. The offer that comes first is
taken up, and the other frontier gets nothing. -/
theorem taken_up_once_race :
    ∃ (fleet : Fleet Bool) (begun : List (Bool × Operation)) (events : List (Bool × Event)),
      Run .empty fleet begun events ∧
      events = [(false, .enqueued ⟨System.frontPage, .sitemap⟩),
        (true, .known ⟨System.frontPage, .content⟩)] ∧
      (entries events).countP (·.2.url.key = System.frontPage.key) = 1 ∧
      (fleet.frontiers false).queued = [⟨System.frontPage, .sitemap⟩] ∧
      (fleet.frontiers true).queued = [] := by
  have start : Run .empty (⟨fun _ => .withSeen .empty {}, fun _ => []⟩ : Fleet Bool) [] [] :=
    .start (fun _ => .withSeen .empty {}) fun _ => rfl
  have called := (start.begin 0 false (.offerUrl System.frontPage .sitemap) rfl rfl).begin 1 true
    (.offerUrl System.frontPage .content) rfl rfl
  have first := called.act 0 false (.enter System.frontPage .sitemap) [(false, .count)] rfl
  have entered := first.act 1 true (.enter System.frontPage .content) [(true, .count)] rfl
  obtain ⟨count, _, _, _, _⟩ := taken_up_once entered
  refine ⟨_, _, _, entered, ?shown, ?_, ?_, ?_⟩
  case shown => cbv
  · rw [count, if_neg]
    rintro (known | unoffered)
    · have unknown : SeenStore.empty.contains System.frontPage.key = false := by cbv
      rw [unknown] at known
      cases known
    · rw [offeredKeys_append, offeredKeys_eventsOf] at unoffered
      exact unoffered (List.mem_append_right _ List.mem_cons_self)
  · cbv
  · cbv

end Run

end Fleet

end CrawlFrontier
