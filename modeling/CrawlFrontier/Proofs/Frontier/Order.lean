import CrawlFrontier.Proofs.Frontier.Safety
import Mathlib.Data.List.Permutation

/-!
# Order of a frontier

While workers share a frontier, a log keeps the events since the frontier was new or was last
emptied. One URL can be put into the queue several times, after it was taken back each time, so the
log is read entry by entry: what became of an entry is said by the first later event that hands its
URL out or takes it back. Main statement: the entries that were not taken back while they waited are
those that were handed out, followed by those that wait, in the order in which they were put into
the queue.
-/

namespace CrawlFrontier

namespace Frontier

/-- What became of an entry of the queue. -/
inductive Fate where
  | waiting
  | handed
  | dropped
  deriving DecidableEq, Repr

/-- What an event makes of an entry with the given URL that was waiting until then. -/
def Event.fate (key : String) : Event → Fate
  | handed item => if item.url.key = key then .handed else .waiting
  | retracted url => if url.key = key then .dropped else .waiting
  | enqueued _ | known _ => .waiting

/-- What an event makes of an entry with the given fate. -/
def Event.settle (event : Event) : QueuedUrl × Fate → QueuedUrl × Fate
  | (item, .waiting) => (item, event.fate item.url.key)
  | (item, .handed) => (item, .handed)
  | (item, .dropped) => (item, .dropped)

/-- The log after an action: emptying the frontier begins a new one. -/
def record (frontier : Frontier) (log : List Event) : Action → List Event
  | .clear => []
  | action => log ++ (frontier.event? action).toList

/-- The log after actions that nobody interrupts. -/
def recordAll (frontier : Frontier) (log : List Event) : List Action → List Event
  | [] => log
  | action :: actions => (frontier.act action).recordAll (frontier.record log action) actions

namespace Log

/-- What became of an entry with the given URL, by the events since it was put into the queue. -/
def fateIn (key : String) : List Event → Fate
  | [] => .waiting
  | event :: later =>
    match event.fate key with
    | .waiting => fateIn key later
    | .handed => .handed
    | .dropped => .dropped

/-- The entries of the queue in the order in which they were put there, and what became of each. -/
def fates : List Event → List (QueuedUrl × Fate)
  | [] => []
  | .enqueued item :: later => (item, fateIn item.url.key later) :: fates later
  | .known _ :: later | .handed _ :: later | .retracted _ :: later => fates later

/-- The entries that were not taken back while they waited. -/
def kept (log : List Event) : List QueuedUrl :=
  ((fates log).filter (·.2 ≠ .dropped)).map (·.1)

/-- One more event settles an entry that was waiting until then. -/
theorem fateIn_append_singleton (item : QueuedUrl) (log : List Event) (event : Event) :
    (item, fateIn item.url.key (log ++ [event])) =
      event.settle (item, fateIn item.url.key log) := by
  induction log with
  | nil =>
    simp only [List.nil_append, fateIn, Event.settle]
    cases event.fate item.url.key <;> rfl
  | cons first log ih =>
    simp only [List.cons_append, fateIn]
    cases first.fate item.url.key with
    | waiting => exact ih
    | handed => rfl
    | dropped => rfl

/-- One more event settles the entries that waited for it, and adds the entry that it is. -/
theorem fates_append_singleton (log : List Event) (event : Event) :
    fates (log ++ [event]) = (fates log).map event.settle ++ fates [event] := by
  induction log with
  | nil => rfl
  | cons first log ih =>
    cases first with
    | enqueued item =>
      simp only [List.cons_append, fates, ih, List.map_cons, fateIn_append_singleton]
    | known item => exact ih
    | handed item => exact ih
    | retracted url => exact ih

/-- An entry that is dropped stays dropped. -/
theorem filter_map_settle (event : Event) (entries : List (QueuedUrl × Fate)) :
    (entries.map event.settle).filter (·.2 ≠ .dropped) =
      ((entries.filter (·.2 ≠ .dropped)).map event.settle).filter (·.2 ≠ .dropped) := by
  rw [List.filter_map, List.filter_map, List.filter_filter]
  congr 1
  apply List.filter_congr
  rintro ⟨item, fate⟩ _
  cases fate with
  | waiting => simp
  | handed => simp
  | dropped => simp [Event.settle]

/-- Entries of one other fate are all kept. -/
theorem filter_map_fate {fate : Fate} (apart : fate ≠ .dropped) (items : List QueuedUrl) :
    (items.map (·, fate)).filter (·.2 ≠ .dropped) = items.map (·, fate) := by
  apply List.filter_eq_self.mpr
  intro entry member
  obtain ⟨item, _, rfl⟩ := List.mem_map.mp member
  exact decide_eq_true apart

/-- One more event hands out the URL that it says. -/
theorem handedOut_append_singleton (log : List Event) (event : Event) :
    handedOut (log ++ [event]) = handedOut log ++ event.handed?.toList := by
  cases event <;> simp [handedOut, Event.handed?]

/-- Of the entries that were not dropped, those that were handed out come first, in the order in
which they were handed out, and those that wait come behind them, in the order of the queue. -/
def Ordered (log : List Event) (queued : List QueuedUrl) : Prop :=
  (fates log).filter (·.2 ≠ .dropped) =
    (handedOut log).map (·, .handed) ++ queued.map (·, .waiting)

namespace Ordered

variable {log : List Event} {queued : List QueuedUrl}

/-- One more event settles the waiting entries only. -/
theorem filter_append_singleton (ordered : Ordered log queued) (event : Event) :
    (fates (log ++ [event])).filter (·.2 ≠ .dropped) =
      (handedOut log).map (·, .handed) ++
        (queued.map fun item => (item, event.fate item.url.key)).filter (·.2 ≠ .dropped) ++
          (fates [event]).filter (·.2 ≠ .dropped) := by
  have settled : ((handedOut log).map (·, Fate.handed)).map event.settle =
      (handedOut log).map (·, .handed) := by
    rw [List.map_map]
    rfl
  rw [fates_append_singleton, List.filter_append, filter_map_settle, ordered, List.map_append,
    List.filter_append, settled, filter_map_fate (by decide), List.map_map]
  rfl

/-- A URL that is put into the queue waits behind all others. -/
theorem enqueued (ordered : Ordered log queued) (item : QueuedUrl) :
    Ordered (log ++ [.enqueued item]) (queued ++ [item]) := by
  have others : (queued.map fun other => (other, (Event.enqueued item).fate other.url.key)) =
      queued.map (·, .waiting) := rfl
  rw [Ordered, ordered.filter_append_singleton, others, filter_map_fate (by decide),
    handedOut_append_singleton, List.map_append, List.map_append, List.append_assoc]
  simp [fates, fateIn, Event.handed?]

/-- A URL that is known already changes no entry. -/
theorem known (ordered : Ordered log queued) (item : QueuedUrl) :
    Ordered (log ++ [.known item]) queued := by
  have others : (queued.map fun other => (other, (Event.known item).fate other.url.key)) =
      queued.map (·, .waiting) := rfl
  rw [Ordered, ordered.filter_append_singleton, others, filter_map_fate (by decide),
    handedOut_append_singleton]
  simp [fates, Event.handed?]

/-- Handing out the first URL that waits settles its entry and no other, because no other has the
same URL. -/
theorem handed {item : QueuedUrl} (ordered : Ordered log (item :: queued))
    (apart : item.url.key ∉ queued.map fun item => item.url.key) :
    Ordered (log ++ [.handed item]) queued := by
  have others : (queued.map fun other => (other, (Event.handed item).fate other.url.key)) =
      queued.map (·, .waiting) := by
    apply List.map_congr_left
    intro other member
    have differs : item.url.key ≠ other.url.key := fun same =>
      apart (List.mem_map.mpr ⟨other, member, same.symm⟩)
    rw [Event.fate, if_neg differs]
  have first : (item, (Event.handed item).fate item.url.key) = (item, .handed) := by
    rw [Event.fate, if_pos rfl]
  rw [Ordered, ordered.filter_append_singleton, List.map_cons, others, first,
    List.filter_cons_of_pos rfl, filter_map_fate (by decide),
    handedOut_append_singleton]
  simp [fates, Event.handed?]

/-- Taking a URL back drops the entries with that URL that wait, and no others. -/
theorem retracted (ordered : Ordered log queued) (url : CanonicalUrl) :
    Ordered (log ++ [.retracted url]) (queued.filter fun item => item.url.key ≠ url.key) := by
  have dropped : (queued.map fun item => (item, (Event.retracted url).fate item.url.key)).filter
      (·.2 ≠ .dropped) =
        (queued.filter fun item => item.url.key ≠ url.key).map (·, .waiting) := by
    rw [List.filter_map]
    have same : (queued.filter ((fun entry : QueuedUrl × Fate => decide (entry.2 ≠ .dropped)) ∘
        fun item => (item, (Event.retracted url).fate item.url.key))) =
          queued.filter fun item => item.url.key ≠ url.key := by
      apply List.filter_congr
      intro item _
      by_cases named : url.key = item.url.key
      · simp [Event.fate, named]
      · simp [Event.fate, named, Ne.symm named]
    rw [same]
    apply List.map_congr_left
    intro item member
    have differs : item.url.key ≠ url.key := of_decide_eq_true (List.mem_filter.mp member).2
    rw [Event.fate, if_neg (Ne.symm differs)]
  rw [Ordered, ordered.filter_append_singleton, dropped, handedOut_append_singleton]
  simp [fates, Event.handed?]

/-- The entries of one fate that are not dropped. -/
theorem filter_eq (ordered : Ordered log queued) (fate : Fate) (apart : fate ≠ .dropped) :
    ((fates log).filter (·.2 = fate)).map (·.1) =
      (if fate = .handed then handedOut log else []) ++ if fate = .waiting then queued else [] := by
  have among : (fates log).filter (·.2 = fate) =
      ((fates log).filter (·.2 ≠ .dropped)).filter (·.2 = fate) := by
    rw [List.filter_filter]
    apply List.filter_congr
    rintro ⟨item, other⟩ _
    by_cases same : other = fate
    · simp [same, apart]
    · simp [same]
  have projected (items : List QueuedUrl) (other : Fate) :
      (((items.map (·, other)).filter (·.2 = fate)).map (·.1)) =
        if fate = other then items else [] := by
    by_cases same : fate = other
    · simp [same, List.filter_map, Function.comp_def]
    · simp [same, Ne.symm same, List.filter_map, Function.comp_def]
  rw [among, ordered, List.filter_append, List.map_append, projected, projected]

end Ordered

/-- The entries are the URLs whose offers were taken up, in order. -/
theorem map_fates (log : List Event) : (fates log).map (·.1) = takenUp log := by
  induction log with
  | nil => rfl
  | cons event log ih =>
    cases event with
    | enqueued item => exact congrArg (item :: ·) ih
    | known item | handed item | retracted url => exact ih

end Log

open Log

/-- Every action keeps the entries in order. -/
theorem Safe.ordered_act {frontier : Frontier} (safe : frontier.Safe)
    {log : List Event} (ordered : Ordered log frontier.queued) (action : Action) :
    Ordered (frontier.record log action) (frontier.act action).queued := by
  cases action with
  | enter url kind =>
    change Ordered (log ++ (frontier.event? _).toList) (frontier.enter url kind).1.queued
    rw [event?_enter, queued_enter]
    by_cases seen : frontier.seen.contains url.key = true
    · rw [if_pos seen, if_pos seen]
      exact ordered.known _
    · rw [if_neg seen, if_neg seen]
      exact ordered.enqueued _
  | take =>
    change Ordered (log ++ (frontier.event? _).toList) frontier.next.2.queued
    rw [event?_take, queued_next]
    cases waits : frontier.queued with
    | nil =>
      rw [waits] at ordered
      simpa using ordered
    | cons item rest =>
      have distinct := safe.distinct
      rw [waits] at ordered distinct
      exact ordered.handed (List.nodup_cons.mp distinct).1
  | withdraw url =>
    change Ordered (log ++ [.retracted url]) (frontier.retract url).1.queued
    rw [queued_retract]
    exact ordered.retracted url
  | clear => rfl
  | count | recount =>
    change Ordered (log ++ []) frontier.queued
    rwa [List.append_nil]

end Frontier

namespace System

open Frontier (Event)
open Frontier.Log

/-- The states that a new frontier gets into, each with the log of the events since the frontier was
new or was last emptied. -/
inductive Recorded : System → List Event → Prop where
  | new {frontier : Frontier} (new : frontier.IsNew) : Recorded ⟨frontier, fun _ => []⟩ []
  | begin {system : System} {log : List Event} (recorded : Recorded system log) (worker : Nat)
      (operation : Operation) (idle : system.pending worker = []) :
      Recorded { system with
        pending := Function.update system.pending worker
          (operation.actions system.frontier.rules) } log
  | act {system : System} {log : List Event} (recorded : Recorded system log) (worker : Nat)
      (action : Action) (rest : List Action) (due : system.pending worker = action :: rest) :
      Recorded ⟨system.frontier.act action, Function.update system.pending worker rest⟩
        (system.frontier.record log action)
  | mark {system : System} {log : List Event} (recorded : Recorded system log) (url : String)
      (kind : DocumentKind) :
      Recorded { system with frontier := system.frontier.marked url kind } log

/-- Keeping a log does not change what happens. -/
theorem Recorded.reachable {system : System} {log : List Event}
    (recorded : Recorded system log) : Reachable system := by
  induction recorded with
  | new new => exact .new new
  | begin recorded worker operation idle ih => exact ih.step (.begin worker operation idle)
  | act recorded worker action rest due ih => exact ih.step (.act worker action rest due)
  | mark recorded url kind ih => exact ih.step (.mark url kind)

/-- Whatever happens has a log. -/
theorem Reachable.exists_recorded {system : System} (reached : Reachable system) :
    ∃ log, Recorded system log := by
  induction reached with
  | new new => exact ⟨_, .new new⟩
  | step reached step ih =>
    obtain ⟨log, recorded⟩ := ih
    cases step with
    | begin worker operation idle => exact ⟨_, recorded.begin worker operation idle⟩
    | act worker action rest due => exact ⟨_, recorded.act worker action rest due⟩
    | mark url kind => exact ⟨_, recorded.mark url kind⟩

/-- A worker that nobody interrupts performs its actions to the end. -/
theorem Recorded.foldl_act {frontier : Frontier} {actions : List Action} {log : List Event}
    (recorded : Recorded ⟨frontier, Function.update (fun _ => []) 0 actions⟩ log) :
    Recorded ⟨actions.foldl Frontier.act frontier, fun _ => []⟩
      (frontier.recordAll log actions) := by
  induction actions generalizing frontier log with
  | nil => rwa [Function.update_eq_self] at recorded
  | cons action actions ih =>
    have next := recorded.act 0 action actions rfl
    rw [Function.update_idem] at next
    exact ih next

/-- An operation that nobody interrupts adds the events of its actions to the log. -/
theorem Recorded.perform {frontier : Frontier} {log : List Event}
    (recorded : Recorded ⟨frontier, fun _ => []⟩ log) (operation : Operation) :
    Recorded ⟨frontier.perform operation, fun _ => []⟩
      (frontier.recordAll log (operation.actions frontier.rules)) := by
  rw [Frontier.perform_eq_foldl_act]
  exact (recorded.begin 0 operation rfl).foldl_act

/-- The entries are in order all the way. -/
theorem Recorded.ordered {system : System} {log : List Event}
    (recorded : Recorded system log) : Ordered log system.frontier.queued := by
  induction recorded with
  | new new => rw [new.queued_eq_nil]; rfl
  | begin recorded worker operation idle ih => exact ih
  | act recorded worker action rest due ih => exact recorded.reachable.safe.ordered_act ih action
  | mark recorded url kind ih => exact ih

/-- However workers share a frontier, read the log since the frontier was new or was last emptied.
The entries are the URLs whose offers were taken up, in order and with their kinds, and each of them
has a fate. Those that were not taken back while they waited are the URLs that were handed out,
followed by those that wait. So no entry is lost, none is handed out twice and none overtakes an
earlier one: the entries with the fate to be handed out are those that were handed out, and the
entries that wait are in the queue. -/
theorem kept_eq_handedOut_append_queued {system : System} {log : List Event}
    (recorded : Recorded system log) :
    (fates log).map (·.1) = takenUp log ∧
      kept log = handedOut log ++ system.frontier.queued ∧
      ((fates log).filter (·.2 = .handed)).map (·.1) = handedOut log ∧
      ((fates log).filter (·.2 = .waiting)).map (·.1) = system.frontier.queued := by
  have ordered := recorded.ordered
  refine ⟨map_fates log, ?_, ?_, ?_⟩
  · rw [kept, ordered, List.map_append, List.map_map, List.map_map]
    change (handedOut log).map id ++ system.frontier.queued.map id = _
    rw [List.map_id, List.map_id]
  · simpa using ordered.filter_eq .handed (by decide)
  · simpa using ordered.filter_eq .waiting (by decide)

/-- A URL that is taken back while it waits and is offered again as another kind is handed out once,
with the kind of the second offer. -/
theorem kept_eq_handedOut_append_queued_again :
    ∃ system log, Recorded system log ∧
      log = [.enqueued ⟨frontPage, .sitemap⟩, .retracted frontPage,
        .enqueued ⟨frontPage, .content⟩, .handed ⟨frontPage, .content⟩] ∧
      kept log = [⟨frontPage, .content⟩] ∧ system.frontier.queued = [] := by
  have start : Recorded ⟨.withSeen .empty {}, fun _ => []⟩ [] := .new (.withSeen .empty {})
  have recorded := (((start.perform (.offerUrl frontPage .sitemap)).perform
    (.retract frontPage)).perform (.offerUrl frontPage .content)).perform .next
  obtain ⟨_, order, _, _⟩ := kept_eq_handedOut_append_queued recorded
  refine ⟨_, _, recorded, ?_, ?_, ?_⟩
  · cbv
  · rw [order]
    cbv
  · cbv

end System

end CrawlFrontier
