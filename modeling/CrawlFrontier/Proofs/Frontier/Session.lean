import CrawlFrontier.Proofs.Frontier.Actions
import CrawlFrontier.Proofs.Frontier.SeenHistory

/-!
# Sessions with a frontier

The users of a frontier ask one thing after another, of the frontier itself or of the store behind
it, and each request has a reply: an answer, and the notices that were given on the way. What a
frontier is can only be known from its replies. Main statement: after a reset a frontier gives the
replies of a new one, whatever was asked of it before and whatever is asked of it later.
-/

namespace CrawlFrontier

/-- What can be asked of a frontier and of its store without changing them. -/
inductive Question where
  | pending
  | queued
  | progress
  | size
  | content
  | isEmpty
  | contains (url : String)
  | kind (url : String)
  deriving DecidableEq, Repr

/-- What a user of a frontier may ask. -/
inductive Request where
  | operation (operation : Operation)
  | store (call : SeenStore.Call)
  | question (question : Question)

/-- What a request is answered with. -/
inductive Answer where
  | offer (result : Except UrlError Offer)
  | summary (summary : Summary)
  | item (item : Option QueuedUrl)
  | items (items : List QueuedUrl)
  | count (number : Nat)
  | counts (total content : Nat)
  | flag (value : Bool)
  | kind (kind : Option DocumentKind)
  | done

/-- What a user sees of a request. -/
structure Reply where
  answer : Answer
  notices : List Notice

/-- The same outcome with a changed answer. -/
def Outcome.map {α β : Type} (change : α → β) (outcome : Outcome α) : Outcome β :=
  ⟨outcome.frontier, change outcome.answer, outcome.notices⟩

namespace Frontier

/-- What an operation gives. -/
def operate (frontier : Frontier) : Operation → Outcome Answer
  | .offer text kind => (frontier.offer text kind).map .offer
  | .offerUrl url kind => (frontier.offerUrl url kind).map fun offer => .offer (.ok offer)
  | .offerDiscovered links => (frontier.offerDiscovered links).map .summary
  | .offerDocument source body => (frontier.offerDocument source body).map .summary
  | .seed text => (frontier.seed text).map .offer
  | .next => ⟨frontier.next.2, .item frontier.next.1, []⟩
  | .retract url => ⟨(frontier.retract url).1, .done, (frontier.retract url).2⟩
  | .reset => ⟨frontier.reset.1, .done, frontier.reset.2⟩

/-- What a call of the store gives. -/
def callStore (frontier : Frontier) (call : SeenStore.Call) : Outcome Answer :=
  let after := { frontier with seen := frontier.seen.call call }
  match call with
  | .mark url kind => ⟨after, .flag (frontier.seen.mark url kind).1, []⟩
  | .forget url => ⟨after, .done, (frontier.seen.forget url).2⟩
  | .clear => ⟨after, .done, frontier.seen.clear.2⟩

/-- The answer to a question. -/
def tell (frontier : Frontier) : Question → Answer
  | .pending => .count frontier.pending
  | .queued => .items frontier.queued
  | .progress => .counts frontier.seen.size frontier.seen.content
  | .size => .count frontier.seen.size
  | .content => .count frontier.seen.content
  | .isEmpty => .flag frontier.seen.isEmpty
  | .contains url => .flag (frontier.seen.contains url)
  | .kind url => .kind (frontier.seen.kind? url)

/-- What a request gives. -/
def respond (frontier : Frontier) : Request → Outcome Answer
  | .operation operation => frontier.operate operation
  | .store call => frontier.callStore call
  | .question question => ⟨frontier, frontier.tell question, []⟩

/-- The frontier after requests, one after the other. -/
def after (frontier : Frontier) (requests : List Request) : Frontier :=
  requests.foldl (fun frontier request => (frontier.respond request).frontier) frontier

/-- The replies to requests, one after the other. -/
def replies (frontier : Frontier) : List Request → List Reply
  | [] => []
  | request :: requests =>
    let outcome := frontier.respond request
    ⟨outcome.answer, outcome.notices⟩ :: outcome.frontier.replies requests

/-- An operation with its reply leaves the frontier that the operation leaves. -/
theorem operate_frontier (frontier : Frontier) (operation : Operation) :
    (frontier.operate operation).frontier = frontier.perform operation := by
  cases operation <;> simp only [operate, perform, Outcome.map]

/-- Whether two frontiers have the same settings, which no request can change. -/
def SameSettings (first second : Frontier) : Prop :=
  first.rules = second.rules ∧ first.interval = second.interval

/-- No action changes the settings. -/
theorem sameSettings_act (frontier : Frontier) (action : Action) :
    SameSettings (frontier.act action) frontier := by
  refine ⟨frontier.act_rules action, ?_⟩
  cases action with
  | enter url kind =>
    show (frontier.enter url kind).1.interval = frontier.interval
    unfold enter
    split <;> rfl
  | take =>
    show frontier.next.2.interval = frontier.interval
    unfold next
    split <;> rfl
  | count | withdraw url | clear | recount => rfl

/-- No sequence of actions changes the settings. -/
theorem sameSettings_foldl_act (frontier : Frontier) (actions : List Action) :
    SameSettings (actions.foldl act frontier) frontier := by
  induction actions generalizing frontier with
  | nil => exact ⟨rfl, rfl⟩
  | cons action actions ih =>
    obtain ⟨rules, interval⟩ := ih (frontier.act action)
    have step := frontier.sameSettings_act action
    exact ⟨rules.trans step.1, interval.trans step.2⟩

/-- No request changes the settings. -/
theorem sameSettings_respond (frontier : Frontier) (request : Request) :
    SameSettings (frontier.respond request).frontier frontier := by
  cases request with
  | operation operation =>
    have actions : (frontier.respond (.operation operation)).frontier =
        (operation.actions frontier.rules).foldl act frontier :=
      (frontier.operate_frontier operation).trans (frontier.perform_eq_foldl_act operation)
    rw [actions]
    exact frontier.sameSettings_foldl_act _
  | store call => cases call <;> exact ⟨rfl, rfl⟩
  | question question => exact ⟨rfl, rfl⟩

/-- No session changes the settings. -/
theorem sameSettings_after (frontier : Frontier) (requests : List Request) :
    SameSettings (frontier.after requests) frontier := by
  induction requests generalizing frontier with
  | nil => exact ⟨rfl, rfl⟩
  | cons request requests ih =>
    obtain ⟨rules, interval⟩ := ih (frontier.respond request).frontier
    have step := frontier.sameSettings_respond request
    exact ⟨rules.trans step.1, interval.trans step.2⟩

/-- A session that ends with a reset leaves nothing of the session but the settings. -/
theorem after_append_reset (frontier : Frontier) (history : List Request) :
    frontier.after (history ++ [.operation .reset]) =
      { withSeen .empty frontier.rules with interval := frontier.interval } := by
  have last : frontier.after (history ++ [.operation .reset]) =
      (frontier.after history).reset.1 := List.foldl_append
  have fresh (used : Frontier) : used.reset.1 =
      { withSeen .empty used.rules with interval := used.interval } := rfl
  obtain ⟨rules, interval⟩ := frontier.sameSettings_after history
  rw [last, fresh, rules, interval]

/-- After a session that ends with a reset, a frontier gives the replies of a new one: answers,
notices and reports of progress, to every later session. A frontier for a configuration replies like
a new one for that configuration, and a frontier over a store that was given to it replies like one
with its rules over a store in which nothing was seen. -/
theorem replies_after_append_reset (history later : List Request) :
    (∀ config : Config,
      ((ofConfig config).after (history ++ [.operation .reset])).replies later =
        (ofConfig config).replies later) ∧
    ∀ (seen : SeenStore) (rules : Rules),
      ((withSeen seen rules).after (history ++ [.operation .reset])).replies later =
        (withSeen .empty rules).replies later := by
  constructor
  · intro config
    rw [after_append_reset]
    rfl
  · intro seen rules
    rw [after_append_reset]
    rfl

end Frontier

end CrawlFrontier
