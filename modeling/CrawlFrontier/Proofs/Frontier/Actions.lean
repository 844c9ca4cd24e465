import CrawlFrontier.Discovery.Document

/-!
# Operations as sequences of actions

An action is a step of a frontier that no other worker can divide: what happens while the queue is
locked, or one change of the counter of offers. Which actions an operation consists of depends on
its arguments and on the rules of the frontier alone, never on what waits or was seen, so an
operation is the list of its actions. Main statement: an operation that nobody interrupts is the
sequence of its actions. What an action shows to the worker that performs it is its event.
-/

namespace CrawlFrontier

/-- A step of a frontier that no other worker can divide. -/
inductive Action where
  /-- Puts a URL into the queue if it is new. -/
  | enter (url : CanonicalUrl) (kind : DocumentKind)
  /-- Counts an offer. -/
  | count
  /-- Takes the next URL out of the queue. -/
  | take
  /-- Takes a URL back. -/
  | withdraw (url : CanonicalUrl)
  /-- Empties the queue and the store. -/
  | clear
  /-- Begins to count offers anew. -/
  | recount

/-- What a worker asks of a frontier. -/
inductive Operation where
  | offer (text : String) (kind : DocumentKind)
  | offerUrl (url : CanonicalUrl) (kind : DocumentKind)
  | offerDiscovered (links : List Link)
  | offerDocument (source : QueuedUrl) (body : String)
  | seed (text : String)
  | next
  | retract (url : CanonicalUrl)
  | reset

namespace Frontier

/-- The frontier after an action. -/
def act (frontier : Frontier) : Action → Frontier
  | .enter url kind => (frontier.enter url kind).1
  | .count => frontier.countOffer
  | .take => frontier.next.2
  | .withdraw url => (frontier.retract url).1
  | .clear => { frontier.reset.1 with offers := frontier.offers }
  | .recount => { frontier with offers := 0 }

/-- The frontier after an operation that nobody interrupts. -/
def perform (frontier : Frontier) : Operation → Frontier
  | .offer text kind => (frontier.offer text kind).frontier
  | .offerUrl url kind => (frontier.offerUrl url kind).frontier
  | .offerDiscovered links => (frontier.offerDiscovered links).frontier
  | .offerDocument source body => (frontier.offerDocument source body).frontier
  | .seed text => (frontier.seed text).frontier
  | .next => frontier.next.2
  | .retract url => (frontier.retract url).1
  | .reset => frontier.reset.1

/-- The frontier after another user of its store has marked a URL there. -/
def marked (frontier : Frontier) (url : String) (kind : DocumentKind) : Frontier :=
  { frontier with seen := (frontier.seen.mark url kind).2 }

end Frontier

namespace Operation

/-- The actions of an offer of a canonical URL. -/
def urlActions (url : CanonicalUrl) (kind : DocumentKind) : List Action := [.enter url kind, .count]

/-- The actions of an offer of a text; a text without a canonical URL is refused at once. -/
def textActions (rules : Rules) (text : String) (kind : DocumentKind) : List Action :=
  match CanonicalUrl.parse rules text with
  | .error _ => []
  | .ok url => urlActions url kind

/-- The actions of an offer of links. -/
def linkActions (rules : Rules) (links : List Link) : List Action :=
  links.flatMap fun link => textActions rules link.url link.kind

/-- The actions of a seed, which is refused before anything else if one of its URLs is. -/
def seedActions (rules : Rules) (text : String) : List Action :=
  match CanonicalUrl.parse rules text with
  | .error _ => []
  | .ok url =>
    match url.url.robots? with
    | none => urlActions url .content
    | some robots =>
      match CanonicalUrl.parse rules robots.toString with
      | .error _ => []
      | .ok robots => urlActions robots .robots ++ urlActions url .content

/-- The actions of an operation. -/
def actions (rules : Rules) : Operation → List Action
  | offer text kind => textActions rules text kind
  | offerUrl url kind => urlActions url kind
  | offerDiscovered links => linkActions rules links
  | offerDocument source body => linkActions rules (source.kind.links source.url.url body).1
  | seed text => seedActions rules text
  | next => [.take]
  | retract url => [.withdraw url]
  | reset => [.clear, .recount]

end Operation

/-- Whether an action belongs to the offer of some text: it enters the canonical URL of the text or
counts the offer. -/
def Action.OffersText (rules : Rules) : Action → Prop
  | enter url _ => ∃ text, CanonicalUrl.parse rules text = .ok url
  | count => True
  | take | withdraw _ | clear | recount => False

namespace Operation

variable {rules : Rules} {action : Action}

/-- An offer of the canonical URL of a text is an offer of the text. -/
theorem offersText_of_mem_urlActions {text : String} {url : CanonicalUrl} {kind : DocumentKind}
    (parsed : CanonicalUrl.parse rules text = .ok url) (member : action ∈ urlActions url kind) :
    action.OffersText rules := by
  rw [urlActions, List.mem_cons, List.mem_singleton] at member
  rcases member with rfl | rfl
  · exact ⟨text, parsed⟩
  · exact trivial

/-- The actions of an offer of a text. -/
theorem offersText_of_mem_textActions {text : String} {kind : DocumentKind}
    (member : action ∈ textActions rules text kind) : action.OffersText rules := by
  unfold textActions at member
  split at member
  · exact absurd member List.not_mem_nil
  · next parsed => exact offersText_of_mem_urlActions parsed member

/-- Links are offered as texts. -/
theorem offersText_of_mem_linkActions {links : List Link}
    (member : action ∈ linkActions rules links) : action.OffersText rules := by
  obtain ⟨link, _, member⟩ := List.mem_flatMap.mp member
  exact offersText_of_mem_textActions member

/-- A seed offers its text and, in front of it, the text of the file with the rules for robots. -/
theorem offersText_of_mem_seedActions {text : String}
    (member : action ∈ seedActions rules text) : action.OffersText rules := by
  unfold seedActions at member
  split at member
  · exact absurd member List.not_mem_nil
  · next parsed =>
    split at member
    · exact offersText_of_mem_urlActions parsed member
    · split at member
      · exact absurd member List.not_mem_nil
      · next parsedRobots =>
        rcases List.mem_append.mp member with robots | page
        · exact offersText_of_mem_urlActions parsedRobots robots
        · exact offersText_of_mem_urlActions parsed page

/-- What an action of an operation can be. -/
theorem cases_of_mem_actions {operation : Operation} (member : action ∈ operation.actions rules) :
    action.OffersText rules ∨
      (∃ url kind, operation = .offerUrl url kind ∧ action = .enter url kind) ∨
      (operation = .next ∧ action = .take) ∨
      (∃ url, operation = .retract url ∧ action = .withdraw url) ∨
      (operation = .reset ∧ (action = .clear ∨ action = .recount)) := by
  cases operation with
  | offer text kind =>
    rw [actions] at member
    exact .inl (offersText_of_mem_textActions member)
  | offerUrl url kind =>
    rw [actions, urlActions, List.mem_cons, List.mem_singleton] at member
    rcases member with rfl | rfl
    · exact .inr (.inl ⟨url, kind, rfl, rfl⟩)
    · exact .inl trivial
  | offerDiscovered links =>
    rw [actions] at member
    exact .inl (offersText_of_mem_linkActions member)
  | offerDocument source body =>
    rw [actions] at member
    exact .inl (offersText_of_mem_linkActions member)
  | seed text =>
    rw [actions] at member
    exact .inl (offersText_of_mem_seedActions member)
  | next => exact .inr (.inr (.inl ⟨rfl, List.mem_singleton.mp member⟩))
  | retract url => exact .inr (.inr (.inr (.inl ⟨url, rfl, List.mem_singleton.mp member⟩)))
  | reset =>
    rw [actions, List.mem_cons, List.mem_singleton] at member
    exact .inr (.inr (.inr (.inr ⟨rfl, member⟩)))

end Operation

namespace Frontier

/-- Entering a URL keeps the rules. -/
@[simp] theorem enter_rules (frontier : Frontier) (url : CanonicalUrl) (kind : DocumentKind) :
    (frontier.enter url kind).1.rules = frontier.rules := by
  unfold enter
  split <;> rfl

/-- Taking the next URL keeps the rules. -/
@[simp] theorem next_rules (frontier : Frontier) : frontier.next.2.rules = frontier.rules := by
  unfold next
  split <;> rfl

/-- No action changes the rules. -/
@[simp] theorem act_rules (frontier : Frontier) (action : Action) :
    (frontier.act action).rules = frontier.rules := by
  cases action with
  | enter url kind => exact frontier.enter_rules url kind
  | take => exact frontier.next_rules
  | count => rfl
  | withdraw url => rfl
  | clear => rfl
  | recount => rfl

/-- No sequence of actions changes the rules. -/
@[simp] theorem foldl_act_rules (frontier : Frontier) (actions : List Action) :
    (actions.foldl act frontier).rules = frontier.rules := by
  induction actions generalizing frontier with
  | nil => rfl
  | cons action actions ih => rw [List.foldl_cons, ih, act_rules]

/-- An offer of a canonical URL is its actions. -/
theorem offerUrl_frontier (frontier : Frontier) (url : CanonicalUrl) (kind : DocumentKind) :
    (frontier.offerUrl url kind).frontier = (Operation.urlActions url kind).foldl act frontier :=
  rfl

/-- An offer of a text is its actions. -/
theorem offer_frontier (frontier : Frontier) (text : String) (kind : DocumentKind) :
    (frontier.offer text kind).frontier =
      (Operation.textActions frontier.rules text kind).foldl act frontier := by
  unfold offer Operation.textActions
  cases CanonicalUrl.parse frontier.rules text with
  | error cause => rfl
  | ok url => exact frontier.offerUrl_frontier url kind

/-- An offer of links is its actions, whatever was counted before. -/
theorem offerLinks_frontier (frontier : Frontier) (summary : Summary) (links : List Link) :
    (frontier.offerLinks summary links).frontier =
      (Operation.linkActions frontier.rules links).foldl act frontier := by
  induction links generalizing frontier summary with
  | nil => rfl
  | cons link links ih =>
    have first := frontier.offer_frontier link.url link.kind
    have rules : (frontier.offer link.url link.kind).frontier.rules = frontier.rules := by
      rw [first, foldl_act_rules]
    simp only [offerLinks, Operation.linkActions, List.flatMap_cons, List.foldl_append]
    rw [ih, rules, ← first]
    rfl

/-- A seed is its actions. -/
theorem seed_frontier (frontier : Frontier) (text : String) :
    (frontier.seed text).frontier =
      (Operation.seedActions frontier.rules text).foldl act frontier := by
  unfold seed Operation.seedActions
  cases CanonicalUrl.parse frontier.rules text with
  | error cause => rfl
  | ok url =>
    simp only
    cases url.url.robots? with
    | none => rfl
    | some robots =>
      simp only
      cases CanonicalUrl.parse frontier.rules robots.toString with
      | error cause => rfl
      | ok robots => rfl

/-- An operation that nobody interrupts is the sequence of its actions. -/
theorem perform_eq_foldl_act (frontier : Frontier) (operation : Operation) :
    frontier.perform operation = (operation.actions frontier.rules).foldl act frontier := by
  cases operation with
  | offer text kind => exact frontier.offer_frontier text kind
  | offerUrl url kind => exact frontier.offerUrl_frontier url kind
  | offerDiscovered links => exact frontier.offerLinks_frontier .empty links
  | offerDocument source body => exact frontier.offerLinks_frontier .empty _
  | seed text => exact frontier.seed_frontier text
  | next => rfl
  | retract url => rfl
  | reset => rfl

/-- What an action shows to the worker that performs it. -/
inductive Event where
  /-- The offer of a URL was answered: it is new and waits now. -/
  | enqueued (item : QueuedUrl)
  /-- The offer of a URL was answered: it is known already. -/
  | known (item : QueuedUrl)
  /-- A URL was handed out to be fetched. -/
  | handed (item : QueuedUrl)
  /-- A URL was taken back. -/
  | retracted (url : CanonicalUrl)
  deriving DecidableEq, Repr

/-- The URL that was put into the queue, if one was. -/
def Event.enqueued? : Event → Option QueuedUrl
  | enqueued item => some item
  | known _ | handed _ | retracted _ => none

/-- The URL that was handed out, if one was. -/
def Event.handed? : Event → Option QueuedUrl
  | handed item => some item
  | enqueued _ | known _ | retracted _ => none

/-- The URL that was offered, if one was. -/
def Event.offered? : Event → Option QueuedUrl
  | enqueued item | known item => some item
  | handed _ | retracted _ => none

/-- The event of an offer with the given answer. -/
def Event.ofOffer (item : QueuedUrl) : Offer → Event
  | .enqueued => enqueued item
  | .duplicate => known item

/-- The event of an action, if it shows anything. -/
def event? (frontier : Frontier) : Action → Option Event
  | .enter url kind => some (.ofOffer ⟨url, kind⟩ (frontier.enter url kind).2)
  | .take => frontier.next.1.map .handed
  | .withdraw url => some (.retracted url)
  | .count | .clear | .recount => none

/-- The URLs whose offers were taken up, in order. -/
def Log.takenUp (log : List Event) : List QueuedUrl := log.filterMap Event.enqueued?

/-- The URLs that were handed out, in order. -/
def Log.handedOut (log : List Event) : List QueuedUrl := log.filterMap Event.handed?

end Frontier

end CrawlFrontier
