import CrawlFrontier.Proofs.Canonical.Made
import CrawlFrontier.Proofs.Frontier.Safety

/-!
# Waiting URLs that were made

A frontier makes the canonical URLs of the texts that it is offered, and a canonical URL that it is
offered as such was made before. Main statement: in every state that is reached in this way all
waiting URLs were made.
-/

namespace CrawlFrontier

/-- An operation enters the URL that it is given, or URLs that it reads from texts. -/
theorem Operation.eq_or_exists_parse_of_enter_mem {rules : Rules} {operation : Operation}
    {url : CanonicalUrl} {kind : DocumentKind}
    (member : .enter url kind ∈ operation.actions rules) :
    operation = .offerUrl url kind ∨ ∃ text, CanonicalUrl.parse rules text = .ok url := by
  rcases cases_of_mem_actions member with
    offers | ⟨other, otherKind, own, same⟩ | ⟨-, same⟩ | ⟨other, -, same⟩ | ⟨-, same | same⟩
  · exact .inr offers
  · cases same
    exact .inl own
  all_goals cases same

/-- What waits after an action waited before, or the action entered it. -/
theorem Frontier.mem_queued_act {frontier : Frontier} {action : Action} {item : QueuedUrl}
    (waits : item ∈ (frontier.act action).queued) :
    item ∈ frontier.queued ∨ action = .enter item.url item.kind := by
  cases action with
  | enter url kind =>
    change item ∈ (frontier.enter url kind).1.queued at waits
    rw [queued_enter] at waits
    split at waits
    · exact .inl waits
    · refine (List.mem_append.mp waits).imp_right fun last => ?_
      rw [List.mem_singleton.mp last]
  | take =>
    change item ∈ frontier.next.2.queued at waits
    rw [queued_next] at waits
    exact .inl (List.mem_of_mem_tail waits)
  | withdraw url =>
    change item ∈ (frontier.retract url).1.queued at waits
    rw [queued_retract] at waits
    exact .inl (List.mem_filter.mp waits).1
  | clear => exact absurd waits List.not_mem_nil
  | count | recount => exact .inl waits

namespace System

/-- The states that a new frontier gets into if every canonical URL that is offered as such was made
before. -/
inductive ReachableMade : System → Prop where
  | new {frontier : Frontier} (new : frontier.IsNew) : ReachableMade ⟨frontier, fun _ => []⟩
  | begin {system : System} (reached : ReachableMade system) (worker : Nat) (operation : Operation)
      (made : ∀ url kind, operation = .offerUrl url kind → url.IsMade)
      (idle : system.pending worker = []) :
      ReachableMade { system with
        pending := Function.update system.pending worker
          (operation.actions system.frontier.rules) }
  | act {system : System} (reached : ReachableMade system) (worker : Nat) (action : Action)
      (rest : List Action) (due : system.pending worker = action :: rest) :
      ReachableMade ⟨system.frontier.act action, Function.update system.pending worker rest⟩
  | mark {system : System} (reached : ReachableMade system) (url : String) (kind : DocumentKind) :
      ReachableMade { system with frontier := system.frontier.marked url kind }

/-- These states are among those that are reached whatever is offered. -/
theorem ReachableMade.reachable {system : System} (reached : ReachableMade system) :
    Reachable system := by
  induction reached with
  | new new => exact .new new
  | begin _ worker operation _ idle ih => exact ih.step (.begin worker operation idle)
  | act _ worker action rest due ih => exact ih.step (.act worker action rest due)
  | mark _ url kind ih => exact ih.step (.mark url kind)

/-- All URLs that wait, and all that a worker has still to enter, were made. -/
structure HoldsMade (system : System) : Prop where
  /-- The URLs that wait were made. -/
  waiting : ∀ item ∈ system.frontier.queued, item.url.IsMade
  /-- The URLs that workers have still to enter were made. -/
  coming : ∀ worker url kind, .enter url kind ∈ system.pending worker → url.IsMade

variable {system : System}

/-- A worker that begins an operation has made URLs to enter. -/
theorem HoldsMade.begin (holds : system.HoldsMade) (worker : Nat) {operation : Operation}
    (made : ∀ url kind, operation = .offerUrl url kind → url.IsMade) :
    HoldsMade { system with
      pending := Function.update system.pending worker
        (operation.actions system.frontier.rules) } where
  waiting := holds.waiting
  coming := by
    intro other url kind member
    by_cases same : other = worker
    · subst same
      simp only [Function.update_self] at member
      rcases Operation.eq_or_exists_parse_of_enter_mem member with own | ⟨text, parsed⟩
      · exact made url kind own
      · exact .parsed parsed
    · simp only [Function.update_of_ne same] at member
      exact holds.coming other url kind member

/-- A worker that performs its next action enters nothing but a URL that was made. -/
theorem HoldsMade.act (holds : system.HoldsMade) {worker : Nat} {action : Action}
    {rest : List Action} (due : system.pending worker = action :: rest) :
    HoldsMade ⟨system.frontier.act action, Function.update system.pending worker rest⟩ where
  waiting := by
    intro item waits
    rcases Frontier.mem_queued_act waits with before | entered
    · exact holds.waiting item before
    · refine holds.coming worker item.url item.kind ?_
      rw [due, entered]
      exact List.mem_cons_self
  coming := by
    intro other url kind member
    by_cases same : other = worker
    · subst same
      simp only [Function.update_self] at member
      refine holds.coming other url kind ?_
      rw [due]
      exact List.mem_cons_of_mem action member
    · simp only [Function.update_of_ne same] at member
      exact holds.coming other url kind member

/-- In every state that is reached all waiting URLs were made. -/
theorem ReachableMade.holdsMade (reached : ReachableMade system) : system.HoldsMade := by
  induction reached with
  | new new =>
    constructor
    · intro item waits
      rw [new.queued_eq_nil] at waits
      exact absurd waits List.not_mem_nil
    · intro worker url kind member
      exact absurd member List.not_mem_nil
  | begin _ worker operation made _ ih => exact ih.begin worker made
  | act _ worker action rest due ih => exact ih.act due
  | mark _ url kind ih => exact ⟨ih.waiting, ih.coming⟩

end System

end CrawlFrontier
