/-!
# Queues

First in, first out. A queue keeps its back in reverse, so that both ends are reached in constant
time on average. Every operation is described by the list of what waits, the next in front.
-/

namespace CrawlFrontier

/-- A queue with its front in order and its back in reverse. -/
structure Queue (α : Type) where
  front : List α
  back : List α
  deriving Repr

namespace Queue

variable {α : Type}

/-- The queue in which nothing waits. -/
def empty : Queue α := ⟨[], []⟩

/-- What waits, the next in front. -/
def toList (queue : Queue α) : List α := queue.front ++ queue.back.reverse

/-- How many wait. -/
def length (queue : Queue α) : Nat := queue.front.length + queue.back.length

/-- Puts an item at the end. -/
def push (queue : Queue α) (item : α) : Queue α := { queue with back := item :: queue.back }

/-- The next item and the queue without it. -/
def pop? (queue : Queue α) : Option (α × Queue α) :=
  match queue.front with
  | item :: front => some (item, { queue with front })
  | [] =>
    match queue.back.reverse with
    | item :: front => some (item, ⟨front, []⟩)
    | [] => none

/-- Leaves out the items that do not satisfy a predicate. -/
def filter (queue : Queue α) (p : α → Bool) : Queue α :=
  ⟨queue.front.filter p, queue.back.filter p⟩

@[simp] theorem toList_empty : (empty : Queue α).toList = [] := rfl

@[simp] theorem length_toList (queue : Queue α) : queue.toList.length = queue.length := by
  simp [toList, length]

@[simp] theorem toList_push (queue : Queue α) (item : α) :
    (queue.push item).toList = queue.toList ++ [item] := by
  simp [toList, push]

@[simp] theorem toList_filter (queue : Queue α) (p : α → Bool) :
    (queue.filter p).toList = queue.toList.filter p := by
  simp [toList, filter]

/-- Nothing comes from a queue exactly if nothing waits. -/
theorem pop?_eq_none_iff {queue : Queue α} : queue.pop? = none ↔ queue.toList = [] := by
  unfold pop? toList
  split
  · simp_all
  · split <;> simp_all

/-- What comes from a queue is the first that waits. -/
theorem toList_of_pop?_eq_some {queue rest : Queue α} {item : α}
    (h : queue.pop? = some (item, rest)) : queue.toList = item :: rest.toList := by
  unfold pop? at h
  split at h
  · simp only [Option.some.injEq, Prod.mk.injEq] at h
    obtain ⟨rfl, rfl⟩ := h
    simp_all [toList]
  · split at h
    · simp only [Option.some.injEq, Prod.mk.injEq] at h
      obtain ⟨rfl, rfl⟩ := h
      simp_all [toList]
    · simp at h

end Queue

end CrawlFrontier
