import CrawlFrontier.Xml.Reader
import Mathlib.Data.List.Infix

/-!
# Documents as forests

Start tags and end tags that belong together make the pieces of a document a forest of elements.
Main statements: the reader lets the pieces of a forest pass as they are, and whatever it delivers
is a beginning of the pieces of a forest.
-/

namespace CrawlFrontier.Xml

/-- A piece of a document in which nothing can stand. -/
inductive Leaf where
  | selfClosed (name : List Char)
  | text (content : List Char)
  | reference (name : List Char)
  | ignored
  deriving DecidableEq, Repr

/-- A leaf as the reader delivers it. -/
def Leaf.event : Leaf → Event
  | selfClosed name => .selfClosed name
  | text content => .text content
  | reference name => .reference name
  | ignored => .ignored

/-- What stands side by side in a document: nothing, a leaf and what follows it, or an element, what
stands inside it and what follows it. -/
inductive Forest where
  | nil
  | leaf (piece : Leaf) (rest : Forest)
  | element (name : List Char) (inside rest : Forest)
  deriving DecidableEq, Repr

namespace Forest

/-- The pieces of a forest, in the order in which the reader delivers them. -/
def events : Forest → List Event
  | nil => []
  | leaf piece rest => piece.event :: rest.events
  | element name inside rest => .opened name :: (inside.events ++ .closed name :: rest.events)

/-- A leaf closes nothing and opens nothing. -/
theorem matchEnds_leaf (elements : List (List Char)) (piece : Leaf) (events : List Event) :
    matchEnds elements (piece.event :: events) =
      ⟨piece.event :: (matchEnds elements events).events,
        (matchEnds elements events).wellFormed⟩ := by
  cases piece with
  | selfClosed name | text content | reference name | ignored => rfl

/-- The pieces of a forest leave the same elements open behind them. -/
theorem matchEnds_events_append (forest : Forest) (elements : List (List Char))
    (events : List Event) :
    matchEnds elements (forest.events ++ events) =
      ⟨forest.events ++ (matchEnds elements events).events,
        (matchEnds elements events).wellFormed⟩ := by
  induction forest generalizing elements events with
  | nil => rfl
  | leaf piece rest ih =>
    show matchEnds elements (piece.event :: (rest.events ++ events)) = _
    rw [matchEnds_leaf, ih]
    rfl
  | element name inside rest insideIh restIh =>
    have shape : (element name inside rest).events ++ events =
        .opened name :: (inside.events ++ .closed name :: (rest.events ++ events)) := by
      simp [Forest.events]
    have closed : matchEnds (name :: elements) (.closed name :: (rest.events ++ events)) =
        ⟨.closed name :: (matchEnds elements (rest.events ++ events)).events,
          (matchEnds elements (rest.events ++ events)).wellFormed⟩ := by
      rw [matchEnds]
      exact if_pos rfl
    rw [shape, matchEnds]
    simp only
    rw [insideIh, closed, restIh]
    simp [Forest.events]

/-- The pieces of a forest pass as they are. -/
theorem matchEnds_events (forest : Forest) :
    matchEnds [] forest.events = ⟨forest.events, true⟩ := by
  have passed := forest.matchEnds_events_append [] []
  rwa [List.append_nil, matchEnds, List.append_nil] at passed

end Forest

/-- Whether pieces lead from a place inside the given elements, the innermost first, to the end of a
forest: they close each of the elements, and in front of each end tag stands a forest. -/
inductive Closes : List (List Char) → List Event → Prop where
  | nil (forest : Forest) : Closes [] forest.events
  | cons {elements : List (List Char)} {events : List Event} (forest : Forest) (name : List Char)
      (closes : Closes elements events) :
      Closes (name :: elements) (forest.events ++ .closed name :: events)

namespace Closes

variable {elements : List (List Char)} {events : List Event}

/-- Where no element is open stands a forest. -/
theorem exists_forest (closes : Closes [] events) : ∃ forest : Forest, forest.events = events := by
  cases closes with
  | nil forest => exact ⟨forest, rfl⟩

/-- The open elements can always be closed at once. -/
theorem exists_closes (elements : List (List Char)) : ∃ events, Closes elements events := by
  induction elements with
  | nil => exact ⟨[], .nil .nil⟩
  | cons name elements ih =>
    obtain ⟨events, closes⟩ := ih
    exact ⟨_, .cons .nil name closes⟩

/-- A leaf may stand in front. -/
theorem leaf (closes : Closes elements events) (piece : Leaf) :
    Closes elements (piece.event :: events) := by
  cases closes with
  | nil forest => exact .nil (.leaf piece forest)
  | cons forest name closes => exact .cons (.leaf piece forest) name closes

/-- What closes one more element follows its start tag. -/
theorem opened {name : List Char} (closes : Closes (name :: elements) events) :
    Closes elements (.opened name :: events) := by
  cases closes with
  | cons inside _ closes =>
    cases closes with
    | nil rest => exact .nil (.element name inside rest)
    | cons rest other closes =>
      have closed := Closes.cons (.element name inside rest) other closes
      simpa [Forest.events] using closed

/-- The pieces that pass can be continued so that every element is closed. -/
theorem exists_matchEnds_append (elements : List (List Char)) (events : List Event) :
    ∃ more, Closes elements ((matchEnds elements events).events ++ more) := by
  induction events generalizing elements with
  | nil => exact exists_closes elements
  | cons event events ih =>
    have passing (piece : Leaf) (same : piece.event = event) :
        ∃ more, Closes elements ((matchEnds elements (event :: events)).events ++ more) := by
      obtain ⟨more, closes⟩ := ih elements
      rw [← same, Forest.matchEnds_leaf]
      exact ⟨more, closes.leaf piece⟩
    cases event with
    | opened name =>
      obtain ⟨more, closes⟩ := ih (name :: elements)
      rw [matchEnds]
      exact ⟨more, closes.opened⟩
    | closed name =>
      cases elements with
      | nil =>
        rw [matchEnds]
        exact exists_closes []
      | cons innermost outer =>
        by_cases same : name = innermost
        · obtain ⟨more, closes⟩ := ih outer
          rw [matchEnds]
          simp only [if_pos same]
          subst same
          exact ⟨more, .cons .nil name closes⟩
        · rw [matchEnds]
          simp only [if_neg same]
          exact exists_closes _
    | selfClosed name => exact passing (.selfClosed name) rfl
    | text content => exact passing (.text content) rfl
    | reference name => exact passing (.reference name) rfl
    | ignored => exact passing .ignored rfl

end Closes

/-- What the reader delivers of a text is a beginning of the pieces of a forest. -/
theorem exists_read_prefix (text : String) :
    ∃ forest : Forest, (read text).events <+: forest.events := by
  obtain ⟨more, closes⟩ :=
    Closes.exists_matchEnds_append [] (cut (Text.dropByteOrderMark text.toList)).events
  obtain ⟨forest, same⟩ := closes.exists_forest
  exact ⟨forest, more, same.symm⟩

end CrawlFrontier.Xml
