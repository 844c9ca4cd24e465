import CrawlFrontier.Html.Element

/-!
# Running formatting

An element that only formats its text runs on until its end tag, through the ends of other elements.
Where a cell, a caption, an object or a template begins, a mark is set, and formatting from further
out does not reach behind it.
-/

namespace CrawlFrontier.Html

/-- The elements whose formatting runs on, the newest first, and between them the marks, where there
is no element. -/
abbrev Formatting := List (Option Element)

namespace Formatting

/-- Sets a mark. -/
def mark (formatting : Formatting) : Formatting := none :: formatting

/-- The elements behind the last mark. -/
def recent (formatting : Formatting) : List Element :=
  (formatting.takeWhile Option.isSome).filterMap id

/-- Ends what runs on behind the last mark, and removes the mark. -/
def clear (formatting : Formatting) : Formatting := (formatting.dropWhile Option.isSome).drop 1

/-- Whether the formatting of an element runs on. -/
def contains (formatting : Formatting) (element : Element) : Bool :=
  formatting.any (·.any element.is)

/-- Ends the formatting of an element. -/
def remove (formatting : Formatting) (element : Element) : Formatting :=
  formatting.filter (!·.any element.is)

/-- Puts one element in the place of another. -/
def replace (formatting : Formatting) (old new : Element) : Formatting :=
  formatting.map fun entry => if entry.any old.is then some new else entry

/-- Puts an element behind another. -/
def insertBehind (formatting : Formatting) (place new : Element) : Formatting :=
  formatting.flatMap fun entry =>
    if entry.any place.is then [some new, entry] else [entry]

/-- Whether two elements format alike: their names and their attributes are the same, in any
order. -/
def alike (a b : Element) : Bool :=
  a.name = b.name && a.attributes.length = b.attributes.length &&
    a.attributes.all b.attributes.contains

/-- Lets the formatting of an element run on. If three behind the last mark are like it, the oldest
of them ends. -/
def add (formatting : Formatting) (element : Element) : Formatting :=
  let like := formatting.recent.filter (alike element)
  match like.getLast? with
  | some oldest =>
    some element :: (if 3 ≤ like.length then formatting.remove oldest else formatting)
  | none => some element :: formatting

end Formatting

end CrawlFrontier.Html
