/-!
# Tables of code points

A character property is given by intervals of code points, each with what the property says of it.
No interval is empty, and they stand in ascending order, so a table is searched by halving. A table
carries the proof of its order: a list with a bound left out or two intervals exchanged is none.
-/

namespace CrawlFrontier.Unicode

/-- A closed interval of code points and what a property says of it. -/
structure Span (α : Type) where
  first : Nat
  last : Nat
  value : α

/-- Whether intervals are not empty and each begins behind the one in front of it, the first of them
at `low` or behind it. -/
def areOrdered {α : Type} (low : Nat) : List (Span α) → Bool
  | [] => true
  | span :: spans =>
    decide (low ≤ span.first) && decide (span.first ≤ span.last) &&
      areOrdered (span.last + 1) spans

/-- Intervals in ascending order. -/
structure Table (α : Type) where
  spans : Array (Span α)
  ordered : areOrdered 0 spans.toList = true

namespace Table

variable {α : Type}

/-- The table of the given intervals. -/
def ofSpans (spans : List (Span α)) (ordered : areOrdered 0 spans = true := by decide +kernel) :
    Table α where
  spans := spans.toArray
  ordered := ordered

/-- The table of the intervals with the given bounds, of which nothing more is said. -/
def ofBounds (bounds : List (Nat × Nat))
    (ordered : areOrdered 0 (bounds.map fun (first, last) => Span.mk first last ()) = true := by
      decide +kernel) : Table Unit :=
  ofSpans (bounds.map fun (first, last) => ⟨first, last, ()⟩) ordered

/-- The table of single code points with their values. -/
def ofPoints (points : List (Nat × α))
    (ordered : areOrdered 0 (points.map fun (point, value) => Span.mk point point value) = true := by
      decide +kernel) : Table α :=
  ofSpans (points.map fun (point, value) => ⟨point, point, value⟩) ordered

/-- Looks for the interval with a code point among those at the positions from `low` up to
`high`. -/
def search (table : Table α) (n low high : Nat) : Option (Span α) :=
  if low < high then
    let middle := (low + high) / 2
    match table.spans[middle]? with
    | none => none
    | some span =>
      if n < span.first then table.search n low middle
      else if span.last < n then table.search n (middle + 1) high
      else some span
  else none
termination_by high - low

/-- The interval of a table in which a code point lies. -/
def find? (table : Table α) (n : Nat) : Option (Span α) := table.search n 0 table.spans.size

/-- What a table says of a code point. -/
def value? (table : Table α) (n : Nat) : Option α := (table.find? n).map (·.value)

/-- Whether a code point lies in an interval of a table. -/
def contains (table : Table α) (n : Nat) : Bool := (table.find? n).isSome

end Table

end CrawlFrontier.Unicode
