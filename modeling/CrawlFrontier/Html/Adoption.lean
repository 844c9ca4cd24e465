import CrawlFrontier.Html.Builder

/-!
# Ends of formatting

The end tag of a formatting element may come while elements are open that began inside it. If one of
them is a block, the block is taken out of the formatting, and what it holds is formatted by a new
element inside the block.
-/

namespace CrawlFrontier.Html.Builder

/-- Renews the formatting elements that are open between a block and the element that ends, from
the block outwards. Only the first three places are kept. -/
def renewBetween (place : Nat) (builder : Builder) : OpenElements → OpenElements × Builder
  | [] => ([], builder)
  | element :: outer =>
    if 3 ≤ place ∨ ¬builder.formatting.contains element then
      renewBetween (place + 1) (builder.onFormatting (·.remove element)) outer
    else
      let (new, builder) := builder.renew element
      let (renewed, builder) := renewBetween (place + 1) builder outer
      (new :: renewed, builder)

/-- Takes a block out of a formatting element, given what is open inside the block, between the two
and outside both. -/
def takeOut (builder : Builder) (subject block : Element)
    (inside between outside : OpenElements) : Builder :=
  let (renewed, builder) := builder.renewBetween 0 between
  let (new, builder) := builder.begin .html subject.name subject.attributes
  let builder := builder.onFormatting fun formatting =>
    match renewed with
    | [] => formatting.replace subject new
    | first :: _ => (formatting.insertBehind first new).remove subject
  { builder with elements := inside ++ new :: block :: (renewed ++ outside) }

/-- The outermost block among elements, with what is inside of it and what is outside. -/
def splitBlock? (elements : OpenElements) :
    Option (OpenElements × Element × OpenElements) :=
  let outside := elements.reverse.takeWhile (!·.isBlock)
  match elements.reverse.drop outside.length with
  | [] => none
  | block :: inside => some (inside.reverse, block, outside.reverse)

/-- Deals once with an end tag of the given name, and says whether that is all. -/
def adoptOnce (name : String) (builder : Builder) : Builder × Bool :=
  match builder.formatting.recent.find? (·.name = name) with
  | none => (builder.onElements (OpenElements.closeNamed name), true)
  | some subject =>
    if !builder.isOpen subject then (builder.onFormatting (·.remove subject), true)
    else if !builder.elements.inScope Element.isBarrier subject.is then (builder, true)
    else
      let inner := builder.elements.takeWhile (!subject.is ·)
      let outside := builder.elements.drop (inner.length + 1)
      match splitBlock? inner with
      | none => ({ builder with elements := outside }.onFormatting (·.remove subject), true)
      | some (inside, block, between) =>
        (builder.takeOut subject block inside between outside, false)

/-- Deals with an end tag at most so many times. -/
def adoptTimes (name : String) : Nat → Builder → Builder
  | 0, builder => builder
  | times + 1, builder =>
    match builder.adoptOnce name with
    | (builder, true) => builder
    | (builder, false) => adoptTimes name times builder

/-- Deals with the end tag of a formatting element. -/
def adopt (name : String) (builder : Builder) : Builder :=
  match builder.elements with
  | element :: outer =>
    if element.isNamed name && !builder.formatting.contains element then
      { builder with elements := outer }
    else adoptTimes name 8 builder
  | [] => builder

/-- Ends the link that runs on, since a link cannot stand inside another. -/
def closeLink (builder : Builder) : Builder :=
  match builder.formatting.recent.find? (·.name = "a") with
  | none => builder
  | some link =>
    ((builder.adopt "a").onFormatting (·.remove link)).onElements (OpenElements.remove link)

end CrawlFrontier.Html.Builder
