import CrawlFrontier.Html.Formatting
import CrawlFrontier.Html.RawText
import CrawlFrontier.Html.Token

/-!
# Building a document

What is remembered between the tokens of a document, and the changes that the rules for tokens are
made of. Where an element is put in the document does not matter here, only which elements there
are, in the order in which they begin, and which of them are open.
-/

namespace CrawlFrontier.Html

/-- The part of a document in which a token is looked at. -/
inductive Mode where
  | initial
  | beforeHtml
  | beforeHead
  | inHead
  | afterHead
  | inBody
  | inTable
  | inTableText
  | inCaption
  | inColumnGroup
  | inTableBody
  | inRow
  | inCell
  | inSelect
  | inSelectInTable
  | inTemplate
  | afterBody
  | inFrameset
  | afterFrameset
  | afterAfterBody
  | afterAfterFrameset
  deriving DecidableEq, Repr

/-- What is remembered between tokens. -/
structure Builder where
  /-- The part of the document. -/
  mode : Mode := .initial
  /-- The elements that are open. -/
  elements : OpenElements := []
  /-- The formatting that runs on. -/
  formatting : Formatting := []
  /-- All elements, the last to begin in front. -/
  begun : List Element := []
  /-- The number of the next element. -/
  count : Nat := 0
  /-- The parts in which the content of the open templates is looked at. -/
  templateModes : List Mode := []
  /-- The part to go on with behind text in a table. -/
  behindText : Mode := .inTable
  /-- Whether more than white space stands in the text in a table. -/
  hasWords : Bool := false
  /-- Whether the document has a head. -/
  hasHead : Bool := false
  /-- The form that is not ended. -/
  form : Option Element := none
  /-- Whether the document may still turn out to be a set of frames. -/
  allowsFrames : Bool := true
  /-- Whether the manners of old browsers are asked for. -/
  isOld : Bool := true
  /-- Whether a line feed is left out if it comes next. -/
  skipsLineFeed : Bool := false

/-- What a rule does: the changes, whether the token is looked at again, and how the text behind it
is read. -/
structure Step where
  builder : Builder
  again : Bool
  reading : Reading

namespace Builder

/-- The token is dealt with. -/
def done (builder : Builder) : Step := ⟨builder, false, .markup⟩

/-- The token is dealt with, and the document goes on in another part. -/
def goTo (mode : Mode) (builder : Builder) : Step := { builder with mode }.done

/-- The token is looked at again in another part. -/
def retryIn (mode : Mode) (builder : Builder) : Step := ⟨{ builder with mode }, true, .markup⟩

/-- The token is dealt with, and the text behind it is no markup. -/
def thenRead (reading : Reading) (builder : Builder) : Step := ⟨builder, false, reading⟩

/-- Changes which elements are open. -/
def onElements (change : OpenElements → OpenElements) (builder : Builder) : Builder :=
  { builder with elements := change builder.elements }

/-- Changes which formatting runs on. -/
def onFormatting (change : Formatting → Formatting) (builder : Builder) : Builder :=
  { builder with formatting := change builder.formatting }

/-- The document can be no set of frames any more. -/
def forbidFrames (builder : Builder) : Builder := { builder with allowsFrames := false }

/-- Begins an element that is not open. -/
def begin (builder : Builder) (space : Space) (name : String) (attributes : List Attribute) :
    Element × Builder :=
  let element : Element := ⟨builder.count, space, name, attributes⟩
  (element, { builder with begun := element :: builder.begun, count := builder.count + 1 })

/-- Begins the element of a tag and ends it at once. -/
def insertClosedIn (space : Space) (tag : Tag) (builder : Builder) : Builder :=
  (builder.begin space tag.name tag.attributes).2

/-- Begins the element of a tag inside all that are open. -/
def insertIn (space : Space) (tag : Tag) (builder : Builder) : Builder :=
  let (element, builder) := builder.begin space tag.name tag.attributes
  builder.onElements (element :: ·)

/-- Begins the element of HTML of a tag and ends it at once. -/
def insertClosed (tag : Tag) (builder : Builder) : Builder := builder.insertClosedIn .html tag

/-- Begins the element of HTML of a tag. -/
def insert (tag : Tag) (builder : Builder) : Builder := builder.insertIn .html tag

/-- Begins an element of HTML whose tag is left out. -/
def insertNamed (name : String) (builder : Builder) : Builder := builder.insert ⟨name, [], false⟩

/-- Whether an element is open. -/
def isOpen (builder : Builder) (element : Element) : Bool := builder.elements.any element.is

/-- Begins an element like one whose formatting runs on, and lets it take the place of that one. -/
def renew (old : Element) (builder : Builder) : Element × Builder :=
  let (element, builder) := builder.begin .html old.name old.attributes
  (element, builder.onFormatting (·.replace old element))

/-- Begins an element like one whose formatting runs on, inside all that are open. -/
def reopen (old : Element) (builder : Builder) : Builder :=
  let (element, builder) := builder.renew old
  builder.onElements (element :: ·)

/-- Begins again the elements whose formatting runs on, from behind the last that is open or the
last mark. -/
def resumeFormatting (builder : Builder) : Builder :=
  let closed := builder.formatting.takeWhile fun
    | some element => !builder.isOpen element
    | none => false
  (closed.filterMap id).foldr reopen builder

/-- Begins the element of a tag, and lets its formatting run on. -/
def insertFormatting (tag : Tag) (builder : Builder) : Builder :=
  let (element, builder) := builder.begin .html tag.name tag.attributes
  (builder.onElements (element :: ·)).onFormatting (·.add element)

/-- Whether the innermost open element satisfies a predicate. -/
def innermost (builder : Builder) (p : Element → Bool) : Bool := builder.elements.innermost p

/-- Whether an element of HTML of the given name is open and not hidden. -/
def inScope (builder : Builder) (name : String) : Bool :=
  builder.elements.inScope Element.isBarrier (·.isNamed name)

/-- Whether an element of HTML of the given name is open and not hidden from the tags of tables. -/
def inTableScope (builder : Builder) (name : String) : Bool :=
  builder.elements.inScope Element.isTableBarrier (·.isNamed name)

/-- Whether a selection is open and not hidden. -/
def inSelectScope (builder : Builder) : Bool :=
  builder.elements.inScope Element.isSelectBarrier (·.isNamed "select")

/-- Whether a template is open. -/
def inTemplate (builder : Builder) : Bool := builder.elements.has "template"

/-- Whether the element inside the outermost is the body. -/
def hasBody (builder : Builder) : Bool :=
  match builder.elements.reverse with
  | _ :: element :: _ => element.isNamed "body"
  | _ => false

/-- Ends an element of HTML of the given name, and all that may end with it. -/
def close (name : String) (builder : Builder) : Builder :=
  builder.onElements fun elements =>
    OpenElements.closeThrough (·.isNamed name) elements.closeImplied

/-- Ends an element behind which a mark was set. -/
def closeMarked (name : String) (builder : Builder) : Builder :=
  (builder.close name).onFormatting Formatting.clear

/-- Ends the innermost element. -/
def closeInnermost (builder : Builder) : Builder := builder.onElements (·.drop 1)

/-- Ends an option if it is the innermost element. -/
def closeInnermostNamed (name : String) (builder : Builder) : Builder :=
  if builder.innermost (·.isNamed name) then builder.closeInnermost else builder

/-- Ends the paragraph that is open. -/
def closeParagraph (builder : Builder) : Builder :=
  builder.onElements OpenElements.closeOpenParagraph

/-- The part of the document inside a selection: whether it stands in a table. -/
def selectMode (outer : OpenElements) : Mode :=
  match outer.find? (·.isIn ["template", "table"]) with
  | some element => if element.name = "table" then .inSelectInTable else .inSelect
  | none => .inSelect

/-- The part of the document that the open elements tell. -/
def modeOf (builder : Builder) : OpenElements → Mode
  | [] => .inBody
  | element :: outer =>
    if element.space ≠ .html then builder.modeOf outer
    else
      match element.name with
      | "select" => selectMode outer
      | "td" | "th" => if outer.isEmpty then builder.modeOf outer else .inCell
      | "tr" => .inRow
      | "tbody" | "thead" | "tfoot" => .inTableBody
      | "caption" => .inCaption
      | "colgroup" => .inColumnGroup
      | "table" => .inTable
      | "template" => builder.templateModes.head?.getD .inBody
      | "head" => if outer.isEmpty then builder.modeOf outer else .inHead
      | "body" => .inBody
      | "frameset" => .inFrameset
      | "html" => if builder.hasHead then .afterHead else .beforeHead
      | _ => builder.modeOf outer

/-- The part of the document in which it goes on. -/
def resetMode (builder : Builder) : Mode := builder.modeOf builder.elements

/-- Whether the innermost element belongs to a drawing or a formula. -/
def isForeign (builder : Builder) : Bool := builder.innermost (·.space ≠ .html)

end Builder

end CrawlFrontier.Html
