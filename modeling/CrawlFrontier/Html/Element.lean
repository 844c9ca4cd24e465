import CrawlFrontier.Html.Tag

/-!
# Elements

The elements of a document, and the classes of elements that the rules for markup tell apart. An
element belongs to HTML, to a drawing or to a formula, and its name alone does not say to which.
-/

namespace CrawlFrontier.Html

/-- What an element belongs to. -/
inductive Space where
  | html
  | svg
  | math
  deriving DecidableEq, Repr

/-- An element of a document. The number tells it from all others, in the order in which they
begin. -/
structure Element where
  number : Nat
  space : Space
  name : String
  attributes : List Attribute
  deriving DecidableEq, Repr

namespace Element

/-- Whether an element of HTML has the given name. -/
def isNamed (name : String) (element : Element) : Bool :=
  element.space = .html && element.name = name

/-- Whether the name of an element of HTML is in a list. -/
def isIn (names : List String) (element : Element) : Bool :=
  element.space = .html && names.contains element.name

/-- Whether two are one element. -/
def is (element other : Element) : Bool := element.number = other.number

/-- Whether text in a formula stands in the element, so that markup of HTML may stand there too. -/
def holdsFormulaText (element : Element) : Bool :=
  element.space = .math && ["mi", "mo", "mn", "ms", "mtext"].contains element.name

/-- Whether a part of a drawing holds markup of HTML. -/
def holdsDrawingText (element : Element) : Bool :=
  element.space = .svg && ["foreignobject", "desc", "title"].contains element.name

/-- Whether an element hides the elements outside it from end tags. -/
def isBarrier (element : Element) : Bool :=
  element.isIn
      ["applet", "caption", "html", "table", "td", "th", "marquee", "object", "template"] ||
    element.holdsFormulaText || element.holdsDrawingText

/-- Whether an element hides the elements outside it from the end tag of a list item. -/
def isItemBarrier (element : Element) : Bool := element.isBarrier || element.isIn ["ol", "ul"]

/-- Whether an element hides the elements outside it from the end tag of a paragraph. -/
def isButtonBarrier (element : Element) : Bool := element.isBarrier || element.isNamed "button"

/-- Whether an element hides the elements outside it from the tags of tables. -/
def isTableBarrier (element : Element) : Bool := element.isIn ["html", "table", "template"]

/-- Whether an element hides the elements outside it from the tags of selections. -/
def isSelectBarrier (element : Element) : Bool := !element.isIn ["optgroup", "option"]

/-- Whether rows of a table stand in the element. -/
def holdsRows (element : Element) : Bool :=
  element.isIn ["tbody", "tfoot", "thead", "template", "html"]

/-- Whether cells of a table stand in the element. -/
def holdsCells (element : Element) : Bool := element.isIn ["tr", "template", "html"]

/-- Whether the element is a cell of a table. -/
def isCell (element : Element) : Bool := element.isIn ["td", "th"]

/-- Whether the element is a heading. -/
def isHeading (element : Element) : Bool := element.isIn ["h1", "h2", "h3", "h4", "h5", "h6"]

/-- The names of elements whose end tags may be left out. -/
def impliedNames : List String :=
  ["dd", "dt", "li", "option", "optgroup", "p", "rb", "rp", "rt", "rtc"]

/-- Whether the end tag of an element may be left out. -/
def isImplied (element : Element) : Bool := element.isIn impliedNames

/-- Whether the end tag of an element may be left out at the end of a template. -/
def isImpliedInTemplate (element : Element) : Bool :=
  element.isImplied ||
    element.isIn ["caption", "colgroup", "tbody", "td", "tfoot", "th", "thead", "tr"]

/-- The names of elements that are more than a run of text. -/
def blockNames : List String :=
  ["address", "applet", "area", "article", "aside", "base", "basefont", "bgsound", "blockquote",
    "body", "br", "button", "caption", "center", "col", "colgroup", "dd", "details", "dir", "div",
    "dl", "dt", "embed", "fieldset", "figcaption", "figure", "footer", "form", "frame", "frameset",
    "h1", "h2", "h3", "h4", "h5", "h6", "head", "header", "hgroup", "hr", "html", "iframe", "img",
    "input", "isindex", "li", "link", "listing", "main", "marquee", "menu", "meta", "nav",
    "noembed", "noframes", "noscript", "object", "ol", "p", "param", "plaintext", "pre", "script",
    "section", "select", "source", "style", "summary", "table", "tbody", "td", "template",
    "textarea", "tfoot", "th", "thead", "title", "tr", "track", "ul", "wbr", "xmp"]

/-- Whether an element is more than a run of text. -/
def isBlock (element : Element) : Bool := element.isIn blockNames

end Element

/-- The open elements, the innermost first. -/
abbrev OpenElements := List Element

namespace OpenElements

/-- Whether an element that is looked for is open and no barrier hides it; a barrier does not hide
itself. -/
def inScope (barrier target : Element → Bool) : OpenElements → Bool
  | [] => false
  | element :: outer => target element || (!barrier element && inScope barrier target outer)

/-- Closes elements up to one that is looked for, and that one too. -/
def closeThrough (target : Element → Bool) (elements : OpenElements) : OpenElements :=
  (elements.dropWhile (!target ·)).drop 1

/-- Closes elements up to one that is looked for, which stays open. -/
def closeTo (target : Element → Bool) (elements : OpenElements) : OpenElements :=
  elements.dropWhile (!target ·)

/-- Closes the innermost elements whose end tags may be left out. -/
def closeImplied (elements : OpenElements) : OpenElements :=
  elements.dropWhile Element.isImplied

/-- Closes the innermost elements whose end tags may be left out, up to one of the given name. -/
def closeImpliedExcept (name : String) (elements : OpenElements) : OpenElements :=
  elements.dropWhile fun element => element.isImplied && !element.isNamed name

/-- Closes one element, wherever it is. -/
def remove (element : Element) (elements : OpenElements) : OpenElements :=
  elements.filter (!element.is ·)

/-- Whether the innermost element satisfies a predicate. -/
def innermost (p : Element → Bool) (elements : OpenElements) : Bool := elements.head?.any p

/-- Whether some element of HTML with the given name is open. -/
def has (name : String) (elements : OpenElements) : Bool := elements.any (·.isNamed name)

/-- Closes a paragraph, and what is open in it. -/
def closeParagraph (elements : OpenElements) : OpenElements :=
  closeThrough (·.isNamed "p") (closeImpliedExcept "p" elements)

/-- Closes the paragraph that is open up to the next button, if there is one. -/
def closeOpenParagraph (elements : OpenElements) : OpenElements :=
  if elements.inScope Element.isButtonBarrier (·.isNamed "p") then closeParagraph elements
  else elements

/-- Closes an element of which only the end tag is known: the innermost one of that name, unless
there is a block further in. -/
def closeNamed (name : String) (elements : OpenElements) : OpenElements :=
  match elements.find? fun element => element.isNamed name || element.isBlock with
  | none => elements
  | some element =>
    if element.isNamed name then closeThrough element.is elements else elements

end OpenElements

end CrawlFrontier.Html
