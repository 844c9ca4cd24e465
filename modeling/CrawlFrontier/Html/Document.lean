import CrawlFrontier.Html.Rules.Select
import CrawlFrontier.Text.Utf8

/-!
# Elements of documents

Every text is a document. It is read from the front, and the rules for the part of the document say
what each token does. In drawings and formulas almost every tag is taken as it is, until a tag comes
that can only belong to the text around them. Main statement: reading ends, since what is left to be
read gets shorter.
-/

namespace CrawlFrontier.Html

namespace Builder

/-- Looks at a token by the rules for the part of the document. -/
def step (builder : Builder) (token : Token) : Step :=
  match builder.mode with
  | .initial => builder.initial token
  | .beforeHtml => builder.beforeHtml token
  | .beforeHead => builder.beforeHead token
  | .inHead => builder.inHead token
  | .afterHead => builder.afterHead token
  | .inBody => builder.inBody token
  | .inTable => builder.inTable token
  | .inTableText => builder.inTableText token
  | .inCaption => builder.inCaption token
  | .inColumnGroup => builder.inColumnGroup token
  | .inTableBody => builder.inTableBody token
  | .inRow => builder.inRow token
  | .inCell => builder.inCell token
  | .inSelect => builder.inSelect token
  | .inSelectInTable => builder.inSelectInTable token
  | .inTemplate => builder.inTemplateContent token
  | .afterBody | .afterAfterBody => builder.afterBody token
  | .inFrameset => builder.inFrameset token
  | .afterFrameset | .afterAfterFrameset => builder.afterFrameset token

/-- Whether a token is looked at by the rules for drawings and formulas. -/
def isForeignToken (builder : Builder) (token : Token) : Bool :=
  match builder.elements.head? with
  | none => false
  | some element =>
    if element.space = .html then false
    else
      match token with
      | .text _ | .null => !(element.holdsFormulaText || element.holdsDrawingText)
      | .opening tag =>
        let hosts :=
          (element.holdsFormulaText && !(["mglyph", "malignmark"].contains tag.name)) ||
            element.holdsDrawingText ||
            (element.space = .math && element.name = "annotation-xml" && tag.name = "svg")
        !hosts
      | _ => true

/-- The names of elements that can only belong to the text around a drawing or a formula. -/
def breakoutNames : List String :=
  ["b", "big", "blockquote", "body", "br", "center", "code", "dd", "div", "dl", "dt", "em",
    "embed", "h1", "h2", "h3", "h4", "h5", "h6", "head", "hr", "i", "img", "li", "listing",
    "menu", "meta", "nobr", "ol", "p", "pre", "ruby", "s", "small", "span", "strong", "strike",
    "sub", "sup", "table", "tt", "u", "ul", "var"]

/-- Whether a tag can only belong to the text around a drawing or a formula. -/
def breaksOut (tag : Tag) : Bool :=
  breakoutNames.contains tag.name ||
    (tag.name = "font" && tag.attributes.any (["color", "face", "size"].contains ·.name))

/-- Ends a drawing or a formula, up to an element in which text may stand. -/
def breakOut (builder : Builder) : Step :=
  let builder := builder.onElements fun elements =>
    OpenElements.closeTo
      (fun element =>
        element.space = .html || element.holdsFormulaText || element.holdsDrawingText)
      (elements.drop 1)
  builder.retryIn builder.mode

/-- Ends an element of a drawing or a formula, given those that may be meant; if none of them is,
the tag belongs to the text around them. -/
def closeForeign (builder : Builder) (name : String) : OpenElements → Step
  | [] | [_] => builder.done
  | element :: outer =>
    if element.name = name then { builder with elements := outer }.done
    else if OpenElements.innermost (·.space = .html) outer && 2 ≤ outer.length then
      builder.step (.closing name)
    else builder.closeForeign name outer

/-- Looks at a token by the rules for drawings and formulas. -/
def foreignStep (builder : Builder) (token : Token) : Step :=
  match token with
  | .text content => (if isBlankText content then builder else builder.forbidFrames).done
  | .opening tag =>
    if breaksOut tag then builder.breakOut
    else
      match builder.elements.head? with
      | some element => builder.insertForeign element.space tag
      | none => builder.done
  | .closing name =>
    if name = "br" ∨ name = "p" then builder.breakOut
    else builder.closeForeign name builder.elements
  | _ => builder.done

/-- Looks at a token, and again as often as the rules ask for it. -/
def process (builder : Builder) (token : Token) : Nat → Builder × Reading
  | 0 => (builder, .markup)
  | times + 1 =>
    let step :=
      if builder.isForeignToken token then builder.foreignStep token else builder.step token
    if step.again then step.builder.process token times else (step.builder, step.reading)

/-- How often a token is looked at: every part of the document may pass it on once, and then every
open element. -/
def patience (builder : Builder) : Nat := builder.elements.length + 24

/-- Takes notice of a token, and says how the text behind it is read. -/
def accept (builder : Builder) (token : Token) : Builder × Reading :=
  let next := { builder with skipsLineFeed := false }
  match token with
  | .nothing => (next, .markup)
  | .doctype doctype =>
    if builder.mode = .initial then
      ({ next with isOld := doctype.isOld, mode := .beforeHtml }, .markup)
    else (next, .markup)
  | .text ('\n' :: content) =>
    if !builder.skipsLineFeed then next.process token next.patience
    else if content.isEmpty then (next, .markup)
    else next.process (.text content) next.patience
  | _ => next.process token next.patience

/-- Takes notice of tokens. -/
def acceptAll (builder : Builder) (tokens : List Token) : Builder × Reading :=
  tokens.foldl (fun state token => state.1.accept token) (builder, .markup)

/-- Takes notice of the end of the document. -/
def finish (builder : Builder) : Builder :=
  if builder.mode = .inTableText then builder.endTableText else builder

/-- Reads a document to its end. -/
def readAll (builder : Builder) : List Char → Builder
  | [] => builder.finish
  | c :: text =>
    let read := readTokens builder.isForeign c text
    let (next, reading) := builder.acceptAll read.1
    if reading = .plain then (next.acceptAll (Token.ofText (replaceNull read.2))).1.finish
    else next.readAll (reading.skip read.2)
termination_by text => text.length
decreasing_by
  exact Nat.lt_succ_of_le (Nat.le_trans (length_skip _ _) (length_readTokens _ _ _))

end Builder

/-- The text with a line feed alone for every end of a line. -/
def unifyLines : List Char → List Char
  | '\r' :: '\n' :: text => '\n' :: unifyLines text
  | '\r' :: text => '\n' :: unifyLines text
  | c :: text => c :: unifyLines text
  | [] => []

/-- The elements of a document, in the order in which they begin. -/
def elements (text : String) : List Element :=
  (Builder.readAll {} (unifyLines (Text.dropByteOrderMark text.toList))).begun.reverse

end CrawlFrontier.Html
