import CrawlFrontier.Html.Adoption
import CrawlFrontier.Html.Rules.Head

/-!
# Rules of the body

What may stand in the body, and in the cells of tables and most other places too.
-/

namespace CrawlFrontier.Html.Builder

/-- The names of elements that end a paragraph and need an end tag. -/
def sectionNames : List String :=
  ["address", "article", "aside", "blockquote", "center", "details", "dialog", "dir", "div", "dl",
    "fieldset", "figcaption", "figure", "footer", "header", "hgroup", "main", "menu", "nav", "ol",
    "section", "summary", "ul"]

/-- The names of headings. -/
def headingNames : List String := ["h1", "h2", "h3", "h4", "h5", "h6"]

/-- The names of elements that only format their text. -/
def formattingNames : List String :=
  ["b", "big", "code", "em", "font", "i", "s", "small", "strike", "strong", "tt", "u"]

/-- The names of elements that hold a document of their own. -/
def objectNames : List String := ["applet", "marquee", "object"]

/-- The names of elements in a line that have no content. -/
def emptyNames : List String := ["area", "br", "embed", "img", "keygen", "wbr", "input"]

/-- The names of elements whose tags say nothing outside their places. -/
def misplacedNames : List String :=
  ["caption", "col", "colgroup", "frame", "head", "tbody", "td", "tfoot", "th", "thead", "tr"]

/-- Whether a tag is that of a field that is not shown. -/
def isHidden (tag : Tag) : Bool :=
  (valueOf? "type" tag.attributes).any fun value => Text.lower value = "hidden".toList

/-- Text in the body. -/
def bodyText (content : List Char) (builder : Builder) : Builder :=
  let builder := builder.resumeFormatting
  if isBlankText content then builder else builder.forbidFrames

/-- Begins an item, after the item is ended in whose list it stands. -/
def beginItem (names : List String) (tag : Tag) (builder : Builder) : Step :=
  let stop := fun (element : Element) =>
    element.isIn names || (element.isBlock && !element.isIn ["address", "div", "p"])
  let builder := builder.forbidFrames
  let builder :=
    match builder.elements.find? stop with
    | some element =>
      if element.isIn names then
        builder.onElements fun elements =>
          OpenElements.closeThrough (·.isNamed element.name)
            (elements.closeImpliedExcept element.name)
      else builder
    | none => builder
  (builder.closeParagraph.insert tag).done

/-- Begins a form, unless another form is not ended. -/
def beginForm (tag : Tag) (builder : Builder) : Step :=
  if builder.inTemplate then (builder.closeParagraph.insert tag).done
  else if builder.form.isSome then builder.done
  else
    let builder := builder.closeParagraph.insert tag
    { builder with form := builder.elements.head? }.done

/-- Ends a form. -/
def endForm (builder : Builder) : Builder :=
  if builder.inTemplate then
    if builder.inScope "form" then builder.close "form" else builder
  else
    match builder.form with
    | none => builder
    | some form =>
      let builder := { builder with form := none }
      if builder.elements.inScope Element.isBarrier form.is then
        builder.onElements fun elements => elements.closeImplied.remove form
      else builder

/-- Begins a set of frames in place of the body, if the body says nothing yet. -/
def beginFrames (tag : Tag) (builder : Builder) : Step :=
  if builder.allowsFrames && builder.hasBody then
    ((builder.onElements fun elements => elements.drop (elements.length - 1)).insert tag).goTo
      .inFrameset
  else builder.done

/-- Begins an element that has no content. -/
def insertEmpty (tag : Tag) (builder : Builder) : Builder :=
  let builder := builder.resumeFormatting.insertClosed tag
  if tag.name = "input" ∧ isHidden tag then builder else builder.forbidFrames

/-- Begins a selection. -/
def beginSelect (tag : Tag) (builder : Builder) : Step :=
  let builder := (builder.resumeFormatting.insert tag).forbidFrames
  match builder.mode with
  | .inTable | .inCaption | .inTableBody | .inRow | .inCell => builder.goTo .inSelectInTable
  | _ => builder.goTo .inSelect

/-- Begins an element of a drawing or a formula. -/
def insertForeign (space : Space) (tag : Tag) (builder : Builder) : Step :=
  if tag.selfClosing then (builder.insertClosedIn space tag).done
  else (builder.insertIn space tag).done

/-- Begins a link, after the link that runs on is ended. -/
def beginLink (tag : Tag) (builder : Builder) : Step :=
  (builder.closeLink.resumeFormatting.insertFormatting tag).done

/-- Begins a heading in place of the innermost one. -/
def beginHeading (tag : Tag) (builder : Builder) : Step :=
  let builder := builder.closeParagraph
  let builder := if builder.innermost Element.isHeading then builder.closeInnermost else builder
  (builder.insert tag).done

/-- Begins a button in place of the one that is open. -/
def beginButton (tag : Tag) (builder : Builder) : Step :=
  let builder := if builder.inScope "button" then builder.close "button" else builder
  (builder.resumeFormatting.insert tag).forbidFrames.done

/-- Begins text that is not broken into lines, in place of such text that is open. -/
def beginNobr (tag : Tag) (builder : Builder) : Step :=
  let builder := builder.resumeFormatting
  let builder :=
    if builder.inScope "nobr" then (builder.adopt "nobr").resumeFormatting else builder
  (builder.insertFormatting tag).done

/-- Begins a table; with the manners of old browsers it may stand in a paragraph. -/
def beginTable (tag : Tag) (builder : Builder) : Step :=
  let builder := if builder.isOld then builder else builder.closeParagraph
  (builder.insert tag).forbidFrames.goTo .inTable

/-- Begins a part of a ruby, given which such parts need no end tag in front of it. -/
def beginRuby (close : OpenElements → OpenElements) (tag : Tag) (builder : Builder) : Step :=
  let builder := if builder.inScope "ruby" then builder.onElements close else builder
  (builder.insert tag).done

/-- A tag that opens an element which only the body knows by its name. -/
def bodyOpening (builder : Builder) (tag : Tag) : Step :=
  let name := tag.name
  let plain := builder.closeParagraph.insert tag
  if name = "a" then builder.beginLink tag
  else if name = "p" ∨ sectionNames.contains name then plain.done
  else if formattingNames.contains name then
    (builder.resumeFormatting.insertFormatting tag).done
  else if headNames.contains name then builder.headElement tag
  else if name = "html" then builder.done
  else if name = "body" then
    if builder.hasBody && !builder.inTemplate then builder.forbidFrames.done else builder.done
  else if name = "frameset" then builder.beginFrames tag
  else if headingNames.contains name then builder.beginHeading tag
  else if name = "pre" ∨ name = "listing" then
    { plain.forbidFrames with skipsLineFeed := true }.done
  else if name = "form" then builder.beginForm tag
  else if name = "li" then builder.beginItem ["li"] tag
  else if name = "dd" ∨ name = "dt" then builder.beginItem ["dd", "dt"] tag
  else if name = "plaintext" then plain.thenRead .plain
  else if name = "button" then builder.beginButton tag
  else if name = "nobr" then builder.beginNobr tag
  else if objectNames.contains name then
    ((builder.resumeFormatting.insert tag).onFormatting Formatting.mark).forbidFrames.done
  else if name = "table" then builder.beginTable tag
  else if emptyNames.contains name then (builder.insertEmpty tag).done
  else if name = "image" then (builder.insertEmpty { tag with name := "img" }).done
  else if ["param", "source", "track"].contains name then (builder.insertClosed tag).done
  else if name = "hr" then (builder.closeParagraph.insertClosed tag).forbidFrames.done
  else if name = "xmp" then
    builder.closeParagraph.resumeFormatting.forbidFrames.insertRaw tag
  else if name = "textarea" ∨ name = "iframe" then builder.forbidFrames.insertRaw tag
  else if name = "noembed" ∨ name = "noscript" then builder.insertRaw tag
  else if name = "select" then builder.beginSelect tag
  else if name = "optgroup" ∨ name = "option" then
    ((builder.closeInnermostNamed "option").resumeFormatting.insert tag).done
  else if name = "rb" ∨ name = "rtc" then builder.beginRuby OpenElements.closeImplied tag
  else if name = "rp" ∨ name = "rt" then
    builder.beginRuby (OpenElements.closeImpliedExcept "rtc") tag
  else if name = "math" then builder.insertForeign .math tag
  else if name = "svg" then builder.insertForeign .svg tag
  else if misplacedNames.contains name then builder.done
  else (builder.resumeFormatting.insert tag).done

/-- A tag that ends an element. -/
def bodyClosing (builder : Builder) (name : String) : Step :=
  let inScope := builder.inScope name
  if name = "a" ∨ name = "nobr" ∨ formattingNames.contains name then (builder.adopt name).done
  else if name = "p" then
    let inParagraph := builder.elements.inScope Element.isButtonBarrier (·.isNamed "p")
    ((if inParagraph then builder else builder.insertNamed "p").onElements
      OpenElements.closeParagraph).done
  else if ["button", "listing", "pre"].contains name ∨ sectionNames.contains name then
    (if inScope then builder.close name else builder).done
  else if name = "template" then builder.endTemplate
  else if name = "body" then if inScope then builder.goTo .afterBody else builder.done
  else if name = "html" then
    if builder.inScope "body" then builder.retryIn .afterBody else builder.done
  else if name = "form" then builder.endForm.done
  else if name = "li" ∨ name = "dd" ∨ name = "dt" then
    let barrier := if name = "li" then Element.isItemBarrier else Element.isBarrier
    (if builder.elements.inScope barrier (·.isNamed name) then
      builder.onElements fun elements =>
        OpenElements.closeThrough (·.isNamed name) (elements.closeImpliedExcept name)
    else builder).done
  else if headingNames.contains name then
    (if builder.elements.inScope Element.isBarrier Element.isHeading then
      builder.onElements fun elements =>
        OpenElements.closeThrough Element.isHeading elements.closeImplied
    else builder).done
  else if objectNames.contains name then
    (if inScope then builder.closeMarked name else builder).done
  else if name = "br" then (builder.insertEmpty ⟨"br", [], false⟩).done
  else (builder.onElements (OpenElements.closeNamed name)).done

/-- In the body. -/
def inBody (builder : Builder) (token : Token) : Step :=
  match token with
  | .text content => (builder.bodyText content).done
  | .opening tag => builder.bodyOpening tag
  | .closing name => builder.bodyClosing name
  | _ => builder.done

end CrawlFrontier.Html.Builder
