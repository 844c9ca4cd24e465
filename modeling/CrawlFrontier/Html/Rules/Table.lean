import CrawlFrontier.Html.Rules.Body

/-!
# Rules of tables

Tables, their captions, columns, rows and cells. What cannot stand in a table is looked at as if it
stood in the body.
-/

namespace CrawlFrontier.Html.Builder

/-- The names of the groups of rows. -/
def groupNames : List String := ["tbody", "tfoot", "thead"]

/-- The names of the elements of which tables consist, rows and cells apart. -/
def partNames : List String := ["caption", "col", "colgroup", "tbody", "tfoot", "thead"]

/-- Closes what stands in a part of a table, up to an element that holds such parts. -/
def closeTo (context : Element → Bool) (builder : Builder) : Builder :=
  builder.onElements (OpenElements.closeTo context)

/-- Ends a table, and says where the document goes on. -/
def endTable (builder : Builder) : Builder :=
  let builder := builder.onElements (OpenElements.closeThrough (·.isNamed "table"))
  { builder with mode := builder.resetMode }

/-- Ends a selection, and says where the document goes on. -/
def endSelect (builder : Builder) : Builder :=
  let builder := builder.onElements (OpenElements.closeThrough (·.isNamed "select"))
  { builder with mode := builder.resetMode }

/-- Begins a form in a table, which has no content. -/
def beginTableForm (tag : Tag) (builder : Builder) : Builder :=
  if !builder.inTemplate && builder.form.isNone then
    let (form, builder) := builder.begin .html tag.name tag.attributes
    { builder with form := some form }
  else builder

/-- Begins to collect the text in a table. -/
def beginTableText (builder : Builder) : Step :=
  { builder with behindText := builder.mode, hasWords := false }.retryIn .inTableText

/-- A tag that opens an element in a table. -/
def tableOpening (builder : Builder) (tag : Tag) : Step :=
  let name := tag.name
  let cleared := builder.closeTo Element.isTableBarrier
  if name = "caption" then
    ((cleared.onFormatting Formatting.mark).insert tag).goTo .inCaption
  else if name = "colgroup" then (cleared.insert tag).goTo .inColumnGroup
  else if name = "col" then (cleared.insertNamed "colgroup").retryIn .inColumnGroup
  else if groupNames.contains name then (cleared.insert tag).goTo .inTableBody
  else if ["td", "th", "tr"].contains name then
    (cleared.insertNamed "tbody").retryIn .inTableBody
  else if name = "table" then
    if builder.inTableScope "table" then
      let ended := builder.endTable
      ended.retryIn ended.mode
    else builder.done
  else if ["style", "script", "template"].contains name then builder.headElement tag
  else if name = "input" ∧ isHidden tag then (builder.insertClosed tag).done
  else if name = "form" then (builder.beginTableForm tag).done
  else builder.bodyOpening tag

/-- In a table. -/
def inTable (builder : Builder) (token : Token) : Step :=
  match token with
  | .text content =>
    if builder.innermost (·.isIn ["table", "tbody", "tfoot", "thead", "tr"]) then
      builder.beginTableText
    else (builder.bodyText content).done
  | .opening tag => builder.tableOpening tag
  | .closing name =>
    if name = "table" then
      (if builder.inTableScope "table" then builder.endTable else builder).done
    else if ["body", "html", "td", "th", "tr"].contains name ∨ partNames.contains name then
      builder.done
    else builder.bodyClosing name
  | _ => builder.done

/-- The table behind the text in it; text that is not white space only is looked at as if it stood
in the body. -/
def endTableText (builder : Builder) : Builder :=
  if builder.hasWords then { builder.resumeFormatting.forbidFrames with hasWords := false }
  else builder

/-- In the text in a table. -/
def inTableText (builder : Builder) (token : Token) : Step :=
  match token with
  | .null => builder.done
  | .text content =>
    { builder with hasWords := builder.hasWords || !isBlankText content }.done
  | _ => builder.endTableText.retryIn builder.behindText

/-- In the caption of a table. -/
def inCaption (builder : Builder) (token : Token) : Step :=
  let ended := builder.closeMarked "caption"
  match token with
  | .opening tag =>
    if ["td", "th", "tr"].contains tag.name ∨ partNames.contains tag.name then
      if builder.inTableScope "caption" then ended.retryIn .inTable else builder.done
    else builder.inBody token
  | .closing name =>
    if name = "caption" then
      if builder.inTableScope "caption" then ended.goTo .inTable else builder.done
    else if name = "table" then
      if builder.inTableScope "caption" then ended.retryIn .inTable else builder.done
    else if ["body", "html", "td", "th", "tr"].contains name ∨ partNames.contains name then
      builder.done
    else builder.inBody token
  | _ => builder.inBody token

/-- In a group of columns. -/
def inColumnGroup (builder : Builder) (token : Token) : Step :=
  let isInnermost := builder.innermost (·.isNamed "colgroup")
  let left :=
    if isInnermost then builder.closeInnermost.retryIn .inTable else builder.done
  match token with
  | .comment => builder.done
  | .text content => if isBlankText content then builder.done else left
  | .opening tag =>
    if tag.name = "html" then builder.done
    else if tag.name = "col" then (builder.insertClosed tag).done
    else if tag.name = "template" then builder.beginTemplate tag
    else left
  | .closing name =>
    if name = "colgroup" then
      if isInnermost then builder.closeInnermost.goTo .inTable else builder.done
    else if name = "col" then builder.done
    else if name = "template" then builder.endTemplate
    else left
  | _ => left

/-- In a group of rows. -/
def inTableBody (builder : Builder) (token : Token) : Step :=
  let cleared := builder.closeTo Element.holdsRows
  let left :=
    if builder.elements.inScope Element.isTableBarrier (·.isIn ["table", "tbody", "tfoot"]) then
      cleared.closeInnermost.retryIn .inTable
    else builder.done
  match token with
  | .opening tag =>
    if tag.name = "tr" then (cleared.insert tag).goTo .inRow
    else if ["td", "th"].contains tag.name then (cleared.insertNamed "tr").retryIn .inRow
    else if partNames.contains tag.name then left
    else builder.inTable token
  | .closing name =>
    if groupNames.contains name then
      if builder.inTableScope name then cleared.closeInnermost.goTo .inTable else builder.done
    else if name = "table" then left
    else if ["body", "caption", "col", "colgroup", "html", "td", "th", "tr"].contains name then
      builder.done
    else builder.inTable token
  | _ => builder.inTable token

/-- In a row. -/
def inRow (builder : Builder) (token : Token) : Step :=
  let cleared := builder.closeTo Element.holdsCells
  let isOpen := builder.inTableScope "tr"
  let ended := cleared.closeInnermost
  match token with
  | .opening tag =>
    if ["td", "th"].contains tag.name then
      ((cleared.insert tag).onFormatting Formatting.mark).goTo .inCell
    else if tag.name = "tr" ∨ partNames.contains tag.name then
      if isOpen then ended.retryIn .inTableBody else builder.done
    else builder.inTable token
  | .closing name =>
    if name = "tr" then if isOpen then ended.goTo .inTableBody else builder.done
    else if name = "table" then if isOpen then ended.retryIn .inTableBody else builder.done
    else if groupNames.contains name then
      if builder.inTableScope name && isOpen then ended.retryIn .inTableBody else builder.done
    else if ["body", "caption", "col", "colgroup", "html", "td", "th"].contains name then
      builder.done
    else builder.inTable token
  | _ => builder.inTable token

/-- Ends the cell that is open. -/
def closeCell (builder : Builder) : Builder :=
  (builder.onElements fun elements =>
    OpenElements.closeThrough Element.isCell elements.closeImplied).onFormatting Formatting.clear

/-- In a cell. -/
def inCell (builder : Builder) (token : Token) : Step :=
  match token with
  | .opening tag =>
    if ["td", "th", "tr"].contains tag.name ∨ partNames.contains tag.name then
      if builder.elements.inScope Element.isTableBarrier Element.isCell then
        builder.closeCell.retryIn .inRow
      else builder.done
    else builder.inBody token
  | .closing name =>
    if name = "td" ∨ name = "th" then
      if builder.inTableScope name then (builder.closeMarked name).goTo .inRow else builder.done
    else if name = "table" ∨ name = "tr" ∨ groupNames.contains name then
      if builder.inTableScope name then builder.closeCell.retryIn .inRow else builder.done
    else if ["body", "caption", "col", "colgroup", "html"].contains name then builder.done
    else builder.inBody token
  | _ => builder.inBody token

end CrawlFrontier.Html.Builder
