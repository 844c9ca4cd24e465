/-!
# Values of configuration files

What a file in TOML says. Fractional numbers and dates are only known to be such, because no setting
is one. Tables remember how they were written, which decides whether later lines may add to them.
-/

namespace CrawlFrontier.Toml

/-- How a table came into being: in braces, by a dotted key, by the header of a table inside it, or
by its own header. -/
inductive Style where
  | braces
  | dotted
  | implied
  | header
  deriving DecidableEq, Repr

/-- A value of a configuration file. -/
inductive Value where
  | string (text : String)
  | integer (value : Int)
  | fraction
  | boolean (value : Bool)
  | dateTime
  | array (items : List Value)
  | table (style : Style) (entries : List (String × Value))
  | tables (items : List Value)

/-- The names and values of a table. -/
abbrev Entries := List (String × Value)

namespace Entries

/-- The value of a name. -/
def find? (entries : Entries) (name : String) : Option Value :=
  match entries with
  | [] => none
  | (other, value) :: rest => if other = name then some value else find? rest name

/-- The entries with the value of a name replaced, or added at the end if there is none. -/
def set (entries : Entries) (name : String) (value : Value) : Entries :=
  match entries with
  | [] => [(name, value)]
  | (other, old) :: rest =>
    if other = name then (name, value) :: rest else (other, old) :: set rest name value

/-- Changes the entries of the last of several tables. -/
def updateLast (change : Entries → Option Entries) : List Value → Option (List Value)
  | [] => none
  | [.table style entries] => (change entries).map ([.table style ·])
  | [_] => none
  | item :: rest => (updateLast change rest).map (item :: ·)

/-- Changes the entries of the table that a path of headers leads to. -/
def updateHeaders (change : Entries → Option Entries) :
    List String → Entries → Option Entries
  | [], entries => change entries
  | name :: path, entries =>
    match find? entries name with
    | none =>
      (updateHeaders change path []).map fun inner => set entries name (.table .implied inner)
    | some (.table style inner) =>
      if style = .braces then none
      else (updateHeaders change path inner).map fun inner => set entries name (.table style inner)
    | some (.tables items) =>
      (updateLast (updateHeaders change path) items).map fun items =>
        set entries name (.tables items)
    | some _ => none

/-- Adds an entry to the table that the front of a dotted key leads to. Only a table that came into
being by dotted keys takes entries this way, and no name is given twice. -/
def insertDotted (name : String) (value : Value) :
    List String → Style → Entries → Option Entries
  | [], style, entries =>
    if style ≠ .dotted ∨ (find? entries name).isSome then none else some (set entries name value)
  | next :: path, _, entries =>
    match find? entries next with
    | none =>
      (insertDotted name value path .dotted []).map fun inner =>
        set entries next (.table .dotted inner)
    | some (.table style inner) =>
      if style = .braces ∨ style = .header then none
      else
        (insertDotted name value path style inner).map fun inner =>
          set entries next (.table style inner)
    | some (.tables items) =>
      (updateLast (insertDotted name value path .header) items).map fun items =>
        set entries next (.tables items)
    | some _ => none

/-- Adds an entry under a key, which is dotted if it has several parts. -/
def insert (entries : Entries) (key : List String) (value : Value) : Option Entries :=
  match key.reverse with
  | [] => none
  | [name] => if (find? entries name).isSome then none else some (set entries name value)
  | name :: front => insertDotted name value front.reverse .header entries

/-- Begins the table of a header, of which only the last name is given. -/
def openTable (name : String) (entries : Entries) : Option Entries :=
  match find? entries name with
  | none => some (set entries name (.table .header []))
  | some (.table .implied inner) => some (set entries name (.table .header inner))
  | some _ => none

/-- Begins one more of the tables of a name. -/
def openTables (name : String) (entries : Entries) : Option Entries :=
  match find? entries name with
  | none => some (set entries name (.tables [.table .header []]))
  | some (.tables items) => some (set entries name (.tables (items ++ [.table .header []])))
  | some _ => none

end Entries

end CrawlFrontier.Toml
