import CrawlFrontier.Canonical.Url
import CrawlFrontier.Toml.Document

/-!
# Settings of a configuration file

A configuration says how many workers share a crawl, how often its progress is reported, and what
its canonical URLs leave out. A section gives its settings by name, in any order; names that are no setting say nothing. A section
may also be written as an array, which gives the settings by place.
-/

namespace CrawlFrontier

/-- The settings of a crawl. -/
structure Config where
  /-- How many workers offer URLs. -/
  workers : Nat := 8
  /-- How many URLs are expected. -/
  initialCapacity : Nat := 1024
  /-- After how many offers progress is reported. -/
  progressInterval : Nat := 1000
  /-- What canonical URLs leave out. -/
  rules : Rules := {}
  deriving DecidableEq, Repr

namespace Config

open CrawlFrontier.Toml

/-- The values that a section gives for settings, which are asked for by name and in the order of
their places. -/
def settings (names : List String) : Value → Option (List (Option Value))
  | .table _ entries => some (names.map (Entries.find? entries ·))
  | .array items | .tables items => some ((List.range names.length).map (items[·]?))
  | .dateTime => some (names.map fun _ => none)
  | _ => none

/-- The value of a setting, or the default if it is not given. -/
def readOr {α : Type} (default : α) (read : Value → Option α) (value : Option Value) : Option α :=
  match value with
  | none => some default
  | some value => read value

/-- A whole number below a limit. -/
def readNat (limit : Nat) : Value → Option Nat
  | .integer n => if 0 ≤ n ∧ n < limit then some n.toNat else none
  | _ => none

/-- Yes or no. -/
def readBool : Value → Option Bool
  | .boolean value => some value
  | _ => none

/-- A text. -/
def readText : Value → Option String
  | .string text => some text
  | _ => none

/-- A list of texts. -/
def readTexts : Value → Option (List String)
  | .array items | .tables items => items.mapM readText
  | _ => none

/-- Reads the section on the frontier into a configuration. -/
def readFrontier (config : Config) (section_ : Value) : Option Config := do
  match ← settings ["workers", "initial-capacity", "progress-interval"] section_ with
  | [workers, capacity, interval] =>
    some { config with
      workers := ← readOr config.workers (readNat 0x100000000) workers
      initialCapacity := ← readOr config.initialCapacity (readNat 0x10000000000000000) capacity
      progressInterval := ← readOr config.progressInterval (readNat 0x10000000000000000) interval }
  | _ => none

/-- Reads the section on canonical URLs. -/
def readRules (rules : Rules) (section_ : Value) : Option Rules := do
  match ← settings ["strip-www", "strip-query", "tracking-params"] section_ with
  | [www, query, params] =>
    some
      { stripWww := ← readOr rules.stripWww readBool www
        stripQuery := ← readOr rules.stripQuery readBool query
        trackingParams := ← readOr rules.trackingParams readTexts params }
  | _ => none

/-- Reads a whole file. -/
def ofValue? (file : Value) : Option Config := do
  match ← settings ["frontier", "canonical"] file with
  | [frontier, canonical] =>
    let config ← readOr {} (readFrontier {}) frontier
    let rules ← readOr {} (readRules {}) canonical
    some { config with rules }
  | _ => none

end Config

end CrawlFrontier
