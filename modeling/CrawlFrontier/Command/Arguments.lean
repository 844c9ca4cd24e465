/-!
# Arguments of the command line

One file is named, and options may stand before and behind it. Short options may be written in one
word, and a value may follow its option in the same word. An option that is given twice is refused,
except the one that is counted.
-/

namespace CrawlFrontier.Command

/-- What the command line asks for. -/
structure Arguments where
  input : String
  config : Option String
  workers : Option Nat
  printNew : Bool
  dryRun : Bool
  verbose : Nat
  quiet : Bool
  deriving DecidableEq, Repr

/-- What was read of the arguments. -/
structure Draft where
  input : Option String := none
  config : Option String := none
  workers : Option Nat := none
  printNew : Bool := false
  dryRun : Bool := false
  verbose : Nat := 0
  quiet : Bool := false

/-- What the arguments are read as. -/
inductive Request where
  | run (arguments : Arguments)
  | help
  | version
  | misuse
  deriving DecidableEq, Repr

/-- The options. -/
inductive Switch where
  | config
  | workers
  | printNew
  | dryRun
  | verbose
  | quiet
  | help
  | version
  deriving DecidableEq, Repr

/-- Whether an option has a value. -/
def Switch.hasValue : Switch → Bool
  | config | workers => true
  | _ => false

/-- The option of a long name. -/
def Switch.ofName? (name : String) : Option Switch :=
  match name with
  | "config" => some config
  | "workers" => some workers
  | "print-new" => some printNew
  | "dry-run" => some dryRun
  | "verbose" => some verbose
  | "quiet" => some quiet
  | "help" => some help
  | "version" => some version
  | _ => none

/-- The option of a letter. -/
def Switch.ofLetter? : Char → Option Switch
  | 'c' => some config
  | 'w' => some workers
  | 'v' => some verbose
  | 'q' => some quiet
  | 'h' => some help
  | 'V' => some version
  | _ => none

/-- Reads a number of workers: decimal digits, perhaps with a plus in front, below 2^32. -/
def readWorkers? (text : String) : Option Nat :=
  let digits :=
    match text.toList with
    | '+' :: rest => rest
    | all => all
  if digits.isEmpty || !digits.all Char.isDigit then none
  else
    let n := digits.foldl (fun n c => n * 10 + (c.toNat - 48)) 0
    if n < 0x100000000 then some n else none

namespace Draft

/-- Takes notice of the file, of which there is one. -/
def addInput (draft : Draft) (path : String) : Except Request Draft :=
  if path = "" ∨ draft.input.isSome then .error .misuse else .ok { draft with input := some path }

/-- Takes notice of an option with a value. -/
def addValue (draft : Draft) (switch : Switch) (value : String) : Except Request Draft :=
  match switch with
  | .config =>
    if value = "" ∨ draft.config.isSome then .error .misuse
    else .ok { draft with config := some value }
  | .workers =>
    match readWorkers? value, draft.workers with
    | some n, none => .ok { draft with workers := some n }
    | _, _ => .error .misuse
  | _ => .error .misuse

/-- Takes notice of an option without a value. -/
def addFlag (draft : Draft) : Switch → Except Request Draft
  | .printNew => if draft.printNew then .error .misuse else .ok { draft with printNew := true }
  | .dryRun => if draft.dryRun then .error .misuse else .ok { draft with dryRun := true }
  | .quiet => if draft.quiet then .error .misuse else .ok { draft with quiet := true }
  | .verbose => .ok { draft with verbose := draft.verbose + 1 }
  | .help => .error .help
  | .version => .error .version
  | .config | .workers => .error .misuse

/-- Takes notice of letters in one word. The option whose value is the next argument is returned. -/
def addLetters (draft : Draft) : List Char → Except Request (Draft × Option Switch)
  | [] => .ok (draft, none)
  | c :: rest =>
    match Switch.ofLetter? c with
    | none => .error .misuse
    | some switch =>
      if switch.hasValue then
        match rest with
        | [] => .ok (draft, some switch)
        | '=' :: value => (draft.addValue switch (String.ofList value)).map (·, none)
        | value => (draft.addValue switch (String.ofList value)).map (·, none)
      else
        match draft.addFlag switch with
        | .ok draft => draft.addLetters rest
        | .error request => .error request

/-- Takes notice of a long option. -/
def addLong (draft : Draft) (text : List Char) : Except Request (Draft × Option Switch) :=
  let name := text.takeWhile (· ≠ '=')
  match Switch.ofName? (String.ofList name), text.drop name.length with
  | none, _ => .error .misuse
  | some switch, '=' :: value => (draft.addValue switch (String.ofList value)).map (·, none)
  | some switch, _ =>
    if switch.hasValue then .ok (draft, some switch) else (draft.addFlag switch).map (·, none)

/-- What the arguments ask for, once all are read. -/
def finish (draft : Draft) : Request :=
  match draft.input with
  | none => .misuse
  | some input =>
    if draft.quiet && 0 < draft.verbose then .misuse
    else
      .run ⟨input, draft.config, draft.workers, draft.printNew, draft.dryRun, draft.verbose,
        draft.quiet⟩

/-- Reads arguments; `awaiting` is the option whose value is expected, and behind two hyphens alone
all arguments are files. -/
def read (draft : Draft) (awaiting : Option Switch) (onlyFiles : Bool) :
    List String → Except Request Draft
  | [] => if awaiting.isSome then .error .misuse else .ok draft
  | argument :: rest =>
    let file : Except Request Draft :=
      match awaiting with
      | some switch => draft.addValue switch argument
      | none => draft.addInput argument
    match onlyFiles, argument.toList with
    | false, ['-', '-'] => if awaiting.isSome then .error .misuse else draft.read none true rest
    | false, '-' :: '-' :: text =>
      if awaiting.isSome then .error .misuse
      else
        match draft.addLong text with
        | .ok (draft, awaiting) => draft.read awaiting false rest
        | .error request => .error request
    | false, '-' :: c :: text =>
      if awaiting.isSome then .error .misuse
      else
        match draft.addLetters (c :: text) with
        | .ok (draft, awaiting) => draft.read awaiting false rest
        | .error request => .error request
    | _, _ =>
      match file with
      | .ok draft => draft.read none onlyFiles rest
      | .error request => .error request

end Draft

/-- Reads the arguments of a command line. -/
def Request.ofArguments (arguments : List String) : Request :=
  match Draft.read {} none false arguments with
  | .ok draft => draft.finish
  | .error request => request

end CrawlFrontier.Command
