import CrawlFrontier.Command.Arguments
import CrawlFrontier.Config.Load
import CrawlFrontier.Replay.Workers
import CrawlFrontier.Report.Statistics

/-!
# Runs of the program

A run loads the configuration, then the list of candidates, replays it and reports. The first check
that fails ends the run, and then nothing is printed but the error. A crawl fails through its
configuration, through a URL or through its list of candidates; the wording of the first two says
which of them it was.
-/

namespace CrawlFrontier

/-- Why a crawl fails. -/
inductive FrontierError where
  | config (cause : ConfigError)
  | url (cause : UrlError)
  | candidates (cause : CandidateError)
  deriving DecidableEq, Repr

/-- The wording of an error. -/
def FrontierError.message : FrontierError → String
  | .config cause => "Configuration error: " ++ cause.message
  | .url cause => "URL error: " ++ cause.message
  | .candidates cause => cause.message

namespace Command

/-- The check that ends a run. -/
inductive Failure where
  | config (path : String) (cause : ConfigError)
  | workers (count : Nat)
  | candidates (path : String) (cause : CandidateError)
  deriving DecidableEq, Repr

/-- The wording of a failure. -/
def Failure.message : Failure → String
  | .config path _ => "failed to load config " ++ path
  | .workers count => "--workers must be between 1 and 256, got " ++ toString count
  | .candidates path _ => "failed to read candidates from " ++ path

/-- The wording of what is behind a failure, if something is. -/
def Failure.cause? : Failure → Option String
  | .config _ cause => some cause.message
  | .workers _ => none
  | .candidates _ cause => some cause.message

/-- What a run leaves behind. -/
structure Result where
  code : Nat
  output : List String
  error : Option Failure
  notices : List Notice
  deriving DecidableEq, Repr

namespace Result

/-- A run that ends well. -/
def success (output : List String) (notices : List Notice) : Result := ⟨0, output, none, notices⟩

/-- A run that a failing check ends, and what was noticed in front of it. -/
def failure (error : Failure) (notices : List Notice) : Result := ⟨1, [], some error, notices⟩

/-- A run with wrong arguments. -/
def misuse : Result := ⟨2, [], none, []⟩

end Result

/-- Yes or no as it is printed. -/
def boolText (value : Bool) : String := if value then "true" else "false"

/-- The lines that show a configuration. -/
def configLines (config : Config) : List String :=
  let params := config.rules.trackingParams
  ["=== Ripple-Frontier Dry Run ===", "",
    "Frontier:",
    "  Workers: " ++ toString config.workers,
    "  Initial capacity: " ++ toString config.initialCapacity,
    "  Progress interval: " ++ toString config.progressInterval,
    "",
    "Canonicalization:",
    "  Strip www.: " ++ boolText config.rules.stripWww,
    "  Strip query: " ++ boolText config.rules.stripQuery,
    "  Extra tracking params: " ++ (if params.isEmpty then "(none)" else ", ".intercalate params),
    "",
    "✓ Configuration is valid"]

/-- A queued URL as it is listed. -/
def queuedLine (queued : QueuedUrl) : String := queued.url.key ++ "\t" ++ queued.kind.tag

/-- The configuration of a run; the number of workers may be given on the command line. -/
def effectiveConfig (files : String → Option (List UInt8)) (arguments : Arguments) :
    Except Failure Config := do
  let config ←
    match arguments.config with
    | none => pure {}
    | some path =>
      (Config.load (files path)).mapError (.config path)
  match arguments.workers with
  | none => pure config
  | some workers =>
    if Config.validWorkers workers then pure { config with workers }
    else throw (.workers workers)

/-- Replays candidates and reports at the given time. -/
def replayResult (time : String) (config : Config) (arguments : Arguments)
    (candidates : List Candidate) (notices : List Notice) : Result :=
  let outcome := (Frontier.ofConfig config).replay candidates config.workers
  let listing := if arguments.printNew then outcome.frontier.queued.map queuedLine else []
  let report :=
    if arguments.quiet then []
    else (Statistics.ofFrontier outcome.frontier outcome.answer time).report
  .success (listing ++ report) (notices ++ outcome.notices)

/-- Runs the program with files that are known by their paths. What is noticed in a list of candidates
is reported also if the list ends the run. -/
def runWith (files : String → Option (List UInt8)) (time : String) (arguments : Arguments) : Result :=
  match effectiveConfig files arguments with
  | .error error => .failure error []
  | .ok config =>
    if arguments.dryRun then .success (configLines config) []
    else
      let list := Candidate.load (files arguments.input)
      match list.result with
      | .error cause => .failure (.candidates arguments.input cause) list.notices
      | .ok candidates => replayResult time config arguments candidates list.notices

/-- The line that tells the version. -/
def versionLine : String := "ripple-frontier 1.0.0"

/-- The lines that tell how the program is used. -/
def helpLines : List String :=
  ["Seen-URL tracking for a concurrent crawl frontier", "",
    "Usage: ripple-frontier [OPTIONS] <INPUT>", "",
    "Arguments:",
    "  <INPUT>  File of discovered URLs: \x60<url> [tag]\x60 per line", "",
    "Options:",
    "  -c, --config <CONFIG>    Path to TOML configuration file",
    "  -w, --workers <WORKERS>  Number of concurrent workers (overrides the config file)",
    "      --print-new          Print every newly enqueued canonical URL to stdout",
    "      --dry-run            Show the effective configuration without replaying",
    "  -v, --verbose...         Increase logging verbosity (-v, -vv, -vvv)",
    "  -q, --quiet              Suppress non-error output",
    "  -h, --help               Print help",
    "  -V, --version            Print version"]

/-- Runs the program as its arguments ask. -/
def run (files : String → Option (List UInt8)) (time : String) (arguments : List String) : Result :=
  match Request.ofArguments arguments with
  | .run arguments => runWith files time arguments
  | .help => .success helpLines []
  | .version => .success [versionLine] []
  | .misuse => .misuse

/-- The paths of the files that a run reads. -/
def paths (arguments : List String) : List String :=
  match Request.ofArguments arguments with
  | .run arguments => arguments.config.toList ++ [arguments.input]
  | _ => []

/-- Whether a notice is shown, given how talkative the program is. -/
def isShown (arguments : List String) (notice : Notice) : Bool :=
  match Request.ofArguments arguments with
  | .run arguments => !arguments.quiet && (notice.level ≠ .debug || 0 < arguments.verbose)
  | _ => false

end Command

end CrawlFrontier
