import CrawlFrontier.Proofs.Command.Report
import CrawlFrontier.Proofs.Config.Valid
import CrawlFrontier.Proofs.Replay.Candidate
import CrawlFrontier.Proofs.Text.Utf8

/-!
# Checks of a run

Before a run shows its configuration or replays anything, it makes one check after another: of the
configuration file, of the number of workers that is given and of the list of candidates. Here each
check is said on its own, with what is reported if it fails. Main statement: a run ends well exactly
if all checks pass; else nothing is printed, and the first check that fails is the one that is
reported.
-/

namespace CrawlFrontier

open CrawlFrontier.Text

namespace Command

/-- The files that a run may read. -/
inductive Source where
  | config
  | list
  deriving DecidableEq, Repr

/-- The checks of a run. -/
inductive Check where
  /-- There is the file. -/
  | there (source : Source)
  /-- The file is UTF-8. -/
  | isText (source : Source)
  /-- The configuration file is TOML, and its values have the types of the settings. -/
  | typed
  /-- The number of workers in the configuration file is in range. -/
  | workers
  /-- The interval of progress in the configuration file is not zero. -/
  | interval
  /-- The keys in the configuration file are plain. -/
  | params
  /-- The number of workers that is given is in range. -/
  | givenWorkers
  /-- The lines of the list of candidates are entries. -/
  | entries
  deriving DecidableEq, Repr

/-- All checks in the order in which they are made. -/
def Check.all : List Check :=
  [.there .config, .isText .config, .typed, .workers, .interval, .params, .givenWorkers,
    .there .list, .isText .list, .entries]

/-- The path of a file that a run reads. A run that only shows its configuration reads no list. -/
def Arguments.path? (arguments : Arguments) : Source → Option String
  | .config => arguments.config
  | .list => if arguments.dryRun then none else some arguments.input

/-- The failure of a run by a file that gives no text. -/
def Failure.unreadable (path : String) (cause : ReadError) : Source → Failure
  | .config => .config path (.unreadable cause)
  | .list => .candidates path (.unreadable cause)

section

variable (files : String → Option (List UInt8)) (arguments : Arguments)

/-- The text of a file that a run reads. -/
def text? (source : Source) : Option String :=
  (arguments.path? source).bind fun path => (readText (files path)).toOption

/-- What the configuration file says, if it can be read. -/
def fileSettings? : Option Config :=
  (text? files arguments .config).bind fun text => Toml.parse? text >>= Config.ofValue?

/-- Whether a check passes. A check of what is not there to be checked passes. -/
def Passes : Check → Prop
  | .there source => ∀ path ∈ arguments.path? source, files path ≠ none
  | .isText source => ∀ path ∈ arguments.path? source, ∀ bytes ∈ files path,
      ∃ text, utf8 text = bytes
  | .typed => ∀ text ∈ text? files arguments .config, Toml.parse? text >>= Config.ofValue? ≠ none
  | .workers => ∀ config ∈ fileSettings? files arguments,
      1 ≤ config.workers ∧ config.workers ≤ 256
  | .interval => ∀ config ∈ fileSettings? files arguments, 1 ≤ config.progressInterval
  | .params => ∀ config ∈ fileSettings? files arguments,
      ∀ param ∈ config.rules.trackingParams, Config.IsPlainParam param
  | .givenWorkers => ∀ count ∈ arguments.workers, 1 ≤ count ∧ count ≤ 256
  | .entries => ∀ text ∈ text? files arguments .list,
      ∀ line ∈ lines text.toList, Candidate.IsEntry line

/-- What is reported of a check that fails: of keys and of lines, the first that is not in order. -/
def Reports : Check → Failure → Prop
  | .there source, failure => ∃ path ∈ arguments.path? source,
      failure = .unreadable path .missing source
  | .isText source, failure => ∃ path ∈ arguments.path? source,
      failure = .unreadable path .notText source
  | .typed, failure => ∃ path ∈ arguments.config, failure = .config path .malformed
  | .workers, failure => ∃ path ∈ arguments.config, ∃ config ∈ fileSettings? files arguments,
      failure = .config path (.validation
        ("workers must be between 1 and 256, got " ++ toString config.workers))
  | .interval, failure => ∃ path ∈ arguments.config,
      failure = .config path (.validation "progress_interval must be >= 1")
  | .params, failure => ∃ path ∈ arguments.config, ∃ config ∈ fileSettings? files arguments,
      ∃ good bad rest, config.rules.trackingParams = good ++ bad :: rest ∧
        (∀ param ∈ good, Config.IsPlainParam param) ∧ ¬Config.IsPlainParam bad ∧
        failure = .config path (Config.paramError bad)
  | .givenWorkers, failure => ∃ count ∈ arguments.workers, failure = .workers count
  | .entries, failure => ∃ text ∈ text? files arguments .list,
      ∃ good bad rest, lines text.toList = good ++ bad :: rest ∧
        (∀ line ∈ good, Candidate.IsEntry line) ∧ ¬Candidate.IsEntry bad ∧
        failure = .candidates arguments.input (Candidate.lineError (good.length + 1) bad)

/-- What is noticed in front of a check that fails: in the lines in front of one that is no entry. -/
def noticed : Check → List Notice
  | .entries => (text? files arguments .list).elim [] fun text =>
      (Candidate.told ((lines text.toList).takeWhile fun line => Candidate.IsEntry line)).2
  | _ => []

/-- What becomes of checks that are made one after another: all of them pass, or the first that
fails is reported. -/
inductive Settles {α : Type} : List Check → Except Failure α → Prop where
  | done (value : α) : Settles [] (.ok value)
  | pass {check : Check} {rest : List Check} {outcome : Except Failure α}
      (passes : Passes files arguments check) (settles : Settles rest outcome) :
      Settles (check :: rest) outcome
  | stop {check : Check} {rest : List Check} {failure : Failure}
      (fails : ¬Passes files arguments check) (reports : Reports files arguments check failure) :
      Settles (check :: rest) (.error failure)

end

namespace Settles

variable {files : String → Option (List UInt8)} {arguments : Arguments} {α β : Type}
  {checks more : List Check}

/-- Checks that all pass are passed. -/
theorem of_forall (all : ∀ check ∈ checks, Passes files arguments check) (value : α) :
    Settles files arguments checks (.ok value) := by
  induction checks with
  | nil => exact .done value
  | cons check rest ih =>
    obtain ⟨passes, others⟩ := List.forall_mem_cons.mp all
    exact .pass passes (ih others)

/-- Checks are made after others if these pass. -/
theorem bind {first : Except Failure α} {next : α → Except Failure β}
    (front : Settles files arguments checks first)
    (back : ∀ value, first = .ok value → Settles files arguments more (next value)) :
    Settles files arguments (checks ++ more) (first.bind next) := by
  induction front with
  | done value => exact back value rfl
  | pass passes _ ih => exact .pass passes (ih back)
  | stop fails reports => exact .stop fails reports

/-- What is made of a success is settled by no further check. -/
theorem map {outcome : Except Failure α} (settles : Settles files arguments checks outcome)
    (change : α → β) : Settles files arguments checks (outcome.map change) := by
  induction settles with
  | done value => exact .done (change value)
  | pass passes _ ih => exact .pass passes ih
  | stop fails reports => exact .stop fails reports

/-- Where checks pass, all of them do. -/
theorem passes_of_ok {value : α} (settles : Settles files arguments checks (.ok value)) :
    ∀ check ∈ checks, Passes files arguments check := by
  generalize outcome : Except.ok value = result at settles
  induction settles with
  | done => exact nofun
  | pass passes _ ih => exact List.forall_mem_cons.mpr ⟨passes, ih outcome⟩
  | stop => cases outcome

/-- Where a failure is reported, it is that of the first check that fails. -/
theorem exists_of_error {failure : Failure}
    (settles : Settles files arguments checks (.error failure : Except Failure α)) :
    ∃ before check after, checks = before ++ check :: after ∧
      (∀ other ∈ before, Passes files arguments other) ∧ ¬Passes files arguments check ∧
      Reports files arguments check failure := by
  generalize outcome : (Except.error failure : Except Failure α) = result at settles
  induction settles with
  | done => cases outcome
  | pass passes _ ih =>
    obtain ⟨before, check, after, rfl, others, fails, reports⟩ := ih outcome
    have front := List.forall_mem_cons.mpr ⟨passes, others⟩
    exact ⟨_ :: before, check, after, rfl, front, fails, reports⟩
  | stop fails reports =>
    cases outcome
    exact ⟨[], _, _, rfl, nofun, fails, reports⟩

end Settles

section

variable {files : String → Option (List UInt8)} {arguments : Arguments} {path : String}

/-- A file that a run reads must be there and be UTF-8. -/
theorem settles_readText {source : Source} (asked : arguments.path? source = some path) :
    Settles files arguments [.there source, .isText source]
      ((readText (files path)).mapError fun cause => .unreadable path cause source) := by
  cases found : files path with
  | none =>
    exact .stop (fun all => all path asked found) ⟨path, asked, rfl⟩
  | some bytes =>
    have there : Passes files arguments (.there source) := by
      intro other mem
      obtain rfl := Option.some.inj (asked.symm.trans mem)
      rw [found]
      exact Option.some_ne_none bytes
    refine .pass there ?_
    cases read : fromUtf8? bytes with
    | none =>
      -- The strict reader would have read what was written.
      have fails : ¬Passes files arguments (.isText source) := by
        intro all
        obtain ⟨text, written⟩ := all path asked bytes found
        rw [fromUtf8?_eq_some_iff.mpr written] at read
        cases read
      rw [readText, read]
      exact .stop fails ⟨path, asked, rfl⟩
    | some text =>
      have isText : Passes files arguments (.isText source) := by
        intro other mem
        obtain rfl := Option.some.inj (asked.symm.trans mem)
        intro others inside
        obtain rfl := Option.some.inj (found.symm.trans inside)
        exact ⟨text, fromUtf8?_eq_some_iff.mp read⟩
      rw [readText, read]
      exact .pass isText (.done _)

/-- The text of a file that a run reads. -/
theorem text?_of_readText {source : Source} {text : String}
    (asked : arguments.path? source = some path) (read : readText (files path) = .ok text) :
    text? files arguments source = some text := by
  rw [text?, asked, Option.bind_some, read]
  rfl

/-- A file that is not read has no text. -/
theorem text?_of_path?_eq_none {source : Source} (nothing : arguments.path? source = none) :
    text? files arguments source = none := by
  rw [text?, nothing]
  rfl

/-- Without a configuration file there is nothing that it says. -/
theorem fileSettings?_of_config_eq_none (nothing : arguments.config = none) :
    fileSettings? files arguments = none := by
  have noFile : arguments.path? .config = none := nothing
  rw [fileSettings?, text?_of_path?_eq_none noFile]
  rfl

/-- The configuration in a text, if its values have the types of the settings. -/
def typedConfig (path text : String) : Except Failure Config :=
  match Toml.parse? text >>= Config.ofValue? with
  | some config => .ok config
  | none => .error (.config path .malformed)

/-- A configuration that is valid. -/
def validConfig (path : String) (config : Config) : Except Failure Config :=
  (config.validate.map fun _ => config).mapError (.config path)

/-- A configuration file is read, its values are taken, and they are checked. -/
theorem load_eq_bind (bytes : Option (List UInt8)) (path : String) :
    (Config.load bytes).mapError (.config path) =
      ((readText bytes).mapError fun cause => Failure.unreadable path cause .config).bind
        fun text => (typedConfig path text).bind (validConfig path) := by
  unfold Config.load Config.parse typedConfig
  cases readText bytes with
  | error cause => rfl
  | ok text =>
    simp only [Except.mapError, Except.bind]
    cases Toml.parse? text >>= Config.ofValue? with
    | none => rfl
    | some config => rfl

/-- The values of a configuration file must have the types of the settings. -/
theorem settles_typedConfig {text : String} (asked : arguments.config = some path)
    (read : text? files arguments .config = some text) :
    Settles files arguments [.typed] (typedConfig path text) := by
  unfold typedConfig
  split
  · next config said =>
    refine .pass (fun other mem => ?_) (.done config)
    obtain rfl := Option.some.inj (read.symm.trans mem)
    rw [said]
    exact Option.some_ne_none config
  · next nothing => exact .stop (fun all => all text read nothing) ⟨path, asked, rfl⟩

/-- The numbers of a configuration file must be in range and its keys plain. -/
theorem settles_validConfig {config : Config} (asked : arguments.config = some path)
    (said : fileSettings? files arguments = some config) :
    Settles files arguments [.workers, .interval, .params] (validConfig path config) := by
  -- There is one configuration in the file, so what holds of it passes.
  have only {p : Config → Prop} (holds : p config) :
      ∀ other ∈ fileSettings? files arguments, p other := by
    intro other mem
    obtain rfl := Option.some.inj (said.symm.trans mem)
    exact holds
  unfold validConfig
  by_cases workers : 1 ≤ config.workers ∧ config.workers ≤ 256
  swap
  · rw [Config.validate_of_workers workers]
    exact .stop (fun all => workers (all config said)) ⟨path, asked, config, said, rfl⟩
  refine .pass (only workers) ?_
  by_cases interval : 1 ≤ config.progressInterval
  swap
  · rw [Config.validate_of_interval workers interval]
    exact .stop (fun all => interval (all config said)) ⟨path, asked, rfl⟩
  refine .pass (only interval) ?_
  rw [Config.validate_of_numbers workers interval]
  rcases Config.forM_checkParam_cases config.rules.trackingParams with
    ⟨all, passed⟩ | ⟨good, bad, rest, shape, before, other, failed⟩
  · rw [passed]
    exact .pass (only all) (.done config)
  · have fails : ¬Passes files arguments .params := by
      intro all
      have inside : bad ∈ config.rules.trackingParams := by
        rw [shape]
        exact List.mem_append_right good List.mem_cons_self
      exact other (all config said bad inside)
    rw [failed]
    exact .stop fails ⟨path, asked, config, said, good, bad, rest, shape, before, other, rfl⟩

/-- A configuration whose values have the types of the settings is what the file says. -/
theorem fileSettings?_of_typedConfig {text : String} {config : Config}
    (read : text? files arguments .config = some text)
    (typed : typedConfig path text = .ok config) : fileSettings? files arguments = some config := by
  rw [fileSettings?, read, Option.bind_some]
  unfold typedConfig at typed
  split at typed
  · next said => rw [said, Except.ok.inj typed]
  · cases typed

/-- The configuration of a run is settled by the first six checks. -/
theorem settles_fileConfig :
    Settles files arguments [.there .config, .isText .config, .typed, .workers, .interval, .params]
      (fileConfig files arguments) := by
  unfold fileConfig
  cases asked : arguments.config with
  | none =>
    have noFile : arguments.path? .config = none := asked
    have noText : text? files arguments .config = none := text?_of_path?_eq_none noFile
    have noSettings : fileSettings? files arguments = none :=
      fileSettings?_of_config_eq_none asked
    refine .of_forall ?_ _
    simp [Passes, noFile, noText, noSettings]
  | some path =>
    have reads : arguments.path? .config = some path := asked
    simp only
    rw [load_eq_bind]
    refine (settles_readText reads).bind fun text read => ?_
    have read : text? files arguments .config = some text :=
      text?_of_readText reads (eq_ok_of_mapError read)
    refine (settles_typedConfig asked read).bind fun config typed => ?_
    exact settles_validConfig asked (fileSettings?_of_typedConfig read typed)

/-- The configuration that a run reads is what the file says, or the default if there is no file. -/
theorem fileConfig_cases {base : Config} (configured : fileConfig files arguments = .ok base) :
    (base = {} ∧ fileSettings? files arguments = none) ∨
      fileSettings? files arguments = some base := by
  unfold fileConfig at configured
  cases asked : arguments.config with
  | none =>
    rw [asked] at configured
    exact .inl ⟨(Except.ok.inj configured).symm, fileSettings?_of_config_eq_none asked⟩
  | some path =>
    have reads : arguments.path? .config = some path := asked
    rw [asked] at configured
    simp only at configured
    rw [load_eq_bind] at configured
    obtain ⟨text, read, configured⟩ := bind_eq_ok.mp configured
    obtain ⟨config, typed, configured⟩ := bind_eq_ok.mp configured
    obtain ⟨-, -, rfl⟩ := map_eq_ok (eq_ok_of_mapError configured)
    have read : text? files arguments .config = some text :=
      text?_of_readText reads (eq_ok_of_mapError read)
    exact .inr (fileSettings?_of_typedConfig read typed)

/-- The configuration that a run reads is valid. -/
theorem valid_of_fileConfig {base : Config} (configured : fileConfig files arguments = .ok base) :
    base.Valid := by
  rcases fileConfig_cases configured with ⟨rfl, -⟩ | said
  · exact Config.valid_default
  -- The checks of the numbers and keys passed, and they are those of a valid configuration.
  · have settles : Settles files arguments _ (.ok base) := configured ▸ settles_fileConfig
    have passes := settles.passes_of_ok
    have workers := passes .workers (by decide)
    have interval := passes .interval (by decide)
    have params := passes .params (by decide)
    exact ⟨workers base said, interval base said, params base said⟩

/-- The number of workers that is given must be in range. -/
theorem settles_chooseWorkers (base : Config) :
    Settles files arguments [.givenWorkers] (chooseWorkers base arguments.workers) := by
  cases given : arguments.workers with
  | none =>
    refine .pass ?_ (.done base)
    simp [Passes, given]
  | some count =>
    rw [chooseWorkers]
    by_cases valid : 1 ≤ count ∧ count ≤ 256
    · rw [if_pos (Config.validWorkers_iff.mpr valid)]
      refine .pass ?_ (.done _)
      simpa [Passes, given] using valid
    · rw [if_neg (mt Config.validWorkers_iff.mp valid)]
      exact .stop (fun all => valid (all count given)) ⟨count, given, rfl⟩

/-- The configuration of a run: what the file says, with the number of workers that is given. -/
def settings (files : String → Option (List UInt8)) (arguments : Arguments) : Config :=
  let base := (fileSettings? files arguments).getD {}
  { base with workers := arguments.workers.getD base.workers }

/-- A run that has a configuration has these settings, and they are valid. -/
theorem effectiveConfig_spec {config : Config}
    (configured : effectiveConfig files arguments = .ok config) :
    config = settings files arguments ∧ config.Valid := by
  obtain ⟨base, loaded, chosen⟩ := effectiveConfig_eq_ok_iff.mp configured
  obtain ⟨inRange, rfl⟩ := chooseWorkers_eq_ok_iff.mp chosen
  have valid := valid_of_fileConfig loaded
  have said : (fileSettings? files arguments).getD {} = base := by
    rcases fileConfig_cases loaded with ⟨rfl, nothing⟩ | said
    · rw [nothing]
      rfl
    · rw [said]
      rfl
  refine ⟨by rw [settings, said], ?_, valid.interval, valid.params⟩
  cases given : arguments.workers with
  | none => exact valid.workers
  | some count => exact Config.validWorkers_iff.mp (inRange count given)

/-- What a run does with its configuration: it shows it, or reads the list of candidates and replays
it. -/
def conclude (files : String → Option (List UInt8)) (time : String) (arguments : Arguments)
    (config : Config) : Except Failure Result :=
  if arguments.dryRun then .ok (.success (configLines config) [])
  else
    let list := Candidate.load (files arguments.input)
    (list.result.mapError (.candidates arguments.input)).map fun candidates =>
      replayResult time config arguments candidates list.notices

/-- What was noticed in front of a failure: what there is to report of a list that was begun. -/
def Failure.noticed (files : String → Option (List UInt8)) (arguments : Arguments) :
    Failure → List Notice
  | .candidates _ _ => (Candidate.load (files arguments.input)).notices
  | _ => []

/-- Nothing is noticed while the configuration is read. -/
theorem noticed_of_effectiveConfig {failure : Failure}
    (failed : effectiveConfig files arguments = .error failure) :
    failure.noticed files arguments = [] := by
  rw [effectiveConfig_eq_bind] at failed
  cases loaded : fileConfig files arguments with
  | error other =>
    rw [loaded] at failed
    obtain rfl : other = failure := Except.error.inj failed
    unfold fileConfig at loaded
    split at loaded
    · cases loaded
    · next path asked =>
      cases read : Config.load (files path) with
      | error cause =>
        rw [read] at loaded
        obtain rfl := Except.error.inj loaded
        rfl
      | ok config =>
        rw [read] at loaded
        cases loaded
  | ok base =>
    rw [loaded] at failed
    change chooseWorkers base arguments.workers = .error failure at failed
    unfold chooseWorkers at failed
    split at failed
    · cases failed
    · split at failed
      · cases failed
      · obtain rfl := Except.error.inj failed
        rfl

/-- A run has a configuration and concludes, or a failure is reported. -/
theorem runWith_eq (files : String → Option (List UInt8)) (time : String) (arguments : Arguments) :
    runWith files time arguments =
      match (effectiveConfig files arguments).bind (conclude files time arguments) with
      | .ok result => result
      | .error failure => .failure failure (failure.noticed files arguments) := by
  unfold runWith conclude
  cases configured : effectiveConfig files arguments with
  | error failure =>
    simp only [Except.bind]
    rw [noticed_of_effectiveConfig configured]
  | ok config =>
    simp only [Except.bind]
    split
    · rfl
    · cases failed : (Candidate.load (files arguments.input)).result with
      | error cause => rfl
      | ok candidates => rfl

/-- A list of candidates is read, and then its lines are. -/
theorem candidates_eq_bind (bytes : Option (List UInt8)) (path : String) :
    (Candidate.load bytes).result.mapError (.candidates path) =
      ((readText bytes).mapError fun cause => Failure.unreadable path cause .list).bind
        fun text => (Candidate.parse text).result.mapError (.candidates path) := by
  unfold Candidate.load
  cases readText bytes with
  | error cause => rfl
  | ok text => rfl

/-- The lines of a list of candidates must be entries. -/
theorem settles_parse {text : String} (read : text? files arguments .list = some text) :
    Settles files arguments [.entries]
      ((Candidate.parse text).result.mapError (.candidates arguments.input)) := by
  unfold Candidate.parse
  rcases Candidate.forall_isEntry_or_exists (lines text.toList) with
    all | ⟨good, bad, rest, shape, before, other⟩
  · have passes : Passes files arguments .entries := by
      intro found mem
      obtain rfl := Option.some.inj (read.symm.trans mem)
      exact all
    rw [Candidate.readLines_of_forall all]
    exact .pass passes (.done _)
  · have fails : ¬Passes files arguments .entries := by
      intro all
      refine other (all text read bad ?_)
      rw [shape]
      exact List.mem_append_right good List.mem_cons_self
    rw [shape, Candidate.readLines_of_not_isEntry before other, Nat.add_comm]
    exact .stop fails ⟨text, read, good, bad, rest, shape, before, other, rfl⟩

/-- What a run does with its configuration is settled by the last three checks. They have nothing to
check if the configuration is only shown. -/
theorem settles_conclude (time : String) (config : Config) :
    Settles files arguments [.there .list, .isText .list, .entries]
      (conclude files time arguments config) := by
  unfold conclude
  split
  · next shows =>
    have noFile : arguments.path? .list = none := if_pos shows
    have noText : text? files arguments .list = none := text?_of_path?_eq_none noFile
    refine .of_forall ?_ _
    simp [Passes, noFile, noText]
  · next replays =>
    have reads : arguments.path? .list = some arguments.input := if_neg replays
    refine Settles.map ?_ _
    rw [candidates_eq_bind]
    refine (settles_readText reads).bind fun text read => ?_
    exact settles_parse (text?_of_readText reads (eq_ok_of_mapError read))

/-- A run is settled by all checks in their order. -/
theorem settles_run (time : String) :
    Settles files arguments Check.all
      ((effectiveConfig files arguments).bind (conclude files time arguments)) := by
  rw [effectiveConfig_eq_bind]
  have configured : Settles files arguments
      ([.there .config, .isText .config, .typed, .workers, .interval, .params] ++ [.givenWorkers])
      ((fileConfig files arguments).bind fun base => chooseWorkers base arguments.workers) :=
    settles_fileConfig.bind fun base _ => settles_chooseWorkers base
  exact configured.bind fun config _ => settles_conclude time config

/-- The path of the list of candidates is the one that is given. -/
theorem eq_input_of_path? {path : String} (asked : arguments.path? .list = some path) :
    path = arguments.input := by
  simp only [Arguments.path?] at asked
  split at asked
  · cases asked
  · exact (Option.some.inj asked).symm

/-- The text of a list of candidates is that of the file at the path of the list. -/
theorem readText_of_text? {text : String} (read : text? files arguments .list = some text) :
    readText (files arguments.input) = .ok text := by
  obtain ⟨path, asked, found⟩ := Option.bind_eq_some_iff.mp read
  obtain rfl := eq_input_of_path? asked
  exact toOption_eq_some_iff.mp found

/-- Nothing is noticed in a list that is not read. -/
theorem notices_load_of_error {bytes : Option (List UInt8)} {cause : ReadError}
    (failed : readText bytes = .error cause) : (Candidate.load bytes).notices = [] := by
  rw [Candidate.load, failed]

/-- A list that is not there is not read. -/
theorem readText_of_not_there (asked : arguments.path? .list = some arguments.input)
    (fails : ¬Passes files arguments (.there .list)) :
    readText (files arguments.input) = .error .missing := by
  have missing : files arguments.input = none := by
    simpa [Passes, asked] using fails
  rw [missing]
  rfl

/-- A list that is not UTF-8 is not read. -/
theorem readText_of_not_isText (asked : arguments.path? .list = some arguments.input)
    (fails : ¬Passes files arguments (.isText .list)) :
    readText (files arguments.input) = .error .notText := by
  obtain ⟨bytes, found, other⟩ : ∃ bytes, files arguments.input = some bytes ∧
      ¬∃ text, utf8 text = bytes := by
    simpa [Passes, asked] using fails
  have undecoded : fromUtf8? bytes = none :=
    Option.eq_none_iff_forall_ne_some.mpr fun text read =>
      other ⟨text, fromUtf8?_eq_some_iff.mp read⟩
  rw [found, readText, undecoded]

/-- In front of the first line that is no entry, the notices are those of the entries. -/
theorem notices_load_of_not_isEntry {text : String} {good rest : List (List Char)} {bad : List Char}
    (read : text? files arguments .list = some text)
    (cut : lines text.toList = good ++ bad :: rest)
    (before : ∀ line ∈ good, Candidate.IsEntry line) (other : ¬Candidate.IsEntry bad) :
    (Candidate.load (files arguments.input)).notices = noticed files arguments .entries := by
  have front : (good ++ bad :: rest).takeWhile (fun line => Candidate.IsEntry line) = good := by
    rw [List.takeWhile_append_of_pos (by simpa using before),
      List.takeWhile_cons_of_neg (by simpa using other), List.append_nil]
  rw [noticed, read, Option.elim_some, cut, front, Candidate.load, readText_of_text? read]
  simp only
  rw [Candidate.parse, cut, Candidate.readLines_of_not_isEntry before other]
  rfl

/-- What was noticed in front of a failure is known from the check that it reports. -/
theorem noticed_of_reports {check : Check} {failure : Failure}
    (fails : ¬Passes files arguments check) (reports : Reports files arguments check failure) :
    failure.noticed files arguments = noticed files arguments check := by
  cases check with
  | there source =>
    obtain ⟨path, asked, rfl⟩ := reports
    cases source with
    | config => rfl
    | list =>
      obtain rfl := eq_input_of_path? asked
      exact notices_load_of_error (readText_of_not_there asked fails)
  | isText source =>
    obtain ⟨path, asked, rfl⟩ := reports
    cases source with
    | config => rfl
    | list =>
      obtain rfl := eq_input_of_path? asked
      exact notices_load_of_error (readText_of_not_isText asked fails)
  | typed | interval =>
    obtain ⟨path, -, rfl⟩ := reports
    rfl
  | workers =>
    obtain ⟨path, -, config, -, rfl⟩ := reports
    rfl
  | params =>
    obtain ⟨path, -, config, -, good, bad, rest, -, -, -, rfl⟩ := reports
    rfl
  | givenWorkers =>
    obtain ⟨count, -, rfl⟩ := reports
    rfl
  | entries =>
    obtain ⟨text, read, good, bad, rest, cut, before, other, rfl⟩ := reports
    exact notices_load_of_not_isEntry read cut before other

/-- All checks are among those that are made. -/
theorem Check.mem_all (check : Check) : check ∈ Check.all := by
  cases check with
  | there source | isText source => cases source <;> decide
  | typed | workers | interval | params | givenWorkers | entries => decide

/-- What a run concludes ends well, and it is what the run was asked for. -/
theorem conclude_spec {time : String} {config : Config} {result : Result}
    (concluded : conclude files time arguments config = .ok result) :
    result.code = 0 ∧
      (arguments.dryRun = true → result = .success (configLines config) []) ∧
      (arguments.dryRun = false → ∃ candidates notices,
        Candidate.load (files arguments.input) = .whole (candidates, notices) ∧
        result = replayResult time config arguments candidates notices) := by
  unfold conclude at concluded
  cases shows : arguments.dryRun with
  | true =>
    rw [if_pos shows] at concluded
    obtain rfl := Except.ok.inj concluded
    exact ⟨rfl, fun _ => rfl, nofun⟩
  | false =>
    rw [if_neg (by simp [shows])] at concluded
    obtain ⟨candidates, loaded, rfl⟩ := map_eq_ok concluded
    have whole : Candidate.load (files arguments.input) = .whole (candidates, _) :=
      Candidate.Reading.ext (eq_ok_of_mapError loaded) rfl
    exact ⟨rfl, nofun, fun _ => ⟨candidates, _, whole, rfl⟩⟩

/-- A run ends well exactly if all checks pass, and then it shows or replays what it was asked for,
with settings that are valid. Else nothing is printed, and the failure is that of the first check
that fails. -/
theorem run_checked {time : String} {words : List String} (asked : Request.ofArguments words = .run arguments) :
    ((run files time words).code = 0 ↔ ∀ check, Passes files arguments check) ∧
      ((run files time words).code = 0 →
        (settings files arguments).validate = .ok () ∧
        (arguments.dryRun = true →
          run files time words = .success (configLines (settings files arguments)) []) ∧
        (arguments.dryRun = false → ∃ candidates notices,
          Candidate.load (files arguments.input) = .whole (candidates, notices) ∧
          run files time words =
            replayResult time (settings files arguments) arguments candidates notices)) ∧
      ((run files time words).code ≠ 0 → ∃ before check after failure,
        Check.all = before ++ check :: after ∧
        (∀ other ∈ before, Passes files arguments other) ∧ ¬Passes files arguments check ∧
        Reports files arguments check failure ∧
        run files time words = ⟨1, [], some failure, noticed files arguments check⟩) := by
  have settles : Settles files arguments Check.all
      ((effectiveConfig files arguments).bind (conclude files time arguments)) := settles_run time
  have same : run files time words = runWith files time arguments := by rw [run, asked]
  rw [same, runWith_eq]
  cases outcome : (effectiveConfig files arguments).bind (conclude files time arguments) with
  | ok result =>
    rw [outcome] at settles
    obtain ⟨config, configured, concluded⟩ := bind_eq_ok.mp outcome
    obtain ⟨rfl, valid⟩ := effectiveConfig_spec configured
    obtain ⟨ends, shown, replayed⟩ := conclude_spec concluded
    have all : ∀ check, Passes files arguments check :=
      fun check => settles.passes_of_ok check check.mem_all
    exact ⟨⟨fun _ => all, fun _ => ends⟩,
      fun _ => ⟨Config.validate_eq_ok_iff.mpr valid, shown, replayed⟩,
      fun fails => absurd ends fails⟩
  | error failure =>
    rw [outcome] at settles
    obtain ⟨before, check, after, order, others, fails, reports⟩ := settles.exists_of_error
    have code : (Result.failure failure (failure.noticed files arguments)).code ≠ 0 :=
      Nat.one_ne_zero
    have told := noticed_of_reports fails reports
    -- Not all checks pass, since the one that is reported does not.
    exact ⟨⟨fun ends => absurd ends code, fun all => absurd (all check) fails⟩,
      fun ends => absurd ends code,
      fun _ => ⟨before, check, after, failure, order, others, fails, reports, told ▸ rfl⟩⟩

end

/-- A configuration file without workers. -/
def idleText : String := "[frontier]\nworkers = 0\n"

/-- The only file. -/
def idleFiles (path : String) : Option (List UInt8) :=
  if path = "idle.toml" then some (utf8 idleText.toList) else none

/-- A number of workers that is given does not make up for a file that is not valid, and a run that
only shows its configuration needs no list of candidates. -/
theorem run_checked_idle :
    (run idleFiles "now" ["list", "-c", "idle.toml", "-w", "2", "--dry-run"]).code ≠ 0 ∧
      (run idleFiles "now" ["list", "-w", "2", "--dry-run"]).code = 0 := by
  have withFile : Request.ofArguments ["list", "-c", "idle.toml", "-w", "2", "--dry-run"] =
      .run ⟨"list", some "idle.toml", some 2, false, true, 0, false⟩ := by
    decide +kernel
  have withoutFile : Request.ofArguments ["list", "-w", "2", "--dry-run"] =
      .run ⟨"list", none, some 2, false, true, 0, false⟩ := by
    decide +kernel
  constructor
  · have text : text? idleFiles ⟨"list", some "idle.toml", some 2, false, true, 0, false⟩ .config =
        some idleText := by
      refine text?_of_readText rfl ?_
      rw [idleFiles, if_pos rfl, readText, fromUtf8?_utf8]
      rfl
    have said : Toml.parse? idleText >>= Config.ofValue? = some { workers := 0 } := by
      decide +kernel
    have settings : fileSettings? idleFiles
        ⟨"list", some "idle.toml", some 2, false, true, 0, false⟩ = some { workers := 0 } := by
      rw [fileSettings?, text, Option.bind_some, said]
    intro ends
    have workers := (run_checked withFile).1.mp ends .workers _ settings
    exact absurd workers.1 (by decide)
  · have noText (source : Source) :
        text? idleFiles ⟨"list", none, some 2, false, true, 0, false⟩ source = none := by
      cases source <;> rfl
    have noFile (source : Source) (path : String) :
        path ∉ Arguments.path? ⟨"list", none, some 2, false, true, 0, false⟩ source := by
      cases source <;> exact Option.not_mem_none path
    have inRange :
        Passes idleFiles ⟨"list", none, some 2, false, true, 0, false⟩ .givenWorkers := by
      intro count given
      obtain rfl := Option.some.inj given
      decide
    refine (run_checked withoutFile).1.mpr fun check => ?_
    cases check with
    | givenWorkers => exact inRange
    | _ => simp [Passes, noFile, noText, fileSettings?]

end Command

end CrawlFrontier
