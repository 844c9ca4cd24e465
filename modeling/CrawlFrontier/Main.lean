import CrawlFrontier.Command.Run
import Std.Time

/-!
# The program

Reads the files that the arguments name, runs, and prints what the run leaves behind.
-/

open CrawlFrontier

/-- The bytes of a file, if it can be read. -/
def readBytes? (path : String) : IO (Option (List UInt8)) := do
  try
    let bytes ← IO.FS.readBinFile path
    pure (some bytes.toList)
  catch _ => pure none

/-- The time of the clock, in the zone without offset. -/
def clockText : IO String := do
  let now := Std.Time.DateTime.ofTimestampWithZone (← Std.Time.Timestamp.now) .UTC
  pure (now.format "uuuu-MM-dd'T'HH:mm:ss.SSSSSSSSSxxx")

/-- Runs the program with the arguments of the command line. -/
def main (arguments : List String) : IO UInt32 := do
  let files ← (Command.paths arguments).mapM fun path => do pure (path, ← readBytes? path)
  let result := Command.run (fun path => (files.lookup path).join) (← clockText) arguments
  for notice in result.notices do
    if Command.isShown arguments notice then IO.eprintln notice.text
  for line in result.output do
    IO.println line
  match result.error with
  | some error =>
    IO.eprintln ("Error: " ++ error.message)
    if let some cause := error.cause? then IO.eprintln ("\nCaused by:\n    " ++ cause)
  | none => pure ()
  pure (UInt32.ofNat result.code)
