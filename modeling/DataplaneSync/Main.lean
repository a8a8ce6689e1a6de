import DataplaneSync.CommandLine
import DataplaneSync.Json.Printer

/-!
# The command

Reads the files that the arguments name, runs the configuration against a simulated dataplane,
prints the operations and writes the plan.
-/

open DataplaneSync

/-- The contents of a file, if it can be read. -/
def contentsOf (path : String) : IO (Option ByteArray) := do
  try
    pure (some (← IO.FS.readBinFile path))
  catch _ => pure none

/-- The contents of the files that the options name. -/
def inputs (options : CommandLine.Options) : IO (String → Option ByteArray) := do
  let config ← contentsOf options.config
  let snapshot ← match options.snapshot with
    | none => pure none
    | some path => contentsOf path
  pure fun path => if path = options.config then config else snapshot

/-- Run the command. -/
def main (arguments : List String) : IO UInt32 := do
  match CommandLine.parse? arguments with
  | none =>
    IO.eprintln "the arguments are not understood"
    pure 2
  | some options =>
    let contents ← inputs options
    let result := CommandLine.execute arguments contents
    IO.print result.output
    match options.output, result.plan with
    | some path, some plan =>
      try
        IO.FS.writeFile path (Json.renderLines 0 plan)
        pure result.code.toUInt32
      catch _ => pure result.unwritten.code.toUInt32
    | _, _ => pure result.code.toUInt32
