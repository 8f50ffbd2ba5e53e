import Proofreader.Cli
import Proofreader.Regex.Backtracking

/-!
# The command-line program

Reads the files the arguments name, runs the command line on them with the backtracking regex
engine and prints what it prints; the exit status is the run's status. A `compile` writes the
description of the compiled rules.
-/

open Proofreader

/-- The text of a file, or nothing when it cannot be read. -/
def readText (path : String) : IO (Option String) := do
  try
    pure (some (← IO.FS.readFile path))
  catch _ =>
    pure none

/-- The contents of the files an invocation reads, by path. -/
def readInputs (inv : Cli.Invocation) : IO (List (String × String)) := do
  let paths := [inv.rules] ++ inv.tagger.toList ++ inv.disambiguation.toList
  let mut found : List (String × String) := []
  for p in paths do
    if let some text ← readText p then
      found := found ++ [(p, text)]
  pure found

/-- Runs the command line. -/
def main (args : List String) : IO UInt32 := do
  let outcome ← match Cli.readArgs args {} with
    | .run inv => do
      let files ← readInputs inv
      pure (Cli.execute Regex.backtracking inv fun p => List.lookup p files)
    | _ => pure (Cli.run Regex.backtracking args fun _ => none)
  IO.print outcome.stdout
  if let (.run { command := .compile out, .. }, some rules) := (Cli.readArgs args {}, outcome.stored) then
    IO.FS.writeFile out ((Json.arr (rules.rules.map Rule.describe)).render ++ "\n")
  match outcome.error with
  | some "usage" => IO.eprintln "error: the arguments do not fit the command line"
  | some kind => IO.eprintln ("Error: " ++ kind)
  | none => pure ()
  pure outcome.status.toUInt32
