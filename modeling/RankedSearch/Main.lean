import RankedSearch.CommandLine.Run

/-! The program. It has no transport of its own: linked by itself it finds nobody who listens. -/

open RankedSearch RankedSearch.CommandLine

/-- The text of a file, if it can be read and is one. -/
def readText? (path : String) : IO (Option String) := do
  try
    return Text.ofUtf8? (← IO.FS.readBinFile path).toList
  catch _ => return none

def refuse (refusal : Refusal) : IO UInt32 := do
  match refusal with
  | .version =>
    IO.println version
    return 0
  | .help =>
    IO.println usage
    return 0
  | _ =>
    IO.eprintln usage
    return 2

def main (words : List String) : IO UInt32 := do
  match Arguments.ofWords words with
  | .error refusal => refuse refusal
  | .ok args =>
    let outcome := run args (← readText? args.config) Http.Nobody.mk
    for line in outcome.lines do
      IO.println line
    match outcome.fault with
    | none => return 0
    | some fault =>
      IO.eprintln s!"Error: {fault.message}"
      return 1
