import ServiceDescription.CommandLine.Run

/-! The program: arguments, variables and files go in, text and a file come out. -/
open ServiceDescription CommandLine

def variableNames : List String := ["WW_INPUT_FILE", "WW_JSON_OUTPUT", "WW_VERBOSE"]

/-- The octets of a file, if it can be read. -/
def contents? (path : String) : IO (Option (List UInt8)) :=
  try
    let bytes ← IO.FS.readBinFile path
    return some bytes.toList
  catch _ => return none

/-- Writes a text to a file, after making the directories that lead there. -/
def writeText (path text : String) : IO Unit := do
  let directory := "/".intercalate (path.splitOn "/").dropLast
  if directory ≠ "" then IO.FS.createDirAll directory
  IO.FS.writeFile path text

def main (arguments : List String) : IO UInt32 := do
  let values ← variableNames.mapM fun v => return (v, ← IO.getEnv v)
  let env : Environment := fun v => (values.lookup v).join
  let input ←
    match Request.ofArguments arguments env with
    | .ok (.job j) => contents? j.input
    | _ => pure none
  let outcome := run arguments env fun _ => input
  match outcome.written with
  | some (path, text) => writeText path text
  | none => pure ()
  IO.print outcome.output
  IO.eprint outcome.errors
  return outcome.status.toUInt32
