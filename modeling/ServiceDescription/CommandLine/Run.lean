import ServiceDescription.CommandLine.Arguments
import ServiceDescription.Rendering.Record
import ServiceDescription.Rendering.Summary
import ServiceDescription.Source

/-! The command: read a service description from a file, print its summary and, on request, write
all of it as JSON. Environment variables win over arguments. Either everything is written or
nothing but the reason. -/
namespace ServiceDescription.CommandLine

/-- The value of a variable, if it is set. -/
abbrev Environment := String → Option String

def programName : String := "wsdl_wrangler.py"

def usage : String :=
  "usage: wsdl_wrangler.py [-h] [--input INPUT] [--json JSON_OUTPUT]\n" ++
  "                        [--no-schema-check] [--verbose]\n"

def help : String :=
  usage ++
  "\nParse a WSDL document and summarize its semantic model\n" ++
  "\noptions:\n" ++
  "  -h, --help            show this help message and exit\n" ++
  "  --input INPUT, -i INPUT\n" ++
  "                        Path to the WSDL document\n" ++
  "  --json JSON_OUTPUT, -j JSON_OUTPUT\n" ++
  "                        Write the model as JSON to this file\n" ++
  "  --no-schema-check     Skip strict re-validation of the embedded schemas\n" ++
  "  --verbose, -v         Enable debug logging\n"

/-- What is to be done: which file to read and, if any, which to write. -/
structure Job where
  input : String
  json : Option String
  strict : Bool
  verbose : Bool
  deriving DecidableEq, Repr

inductive Request where
  | help
  | job (j : Job)
  deriving DecidableEq, Repr

def isYes (s : String) : Bool :=
  ["1", "true", "yes"].contains (String.ofList (s.toList.map Char.toLower))

/-- The input file has to be named; an empty name is none. -/
def Request.ofSettings (env : Environment) (s : Settings) : Except ArgumentError Request :=
  if s.help then .ok .help
  else
    match (((env "WW_INPUT_FILE").or s.input).filter (· ≠ "")) with
    | none => .error .inputMissing
    | some input =>
      .ok (.job {
        input := input
        json := ((env "WW_JSON_OUTPUT").or s.json).filter (· ≠ "")
        strict := !s.noSchemaCheck
        verbose := s.verbose || isYes ((env "WW_VERBOSE").getD "") })

def Request.ofArguments (arguments : List String) (env : Environment) :
    Except ArgumentError Request := do
  Request.ofSettings env (← Settings.ofArguments arguments)

/-- What the command leaves behind: its status, what it prints on either channel and the file it
writes. -/
structure Outcome where
  status : Nat
  output : String := ""
  errors : String := ""
  written : Option (String × String) := none
  deriving DecidableEq, Repr

def Outcome.ofError (e : ArgumentError) : Outcome :=
  { status := 2, errors := usage ++ programName ++ ": error: " ++ e.message ++ "\n" }

/-- The lines of a log, without the debugging ones unless asked for. -/
def logLines (verbose : Bool) (events : List Event) : String :=
  String.join ((events.filter fun e => verbose || e.severity ≠ .debug).map fun e => e.line ++ "\n")

/-- Why a file could not be read. A missing one is just named, unless its name has several lines. -/
def reason? (input : String) (e : Definition.Error) : Option String :=
  if e = .fileMissing && input.toList.contains '\n' then
    some ("Error reading file '" ++ input ++ "': failed to load \"" ++ input ++
      "\": No such file or directory")
  else e.message?

def failureLine (input : String) (e : Definition.Error) : String :=
  match reason? input e with
  | some message => "Error parsing " ++ input ++ ": " ++ message ++ "\n"
  | none => "Error parsing " ++ input ++ "\n"

def Job.perform (j : Job) (files : Definition.Files) : Outcome :=
  let reading := (Definition.ofFile j.strict files j.input).run
  let log := logLines j.verbose reading.events
  match reading.value with
  | .error e => { status := 1, errors := log ++ failureLine j.input e }
  | .ok d =>
    match j.json with
    | none => { status := 0, output := d.summary ++ "\n", errors := log }
    | some path =>
      { status := 0
        output := d.summary ++ "\nModel written to " ++ path ++ "\n"
        errors := log ++ logLines j.verbose [.modelWritten path]
        written := some (path, d.dump) }

def run (arguments : List String) (env : Environment) (files : Definition.Files) : Outcome :=
  match Request.ofArguments arguments env with
  | .error e => .ofError e
  | .ok .help => { status := 0, output := help }
  | .ok (.job j) => j.perform files

end ServiceDescription.CommandLine
