import ServiceDescription.Text.DecimalDigit
import ServiceDescription.Text.Quoted

/-! Command line arguments. Options may be shortened as long as one option is meant; one-letter
options may stand together and may have their value attached. -/
namespace ServiceDescription.CommandLine

inductive Flag where
  | help | input | json | noSchemaCheck | verbose
  deriving DecidableEq, Repr

namespace Flag

def takesValue : Flag → Bool
  | input | json => true
  | _ => false

/-- How a flag is named in messages. -/
def label : Flag → String
  | help => "-h/--help"
  | input => "--input/-i"
  | json => "--json/-j"
  | noSchemaCheck => "--no-schema-check"
  | verbose => "--verbose/-v"

/-- Every way to write a flag. -/
def spellings : List (String × Flag) :=
  [("-h", help), ("--help", help), ("--input", input), ("-i", input), ("--json", json),
    ("-j", json), ("--no-schema-check", noSchemaCheck), ("--verbose", verbose), ("-v", verbose)]

end Flag

inductive ArgumentError where
  | ambiguous (argument : String) (candidates : List String)
  | valueMissing (flag : Flag)
  | valueIgnored (flag : Flag) (value : String)
  | unrecognized (arguments : List String)
  | inputMissing
  deriving DecidableEq, Repr

def ArgumentError.message : ArgumentError → String
  | ambiguous argument candidates =>
    "ambiguous option: " ++ argument ++ " could match " ++ ", ".intercalate candidates
  | valueMissing flag => "argument " ++ flag.label ++ ": expected one argument"
  | valueIgnored flag value =>
    "argument " ++ flag.label ++ ": ignored explicit argument " ++ Text.quoted value
  | unrecognized arguments => "unrecognized arguments: " ++ " ".intercalate arguments
  | inputMissing =>
    "the following arguments are required: --input/-i (or WW_INPUT_FILE)"

/-- What an argument is by its looks. A separator makes operands of all that follows it. -/
inductive Word where
  | operand
  | separator
  | unknown
  | option (flag : Flag) (spelling : String) (attached : Option (List Char))
  deriving DecidableEq, Repr

namespace Word

/-- An argument with an equals sign, cut there. -/
def assignment? (argument : String) : Option (String × List Char) :=
  let s := argument.toList
  match s.dropWhile (· ≠ '=') with
  | _ :: value => some (String.ofList (s.takeWhile (· ≠ '=')), value)
  | [] => none

def isDigit (c : Char) : Bool := (Text.digitValue? c).isSome

/-- The end of a text, or the line feed that ends it. -/
def isEnd (s : List Char) : Bool := s = [] || s = ['\n']

/-- A minus and digits of any script, with a point among or before them at most. -/
def isNegativeNumber (s : List Char) : Bool :=
  match s with
  | '-' :: rest =>
    let whole := rest.takeWhile isDigit
    match rest.dropWhile isDigit with
    | '.' :: decimals => !(decimals.takeWhile isDigit).isEmpty && isEnd (decimals.dropWhile isDigit)
    | after => !whole.isEmpty && isEnd after
  | _ => false

/-- The options that a shortened argument may mean. -/
def candidates (argument : String) : List (Flag × String × Option (List Char)) :=
  match argument.toList with
  | '-' :: '-' :: _ =>
    let (written, attached) :=
      match assignment? argument with
      | some (written, attached) => (written, some attached)
      | none => (argument, none)
    Flag.spellings.filterMap fun s =>
      if written.toList.isPrefixOf s.1.toList then some (s.2, s.1, attached) else none
  | '-' :: letter :: rest =>
    Flag.spellings.filterMap fun s =>
      if s.1 = String.ofList ['-', letter] then some (s.2, s.1, some rest) else none
  | _ => []

def ofArgument (argument : String) : Except ArgumentError Word :=
  match argument.toList with
  | '-' :: _ :: _ =>
    match Flag.spellings.lookup argument with
    | some flag => .ok (.option flag argument none)
    | none =>
      let exact := (assignment? argument).bind fun a =>
        (Flag.spellings.lookup a.1).map fun flag => Word.option flag a.1 (some a.2)
      match exact, candidates argument with
      | some word, _ => .ok word
      | none, [(flag, spelling, attached)] => .ok (.option flag spelling attached)
      | none, [] =>
        if isNegativeNumber argument.toList || argument.toList.contains ' ' then .ok .operand
        else .ok .unknown
      | none, many => .error (.ambiguous argument (many.map (·.2.1)))
  | _ => .ok .operand

def ofArguments : List String → Except ArgumentError (List (String × Word))
  | [] => .ok []
  | "--" :: rest => .ok (("--", .separator) :: rest.map (·, .operand))
  | argument :: rest => do
    let word ← ofArgument argument
    let words ← ofArguments rest
    return (argument, word) :: words

end Word

structure Settings where
  help : Bool := false
  input : Option String := none
  json : Option String := none
  noSchemaCheck : Bool := false
  verbose : Bool := false
  deriving DecidableEq, Repr

namespace Settings

def set (s : Settings) (flag : Flag) (value : String) : Settings :=
  match flag with
  | .help => { s with help := true }
  | .input => { s with input := some value }
  | .json => { s with json := some value }
  | .noSchemaCheck => { s with noSchemaCheck := true }
  | .verbose => { s with verbose := true }

end Settings

/-- The flags in one argument: those without a value, and a last one whose value is attached or, if
none is, still to come. -/
structure Cluster where
  plain : List Flag
  valued : Option (Flag × Option String) := none
  deriving DecidableEq, Repr

namespace Cluster

def ofFlag (flag : Flag) : Cluster :=
  if flag.takesValue then { plain := [], valued := some (flag, none) } else { plain := [flag] }

/-- A one-letter flag and what is attached to it. Where the flag takes no value the letters are
further flags, and each of them has to be one. -/
def letters? (flag : Flag) (attached : List Char) : Except ArgumentError Cluster :=
  if flag.takesValue then .ok { plain := [], valued := some (flag, some (String.ofList attached)) }
  else
    match attached with
    | [] => .error (.valueIgnored flag "")
    | c :: rest =>
      let later : Except ArgumentError Cluster :=
        match Flag.spellings.lookup (String.ofList ['-', c]), rest with
        | none, _ => .error (.valueIgnored flag (String.ofList (c :: rest)))
        | some next, [] => .ok (ofFlag next)
        | some next, d :: rest => letters? next (d :: rest)
      later.map fun found => { found with plain := flag :: found.plain }

def ofOption? (flag : Flag) (spelling : String) (attached : Option (List Char)) :
    Except ArgumentError Cluster :=
  match attached with
  | none => .ok (ofFlag flag)
  | some value =>
    if spelling.toList.length = 2 then letters? flag value
    else if flag.takesValue then
      .ok { plain := [], valued := some (flag, some (String.ofList value)) }
    else .error (.valueIgnored flag (String.ofList value))

end Cluster

/-- Options are put into effect from left to right, the last of a kind wins, and help ends the
reading at once. What is no option is collected. -/
def Settings.read (s : Settings) (extras : List String) :
    List (String × Word) → Except ArgumentError (Settings × List String)
  | [] => .ok (s, extras)
  | (_, .option flag spelling attached) :: rest =>
    match Cluster.ofOption? flag spelling attached with
    | .error e => .error e
    | .ok ⟨plain, valued⟩ =>
      let s := plain.foldl (·.set · "") s
      match valued with
      | none => if s.help then .ok (s, extras) else s.read extras rest
      | some (last, some value) =>
        if s.help then .ok (s, extras) else (s.set last value).read extras rest
      | some (last, none) =>
        match rest with
        | (value, .operand) :: later =>
          if s.help then .ok (s, extras) else (s.set last value).read extras later
        | _ => .error (.valueMissing last)
  | (argument, _) :: rest => s.read (extras ++ [argument]) rest

/-- The settings that arguments give; anything left over is an error unless help is asked for. -/
def Settings.ofArguments (arguments : List String) : Except ArgumentError Settings := do
  let words ← Word.ofArguments arguments
  let (s, extras) ← Settings.read {} [] words
  if s.help || extras.isEmpty then .ok s else .error (.unrecognized extras)

end ServiceDescription.CommandLine
