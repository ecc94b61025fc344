import ServiceDescription.Datatype.Literal

/-! Paths to the elements and attributes that a constraint is about: steps downwards, from the
element itself, from its descendants or from its children. -/
namespace ServiceDescription.Schema.Strict.Path
open Xml

def skipSpace (s : List Char) : List Char := s.dropWhile isSpace

/-- A simple name at the front of a text and what follows it. -/
def name? (s : List Char) : Option (String × List Char) :=
  match s with
  | c :: rest =>
    if ClassicName.isStart c then
      some (String.ofList (c :: rest.takeWhile ClassicName.isFollower),
        rest.dropWhile ClassicName.isFollower)
    else none
  | [] => none

/-- A name or an asterisk. -/
def local? (s : List Char) : Option (List Char) :=
  match name? s, s with
  | some (_, rest), _ => some rest
  | none, '*' :: rest => some rest
  | none, _ => none

def isBound (scope : Scope) (pre : String) : Bool := ((Datatype.Literal.space? scope pre)).isSome

/-- A name that may have a prefix that is bound, or an asterisk in the place of the local name. -/
def test? (scope : Scope) (s : List Char) : Option (List Char) :=
  match name? (skipSpace s) with
  | some (pre, ':' :: rest) => if isBound scope pre then local? rest else none
  | some (_, rest) => some rest
  | none => local? (skipSpace s)

/-- One step. Attributes can be reached only from a field. -/
def step? (isField : Bool) (scope : Scope) (s : List Char) : Option (List Char) :=
  match skipSpace s with
  | '.' :: rest => some rest
  | '@' :: rest => if isField then test? scope rest else none
  | s =>
    match name? s with
    | none => local? s
    | some (name, rest) =>
      match skipSpace rest with
      | ':' :: ':' :: after =>
        if name = "child" then test? scope after
        else if name = "attribute" && isField then test? scope after
        else none
      | ':' :: after =>
        if rest.head? = some ':' && isBound scope name then local? after else none
      | '*' :: _ => none
      | rest => some rest

/-- Steps with slashes between them, up to the end; at most `n`. -/
def areSteps (isField : Bool) (scope : Scope) : Nat → List Char → Bool
  | 0, _ => false
  | n + 1, s =>
    match (step? isField scope s).map skipSpace with
    | some [] => true
    | some ('/' :: rest) => (skipSpace rest).head? ≠ some '/' && areSteps isField scope n rest
    | _ => false

/-- A path without alternatives. -/
def isPath (isField : Bool) (scope : Scope) (s : List Char) : Bool :=
  match skipSpace s with
  | '.' :: rest =>
    match skipSpace rest with
    | [] => true
    | '/' :: '/' :: rest => areSteps isField scope s.length rest
    | '/' :: rest => areSteps isField scope s.length rest
    | _ => false
  | s => areSteps isField scope s.length s

/-- Whether a text is a path or has several with bars between them. The last bar may end it. -/
def isExpression (isField : Bool) (scope : Scope) (text : String) : Bool :=
  let alternatives := text.toList.splitOn '|'
  text ≠ "" &&
    (if alternatives.getLast? = some [] then alternatives.dropLast else alternatives).all
      (isPath isField scope)

end ServiceDescription.Schema.Strict.Path
