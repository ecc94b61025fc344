import ServiceDescription.Datatype.CharacterSet

/-! Patterns and the texts that match them. What is left of a pattern after a character decides
whether a text matches. -/
namespace ServiceDescription.Datatype

inductive Pattern where
  | nothing
  | blank
  | single (set : CharacterSet) (isNegated : Bool)
  | group (g : CharacterGroup)
  | followedBy (first second : Pattern)
  | either (left right : Pattern)
  /-- As many as `least` and at most `most`, if there is an upper bound. -/
  | repeated (least : Nat) (most : Option Nat) (p : Pattern)
  deriving DecidableEq, Repr

namespace Pattern

/-- Whether the empty text matches. -/
def isEmptiable : Pattern → Bool
  | nothing => false
  | blank => true
  | single _ _ => false
  | group _ => false
  | followedBy a b => a.isEmptiable && b.isEmptiable
  | either a b => a.isEmptiable || b.isEmptiable
  | repeated least _ p => least = 0 || p.isEmptiable

/-- One pattern after another, without what says nothing. -/
def andThen (a b : Pattern) : Pattern :=
  match a, b with
  | nothing, _ => nothing
  | _, nothing => nothing
  | blank, b => b
  | a, blank => a
  | a, b => followedBy a b

def orElse (a b : Pattern) : Pattern :=
  match a, b with
  | nothing, b => b
  | a, nothing => a
  | a, b => if a = b then a else either a b

/-- What is left of a pattern after a character. -/
def after (c : Char) : Pattern → Pattern
  | nothing => nothing
  | blank => nothing
  | single set isNegated => if set.contains c != isNegated then blank else nothing
  | group g => if g.contains c then blank else nothing
  | followedBy a b =>
    let first := (a.after c).andThen b
    if a.isEmptiable then first.orElse (b.after c) else first
  | either a b => (a.after c).orElse (b.after c)
  | repeated least most p =>
    if most = some 0 then nothing
    else (p.after c).andThen (repeated (least - 1) (most.map (· - 1)) p)

def accepts (p : Pattern) (s : List Char) : Bool := (s.foldl (fun p c => p.after c) p).isEmptiable

end Pattern
end ServiceDescription.Datatype
