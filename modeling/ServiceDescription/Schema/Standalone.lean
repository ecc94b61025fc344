import ServiceDescription.Text.Integer
import ServiceDescription.Xml.Located

/-! A schema taken out of its document. What the elements around it declared is declared on the
copy, so that every prefix means in the copy what it means in the document. But what is put below
the root of another document loses the declarations of namespaces that are known there, under
whatever prefix, and takes the prefixes that are known instead. Names of elements follow, and so do
names of attributes; but an attribute cannot go by the default namespace, so that a prefix may have
to be declared again for it, on the child of the root that it is in. A prefix in the value of an
attribute is not followed: it may come to mean something else. What the document type said is lost,
except in the values of the root's own attributes. -/
namespace ServiceDescription.Schema
open Xml

/-- What an element of the copy declares, and the declaration that its own name goes by. -/
structure Level where
  declared : Scope
  own : Scope := []
  deriving DecidableEq, Repr

/-- The first prefix of a namespace from the innermost level on. A prefix is passed over where a
level further in declares it for something else. -/
def prefixAmong? (uri : String) (hidden : List String) : List Level → Option String
  | [] => none
  | level :: outer =>
    (((level.declared ++ level.own).find? fun d => d.2 = uri && !hidden.contains d.1).map (·.1)).or
      (prefixAmong? uri (hidden ++ level.declared.map (·.1)) outer)

/-- The prefix that a namespace has at an element. The names of the elements around it count, too,
even if a declaration hides their prefixes; that of the element itself does not. -/
def prefixOf? (uri : String) : List Level → Option String
  | [] => none
  | level :: outer => prefixAmong? uri [] ({ level with own := [] } :: outer)

/-- A prefix in scope in the document, the namespace that it stands for and the prefix that takes
its place in the copy. -/
abbrev Successor := String × String × String

/-- Declarations, with the prefixes that their namespaces have already. -/
def successors (levels : List Level) (declarations : Scope) : List Successor :=
  declarations.map fun d => (d.1, d.2, (prefixOf? d.2 levels).getD d.1)

/-- What has been declared again on a child of the root, and how many prefixes have been made up in
the whole copy. -/
structure Additions where
  declared : Scope := []
  made : Nat := 0
  deriving DecidableEq, Repr

/-- The place of a node in the copy. -/
structure GraftPoint where
  /-- What becomes of the prefixes in scope, the innermost declaration first. -/
  successors : List Successor
  /-- The elements around the node below the root, the innermost first and a child of the root
  last. -/
  around : List Level := []
  /-- What the root declares. -/
  root : Scope
  deriving DecidableEq, Repr

namespace GraftPoint

/-- The place of the children of a root with some declarations. -/
def ofRoot (root : Scope) : GraftPoint where
  successors := Schema.successors [{ declared := root }] root
  root := root

/-- What is declared around a node, with what has been declared again so far. -/
def levels (p : GraftPoint) (a : Additions) : List Level :=
  p.around.dropLast ++
    p.around.getLast?.toList.map (fun c => { c with declared := c.declared ++ a.declared }) ++
    [{ declared := p.root }]

/-- What is in scope at the child of the root. -/
def childScope (p : GraftPoint) (a : Additions) : Scope :=
  p.around.getLast?.elim [] Level.declared ++ a.declared ++ p.root

/-- A namespace has a prefix where a node is put. -/
def knows (p : GraftPoint) (a : Additions) (uri : String) : Bool :=
  (prefixOf? uri (p.levels a)).isSome

/-- The declarations of a tag that are left. -/
def kept (p : GraftPoint) (a : Additions) (tag : Tag) : Scope :=
  tag.declarations.filter fun d => !p.knows a d.2

/-- The prefix that takes the place of another one. -/
def successor (p : GraftPoint) (pre : String) : String := (p.successors.lookup pre).elim pre (·.2)

/-- The declaration that a name with some prefix goes by, if the name is in a namespace. -/
def own (p : GraftPoint) (pre : String) : Scope :=
  ((p.successors.lookup pre).toList.filter (·.1 ≠ "")).map fun s => (s.2, s.1)

/-- The place of what an element has in it. -/
def enter (p : GraftPoint) (a : Additions) (tag : Tag) : GraftPoint :=
  let p' := { p with successors := Schema.successors (p.levels a) tag.declarations ++ p.successors }
  { p' with around := ⟨p.kept a tag, p'.own tag.pre⟩ :: p.around }

/-- The name of a prefix that is made up. -/
def madeUp (k : Nat) : String := "ns" ++ Text.decimal k

/-- A prefix to be declared on the child of the root: the one that was written, or else the next
one made up that is not in use there. With it comes the number of those made up. -/
def unused (p : GraftPoint) (a : Additions) (pre : String) : String × Nat :=
  let used := (p.childScope a).map (·.1)
  if used.contains pre then
    let tries := List.range' a.made (used.length + 1)
    let k := (tries.find? fun k => !used.contains (madeUp k)).getD a.made
    (madeUp k, k + 1)
  else (pre, a.made)

/-- An attribute of an element at some place. If nothing but the default namespace takes the place
of its prefix, it gets another prefix of the child of the root, where one is declared if need be. -/
def prefixed (p : GraftPoint) (a : Additions) (b : Attribute) : Attribute × Additions :=
  match if b.pre = "" then none else p.successors.lookup b.pre with
  | none => (b, a)
  | some (uri, "") =>
    match (p.childScope a).visible.find? fun d => d.2 = uri && d.1 ≠ "" with
    | some d => ({ b with pre := d.1 }, a)
    | none =>
      let found := p.unused a b.pre
      ({ b with pre := found.1 }, ⟨a.declared ++ [(found.1, uri)], found.2⟩)
  | some (_, pre) => ({ b with pre := pre }, a)

def prefixedAll (p : GraftPoint) (a : Additions) : List Attribute → List Attribute × Additions
  | [] => ([], a)
  | b :: rest =>
    let one := p.prefixed a b
    let others := p.prefixedAll one.2 rest
    (one.1 :: others.1, others.2)

/-- What has been declared again when the next node comes: what one child of the root needed is not
there for the others. -/
def next (p : GraftPoint) (a : Additions) : Additions :=
  if p.around.isEmpty then { a with declared := [] } else a

/-- What has to be declared on an element besides its own declarations. -/
def redeclared (p : GraftPoint) (a : Additions) : Scope :=
  if p.around.isEmpty then a.declared else []

end GraftPoint

mutual

/-- A tree put at a place of the copy. -/
def grafted (p : GraftPoint) (a : Additions) : Node → Node × Additions
  | .element tag content =>
    let inside := p.enter a tag
    let attributes := inside.prefixedAll a tag.attributes
    let below := graftedAll inside attributes.2 content
    (.element
      { tag with
        pre := inside.successor tag.pre
        declarations := p.kept a tag ++ p.redeclared below.2
        attributes := attributes.1 } below.1, below.2)
  | n => (n, a)

def graftedAll (p : GraftPoint) (a : Additions) : List Node → List Node × Additions
  | [] => ([], a)
  | n :: rest =>
    let one := grafted p (p.next a) n
    let others := graftedAll p one.2 rest
    (one.1 :: others.1, others.2)

end

/-- A fragment as a document of its own: its root declares everything that was in scope, and every
namespace goes by its first prefix. -/
def standalone (l : Located) : Located :=
  match l.node with
  | .element tag content =>
    let p := GraftPoint.ofRoot l.scope.visible
    let attributes := tag.attributes.map fun a => { a with own := a.value }
    .root (.element
      { name := tag.name
        pre := p.successor tag.pre
        declarations := p.root
        attributes := (p.prefixedAll {} attributes).1 }
      (graftedAll p {} (Node.detachedAll content)).1)
  | n => .root n

end ServiceDescription.Schema
