/-! What a reader notes about a document besides its tree: faults and warnings in order, and what it
has already looked at. A document is spoiled if the last thing noted is a fault; a warning after a
fault makes up for it. -/
namespace ServiceDescription.Xml

/-- What is noted without giving up: a fault against the rules for namespaces, declarations or
identifiers, or a warning. -/
inductive Remark where
  | fault | warning
  deriving DecidableEq, Repr

namespace Remark

/-- The most remarks of one kind that are noted. -/
def limit : Nat := 100

/-- The remarks that are noted: of each kind the first ones. -/
def noted (rs : List Remark) : List Remark :=
  rs.foldl (fun kept r => if kept.count r < limit then kept ++ [r] else kept) []

end Remark

/-- The remarks so far, the entities whose text has been read as content or checked as part of an
attribute value, the identifiers given to elements, and how much text references stand for. -/
structure Findings where
  remarks : List Remark := []
  read : List String := []
  checked : List String := []
  identifiers : List String := []
  copied : Nat := 0
  deriving DecidableEq, Repr

namespace Findings

def remark (f : Findings) (rs : List Remark) : Findings := { f with remarks := f.remarks ++ rs }

@[simp] theorem remark_remarks (f : Findings) (rs : List Remark) :
    (f.remark rs).remarks = f.remarks ++ rs := rfl

def hasFault (f : Findings) : Bool := f.remarks.contains .fault

/-- Whether the last remark noted is a fault. -/
def spoil (f : Findings) : Bool := (Remark.noted f.remarks).getLast? = some .fault

/-- An element gets an identifier, which must not be empty or given before. -/
def identify (f : Findings) (identifier : String) : Findings :=
  if identifier = "" || f.identifiers.contains identifier then f.remark [.fault]
  else { f with identifiers := identifier :: f.identifiers }

end Findings
end ServiceDescription.Xml
