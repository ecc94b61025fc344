/-! The simple types that every schema has, how they are written, and what each is derived from. -/
namespace ServiceDescription.Datatype

inductive BuiltIn where
  | anySimpleType
  | string | normalizedString | token | language | nameToken | name | simpleName
  | identifier | identifierReference | entity
  | nameTokens | identifierReferences | entities
  | boolean | float | double
  | decimal | integer | nonPositiveInteger | negativeInteger
  | long | int | short | byte
  | nonNegativeInteger | unsignedLong | unsignedInt | unsignedShort | unsignedByte
  | positiveInteger
  | duration | dateTime | time | date | gYearMonth | gYear | gMonthDay | gDay | gMonth
  | hexBinary | base64Binary | anyURI | qualifiedName | notationName
  deriving DecidableEq, Repr

/-- What white space counts for in a value: all of it, as single spaces, or only between words. -/
inductive WhiteSpace where
  | preserve
  | replace
  | collapse
  deriving DecidableEq, Repr

namespace WhiteSpace

def strength : WhiteSpace → Nat
  | preserve => 0
  | replace => 1
  | collapse => 2

def ofName? : String → Option WhiteSpace
  | "preserve" => some preserve
  | "replace" => some replace
  | "collapse" => some collapse
  | _ => none

end WhiteSpace

namespace BuiltIn

/-- Every type with the name it has in a schema. -/
def table : List (String × BuiltIn) :=
  [("anySimpleType", anySimpleType), ("string", string), ("normalizedString", normalizedString),
    ("token", token), ("language", language), ("NMTOKEN", nameToken), ("Name", name),
    ("NCName", simpleName), ("ID", identifier), ("IDREF", identifierReference),
    ("ENTITY", entity), ("NMTOKENS", nameTokens), ("IDREFS", identifierReferences),
    ("ENTITIES", entities), ("boolean", boolean), ("float", float), ("double", double),
    ("decimal", decimal), ("integer", integer), ("nonPositiveInteger", nonPositiveInteger),
    ("negativeInteger", negativeInteger), ("long", long), ("int", int), ("short", short),
    ("byte", byte), ("nonNegativeInteger", nonNegativeInteger), ("unsignedLong", unsignedLong),
    ("unsignedInt", unsignedInt), ("unsignedShort", unsignedShort),
    ("unsignedByte", unsignedByte), ("positiveInteger", positiveInteger), ("duration", duration),
    ("dateTime", dateTime), ("time", time), ("date", date), ("gYearMonth", gYearMonth),
    ("gYear", gYear), ("gMonthDay", gMonthDay), ("gDay", gDay), ("gMonth", gMonth),
    ("hexBinary", hexBinary), ("base64Binary", base64Binary), ("anyURI", anyURI),
    ("QName", qualifiedName), ("NOTATION", notationName)]

def ofName? (written : String) : Option BuiltIn := table.lookup written

/-- What a type is derived from. -/
def base? : BuiltIn → Option BuiltIn
  | anySimpleType => none
  | normalizedString => some string
  | token => some normalizedString
  | language | nameToken | name => some token
  | simpleName => some name
  | identifier | identifierReference | entity => some simpleName
  | integer => some decimal
  | nonPositiveInteger | long | nonNegativeInteger => some integer
  | negativeInteger => some nonPositiveInteger
  | int => some long
  | short => some int
  | byte => some short
  | unsignedLong | positiveInteger => some nonNegativeInteger
  | unsignedInt => some unsignedLong
  | unsignedShort => some unsignedInt
  | unsignedByte => some unsignedShort
  | _ => some anySimpleType

/-- The type of the items, for a type of lists. -/
def item? : BuiltIn → Option BuiltIn
  | nameTokens => some nameToken
  | identifierReferences => some identifierReference
  | entities => some entity
  | _ => none

/-- A value that is one item: neither a list nor of any type at all. -/
def isAtomic (t : BuiltIn) : Bool := t ≠ anySimpleType && t.item?.isNone

/-- The type and the types it is derived from; five steps lead from any type to the root. -/
def ancestors (t : BuiltIn) : List BuiltIn := go 8 t
where
  go : Nat → BuiltIn → List BuiltIn
    | 0, t => [t]
    | n + 1, t => t :: (t.base?.map (go n)).getD []

def isDerivedFrom (t other : BuiltIn) : Bool := t.ancestors.contains other

/-- The type just below the root that a type is derived from. -/
def primitive (t : BuiltIn) : BuiltIn := (t.ancestors.find? (·.base? = some anySimpleType)).getD t

def whiteSpace : BuiltIn → WhiteSpace
  | string | anySimpleType => .preserve
  | normalizedString => .replace
  | _ => .collapse

/-- The least and the greatest value, for the bounded types of whole numbers. -/
def range : BuiltIn → Option Int × Option Int
  | nonPositiveInteger => (none, some 0)
  | negativeInteger => (none, some (-1))
  | long => (some (-9223372036854775808), some 9223372036854775807)
  | int => (some (-2147483648), some 2147483647)
  | short => (some (-32768), some 32767)
  | byte => (some (-128), some 127)
  | nonNegativeInteger => (some 0, none)
  | unsignedLong => (some 0, some 18446744073709551615)
  | unsignedInt => (some 0, some 4294967295)
  | unsignedShort => (some 0, some 65535)
  | unsignedByte => (some 0, some 255)
  | positiveInteger => (some 1, none)
  | _ => (none, none)

/-- A whole number that is written without a sign. -/
def isUnsigned : BuiltIn → Bool
  | unsignedLong | unsignedInt | unsignedShort | unsignedByte => true
  | _ => false

end BuiltIn
end ServiceDescription.Datatype
