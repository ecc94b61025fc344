/-! Which texts are references to a resource: the generic grammar of identifiers, absolute or
relative. Each reader takes what it can from the front and leaves the rest. -/
namespace ServiceDescription.Xml.Uri

def isUnreserved (c : Char) : Bool := c.isAlphanum || "-._~".toList.contains c

def isSubDelimiter (c : Char) : Bool := "!$&'()*+,;=".toList.contains c

def isHex (c : Char) : Bool := c.isDigit || ('a' ≤ c && c ≤ 'f') || ('A' ≤ c && c ≤ 'F')

/-- What is left after the characters allowed by `other`, the unreserved ones, the delimiters within
a part and the percent-encoded octets. -/
def skipChars (other : Char → Bool) : List Char → List Char
  | '%' :: a :: b :: rest =>
    if isHex a && isHex b then skipChars other rest else '%' :: a :: b :: rest
  | c :: rest =>
    if isUnreserved c || isSubDelimiter c || other c then skipChars other rest else c :: rest
  | [] => []

/-- The scheme and what follows it: a letter, then letters, digits and three signs, and a colon. -/
def scheme? (s : List Char) : Option (List Char × List Char) :=
  match s with
  | c :: rest =>
    let more := rest.takeWhile fun d => d.isAlphanum || "+-.".toList.contains d
    match c.isAlpha, rest.drop more.length with
    | true, ':' :: after => some (c :: more, after)
    | _, _ => none
  | [] => none

def skipPath (s : List Char) : List Char :=
  skipChars (fun c => c = ':' || c = '@' || c = '/') s

/-- One of the four numbers of an address: at most 255, without a leading zero. Of three digits, the
last one of a number from 250 on may be any. -/
def octet? (s : List Char) : Option (List Char) :=
  match s with
  | a :: b :: c :: rest =>
    if !a.isDigit then none
    else if !b.isDigit then some (b :: c :: rest)
    else if !c.isDigit then if a = '0' then none else some (c :: rest)
    else if a = '1' || (a = '2' && b ≤ '5') then some rest
    else none
  | [a, b] =>
    if !a.isDigit then none
    else if !b.isDigit then some [b]
    else if a = '0' then none
    else some []
  | [a] => if a.isDigit then some [] else none
  | [] => none

/-- An address of four numbers. -/
def address? (s : List Char) : Option (List Char) := do
  let dot? : List Char → Option (List Char)
    | '.' :: rest => some rest
    | _ => none
  octet? (← dot? (← octet? (← dot? (← octet? (← dot? (← octet? s))))))

/-- A host in brackets is skipped unread, and an address has to be followed by what follows a
host. -/
def skipHost (s : List Char) : List Char :=
  match s with
  | '[' :: rest =>
    match rest.dropWhile (· ≠ ']') with
    | ']' :: after => after
    | _ => s
  | _ => (address? s).getD (skipChars (fun _ => false) s)

def largestPort : Nat := 2147483647

/-- A port has at least one digit and is not too large. -/
def skipPort (s : List Char) : List Char :=
  let digits := s.takeWhile Char.isDigit
  let port := digits.foldl (fun n d => 10 * n + (d.toNat - '0'.toNat)) 0
  if digits.isEmpty || largestPort < port then ':' :: s else s.drop digits.length

/-- User, host and port. -/
def skipAuthority (s : List Char) : List Char :=
  let s :=
    match skipChars (· = ':') s with
    | '@' :: rest => rest
    | _ => s
  match skipHost s with
  | ':' :: rest => skipPort rest
  | rest => rest

/-- The part between scheme and query. -/
def skipHierarchy (s : List Char) : List Char :=
  match s with
  | '/' :: '/' :: rest =>
    match skipAuthority rest with
    | '/' :: path => skipPath ('/' :: path)
    | rest => rest
  | _ => skipPath s

def isQueryChar (c : Char) : Bool := c = ':' || c = '@' || c = '/' || c = '?'

def isTail (s : List Char) : Bool :=
  let afterQuery :=
    match s with
    | '?' :: query => skipChars isQueryChar query
    | _ => s
  match afterQuery with
  | [] => true
  | '#' :: fragment =>
    (skipChars (fun c => isQueryChar c || c = '[' || c = ']') fragment).isEmpty
  | _ => false

/-- In a relative reference the first segment has no colon. -/
def isRelative (s : List Char) : Bool :=
  let segment := s.takeWhile fun c => c ≠ '/' && c ≠ '?' && c ≠ '#'
  !segment.contains ':' && isTail (skipHierarchy s)

def isReference (uri : String) : Bool :=
  match scheme? uri.toList with
  | some (_, rest) => isTail (skipHierarchy rest) || isRelative uri.toList
  | none => isRelative uri.toList

def hasScheme (uri : String) : Bool := (scheme? uri.toList).isSome

end ServiceDescription.Xml.Uri
