import ServiceDescription.Journal
import ServiceDescription.Text.Blank

/-! How often an element may occur: reading the attribute text and showing the number. -/
namespace ServiceDescription.Schema.Occurs

/-- The number that stands for no upper bound. -/
def unbounded : Int := 9223372036854775807

/-- The number a trimmed text stands for, if it stands for one. -/
def number? (text : String) : Option Int :=
  if text = "unbounded" then some unbounded else Text.integer? text.toList

/-- A missing text and one that is no number both mean the default. -/
def parse (fallback : Int) : Option String → Int
  | none => fallback
  | some raw => (number? (Text.trim raw)).getD fallback

/-- A text that is no number is reported. -/
def events : Option String → List Event
  | none => []
  | some raw =>
    if (number? (Text.trim raw)).isNone then [.unreadableOccurs (Text.trim raw)] else []

def display (n : Int) : String := if n = unbounded then "unbounded" else Text.decimal n

end ServiceDescription.Schema.Occurs
