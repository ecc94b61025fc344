import ServiceDescription.Rendering.Json

/-! The text of a JSON value in any layout. A layout says what stands after an opening bracket, after
a comma and before a closing bracket, at each depth; all of it is blank. Unless another layout is
asked for, a value is written with one item to a line, indented by two. -/
namespace ServiceDescription

structure Layout where
  start : Nat → List Char
  next : Nat → List Char
  stop : Nat → List Char
  blank_start (depth : Nat) : ∀ c ∈ start depth, Json.isBlank c = true
  blank_next (depth : Nat) : ∀ c ∈ next depth, Json.isBlank c = true
  blank_stop (depth : Nat) : ∀ c ∈ stop depth, Json.isBlank c = true

namespace Layout

/-- The start of a line at a depth. -/
def newLine (depth : Nat) : List Char := '\n' :: List.replicate (2 * depth) ' '

theorem blank_newLine (depth : Nat) : ∀ c ∈ newLine depth, Json.isBlank c = true := by
  intro c hc
  rcases List.mem_cons.mp hc with rfl | hc
  · rfl
  · obtain ⟨-, rfl⟩ := List.mem_replicate.mp hc
    rfl

/-- One item to a line, indented by two. -/
def indented : Layout where
  start := newLine
  next := newLine
  stop := newLine
  blank_start := blank_newLine
  blank_next := blank_newLine
  blank_stop := blank_newLine

/-- Everything on one line. -/
def line : Layout where
  start _ := []
  next _ := [' ']
  stop _ := []
  blank_start _ _ hc := absurd hc List.not_mem_nil
  blank_next _ := by
    intro c hc
    rw [List.mem_singleton.mp hc]
    rfl
  blank_stop _ _ hc := absurd hc List.not_mem_nil

variable (l : Layout)

mutual

/-- The text of a value whose last line is at `depth`. -/
def chars (depth : Nat) : Json → List Char
  | .null => ['n', 'u', 'l', 'l']
  | .bool true => ['t', 'r', 'u', 'e']
  | .bool false => ['f', 'a', 'l', 's', 'e']
  | .number i => Text.decimalChars i
  | .text s => Json.textChars s
  | .array [] => ['[', ']']
  | .array (item :: items) =>
    '[' :: l.start (depth + 1) ++ chars (depth + 1) item ++ itemChars (depth + 1) items ++
      l.stop depth ++ [']']
  | .object [] => ['\x7b', '\x7d']
  | .object ((key, value) :: fields) =>
    '\x7b' :: l.start (depth + 1) ++ Json.textChars key ++ [':', ' '] ++ chars (depth + 1) value ++
      fieldChars (depth + 1) fields ++ l.stop depth ++ ['\x7d']

/-- The items after the first. -/
def itemChars (depth : Nat) : List Json → List Char
  | [] => []
  | item :: items => ',' :: l.next depth ++ chars depth item ++ itemChars depth items

/-- The fields after the first. -/
def fieldChars (depth : Nat) : List (String × Json) → List Char
  | [] => []
  | (key, value) :: fields =>
    ',' :: l.next depth ++ Json.textChars key ++ [':', ' '] ++ chars depth value ++
      fieldChars depth fields

end

def render (j : Json) : String := String.ofList (l.chars 0 j)

end Layout

def Json.render (j : Json) : String := Layout.indented.render j

end ServiceDescription
