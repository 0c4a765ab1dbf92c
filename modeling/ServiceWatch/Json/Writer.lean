import ServiceWatch.Json.Basic
import ServiceWatch.Json.Escape
import ServiceWatch.Text.Decimal

/-! Writing JSON: compact, indented by two spaces, and with members in key order. -/
namespace ServiceWatch.Json

open ServiceWatch.Text

def ofString (s : String) : Json := .string (Escape.encode s.toList)

def ofNat (n : Nat) : Json := .number ⟨false, Decimal.digits n, none, none⟩

def ofInt : Int → Json
  | .ofNat n => ofNat n
  | .negSucc n => .number ⟨true, Decimal.digits (n + 1), none, none⟩

/-- A value that may be missing, written as `null` if it is. -/
def ofOption {α : Type} (encode : α → Json) : Option α → Json
  | none => .null
  | some a => encode a

/-- An object with the given fields in the given order. -/
def record (fields : List (String × Json)) : Json :=
  .object (fields.map fun (name, value) => (ofString name, value))

def NumberText.render (n : NumberText) : List Char :=
  (if n.negative then ['-'] else []) ++ n.whole ++
    (match n.fraction with | none => [] | some ds => '.' :: ds) ++
    (match n.exponent with
      | none => []
      | some (negative, ds) => 'e' :: (if negative then '-' :: ds else ds))

mutual

def render : Json → List Char
  | .null => "null".toList
  | .bool true => "true".toList
  | .bool false => "false".toList
  | .number n => n.render
  | .string raw => '"' :: (raw ++ ['"'])
  | .array items => '[' :: (renderItems items ++ [']'])
  | .object members => '{' :: (renderMembers members ++ ['}'])
  | .broken => []

def renderItems : List Json → List Char
  | [] => []
  | [v] => v.render
  | v :: w :: vs => v.render ++ ',' :: renderItems (w :: vs)

def renderMembers : List (Json × Json) → List Char
  | [] => []
  | [(k, v)] => k.render ++ ':' :: v.render
  | (k, v) :: m :: ms => k.render ++ ':' :: (v.render ++ ',' :: renderMembers (m :: ms))

end

def compact (v : Json) : String := String.ofList v.render

/-- A new line that is indented by `depth` levels. -/
def lineBreak (depth : Nat) : List Char := '\n' :: List.replicate (2 * depth) ' '

mutual

/-- The text of a value with one element or member a line, at the given depth. -/
def renderIndented (depth : Nat) : Json → List Char
  | .array [] => ['[', ']']
  | .array (v :: vs) => '[' :: (indentItems (depth + 1) (v :: vs) ++ (lineBreak depth ++ [']']))
  | .object [] => ['{', '}']
  | .object (m :: ms) =>
    '{' :: (indentMembers (depth + 1) (m :: ms) ++ (lineBreak depth ++ ['}']))
  | .null => render .null
  | .bool b => render (.bool b)
  | .number n => render (.number n)
  | .string raw => render (.string raw)
  | .broken => []

def indentItems (depth : Nat) : List Json → List Char
  | [] => []
  | [v] => lineBreak depth ++ v.renderIndented depth
  | v :: w :: vs => lineBreak depth ++ (v.renderIndented depth ++ ',' :: indentItems depth (w :: vs))

def indentMembers (depth : Nat) : List (Json × Json) → List Char
  | [] => []
  | [(k, v)] => lineBreak depth ++ (k.render ++ ':' :: ' ' :: v.renderIndented depth)
  | (k, v) :: m :: ms =>
    lineBreak depth ++
      (k.render ++ ':' :: ' ' :: (v.renderIndented depth ++ ',' :: indentMembers depth (m :: ms)))

end

def pretty (v : Json) : String := String.ofList (v.renderIndented 0)

/-- Members are ordered by the text of their keys. -/
def keyLe (a b : Json × Json) : Bool :=
  match a.1, b.1 with
  | .string x, .string y => !decide (y < x)
  | _, _ => true

mutual

/-- The same value with the members of every object in the order of their keys. -/
def sorted : Json → Json
  | .array items => .array (sortedItems items)
  | .object members => .object ((sortedMembers members).mergeSort keyLe)
  | .null => .null
  | .bool b => .bool b
  | .number n => .number n
  | .string raw => .string raw
  | .broken => .broken

def sortedItems : List Json → List Json
  | [] => []
  | v :: vs => v.sorted :: sortedItems vs

def sortedMembers : List (Json × Json) → List (Json × Json)
  | [] => []
  | (k, v) :: ms => (k, v.sorted) :: sortedMembers ms

end

end ServiceWatch.Json
