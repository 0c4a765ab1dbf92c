/-! JSON as it stands in a text, with the literals kept as written. -/
namespace ServiceWatch

/-- A number literal: its sign, its whole digits, and the parts that a fraction or an exponent add. -/
structure Json.NumberText where
  negative : Bool
  whole : List Char
  fraction : Option (List Char)
  /-- The exponent's minus sign and its digits. -/
  exponent : Option (Bool × List Char)
  deriving DecidableEq

/--
A JSON value as read from a text up to its first fault.

`string` holds the characters between the quotes, escapes included. `broken` marks the place
where the text stops being JSON; nothing that follows it in the text is in the value. A member's
key is a value as well, because what stands in a key's place need not be a string.
-/
inductive Json where
  | null
  | bool (b : Bool)
  | number (literal : Json.NumberText)
  | string (raw : List Char)
  | array (items : List Json)
  | object (members : List (Json × Json))
  | broken

namespace Json

mutual

/-- A value is intact when no fault lies inside it and all its keys are strings. -/
def intact : Json → Bool
  | .broken => false
  | .array items => intactItems items
  | .object members => intactMembers members
  | .null | .bool _ | .number _ | .string _ => true

def intactItems : List Json → Bool
  | [] => true
  | v :: vs => v.intact && intactItems vs

def intactMembers : List (Json × Json) → Bool
  | [] => true
  | (.string _, v) :: ms => v.intact && intactMembers ms
  | _ :: _ => false

end

end Json

end ServiceWatch
