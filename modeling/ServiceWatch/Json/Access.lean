import ServiceWatch.Json.Decode

/-! Looking into JSON values: members by name, and the values of literals. -/
namespace ServiceWatch.Json

/-- The members of an object under the characters of their keys. -/
def members : Json → List (String × Json)
  | .object ms => ms.filterMap fun (k, v) =>
    match k with
    | .string raw => (text? raw).map (·, v)
    | _ => none
  | _ => []

/-- The value of a member; `null` counts as absent. -/
def field? (v : Json) (name : String) : Option Json :=
  match List.lookup name v.members with
  | some .null => none
  | found => found

def items : Json → List Json
  | .array vs => vs
  | _ => []

def string? : Json → Option String
  | .string raw => text? raw
  | _ => none

def int? : Json → Option Int
  | .number n =>
    match n.fraction, n.exponent with
    | none, none =>
      let magnitude : Int := Text.Decimal.value n.whole
      some (if n.negative then -magnitude else magnitude)
    | _, _ => none
  | _ => none

end ServiceWatch.Json
