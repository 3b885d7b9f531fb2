import FirewallProbe.Dict

/-! # JSON values

Integers from `-2 ^ 63` to `2 ^ 64 - 1` are kept exactly; every other number is a double.
`Json.obj` takes members in any order; those of an object that `Json.parse` returns are listed by
increasing key, each key once, as `Json.WellFormed` states. -/

namespace FirewallProbe

/-- A JSON value. -/
inductive Json where
  | null
  | bool (b : Bool)
  | int (n : Int)
  | float (x : Float)
  | str (s : String)
  | arr (items : List Json)
  | obj (members : List (String × Json))

namespace Json

instance : Inhabited Json := ⟨.null⟩

/-- The object with the given `members`; of several with one key the last stays. -/
def object (members : List (String × Json)) : Json := .obj (Dict.ofList members).entries

/-- The member with a `key`, if the value is an object that has one. -/
def member? (key : String) : Json → Option Json
  | .obj members => valueAt? key members
  | _ => none

/-- The name of a value's JSON type. -/
def typeName : Json → String
  | .null => "null"
  | .bool _ => "boolean"
  | .int _ | .float _ => "number"
  | .str _ => "string"
  | .arr _ => "array"
  | .obj _ => "object"

/-- Whether the integer `n` is one of those kept exactly. -/
def isExact (n : Int) : Bool := -0x8000000000000000 ≤ n && n < 0x10000000000000000

end Json
end FirewallProbe
