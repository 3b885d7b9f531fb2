import FirewallProbe.Binary64.Text
import FirewallProbe.Json.Text
import FirewallProbe.Text.Quoted

/-! # Why a document does not fit

`Found` is what stands in a document, `Wanted` what should stand there, and `Mismatch` the reason
why reading stops.  `Mismatch.message` is its wording. -/

namespace FirewallProbe

/-- What stands at a place of a document.  A double is reported in the notation of the document's
format: with an exponent where it is long, or always positionally. -/
inductive Found where
  | null
  | unit
  | bool (b : Bool)
  | int (n : Int)
  | float (x : Float)
  | positional (x : Float)
  | text (s : String)
  | sequence
  | map

/-- The double `x` without exponent; a finite whole value ends in `.0`. -/
def positionalText (x : Float) : String :=
  match Binary64.ofFloat x with
  | .finite _ mantissa exponent =>
    if Binary64.isWhole mantissa exponent then Binary64.plainText x ++ ".0"
    else Binary64.plainText x
  | _ => Binary64.plainText x

/-- The wording of what was found. -/
def Found.message : Found → String
  | .null => "null"
  | .unit => "unit value"
  | .bool b => s!"boolean `{b}`"
  | .int n => s!"integer `{n}`"
  | .float x => s!"floating point `{Json.floatText x}`"
  | .positional x => s!"floating point `{positionalText x}`"
  | .text s => s!"string {Text.quote s}"
  | .sequence => "sequence"
  | .map => "map"

/-- What a place of a document should hold. -/
inductive Wanted where
  | double
  | word64
  | word32
  | bool
  | text
  | sequence
  | map
  | record (name : String)
  deriving DecidableEq, Repr

/-- The wording of what was wanted. -/
def Wanted.message : Wanted → String
  | .double => "f64"
  | .word64 => "u64"
  | .word32 => "u32"
  | .bool => "a boolean"
  | .text => "a string"
  | .sequence => "a sequence"
  | .map => "a map"
  | .record name => s!"struct {name}"

/-- What is wrong with the surrogates of a text when it is used. -/
inductive SurrogateFault where
  | missingTrail
  | expectedTrail
  | unexpectedTrail
  | notHex
  deriving DecidableEq, Repr

/-- Why a number cannot be used. -/
inductive NumberFault where
  | notNumber
  | tooLarge
  | notInteger
  | hexTooLarge
  deriving DecidableEq, Repr

/-- Why reading a document stops. -/
inductive Mismatch where
  | wrongType (found : Found) (wanted : Wanted)
  | outOfRange (n : Int) (wanted : Wanted)
  | tooFewItems (count : Nat) (record : String) (fields : Nat)
  | tooManyItems (count : Nat)
  | missingField (name : String)
  | duplicateField (name : String)
  | unknownVariant (found : String) (known : List String)
  | noVariant
  | emptyVariant
  | fixedFields (cause : Mismatch)
  | dynamicEntry (key : String) (cause : Mismatch)
  | surrogate (fault : SurrogateFault)
  | number (fault : NumberFault)

/-- The wording of a fault in surrogates. -/
def SurrogateFault.message : SurrogateFault → String
  | .missingTrail => "missing unicode trail surrogate"
  | .expectedTrail => "expecting unicode trail surrogate"
  | .unexpectedTrail => "unexpected unicode trail surrogate"
  | .notHex => "error parsing hex"

/-- The wording of a fault in a number. -/
def NumberFault.message : NumberFault → String
  | .notNumber => "error parsing number"
  | .tooLarge => "error parsing number: too large"
  | .notInteger => "error parsing integer"
  | .hexTooLarge => "error parsing hex"

/-- `n` elements in words. -/
def elementCount (n : Nat) : String := if n = 1 then "1 element" else s!"{n} elements"

/-- Names between backquotes, the last two joined by `or`. -/
def alternatives : List String → String
  | [] => ""
  | [a] => s!"`{a}`"
  | [a, b] => s!"`{a}` or `{b}`"
  | names => "one of " ++ String.intercalate ", " (names.map fun n => s!"`{n}`")

/-- The wording of a mismatch. -/
def Mismatch.message : Mismatch → String
  | .wrongType found wanted => s!"invalid type: {found.message}, expected {wanted.message}"
  | .outOfRange n wanted => s!"invalid value: integer `{n}`, expected {wanted.message}"
  | .tooFewItems count record fields =>
    s!"invalid length {count}, expected struct {record} with {elementCount fields}"
  | .tooManyItems count => s!"invalid length {count}, expected fewer elements in array"
  | .missingField name => s!"missing field `{name}`"
  | .duplicateField name => s!"duplicate field `{name}`"
  | .unknownVariant found known => s!"unknown variant `{found}`, expected {alternatives known}"
  | .noVariant => "expected a string or an object"
  | .emptyVariant => "expected a nonempty object"
  | .fixedFields cause => s!"fixed fields: {cause.message}"
  | .dynamicEntry key cause => s!"dynamic entry '{key}': {cause.message}"
  | .surrogate fault => fault.message
  | .number fault => fault.message

end FirewallProbe
