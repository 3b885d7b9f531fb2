/-! # Faults in JSON text

A reader stops at the first fault.  `Cause` says what is wrong there, `SyntaxError` also where: the
line, counted from one, and the number of bytes read of that line. -/

namespace FirewallProbe.Json

/-- What is wrong with a JSON text. -/
inductive Cause where
  | endInList
  | endInObject
  | endInString
  | endInValue
  | noColon
  | noCommaInList
  | noCommaInObject
  | unknownWord
  | noValue
  | badEscape
  | badNumber
  | numberTooLarge
  | controlCharacter
  | keyNotString
  | loneSurrogate
  | noSecondSurrogate
  | trailingComma
  | trailingText
  | tooDeep
  deriving DecidableEq, Repr

/-- The wording of a cause. -/
def Cause.message : Cause → String
  | .endInList => "EOF while parsing a list"
  | .endInObject => "EOF while parsing an object"
  | .endInString => "EOF while parsing a string"
  | .endInValue => "EOF while parsing a value"
  | .noColon => "expected `:`"
  | .noCommaInList => "expected `,` or `]`"
  | .noCommaInObject => "expected `,` or `\x7d`"
  | .unknownWord => "expected ident"
  | .noValue => "expected value"
  | .badEscape => "invalid escape"
  | .badNumber => "invalid number"
  | .numberTooLarge => "number out of range"
  | .controlCharacter => "control character (\\u0000-\\u001F) found while parsing a string"
  | .keyNotString => "key must be a string"
  | .loneSurrogate => "lone leading surrogate in hex escape"
  | .noSecondSurrogate => "unexpected end of hex escape"
  | .trailingComma => "trailing comma"
  | .trailingText => "trailing characters"
  | .tooDeep => "recursion limit exceeded"

/-- A cause and the bytes that follow the place where it showed. -/
structure Fault where
  cause : Cause
  rest : List UInt8

/-- The fault `cause` seen at the next byte, which counts as read. -/
def Fault.atNext (cause : Cause) (rest : List UInt8) : Fault := ⟨cause, rest.drop 1⟩

/-- A cause with its place in the text. -/
structure SyntaxError where
  cause : Cause
  line : Nat
  column : Nat
  deriving DecidableEq, Repr

/-- The wording of a syntax error. -/
def SyntaxError.message (e : SyntaxError) : String :=
  s!"{e.cause.message} at line {e.line} column {e.column}"

/-- The place of the fault `f` in the `text` that was read. -/
def Fault.locate (f : Fault) (text : List UInt8) : SyntaxError :=
  let read := text.take (text.length - f.rest.length)
  { cause := f.cause
    line := 1 + read.count 10
    column := (read.reverse.takeWhile (· != 10)).length }

end FirewallProbe.Json
