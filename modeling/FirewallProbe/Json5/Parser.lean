import FirewallProbe.Binary64.Reading
import FirewallProbe.Json5.Number
import FirewallProbe.Json5.Text
import FirewallProbe.Text.Identifier

/-! # Reading JSON5 text

`Json5.parse` reads a document from a text, or finds that the text is none.  Each reader gives what
it read and the characters after it.  The readers of values recurse on a bound computed from the
length of the text, since every step reads a character. -/

namespace FirewallProbe.Json5

/-- The characters that end a line. -/
def isLineEnd (c : Char) : Bool :=
  c == '\n' || c == '\r' || c.toNat == 0x2028 || c.toNat == 0x2029

/-- The characters that separate tokens: controls, spaces of every width, line ends and the mark
that may stand at the front of a file. -/
def isSpace (c : Char) : Bool :=
  let n := c.toNat
  isLineEnd c || n == 0x09 || n == 0x0B || n == 0x0C || n == 0x20 || n == 0xA0 || n == 0xFEFF ||
    n == 0x1680 || (0x2000 ≤ n && n ≤ 0x200A) || n == 0x202F || n == 0x205F || n == 0x3000

/-- The characters after the end of a comment. -/
def afterComment? : List Char → Option (List Char)
  | '*' :: '/' :: rest => some rest
  | _ :: rest => afterComment? rest
  | [] => none

theorem length_afterComment?_lt {cs rest : List Char} (h : afterComment? cs = some rest) :
    rest.length < cs.length := by
  fun_induction afterComment? cs <;> grind

/-- The part of `cs` from the end of the line on. -/
def atLineEnd (cs : List Char) : List Char := cs.dropWhile fun c => !isLineEnd c

theorem length_atLineEnd_le (cs : List Char) : (atLineEnd cs).length ≤ cs.length :=
  (List.dropWhile_suffix _).length_le

/-- The characters after the blanks and comments at the front. -/
def skipBlanks : List Char → List Char
  | [] => []
  | '/' :: '/' :: rest => skipBlanks (atLineEnd rest)
  | '/' :: '*' :: rest =>
    match _h : afterComment? rest with
    | some after => skipBlanks after
    | none => '/' :: '*' :: rest
  | c :: rest => if isSpace c then skipBlanks rest else c :: rest
termination_by cs => cs.length
decreasing_by
  · exact Nat.lt_succ_of_lt (Nat.lt_succ_of_le (length_atLineEnd_le rest))
  · exact Nat.lt_succ_of_lt (Nat.lt_succ_of_lt (length_afterComment?_lt _h))
  · exact Nat.lt_succ_self _

/-- The characters after a word at the front. -/
def dropWord? : List Char → List Char → Option (List Char)
  | [], cs => some cs
  | _ :: _, [] => none
  | w :: word, c :: rest => if c = w then dropWord? word rest else none

/-! ## Numbers -/

/-- Reads the digits of an optional exponent. -/
def readExponent (cs : List Char) : Option Int × List Char :=
  match cs with
  | c :: rest =>
    if c = 'e' ∨ c = 'E' then
      let (negative, ds) := match rest with
        | '-' :: rest => (true, rest)
        | '+' :: rest => (false, rest)
        | rest => (false, rest)
      let digits := ds.takeWhile Char.isDigit
      if digits.isEmpty then (none, cs)
      else
        let n : Int := Binary64.digitsValue 0 digits
        (some (if negative then -n else n), ds.dropWhile Char.isDigit)
    else (none, cs)
  | [] => (none, [])

/-- The digits before the point: a zero alone, or any number of digits without leading zero. -/
def readWhole? : List Char → Option (List Char × List Char)
  | '0' :: rest => some (['0'], rest)
  | cs =>
    let digits := cs.takeWhile Char.isDigit
    if digits.isEmpty then none else some (digits, cs.dropWhile Char.isDigit)

/-- The decimal of the digits before and after the point (`whole`, `fraction`) and an `exponent`. -/
def decimalOf (whole fraction : List Char) (point : Bool) (exponent : Option Int) :
    NumberLiteral :=
  .decimal (Binary64.digitsValue (Binary64.digitsValue 0 whole) fraction)
    (exponent.getD 0 - fraction.length) (!point && exponent.isNone)

/-- Reads a decimal. -/
def readDecimal? (cs : List Char) : Option (NumberLiteral × List Char) :=
  match readWhole? cs with
  | some (whole, '.' :: rest) =>
    let fraction := rest.takeWhile Char.isDigit
    let (exponent, rest) := readExponent (rest.dropWhile Char.isDigit)
    some (decimalOf whole fraction true exponent, rest)
  | some (whole, rest) =>
    let (exponent, rest) := readExponent rest
    some (decimalOf whole [] false exponent, rest)
  | none =>
    match cs with
    | '.' :: rest =>
      let fraction := rest.takeWhile Char.isDigit
      if fraction.isEmpty then none
      else
        let (exponent, rest) := readExponent (rest.dropWhile Char.isDigit)
        some (decimalOf [] fraction true exponent, rest)
    | _ => none

/-- Reads a hexadecimal number. -/
def readHex? : List Char → Option (NumberLiteral × List Char)
  | '0' :: x :: rest =>
    let digits := rest.takeWhile TextUnit.isHexDigit
    if (x = 'x' ∨ x = 'X') ∧ !digits.isEmpty then
      some (.hex digits, rest.dropWhile TextUnit.isHexDigit)
    else none
  | _ => none

/-- Reads one of the words for numbers. -/
def readNumberWord? (cs : List Char) : Option (NumberLiteral × List Char) :=
  match dropWord? ['I', 'n', 'f', 'i', 'n', 'i', 't', 'y'] cs with
  | some rest => some (.infinity, rest)
  | none => (dropWord? ['N', 'a', 'N'] cs).map fun rest => (.nan, rest)

/-- Reads a number without sign. -/
def readLiteral? (cs : List Char) : Option (NumberLiteral × List Char) :=
  (readHex? cs).or ((readDecimal? cs).or (readNumberWord? cs))

/-- Reads a number. -/
def readNumber? (cs : List Char) : Option (Json5 × List Char) :=
  let (sign, rest) := match cs with
    | '+' :: rest => (NumberSign.plus, rest)
    | '-' :: rest => (NumberSign.minus, rest)
    | rest => (NumberSign.none, rest)
  (readLiteral? rest).map fun (literal, rest) => (.number sign literal, rest)

/-! ## Texts -/

/-- Reads four hexadecimal digits. -/
def readUnit? : List Char → Option (Nat × List Char)
  | a :: b :: c :: d :: rest =>
    if [a, b, c, d].all TextUnit.isHexDigit then some (NumberLiteral.hexValue [a, b, c, d], rest)
    else none
  | _ => none

/-- Reads an escape after its backslash. -/
def readEscape? : List Char → Option (List TextUnit × List Char)
  -- A line end after a backslash continues the line.
  | '\r' :: '\n' :: rest => some ([], rest)
  | 'x' :: a :: b :: rest =>
    if TextUnit.isHexDigit a && TextUnit.isHexDigit b then
      some ([.code (NumberLiteral.hexValue [a, b])], rest)
    else none
  | 'u' :: rest => (readUnit? rest).map fun (n, rest) => ([.unit n], rest)
  | c :: rest =>
    if isLineEnd c then some ([], rest)
    else if c = '0' then some ([.code 0], rest)
    else if c.isDigit || c == 'x' then none
    else some ([.escape c], rest)
  | [] => none

/-- Reads a text up to the `quote` that closes it. -/
def readText? (quote : Char) : Nat → List Char → Option (List TextUnit × List Char)
  | 0, _ => none
  | _ + 1, [] => none
  | fuel + 1, c :: rest =>
    if c = quote then some ([], rest)
    else if c = '\\' then do
      let (units, rest) ← readEscape? rest
      let (others, rest) ← readText? quote fuel rest
      return (units ++ others, rest)
    else if isLineEnd c then none
    else do
      let (others, rest) ← readText? quote fuel rest
      return (.literal c :: others, rest)

/-- Reads a text between quotes. -/
def readQuoted? (cs : List Char) : Option (List TextUnit × List Char) :=
  match cs with
  | '"' :: rest => readText? '"' cs.length rest
  | '\'' :: rest => readText? '\'' cs.length rest
  | _ => none

/-- Reads the rest of a name. -/
def readNameRest : Nat → List Char → List TextUnit × List Char
  | 0, cs => ([], cs)
  | _ + 1, [] => ([], [])
  | fuel + 1, c :: rest =>
    if Text.isIdentifierPart c then
      let (units, rest) := readNameRest fuel rest
      (.literal c :: units, rest)
    else
      match c, rest with
      | '\\', 'u' :: after =>
        match readUnit? after with
        | some (n, after) =>
          let (units, rest) := readNameRest fuel after
          (.unit n :: units, rest)
        | none => ([], c :: rest)
      | _, _ => ([], c :: rest)

/-- Reads a name without quotes. -/
def readName? (cs : List Char) : Option (List TextUnit × List Char) :=
  match cs with
  | '\\' :: _ =>
    let (units, rest) := readNameRest cs.length cs
    if units.isEmpty then none else some (units, rest)
  | c :: _ => if Text.isIdentifierStart c then some (readNameRest cs.length cs) else none
  | [] => none

/-- Reads a key: a name or a quoted text. -/
def readKey? (cs : List Char) : Option (List TextUnit × List Char) :=
  (readName? cs).or (readQuoted? cs)

/-! ## Values -/

/-- Reads a word, a text or a number. -/
def readScalar? (cs : List Char) : Option (Json5 × List Char) :=
  match dropWord? ['n', 'u', 'l', 'l'] cs with
  | some rest => some (.null, rest)
  | none =>
    match dropWord? ['t', 'r', 'u', 'e'] cs with
    | some rest => some (.bool true, rest)
    | none =>
      match dropWord? ['f', 'a', 'l', 's', 'e'] cs with
      | some rest => some (.bool false, rest)
      | none =>
        ((readQuoted? cs).map fun (units, rest) => (Json5.text units, rest)).or (readNumber? cs)

mutual

/-- Reads a value. -/
def readValue? : Nat → List Char → Option (Json5 × List Char)
  | 0, _ => none
  | fuel + 1, cs =>
    match cs with
    | '[' :: rest => do
      let (items, rest) ← readItems? fuel (skipBlanks rest)
      return (.list items, rest)
    | '\x7b' :: rest => do
      let (members, rest) ← readMembers? fuel (skipBlanks rest)
      return (.object members, rest)
    | cs => readScalar? cs

/-- Reads items up to the closing bracket. -/
def readItems? : Nat → List Char → Option (List Json5 × List Char)
  | 0, _ => none
  | fuel + 1, cs =>
    match cs with
    | ']' :: rest => some ([], rest)
    | cs => do
      let (v, rest) ← readValue? fuel cs
      match skipBlanks rest with
      | ',' :: rest =>
        let (items, rest) ← readItems? fuel (skipBlanks rest)
        return (v :: items, rest)
      | ']' :: rest => return ([v], rest)
      | _ => none

/-- Reads members up to the closing brace. -/
def readMembers? : Nat → List Char → Option (List (List TextUnit × Json5) × List Char)
  | 0, _ => none
  | fuel + 1, cs =>
    match cs with
    | '\x7d' :: rest => some ([], rest)
    | cs => do
      let (key, rest) ← readKey? cs
      match skipBlanks rest with
      | ':' :: rest =>
        let (v, rest) ← readValue? fuel (skipBlanks rest)
        match skipBlanks rest with
        | ',' :: rest =>
          let (members, rest) ← readMembers? fuel (skipBlanks rest)
          return ((key, v) :: members, rest)
        | '\x7d' :: rest => return ([(key, v)], rest)
        | _ => none
      | _ => none

end

/-- Reads a `text` that holds one value, blanks and comments. -/
def parse (text : String) : Option Json5 := do
  let (v, rest) ← readValue? (2 * text.length + 2) (skipBlanks text.toList)
  if (skipBlanks rest).isEmpty then return v else none

end FirewallProbe.Json5
