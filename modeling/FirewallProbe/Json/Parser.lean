import FirewallProbe.Json.Number

/-! # Reading JSON text

`Json.parse` reads one value from a text.  The reader works on the bytes of the text; each step
gives the value read and the bytes after it, or the first fault.  Lists and objects may be nested
`maxDepth` deep.  Recursion is bounded by the length of the text: each step reads a byte. -/

namespace FirewallProbe.Json

/-- The deepest nesting of lists and objects. -/
def maxDepth : Nat := 127

/-- The `bytes` after the blanks at the front. -/
def skipBlanks (bytes : List UInt8) : List UInt8 :=
  bytes.dropWhile fun b => b == 32 || b == 10 || b == 9 || b == 13

/-- Reads the rest of the literal word that stands for `value`. -/
def readWord (value : Json) : List UInt8 → List UInt8 → Except Fault (Json × List UInt8)
  | [], bytes => .ok (value, bytes)
  | _ :: _, [] => .error ⟨.endInValue, []⟩
  | w :: word, b :: bytes =>
    if b = w then readWord value word bytes else .error ⟨.unknownWord, bytes⟩

/-- The value of the hexadecimal digit `b`. -/
def hexValue? (b : UInt8) : Option Nat :=
  if 48 ≤ b && b ≤ 57 then some (b.toNat - 48)
  else if 97 ≤ b && b ≤ 102 then some (b.toNat - 87)
  else if 65 ≤ b && b ≤ 70 then some (b.toNat - 55)
  else none

/-- Reads four hexadecimal digits. -/
def readHex : List UInt8 → Except Fault (Nat × List UInt8)
  | a :: b :: c :: d :: rest =>
    match hexValue? a, hexValue? b, hexValue? c, hexValue? d with
    | some a, some b, some c, some d => .ok (((a * 16 + b) * 16 + c) * 16 + d, rest)
    | _, _, _, _ => .error ⟨.badEscape, rest⟩
  | _ => .error ⟨.endInString, []⟩

/-- The UTF-8 bytes of the code point `n`. -/
def encodeCodePoint (n : Nat) : List UInt8 := (String.singleton (Char.ofNat n)).toUTF8.toList

/-- Reads a hexadecimal escape after its `u`; characters outside the basic plane take two. -/
def readUnicodeEscape (bytes : List UInt8) : Except Fault (List UInt8 × List UInt8) := do
  let (first, rest) ← readHex bytes
  if 0xDC00 ≤ first ∧ first ≤ 0xDFFF then .error ⟨.loneSurrogate, rest⟩
  else if first < 0xD800 ∨ 0xDBFF < first then .ok (encodeCodePoint first, rest)
  else
    match rest with
    | [] => .error ⟨.endInString, []⟩
    | 92 :: rest =>
      match rest with
      | [] => .error ⟨.endInString, []⟩
      | 117 :: rest => do
        let (second, rest) ← readHex rest
        -- A lead surrogate must be followed by a trail surrogate.
        if second < 0xDC00 ∨ 0xDFFF < second then .error ⟨.loneSurrogate, rest⟩
        else
          .ok (encodeCodePoint ((first - 0xD800) * 1024 + (second - 0xDC00) + 0x10000), rest)
      | _ :: rest => .error ⟨.noSecondSurrogate, rest⟩
    | _ :: rest => .error ⟨.noSecondSurrogate, rest⟩

/-- Reads what follows a backslash. -/
def readEscape : List UInt8 → Except Fault (List UInt8 × List UInt8)
  | [] => .error ⟨.endInString, []⟩
  | b :: rest =>
    if b = 34 ∨ b = 92 ∨ b = 47 then .ok ([b], rest)
    else if b = 98 then .ok ([8], rest)
    else if b = 102 then .ok ([12], rest)
    else if b = 110 then .ok ([10], rest)
    else if b = 114 then .ok ([13], rest)
    else if b = 116 then .ok ([9], rest)
    else if b = 117 then readUnicodeEscape rest
    else .error ⟨.badEscape, rest⟩

/-- Reads a string after its opening quote; `read` holds the bytes of its value so far, the last
one first. -/
def readStringBytes : Nat → List UInt8 → List UInt8 → Except Fault (List UInt8 × List UInt8)
  | 0, _, bytes => .error ⟨.endInString, bytes⟩
  | _ + 1, _, [] => .error ⟨.endInString, []⟩
  | fuel + 1, read, b :: rest =>
    if b = 34 then .ok (read.reverse, rest)
    else if b = 92 then do
      let (bytes, rest) ← readEscape rest
      readStringBytes fuel (bytes.reverse ++ read) rest
    else if b < 32 then .error ⟨.controlCharacter, rest⟩
    else readStringBytes fuel (b :: read) rest

/-- Reads a string after its opening quote. -/
def readString (bytes : List UInt8) : Except Fault (String × List UInt8) := do
  let (value, rest) ← readStringBytes (bytes.length + 1) [] bytes
  .ok ((String.fromUTF8? ⟨value.toArray⟩).getD "", rest)

mutual

/-- Reads a value; `depth` is the number of levels that may still be opened. -/
def readValue : Nat → Nat → List UInt8 → Except Fault (Json × List UInt8)
  | 0, _, bytes => .error (.atNext .noValue bytes)
  | fuel + 1, depth, bytes =>
    match skipBlanks bytes with
    | [] => .error ⟨.endInValue, []⟩
    | b :: rest =>
      if b = 110 then readWord .null [117, 108, 108] rest
      else if b = 116 then readWord (.bool true) [114, 117, 101] rest
      else if b = 102 then readWord (.bool false) [97, 108, 115, 101] rest
      else if b = 45 then readNumber true rest
      else if isDigit b then readNumber false (b :: rest)
      else if b = 34 then do
        let (s, rest) ← readString rest
        .ok (.str s, rest)
      else if b = 91 then
        match depth with
        | 0 => .error (.atNext .tooDeep (b :: rest))
        | depth + 1 => do
          let (items, rest) ← readItems fuel depth true rest
          .ok (.arr items, rest)
      else if b = 123 then
        match depth with
        | 0 => .error (.atNext .tooDeep (b :: rest))
        | depth + 1 => do
          let (members, rest) ← readMembers fuel depth true rest
          .ok (object members, rest)
      else .error (.atNext .noValue (b :: rest))

/-- Reads the items of a list up to its end. -/
def readItems : Nat → Nat → Bool → List UInt8 → Except Fault (List Json × List UInt8)
  | 0, _, _, bytes => .error (.atNext .endInList bytes)
  | fuel + 1, depth, first, bytes =>
    match skipBlanks bytes with
    | [] => .error ⟨.endInList, []⟩
    | b :: rest =>
      if b = 93 then .ok ([], rest)
      else if first then do
        let (v, rest) ← readValue fuel depth (b :: rest)
        let (items, rest) ← readItems fuel depth false rest
        .ok (v :: items, rest)
      else if b = 44 then
        match skipBlanks rest with
        | [] => .error ⟨.endInValue, []⟩
        | c :: rest =>
          if c = 93 then .error (.atNext .trailingComma (c :: rest))
          else do
            let (v, rest) ← readValue fuel depth (c :: rest)
            let (items, rest) ← readItems fuel depth false rest
            .ok (v :: items, rest)
      else .error (.atNext .noCommaInList (b :: rest))

/-- Reads the members of an object up to its end. -/
def readMembers : Nat → Nat → Bool → List UInt8 →
    Except Fault (List (String × Json) × List UInt8)
  | 0, _, _, bytes => .error (.atNext .endInObject bytes)
  | fuel + 1, depth, first, bytes =>
    match skipBlanks bytes with
    | [] => .error ⟨.endInObject, []⟩
    | b :: rest =>
      if b = 125 then .ok ([], rest)
      else if first then
        if b = 34 then readMember fuel depth rest
        else .error (.atNext .keyNotString (b :: rest))
      else if b = 44 then
        match skipBlanks rest with
        | [] => .error ⟨.endInValue, []⟩
        | c :: rest =>
          if c = 34 then readMember fuel depth rest
          else if c = 125 then .error (.atNext .trailingComma (c :: rest))
          else .error (.atNext .keyNotString (c :: rest))
      else .error (.atNext .noCommaInObject (b :: rest))

/-- Reads a member after the opening quote of its key, and the members after it. -/
def readMember : Nat → Nat → List UInt8 → Except Fault (List (String × Json) × List UInt8)
  | 0, _, bytes => .error (.atNext .endInObject bytes)
  | fuel + 1, depth, bytes => do
    let (key, rest) ← readString bytes
    match skipBlanks rest with
    | [] => .error ⟨.endInObject, []⟩
    | b :: rest =>
      if b = 58 then do
        let (v, rest) ← readValue fuel depth rest
        let (members, rest) ← readMembers fuel depth false rest
        .ok ((key, v) :: members, rest)
      else .error (.atNext .noColon (b :: rest))

end

/-- Reads a `text` that holds one value and blanks. -/
def parse (text : String) : Except SyntaxError Json :=
  let bytes := text.toUTF8.toList
  match readValue (2 * bytes.length + 2) maxDepth bytes with
  | .error fault => .error (fault.locate bytes)
  | .ok (v, rest) =>
    match skipBlanks rest with
    | [] => .ok v
    | rest => .error ((Fault.atNext .trailingText rest).locate bytes)

end FirewallProbe.Json
