import PreviewHub.Json.Printer

/-! Reading JSON text. The reader works on characters and counts bytes only to say where it stopped:
a fault records how many bytes of the text lie behind its position. -/

namespace PreviewHub.Json

inductive Reason where
  | endInValue
  | endInString
  | endInList
  | endInObject
  | badWord
  | noValue
  | tooDeep
  | badNumber
  | outOfRange
  | controlCharacter
  | badEscape
  | loneSurrogate
  | cutSurrogate
  | trailingComma
  | noListSeparator
  | noFieldSeparator
  | noColon
  | keyNotString
  | leftover
  | wrongType (found wanted : String)
  | wrongValue (found wanted : String)
  deriving DecidableEq, Repr

def Reason.text : Reason → String
  | .endInValue => "EOF while parsing a value"
  | .endInString => "EOF while parsing a string"
  | .endInList => "EOF while parsing a list"
  | .endInObject => "EOF while parsing an object"
  | .badWord => "expected ident"
  | .noValue => "expected value"
  | .tooDeep => "recursion limit exceeded"
  | .badNumber => "invalid number"
  | .outOfRange => "number out of range"
  | .controlCharacter => "control character (\\u0000-\\u001F) found while parsing a string"
  | .badEscape => "invalid escape"
  | .loneSurrogate => "lone leading surrogate in hex escape"
  | .cutSurrogate => "unexpected end of hex escape"
  | .trailingComma => "trailing comma"
  | .noListSeparator => "expected `,` or `]`"
  | .noFieldSeparator => "expected `,` or `\x7d`"
  | .noColon => "expected `:`"
  | .keyNotString => "key must be a string"
  | .leftover => "trailing characters"
  | .wrongType found wanted => "invalid type: " ++ found ++ ", expected " ++ wanted
  | .wrongValue found wanted => "invalid value: " ++ found ++ ", expected " ++ wanted

/-- A reason and where it arose: lines count from one, columns are bytes since the line began. -/
structure SyntaxError where
  reason : Reason
  line : Nat
  column : Nat
  deriving DecidableEq, Repr

def SyntaxError.message (e : SyntaxError) : String :=
  e.reason.text ++ " at line " ++ toString e.line ++ " column " ++ toString e.column

/-- A reason and the number of bytes of the text that are left at its position. -/
structure Fault where
  reason : Reason
  left : Nat
  deriving DecidableEq, Repr

def byteCount (cs : List Char) : Nat := cs.foldl (fun n c => n + c.utf8Size) 0

def Fault.here (reason : Reason) (rest : List Char) : Fault := ⟨reason, byteCount rest⟩

def Fault.ahead (reason : Reason) (rest : List Char) : Fault := ⟨reason, byteCount rest - 1⟩

/-- Line and column of the byte at `index`; `offset` bytes went before, and the current line began
at `start`. -/
def locateFrom (index offset line start : Nat) : List Char → Nat × Nat
  | [] => (line, index - start)
  | c :: rest =>
    if index ≤ offset then (line, index - start)
    else if c = '\n' then locateFrom index (offset + 1) (line + 1) (offset + 1) rest
    else locateFrom index (offset + c.utf8Size) line start rest

def Fault.locate (fault : Fault) (text : List Char) : SyntaxError :=
  let (line, column) := locateFrom (byteCount text - fault.left) 0 1 0 text
  ⟨fault.reason, line, column⟩

abbrev Reading (α : Type) := Except Fault (α × List Char)

def Reading.andThen {α β : Type} (reading : Reading α) (next : α → List Char → Reading β) :
    Reading β :=
  match reading with
  | .ok (x, rest) => next x rest
  | .error fault => .error fault

def isBlank (c : Char) : Bool := c = ' ' || c = '\n' || c = '\t' || c = '\r'

def skipBlanks (cs : List Char) : List Char := cs.dropWhile isBlank

def readWord (meaning : Json) : List Char → List Char → Reading Json
  | [], cs => .ok (meaning, cs)
  | _ :: _, [] => .error (.here .endInValue [])
  | l :: ls, c :: cs =>
    if c = l then readWord meaning ls cs else .error (.ahead .badWord (c :: cs))

/-! Numbers -/

def digitValue (c : Char) : Nat := c.toNat - 48

def maxNatural : Nat := Nat.pow 2 64 - 1

def maxExponent : Nat := Nat.pow 2 31 - 1

/-- Appends the digits to `s` while it stays in range; counts those that come after. -/
def integerDigits : Nat → List Char → Nat × Nat
  | s, [] => (s, 0)
  | s, d :: ds =>
    if s * 10 + digitValue d ≤ maxNatural then integerDigits (s * 10 + digitValue d) ds
    else (s, ds.length + 1)

def fractionDigits : Nat → List Char → Nat × Nat
  | s, [] => (s, 0)
  | s, d :: ds =>
    if s * 10 + digitValue d ≤ maxNatural then
      let (s, places) := fractionDigits (s * 10 + digitValue d) ds
      (s, places + 1)
    else (s, 0)

/-- Reads the digits of an exponent behind `e`. If it leaves its range the result is the text behind
the digit that did so. -/
def exponentDigits : Nat → List Char → Except (List Char) (Nat × List Char)
  | e, [] => .ok (e, [])
  | e, c :: cs =>
    if c.isDigit then
      if e * 10 + digitValue c ≤ maxExponent then exponentDigits (e * 10 + digitValue c) cs
      else .error cs
    else .ok (e, c :: cs)

/-- `f * 10 ^ e`, in steps that stay within the powers of ten that are binary64 numbers. Too large a
result is `none`. -/
def scaleReal (f : Float) (e : Int) : Option Float :=
  if e < -308 then
    if f == 0 then some f else scaleReal (f / Float.ofScientific 1 false 308) (e + 308)
  else if e < 0 then some (f / Float.ofScientific 1 false e.natAbs)
  else if e ≤ 308 then
    let r := f * Float.ofScientific 1 false e.natAbs
    if r.isInf then none else some r
  else if f == 0 then some f else none
termination_by e.natAbs
decreasing_by omega

def signed (negative : Bool) (f : Float) : Number := .real (.ofFloat (if negative then -f else f))

def finishReal (negative : Bool) (s : Nat) (e : Int) (rest : List Char) : Reading Number :=
  match scaleReal s.toUInt64.toFloat e with
  | some f => .ok (signed negative f, rest)
  | none => .error (.here .outOfRange rest)

def readExponentDigits (negative down : Bool) (s : Nat) (e : Int) : List Char → Reading Number
  | [] => .error (.here .endInValue [])
  | c :: cs =>
    if c.isDigit then
      match exponentDigits (digitValue c) cs with
      | .ok (n, rest) => finishReal negative s (if down then e - n else e + n) rest
      | .error rest =>
        if s ≠ 0 ∧ down = false then .error (.here .outOfRange rest)
        else .ok (signed negative 0, rest.dropWhile Char.isDigit)
    else .error (.ahead .badNumber (c :: cs))

def readExponent (negative : Bool) (s : Nat) (e : Int) : List Char → Reading Number
  | '+' :: cs => readExponentDigits negative false s e cs
  | '-' :: cs => readExponentDigits negative true s e cs
  | cs => readExponentDigits negative false s e cs

/-- Goes on behind the last digit of a number with a fraction or an integer part out of range. -/
def finishOrExponent (negative : Bool) (s : Nat) (e : Int) : List Char → Reading Number
  | 'e' :: cs => readExponent negative s e cs
  | 'E' :: cs => readExponent negative s e cs
  | cs => finishReal negative s e cs

def readFraction (negative : Bool) (s : Nat) (e : Int) (cs : List Char) : Reading Number :=
  let digits := cs.takeWhile Char.isDigit
  let rest := cs.dropWhile Char.isDigit
  if digits.isEmpty then
    .error (.ahead (if rest.isEmpty then .endInValue else .badNumber) rest)
  else
    let (s, places) := fractionDigits s digits
    finishOrExponent negative s (e - places) rest

/-- An integer without fraction and exponent. Minus zero and what is below `-2 ^ 63` are no integers
here. -/
def integer (negative : Bool) (s : Nat) : Number :=
  if negative then
    if 0 < s ∧ s ≤ Nat.pow 2 63 then .int (-s) else signed true s.toUInt64.toFloat
  else .int s

def readUnsigned (negative : Bool) (digits rest : List Char) : Reading Number :=
  let (s, dropped) := integerDigits 0 digits
  match rest with
  | '.' :: cs => readFraction negative s dropped cs
  | 'e' :: cs => readExponent negative s dropped cs
  | 'E' :: cs => readExponent negative s dropped cs
  | cs => if dropped = 0 then .ok (integer negative s, cs) else finishReal negative s dropped cs

def readMagnitude (negative : Bool) : List Char → Reading Number
  | [] => .error (.here .endInValue [])
  | c :: cs =>
    if c = '0' then
      match cs with
      | d :: _ =>
        if d.isDigit then .error (.ahead .badNumber cs) else readUnsigned negative ['0'] cs
      | [] => readUnsigned negative ['0'] cs
    else if c.isDigit then
      readUnsigned negative (c :: cs.takeWhile Char.isDigit) (cs.dropWhile Char.isDigit)
    else .error (.ahead .badNumber (c :: cs))

def readNumber : List Char → Reading Number
  | '-' :: cs => readMagnitude true cs
  | cs => readMagnitude false cs

/-! Strings -/

def hexValue? (c : Char) : Option Nat :=
  if '0' ≤ c ∧ c ≤ '9' then some (c.toNat - 48)
  else if 'a' ≤ c ∧ c ≤ 'f' then some (c.toNat - 87)
  else if 'A' ≤ c ∧ c ≤ 'F' then some (c.toNat - 55)
  else none

def hexFour? : List Char → Option (Nat × List Char)
  | a :: b :: c :: d :: rest => do
    let a ← hexValue? a
    let b ← hexValue? b
    let c ← hexValue? c
    let d ← hexValue? d
    return (((a * 16 + b) * 16 + c) * 16 + d, rest)
  | _ => none

def hexFour (cs : List Char) : Reading Nat :=
  match hexFour? cs with
  | some reading => .ok reading
  | none =>
    if byteCount cs < 4 then .error ⟨.endInString, 0⟩ else .error ⟨.badEscape, byteCount cs - 4⟩

def isHighSurrogate (u : Nat) : Bool := 0xD800 ≤ u && u ≤ 0xDBFF

def isLowSurrogate (u : Nat) : Bool := 0xDC00 ≤ u && u ≤ 0xDFFF

def lowHalf (high : Nat) : List Char → Reading Char
  | [] => .error (.here .endInString [])
  | '\\' :: [] => .error (.here .endInString [])
  | '\\' :: 'u' :: cs =>
    (hexFour cs).andThen fun low rest =>
      if isLowSurrogate low then
        .ok (Char.ofNat (0x10000 + (high - 0xD800) * 0x400 + (low - 0xDC00)), rest)
      else .error (.here .loneSurrogate rest)
  | '\\' :: cs => .error (.ahead .cutSurrogate cs)
  | cs => .error (.ahead .cutSurrogate cs)

def unicodeEscape (cs : List Char) : Reading Char :=
  (hexFour cs).andThen fun u rest =>
    if isLowSurrogate u then .error (.here .loneSurrogate rest)
    else if isHighSurrogate u then lowHalf u rest
    else .ok (Char.ofNat u, rest)

def readEscape : List Char → Reading Char
  | [] => .error (.here .endInString [])
  | '"' :: cs => .ok ('"', cs)
  | '\\' :: cs => .ok ('\\', cs)
  | '/' :: cs => .ok ('/', cs)
  | 'b' :: cs => .ok ('\x08', cs)
  | 'f' :: cs => .ok ('\x0c', cs)
  | 'n' :: cs => .ok ('\n', cs)
  | 'r' :: cs => .ok ('\r', cs)
  | 't' :: cs => .ok ('\t', cs)
  | 'u' :: cs => unicodeEscape cs
  | cs => .error (.ahead .badEscape cs)

def readCharacter : List Char → Reading (Option Char)
  | [] => .error (.here .endInString [])
  | '"' :: cs => .ok (none, cs)
  | '\\' :: cs => (readEscape cs).andThen fun c rest => .ok (some c, rest)
  | c :: cs =>
    if c.toNat < 32 then .error (.ahead .controlCharacter (c :: cs)) else .ok (some c, cs)

/-- Reads the characters of a string behind its opening quote; `done` holds those that were read,
last first. Every step takes a character, so fuel beyond the length of the text changes nothing. -/
def readCharacters : Nat → List Char → List Char → Reading String
  | 0, _, cs => .error (.here .endInString cs)
  | fuel + 1, done, cs =>
    match readCharacter cs with
    | .error fault => .error fault
    | .ok (none, rest) => .ok (String.ofList done.reverse, rest)
    | .ok (some c, rest) => readCharacters fuel (c :: done) rest

def readString (cs : List Char) : Reading String := readCharacters (cs.length + 1) [] cs

/-! Values -/

def depthLimit : Nat := 128

mutual

/-- Reads a value in which arrays and objects may still be nested less than `depth` deep. -/
def readValue : Nat → Nat → List Char → Reading Json
  | 0, _, cs => .error (.here .endInValue cs)
  | fuel + 1, depth, cs =>
    match skipBlanks cs with
    | [] => .error (.here .endInValue [])
    | 'n' :: cs => readWord .null ['u', 'l', 'l'] cs
    | 't' :: cs => readWord (.bool true) ['r', 'u', 'e'] cs
    | 'f' :: cs => readWord (.bool false) ['a', 'l', 's', 'e'] cs
    | '"' :: cs => (readString cs).andThen fun s rest => .ok (.str s, rest)
    | '[' :: cs =>
      if depth ≤ 1 then .error (.ahead .tooDeep ('[' :: cs))
      else
        match skipBlanks cs with
        | [] => .error (.here .endInList [])
        | ']' :: rest => .ok (.arr [], rest)
        | cs =>
          (readValue fuel (depth - 1) cs).andThen fun x rest =>
            (readItems fuel (depth - 1) rest).andThen fun xs rest => .ok (.arr (x :: xs), rest)
    | '{' :: cs =>
      if depth ≤ 1 then .error (.ahead .tooDeep ('{' :: cs))
      else
        match skipBlanks cs with
        | [] => .error (.here .endInObject [])
        | '}' :: rest => .ok (.obj [], rest)
        | cs =>
          (readField fuel (depth - 1) cs).andThen fun field rest =>
            (readFields fuel (depth - 1) [field] rest).andThen fun fields rest =>
              .ok (.obj fields, rest)
    | c :: cs =>
      if c = '-' || c.isDigit then
        (readNumber (c :: cs)).andThen fun n rest => .ok (.num n, rest)
      else .error (.ahead .noValue (c :: cs))

def readItems : Nat → Nat → List Char → Reading (List Json)
  | 0, _, cs => .error (.here .endInList cs)
  | fuel + 1, depth, cs =>
    match skipBlanks cs with
    | [] => .error (.here .endInList [])
    | ']' :: rest => .ok ([], rest)
    | ',' :: cs =>
      match skipBlanks cs with
      | [] => .error (.here .endInValue [])
      | ']' :: rest => .error (.ahead .trailingComma (']' :: rest))
      | cs =>
        (readValue fuel depth cs).andThen fun x rest =>
          (readItems fuel depth rest).andThen fun xs rest => .ok (x :: xs, rest)
    | cs => .error (.ahead .noListSeparator cs)

def readField : Nat → Nat → List Char → Reading (String × Json)
  | 0, _, cs => .error (.here .endInObject cs)
  | fuel + 1, depth, cs =>
    match cs with
    | '"' :: cs =>
      (readString cs).andThen fun key rest =>
        match skipBlanks rest with
        | [] => .error (.here .endInObject [])
        | ':' :: cs => (readValue fuel depth cs).andThen fun x rest => .ok ((key, x), rest)
        | cs => .error (.ahead .noColon cs)
    | cs => .error (.ahead .keyNotString cs)

def readFields : Nat → Nat → Fields → List Char → Reading Fields
  | 0, _, _, cs => .error (.here .endInObject cs)
  | fuel + 1, depth, fields, cs =>
    match skipBlanks cs with
    | [] => .error (.here .endInObject [])
    | '}' :: rest => .ok (fields, rest)
    | ',' :: cs =>
      match skipBlanks cs with
      | [] => .error (.here .endInValue [])
      | '}' :: rest => .error (.ahead .trailingComma ('}' :: rest))
      | cs =>
        (readField fuel depth cs).andThen fun field rest =>
          readFields fuel depth (Fields.insert field.1 field.2 fields) rest
    | cs => .error (.ahead .noFieldSeparator cs)

end

/-- Fuel for a text: a character starts at most three nested readers. -/
def fuelFor (cs : List Char) : Nat := 3 * cs.length + 3

def finish {α : Type} : Reading α → Except Fault α
  | .error fault => .error fault
  | .ok (x, rest) =>
    match skipBlanks rest with
    | [] => .ok x
    | rest => .error (.ahead .leftover rest)

def readAll {α : Type} (reader : List Char → Reading α) (text : String) : Except SyntaxError α :=
  match finish (reader text.toList) with
  | .ok x => .ok x
  | .error fault => .error (fault.locate text.toList)

def parse (text : String) : Except SyntaxError Json :=
  readAll (fun cs => readValue (fuelFor cs) depthLimit cs) text

end PreviewHub.Json
