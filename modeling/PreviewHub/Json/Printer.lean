import PreviewHub.Json.Basic

/-! Compact JSON text: no blanks, fields in key order, and each number in one form. -/

namespace PreviewHub

def hexDigit (n : Nat) : Char := Char.ofNat (if n < 10 then 48 + n else 87 + n)

/-- Where a format writes plain digits and where it writes powers of ten. The number is
`0.ddd * 10 ^ point`, and `plainAbove < point ≤ plainUpTo` is written without an exponent. -/
structure RealFormat where
  plainAbove : Int
  plainUpTo : Int
  mark : Char
  plusSign : Bool

namespace RealFormat

def zeros (n : Nat) : List Char := List.replicate n '0'

/-- Writes the digits `ds` of `0.ds * 10 ^ point`, always with a fraction or an exponent. -/
def layout (f : RealFormat) (ds : List Char) (point : Int) : List Char :=
  if f.plainAbove < point ∧ point ≤ f.plainUpTo then
    if point ≤ 0 then '0' :: '.' :: (zeros (-point).toNat ++ ds)
    else
      let n := point.toNat
      match ds.drop n with
      | [] => ds ++ zeros (n - ds.length) ++ ['.', '0']
      | fraction => ds.take n ++ '.' :: fraction
  else
    let lead := match ds with
      | [] => []
      | [d] => [d]
      | d :: rest => d :: '.' :: rest
    let e := point - 1
    let sign := if e < 0 then ['-'] else if f.plusSign then ['+'] else []
    lead ++ f.mark :: (sign ++ (toString e.natAbs).toList)

def write (f : RealFormat) (x : Real64) : List Char :=
  let sign := if x.negative then ['-'] else []
  if x.magnitude.1 = 0 then sign ++ ['0', '.', '0']
  else
    let s := Decimal.shortest x
    let ds := (toString s.digits).toList
    sign ++ f.layout ds (Int.ofNat ds.length + s.exponent)

end RealFormat

namespace Json

/-- Plain from `0.00001` to below `10 ^ 16`, else as in `1.5e+20` and `1e-6`. -/
def realFormat : RealFormat := ⟨-5, 16, 'e', true⟩

def escape (c : Char) : List Char :=
  if c = '"' then ['\\', '"']
  else if c = '\\' then ['\\', '\\']
  else if c = '\x08' then ['\\', 'b']
  else if c = '\x0c' then ['\\', 'f']
  else if c = '\n' then ['\\', 'n']
  else if c = '\r' then ['\\', 'r']
  else if c = '\t' then ['\\', 't']
  else if c.toNat < 32 then ['\\', 'u', '0', '0', hexDigit (c.toNat / 16), hexDigit (c.toNat % 16)]
  else [c]

def quote (s : String) : List Char := '"' :: (s.toList.flatMap escape ++ ['"'])

def writeNumber : Number → List Char
  | .int i => (toString i).toList
  | .real x => realFormat.write x

mutual

def write : Json → List Char
  | .null => ['n', 'u', 'l', 'l']
  | .bool true => ['t', 'r', 'u', 'e']
  | .bool false => ['f', 'a', 'l', 's', 'e']
  | .num n => writeNumber n
  | .str s => quote s
  | .arr [] => ['[', ']']
  | .arr (x :: xs) => '[' :: (write x ++ writeItems xs)
  | .obj [] => ['{', '}']
  | .obj ((k, x) :: xs) => '{' :: (quote k ++ ':' :: (write x ++ writeFields xs))

def writeItems : List Json → List Char
  | [] => [']']
  | x :: xs => ',' :: (write x ++ writeItems xs)

def writeFields : List (String × Json) → List Char
  | [] => ['}']
  | (k, x) :: xs => ',' :: (quote k ++ ':' :: (write x ++ writeFields xs))

end

def render (j : Json) : String := String.ofList j.write

end Json

end PreviewHub
