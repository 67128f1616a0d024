import PreviewHub.Json.Reader
import PreviewHub.Text.Split

/-! IPv4 addresses as hosts may write them: one to four numbers, decimal, octal or hexadecimal, of
which the last fills the bytes that are left. -/

namespace PreviewHub.Ipv4

def digits? (base : Nat) : Nat → List Char → Option Nat
  | n, [] => some n
  | n, c :: cs =>
    match Json.hexValue? c with
    | some d => if d < base then digits? base (n * base + d) cs else none
    | none => none

/-- A number: `0x` starts a hexadecimal one, `0` an octal one, and either may end there. -/
def number? : List Char → Option Nat
  | [] => none
  | '0' :: 'x' :: cs => digits? 16 0 cs
  | '0' :: 'X' :: cs => digits? 16 0 cs
  | '0' :: c :: cs => digits? 8 0 (c :: cs)
  | cs => digits? 10 0 cs

/-- Whether the host has to be an address: its last label, but for one empty label at the end, is a
number or looks like one. -/
def isCalledFor (host : List Char) : Bool :=
  let last := match (Text.split '.' host).reverse with
    | [] :: label :: _ => label
    | label :: _ => label
    | [] => []
  (!last.isEmpty && last.all Char.isDigit) || (number? last).isSome

/-- The address made of leading bytes and a last number that fills the rest. -/
def assemble (leading : List Nat) (last : Nat) : Option Nat :=
  if leading.all (· ≤ 255) ∧ last < Nat.pow 256 (4 - leading.length) then
    some (leading.zipIdx.foldl (fun sum (n, i) => sum + n * Nat.pow 256 (3 - i)) last)
  else none

def parse? (host : List Char) : Option Nat :=
  let labels := Text.split '.' host
  let labels := if labels.getLast? = some [] then labels.dropLast else labels
  if labels.length ≤ 4 then
    match labels.mapM number? with
    | none => none
    | some numbers =>
      match numbers.getLast? with
      | none => none
      | some last => assemble numbers.dropLast last
  else none

def render (address : Nat) : List Char :=
  Text.join '.' ([3, 2, 1, 0].map fun i => (toString (address / Nat.pow 256 i % 256)).toList)

end PreviewHub.Ipv4
