import PreviewHub.Json.Reader
import PreviewHub.Text.Split

/-! IPv6 addresses: eight pieces of sixteen bits, of which a run of zeros may be left out once and
the last two may be written as four decimal numbers. -/

namespace PreviewHub.Ipv6

/-- A decimal number below `256` without a leading zero. -/
def byte? : List Char → Option Nat
  | [] => none
  | ['0'] => some 0
  | '0' :: _ => none
  | cs =>
    if cs.all Char.isDigit ∧ cs.length ≤ 3 then
      let n := cs.foldl (fun n c => n * 10 + Json.digitValue c) 0
      if n ≤ 255 then some n else none
    else none

def dotted? (cs : List Char) : Option (List Nat) :=
  match (Text.split '.' cs).mapM byte? with
  | some [a, b, c, d] => some [a * 256 + b, c * 256 + d]
  | _ => none

def hexNumber (cs : List Char) : Nat :=
  cs.foldl (fun n c => n * 16 + (Json.hexValue? c).getD 0) 0

def pieceDigits (cs : List Char) : List Char × List Char :=
  let digits := (cs.take 4).takeWhile fun c => (Json.hexValue? c).isSome
  (digits, cs.drop digits.length)

/-- Reads pieces while there is room for them. The result is the pieces, a left-out run standing as
one zero, and the place behind that run. -/
def readPieces : Nat → List Nat → Option Nat → List Char → Option (List Nat × Option Nat)
  | _, pieces, gap, [] => some (pieces, gap)
  | 0, _, _, _ :: _ => none
  | room + 1, pieces, gap, c :: cs =>
    if c = ':' then
      match gap with
      | some _ => none
      | none => readPieces room (pieces ++ [0]) (some (pieces.length + 1)) cs
    else
      let (digits, rest) := pieceDigits (c :: cs)
      match rest with
      | [] => some (pieces ++ [hexNumber digits], gap)
      | ':' :: [] => none
      | ':' :: rest => readPieces room (pieces ++ [hexNumber digits]) gap rest
      | '.' :: _ =>
        if digits.isEmpty ∨ 6 < pieces.length then none
        else (dotted? (c :: cs)).map fun tail => (pieces ++ tail, gap)
      | _ => none

/-- Fills the left-out run with zeros, so that there are eight pieces. -/
def fill : List Nat × Option Nat → Option (List Nat)
  | (pieces, some place) =>
    some (pieces.take place ++ List.replicate (8 - pieces.length) 0 ++ pieces.drop place)
  | (pieces, none) => if pieces.length = 8 then some pieces else none

def parse? : List Char → Option (List Nat)
  | [] => none
  | [_] => none
  | ':' :: c :: cs =>
    if c = ':' then (readPieces 7 [0] (some 1) cs).bind fill else none
  | cs => (readPieces 8 [] none cs).bind fill

def zeroRun (pieces : List Nat) : Nat := (pieces.takeWhile (· == 0)).length

def longestRun : Nat → List Nat → Nat × Nat
  | _, [] => (0, 0)
  | place, n :: ns =>
    let (later, length) := longestRun (place + 1) ns
    if length ≤ zeroRun (n :: ns) then (place, zeroRun (n :: ns)) else (later, length)

def renderPieces (pieces : List Nat) : List Char :=
  Text.join ':' (pieces.map fun n => Nat.toDigits 16 n)

/-- Lower case, the first longest run of two or more zeros left out. -/
def render (pieces : List Nat) : List Char :=
  let (place, length) := longestRun 0 pieces
  if 2 ≤ length then
    renderPieces (pieces.take place) ++ ':' :: ':' :: renderPieces (pieces.drop (place + length))
  else renderPieces pieces

end PreviewHub.Ipv6
