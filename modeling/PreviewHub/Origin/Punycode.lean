/-! Labels of a host name with characters beyond ASCII, written in ASCII letters and digits. The
characters are inserted in ascending order; each insertion is a distance, written to base 36 with
thresholds that adapt to the distances so far. -/

namespace PreviewHub.Punycode

def digit (d : Nat) : Char := Char.ofNat (if d < 26 then 97 + d else 22 + d)

def digitValue? (c : Char) : Option Nat :=
  if 'a' ≤ c ∧ c ≤ 'z' then some (c.toNat - 97)
  else if 'A' ≤ c ∧ c ≤ 'Z' then some (c.toNat - 65)
  else if '0' ≤ c ∧ c ≤ '9' then some (c.toNat - 22)
  else none

/-- The threshold of the digit at position `k`, a multiple of 36. -/
def threshold (bias k : Nat) : Nat := max 1 (min 26 (k - bias))

theorem threshold_pos (bias k : Nat) : 0 < threshold bias k := by
  unfold threshold
  omega

theorem threshold_le (bias k : Nat) : threshold bias k ≤ 26 := by
  unfold threshold
  omega

def settleBias (distance k : Nat) : Nat :=
  if 455 < distance then settleBias (distance / 35) (k + 36)
  else k + 36 * distance / (distance + 38)
termination_by distance
decreasing_by omega

def adapt (distance count : Nat) (first : Bool) : Nat :=
  let scaled := if first then distance / 700 else distance / 2
  settleBias (scaled + scaled / count) 0

def writeDistance (bias k distance : Nat) : List Char :=
  let t := threshold bias k
  if distance < t then [digit distance]
  else
    digit (t + (distance - t) % (36 - t)) ::
      writeDistance bias (k + 36) ((distance - t) / (36 - t))
termination_by distance
decreasing_by
  have positive := threshold_pos bias k
  exact Nat.lt_of_le_of_lt (Nat.div_le_self _ _) (by omega)

/-- Where writing stands: the digits so far, the distance since the last insertion, the bias and the
number of characters in place. -/
structure Writing where
  digits : List Char := []
  distance : Nat := 0
  bias : Nat := 72
  count : Nat

def Writing.pass (basic n : Nat) (w : Writing) (c : Char) : Writing :=
  if c.toNat < n then { w with distance := w.distance + 1 }
  else if c.toNat = n then
    { digits := w.digits ++ writeDistance w.bias 36 w.distance
      distance := 0
      bias := adapt w.distance (w.count + 1) (w.count == basic)
      count := w.count + 1 }
  else w

/-- Inserts the characters of each code in turn, `lowest` being the first that is still open. -/
def Writing.insert (label : List Char) (basic : Nat) : List Nat → Nat → Writing → Writing
  | [], _, w => w
  | n :: codes, lowest, w =>
    let w := { w with distance := w.distance + (n - lowest) * (w.count + 1) }
    let w := label.foldl (Writing.pass basic n) w
    insert label basic codes (n + 1) { w with distance := w.distance + 1 }

def insertAscending (n : Nat) : List Nat → List Nat
  | [] => [n]
  | m :: ms => if n < m then n :: m :: ms else if n = m then m :: ms else m :: insertAscending n ms

def extendedCodes (label : List Char) : List Nat :=
  label.foldr (fun c codes => if c.toNat < 128 then codes else insertAscending c.toNat codes) []

/-- The ASCII form of a label, without a mark that it is one. -/
def encode (label : List Char) : List Char :=
  let basic := label.filter (·.toNat < 128)
  let w := Writing.insert label basic.length (extendedCodes label) 128 { count := basic.length }
  if basic.isEmpty then w.digits else basic ++ '-' :: w.digits

def readDistance (bias : Nat) : Nat → Nat → Nat → List Char → Option (Nat × List Char)
  | _, _, _, [] => none
  | k, weight, i, c :: cs =>
    match digitValue? c with
    | none => none
    | some d =>
      let t := threshold bias k
      if d < t then some (i + d * weight, cs)
      else readDistance bias (k + 36) (weight * (36 - t)) (i + d * weight) cs

/-- Reads the insertions. Every one takes a digit, so fuel beyond their number changes nothing. -/
def readInsertions : Nat → List Char → Nat → Nat → Nat → List Char → Option (List Char)
  | _, label, _, _, _, [] => some label
  | 0, _, _, _, _, _ :: _ => none
  | fuel + 1, label, n, i, bias, c :: cs =>
    match readDistance bias 36 1 i (c :: cs) with
    | none => none
    | some (j, rest) =>
      let count := label.length + 1
      let n := n + j / count
      let place := j % count
      if n.isValidChar then
        readInsertions fuel (label.take place ++ Char.ofNat n :: label.drop place) n (place + 1)
          (adapt (j - i) count (i == 0)) rest
      else none

def cutBasic (cs : List Char) : List Char × List Char :=
  let digits := (cs.reverse.takeWhile (· ≠ '-')).reverse
  ((cs.take (cs.length - digits.length)).dropLast, digits)

def decode (cs : List Char) : Option (List Char) :=
  let (basic, digits) := cutBasic cs
  if basic.all (·.toNat < 128) then readInsertions digits.length basic 128 0 72 digits else none

end PreviewHub.Punycode
