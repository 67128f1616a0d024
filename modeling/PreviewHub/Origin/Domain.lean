import PreviewHub.Json.Reader
import PreviewHub.Origin.Label.Basic
import PreviewHub.Origin.Label.Direction
import PreviewHub.Text.Split

/-! Host names in ASCII: escapes are undone, each character gives way to what it stands for, text is
composed, and a label with characters beyond ASCII is replaced by its ASCII form. -/

namespace PreviewHub.Domain

def escapedByte? : List Char → Option UInt8
  | a :: b :: _ =>
    match Json.hexValue? a, Json.hexValue? b with
    | some x, some y => some (UInt8.ofNat (16 * x + y))
    | _, _ => none
  | _ => none

/-- The bytes of a text in which `%` and two hexadecimal digits stand for a byte, but for the first
`skipped` characters. -/
def unescapedBytes : Nat → List Char → List UInt8
  | _, [] => []
  | skipped + 1, _ :: cs => unescapedBytes skipped cs
  | 0, c :: cs =>
    if c = '%' then
      match escapedByte? cs with
      | some byte => byte :: unescapedBytes 2 cs
      | none => 37 :: unescapedBytes 0 cs
    else String.utf8EncodeChar c ++ unescapedBytes 0 cs

def unescape (cs : List Char) : Option (List Char) :=
  if cs.contains '%' then (String.fromUTF8? ⟨(unescapedBytes 0 cs).toArray⟩).map String.toList
  else some cs

def isForbidden (c : Char) : Bool :=
  c.toNat ≤ 32 || c.toNat = 127 ||
    ['#', '%', '/', ':', '<', '>', '?', '@', '[', '\\', ']', '^', '|'].contains c

/-- The labels of a host name in plain text. Some characters stand for the dot between labels. -/
def plainLabels? (host : List Char) : Option (List (List Char)) :=
  match (unescape host).bind (·.mapM Label.mapped?) with
  | none => none
  | some texts => some ((Text.split '.' texts.flatten).map Label.compose)

/-- The ASCII form of a host name, whose labels have to go together. -/
def toAscii (host : List Char) : Option (List Char) :=
  match plainLabels? host with
  | none => none
  | some labels =>
    if labels.any (·.any isForbidden) then none
    else
      match labels.mapM Label.read with
      | none => none
      | some labels =>
        if Label.directionsAgree labels then some (Text.join '.' (labels.map Label.toAscii))
        else none

end PreviewHub.Domain
