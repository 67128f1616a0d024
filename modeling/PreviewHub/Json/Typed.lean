import PreviewHub.Json.Reader
import PreviewHub.Text.Quoted

/-! Reading a text that must hold one kind of value. What is found instead is named in the fault,
which stands behind a scalar and in front of an array or an object. -/

namespace PreviewHub.Json

def describe : Json → String
  | .null => "null"
  | .bool b => "boolean `" ++ toString b ++ "`"
  | .num (.int i) => "integer `" ++ toString i ++ "`"
  | .num (.real x) => "floating point `" ++ String.ofList (realFormat.write x) ++ "`"
  | .str s => "string " ++ Text.quoted s
  | .arr _ => "sequence"
  | .obj _ => "map"

/-- Reads a scalar and asks `accept` whether it is of the kind wanted. -/
def readScalar {α : Type} (wanted : String) (accept : Json → Except Reason α) (cs : List Char) :
    Reading α :=
  match skipBlanks cs with
  | '[' :: rest => .error (.here (.wrongType "sequence" wanted) ('[' :: rest))
  | '{' :: rest => .error (.here (.wrongType "map" wanted) ('{' :: rest))
  | cs =>
    (readValue (fuelFor cs) depthLimit cs).andThen fun x rest =>
      match accept x with
      | .ok a => .ok (a, rest)
      | .error reason => .error (.here reason rest)

def readObject (cs : List Char) : Reading Fields :=
  match skipBlanks cs with
  | '{' :: rest =>
    (readValue (fuelFor cs) depthLimit ('{' :: rest)).andThen fun x rest =>
      match x with
      | .obj fields => .ok (fields, rest)
      | x => .error (.here (.wrongType x.describe "a map") rest)
  | cs => readScalar "a map" (fun x => .error (.wrongType x.describe "a map")) cs

def acceptString : Json → Except Reason String
  | .str s => .ok s
  | x => .error (.wrongType x.describe "a string")

def acceptNatural : Json → Except Reason Nat
  | .num (.int i) =>
    if 0 ≤ i then .ok i.toNat else .error (.wrongValue (describe (.num (.int i))) "u64")
  | x => .error (.wrongType x.describe "u64")

def parseObject (text : String) : Except SyntaxError Fields := readAll readObject text

def parseString (text : String) : Except SyntaxError String :=
  readAll (readScalar "a string" acceptString) text

def parseNatural (text : String) : Except SyntaxError Nat :=
  readAll (readScalar "u64" acceptNatural) text

end PreviewHub.Json
