import PreviewHub.Origin.Label.Allowed
import PreviewHub.Origin.Label.Composition
import PreviewHub.Origin.Label.Joining
import PreviewHub.Origin.Label.Mapping
import PreviewHub.Origin.Punycode

/-! Labels: the parts of a host name between its dots. A label with characters beyond ASCII has an
ASCII form, which bears the mark `xn--`. -/

namespace PreviewHub.Label

def maxLength : Nat := 1000

/-- The longest ASCII form that is read, without its mark. -/
def maxFormLength : Nat := 2000

/-- Whether nothing in a text stands for anything else. -/
def isPlain (text : List Char) : Bool := text.all isAllowed && compose text == text

def isAdmissible (name : List Char) : Bool :=
  !((name.head?.map isMark).getD false) && joinersFit [] name && name.length ≤ maxLength

def asciiMark : List Char := ['x', 'n', '-', '-']

/-- The label that an ASCII form stands for, if it is the one form of a label beyond ASCII. -/
def ofForm (form : List Char) : Option (List Char) :=
  if form.length ≤ maxFormLength then
    match Punycode.decode form with
    | some name =>
      if name.any (!isAscii ·) && isPlain name && isAdmissible name &&
          Punycode.encode name == form then some name
      else none
    | none => none
  else none

def read (written : List Char) : Option (List Char) :=
  if written.take 4 = asciiMark then ofForm (written.drop 4)
  else if written.all isAscii || isAdmissible written then some written
  else none

def toAscii (name : List Char) : List Char :=
  if name.all isAscii then name else asciiMark ++ Punycode.encode name

end PreviewHub.Label
