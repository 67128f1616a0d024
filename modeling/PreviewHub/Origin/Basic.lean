import PreviewHub.Error
import PreviewHub.Origin.Host

/-! Origins: scheme, host and port of an absolute URL, in one canonical spelling. A `blob:` URL has
the origin of the URL inside it; other schemes without addresses have none. -/

namespace PreviewHub

/-- An origin by its canonical text. -/
structure Origin where
  text : String
  deriving DecidableEq, Repr, Inhabited

namespace Origin

/-- The schemes whose URLs have an origin, with the port that goes unsaid. -/
def addressed : List (List Char × Nat) :=
  [(['h', 't', 't', 'p'], 80), (['h', 't', 't', 'p', 's'], 443), (['w', 's'], 80),
    (['w', 's', 's'], 443), (['f', 't', 'p'], 21)]

def defaultPort? (scheme : List Char) : Option Nat :=
  (addressed.find? fun entry => entry.1 == scheme).map (·.2)

/-- Controls and spaces at the ends do not count. -/
def isPadding (c : Char) : Bool := c.toNat ≤ 32

/-- Tabs and line ends do not count anywhere. -/
def isIgnored (c : Char) : Bool := c = '\t' || c = '\n' || c = '\r'

def clean (cs : List Char) : List Char :=
  (((cs.dropWhile isPadding).reverse.dropWhile isPadding).reverse).filter (!isIgnored ·)

def isSchemeChar (c : Char) : Bool := c.isAlphanum || c = '+' || c = '-' || c = '.'

def cutScheme : List Char → Except OriginFault (List Char × List Char)
  | [] => .error .relative
  | c :: cs =>
    if c.isAlpha then
      match cs.dropWhile isSchemeChar with
      | ':' :: rest => .ok ((c :: cs.takeWhile isSchemeChar).map Char.toLower, rest)
      | _ => .error .relative
    else .error .relative

def endsAuthority (backslash : Bool) (c : Char) : Bool :=
  c = '/' || c = '?' || c = '#' || (backslash && c = '\\')

/-- The host and what follows it, from its colon on. A colon inside brackets belongs to the host. -/
def cutHost : Bool → List Char → List Char × List Char
  | _, [] => ([], [])
  | inside, c :: cs =>
    if c = ':' && !inside then ([], c :: cs)
    else
      let (host, rest) := cutHost (if c = '[' then true else if c = ']' then false else inside) cs
      (c :: host, rest)

def readPort : List Char → Except OriginFault (Option Nat)
  | ':' :: cs =>
    let digits := cs.takeWhile Char.isDigit
    let port := digits.foldl (fun n c => n * 10 + Json.digitValue c) 0
    if 65535 < port then .error .badPort
    else
      match cs.dropWhile Char.isDigit with
      | [] => .ok (if digits.isEmpty then none else some port)
      | '\\' :: _ => .ok (if digits.isEmpty then none else some port)
      | _ => .error .badPort
  | _ => .ok none

def readAddress (authority : List Char) : Except OriginFault (Host × Option Nat) :=
  let place := match Text.cutLast? '@' authority with
    | some (_, place) => place
    | none => authority
  let (host, rest) := cutHost false place
  if host.isEmpty then .error .emptyHost
  else
    match Host.parse host with
    | .error fault => .error fault
    | .ok host =>
      match readPort rest with
      | .error fault => .error fault
      | .ok port => .ok (host, port)

def render (scheme : List Char) (host : Host) (port : Option Nat) : Origin :=
  let suffix := match port with
    | none => []
    | some n => if defaultPort? scheme = some n then [] else ':' :: (toString n).toList
  ⟨String.ofList (scheme ++ [':', '/', '/'] ++ host.render ++ suffix)⟩

/-- Whether anything but an empty name and an empty password stands in front of the host. -/
def namesUser (userinfo : List Char) : Bool := userinfo ≠ [] && userinfo ≠ [':']

def checkAuthority (cs : List Char) : Except OriginFault Unit :=
  let authority := cs.takeWhile (!endsAuthority false ·)
  let beyond := cs.dropWhile (!endsAuthority false ·)
  let (userinfo, place) := match Text.cutLast? '@' authority with
    | some cut => (some cut.1, cut.2)
    | none => (none, authority)
  if userinfo = some [] ∧ place = [] ∧ beyond ≠ [] then .error .emptyHost
  else
    let (host, rest) := cutHost false place
    match Host.parsePlain host with
    | .error fault => .error fault
    | .ok _ =>
      if host = [] ∧ rest ≠ [] then .error .emptyHost
      else
        match readPort rest with
        | .error fault => .error fault
        | .ok _ => if host = [] ∧ namesUser (userinfo.getD []) then .error .emptyHost else .ok ()

def isSlash (c : Char) : Bool := c = '/' || c = '\\'

/-- A letter and a colon or bar name a drive and no host. -/
def isDrive : List Char → Bool
  | [c, d] => c.isAlpha && (d = ':' || d = '|')
  | _ => false

def checkFile : List Char → Except OriginFault Unit
  | a :: b :: cs =>
    if isSlash a && isSlash b then
      let host := cs.takeWhile (!endsAuthority true ·)
      if host.isEmpty || isDrive host then .ok ()
      else
        match Host.parse host with
        | .error fault => .error fault
        | .ok _ => .ok ()
    else .ok ()
  | _ => .ok ()

def checkPlain : List Char → Except OriginFault Unit
  | '/' :: '/' :: cs => checkAuthority cs
  | _ => .ok ()

def blobPath (cs : List Char) : List Char :=
  (cs.takeWhile fun c => c ≠ '?' && c ≠ '#').flatMap fun c =>
    if c.toNat < 32 then ['%', hexDigit (c.toNat / 16), hexDigit (c.toNat % 16)] else [c]

/-- Reads a URL. A `blob:` URL inside another is read with one less fuel. -/
def read : Nat → List Char → Except OriginFault Origin
  | 0, _ => .error .noOrigin
  | fuel + 1, cs =>
    match cutScheme (clean cs) with
    | .error fault => .error fault
    | .ok (scheme, rest) =>
      if (defaultPort? scheme).isSome then
        match readAddress ((rest.dropWhile isSlash).takeWhile (!endsAuthority true ·)) with
        | .error fault => .error fault
        | .ok (host, port) => .ok (render scheme host port)
      else
        match if scheme = ['f', 'i', 'l', 'e'] then checkFile rest else checkPlain rest with
        | .error fault => .error fault
        | .ok () =>
          if scheme = ['b', 'l', 'o', 'b'] then
            match read fuel (blobPath rest) with
            | .ok origin => .ok origin
            | .error _ => .error .noOrigin
          else .error .noOrigin

def parse (url : String) : Except Error Origin :=
  match read (url.toList.length + 1) url.toList with
  | .ok origin => .ok origin
  | .error fault => .error (.invalidOrigin url fault.text)

end Origin

end PreviewHub
