import PreviewHub.Proofs.FanOut
import PreviewHub.Proofs.HostAddresses
import PreviewHub.Proofs.LongLabels

/-! Origins that are read again. Events are held against the text of an origin, so all rests on that
text being canonical: whatever URL an origin was read from, its own text and any page behind it give
the same origin. The one exception is a host with a label whose ASCII form is too long to be read.
-/

namespace PreviewHub

namespace Host

private theorem parse_of_head_ne {cs : List Char} (h : cs.head? ≠ some '[') :
    parse cs = match Domain.toAscii cs with
      | some ascii => ofAscii ascii
      | none => .error .badDomain := by
  unfold parse
  split
  · exact absurd rfl h
  · rfl

private theorem parseBracketed_cases {inner : List Char} {host : Host}
    (h : parseBracketed inner = .ok host) :
    ∃ pieces, host = .ipv6 pieces ∧ Ipv6.IsAddress pieces := by
  unfold parseBracketed at h
  split at h
  · split at h
    · rename_i pieces hpieces
      cases h
      exact ⟨pieces, rfl, Ipv6.isAddress_of_parse? hpieces⟩
    · cases h
  · cases h

private theorem ofAscii_cases {name : List Char} {host : Host} (h : ofAscii name = .ok host) :
    (∃ address < Nat.pow 256 4, host = .ipv4 address) ∨
      (host = .named name ∧ name ≠ [] ∧ Ipv4.isCalledFor name = false) := by
  unfold ofAscii at h
  split at h
  · cases h
  · rename_i hne
    split at h
    · split at h
      · rename_i address haddress
        cases h
        exact Or.inl ⟨address, Ipv4.parse?_lt haddress, rfl⟩
      · cases h
    · rename_i hcalled
      cases h
      exact Or.inr ⟨rfl, by simpa using hne, Bool.eq_false_iff.mpr hcalled⟩

/-- A host is an address, or a name in its ASCII form that is no address. -/
inductive IsCanonical : Host → Prop where
  | ipv6 {pieces : List Nat} (h : Ipv6.IsAddress pieces) : IsCanonical (.ipv6 pieces)
  | ipv4 {address : Nat} (h : address < Nat.pow 256 4) : IsCanonical (.ipv4 address)
  | named {cs name : List Char} (h : Domain.toAscii cs = some name) (hne : name ≠ [])
      (hcalled : Ipv4.isCalledFor name = false) : IsCanonical (.named name)

private theorem isCanonical_of_parse {cs : List Char} {host : Host} (h : parse cs = .ok host) :
    host.IsCanonical := by
  unfold parse at h
  split at h
  · obtain ⟨pieces, rfl, hpieces⟩ := parseBracketed_cases h
    exact .ipv6 hpieces
  · split at h
    · rename_i name hname
      rcases ofAscii_cases h with ⟨address, haddress, rfl⟩ | ⟨rfl, hne, hcalled⟩
      · exact .ipv4 haddress
      · exact .named hname hne hcalled
    · cases h

/-- Whether the text of a host can be read: no label of it is too long. -/
def isReadable (host : Host) : Bool := (Text.split '.' host.render).all Label.isReadable

private theorem head_toDigits_ne (n : Nat) : (Nat.toDigits 10 n).take 4 ≠ Label.asciiMark := by
  intro h
  have hmem : 'x' ∈ (Nat.toDigits 10 n).take 4 := by
    rw [h]
    exact List.mem_cons_self
  have := Nat.isDigit_of_mem_toDigits (by decide) (Nat.le_refl 10) (List.mem_of_mem_take hmem)
  revert this
  decide

private theorem isSettled_ipv4 {address : Nat} {c : Char} (h : c ∈ Ipv4.render address) :
    Domain.isSettled c := by
  have hdigits : ∀ d < 10, Domain.isSettled d.digitChar := by decide
  rcases Ipv4.mem_render h with rfl | ⟨d, hd, rfl⟩
  · decide
  · exact hdigits d hd

private theorem take_four_ipv4 {address : Nat} {part : List Char}
    (h : part ∈ Text.split '.' (Ipv4.render address)) : part.take 4 ≠ Label.asciiMark := by
  rw [Ipv4.split_render] at h
  obtain ⟨n, -, rfl⟩ := List.mem_map.mp h
  exact head_toDigits_ne n

private theorem head_ne_of_isSettled {cs : List Char} (h : ∀ c ∈ cs, Domain.isSettled c) :
    cs.head? ≠ some '[' := by
  intro hhead
  exact Domain.ne_of_isSettled (h '[' (List.mem_of_mem_head? hhead)) (by decide) rfl

private theorem mem_ipv6 {pieces : List Nat} {c : Char} (h : c ∈ (Host.ipv6 pieces).render) :
    c = '[' ∨ c = ']' ∨ c = ':' ∨ ∃ d < 16, c = d.digitChar := by
  simp only [render, List.mem_cons, List.mem_append, List.not_mem_nil, or_false] at h
  rcases h with h | h | h
  · exact Or.inl h
  · exact Or.inr (Or.inr (Ipv6.mem_render h))
  · exact Or.inr (Or.inl h)

private theorem IsCanonical.render_ne_nil {host : Host} (h : host.IsCanonical) :
    host.render ≠ [] := by
  cases h with
  | ipv6 h => exact List.cons_ne_nil _ _
  | @ipv4 address h =>
    intro hnil
    have hcalled := Ipv4.isCalledFor_render address
    rw [show Ipv4.render address = [] from hnil] at hcalled
    cases hcalled
  | named h hne hcalled => exact hne

/-- A host is read from its text, if that is not too long. -/
private theorem IsCanonical.parse_render {host : Host} (h : host.IsCanonical) :
    parse host.render = if host.isReadable then .ok host else .error .badDomain := by
  cases h with
  | @ipv6 pieces h =>
    have hdot : '.' ∉ (Host.ipv6 pieces).render := by
      intro hmem
      have hdigit : ∀ d < 16, '.' ≠ d.digitChar := by decide
      rcases mem_ipv6 hmem with hc | hc | hc | ⟨d, hd, hc⟩
      · cases hc
      · cases hc
      · cases hc
      · exact hdigit d hd hc
    have hreadable : (Host.ipv6 pieces).isReadable := by
      rw [isReadable, Text.split_part hdot, List.all_cons, List.all_nil, Bool.and_true]
      simp [Label.isReadable, render, Label.asciiMark]
    rw [if_pos hreadable]
    show parseBracketed (Ipv6.render pieces ++ [']']) = _
    rw [parseBracketed, List.getLast?_concat, if_pos rfl, List.dropLast_concat,
      Ipv6.parse?_render h]
  | @ipv4 address h =>
    have hreadable : (Host.ipv4 address).isReadable := by
      refine List.all_eq_true.mpr fun part hpart => ?_
      simp [Label.isReadable, take_four_ipv4 hpart]
    have hsettled : ∀ c ∈ Ipv4.render address, Domain.isSettled c := fun c hc => isSettled_ipv4 hc
    have hne : (Ipv4.render address).isEmpty = false :=
      List.isEmpty_eq_false_iff.mpr (IsCanonical.ipv4 h).render_ne_nil
    rw [if_pos hreadable]
    show parse (Ipv4.render address) = _
    rw [parse_of_head_ne (head_ne_of_isSettled hsettled),
      Domain.toAscii_of_isSettled hsettled fun part hpart => take_four_ipv4 hpart]
    simp only [ofAscii, hne, Ipv4.isCalledFor_render, Ipv4.parse?_render h]
    rfl
  | @named cs name h hne hcalled =>
    have hsettled := Domain.isSettled_of_toAscii h
    have hhost : ofAscii name = .ok (.named name) := by
      simp [ofAscii, hne, hcalled]
    show parse name = if (Text.split '.' name).all Label.isReadable then _ else _
    rw [parse_of_head_ne (head_ne_of_isSettled hsettled), Domain.toAscii_toAscii h]
    split
    · rename_i ascii hascii
      obtain ⟨hreadable, hname⟩ := Option.ite_none_right_eq_some.mp hascii
      cases hname
      rw [if_pos hreadable, hhost]
    · rename_i hnone
      rw [if_neg fun hreadable => ?_]
      rw [if_pos hreadable] at hnone
      cases hnone

end Host

namespace Origin

def isInner (c : Char) : Bool := !isPadding c && !endsAuthority true c && c ≠ '@'

private theorem isInner_iff {c : Char} :
    isInner c ↔ isPadding c = false ∧ endsAuthority true c = false ∧ c ≠ '@' := by
  simp [isInner, and_assoc]

private theorem isInner_of_isSettled {c : Char} (h : Domain.isSettled c) : isInner c := by
  have hpad : isPadding c = false := by
    simp only [Domain.isSettled, Domain.isForbidden, Bool.and_eq_true, Bool.not_eq_true',
      Bool.or_eq_false_iff] at h
    exact h.1.2.1.1
  have hne (d : Char) (hd : Domain.isSettled d = false) : c ≠ d := Domain.ne_of_isSettled h hd
  have hslash := hne '/' (by decide)
  have hquestion := hne '?' (by decide)
  have hhash := hne '#' (by decide)
  have hback := hne '\\' (by decide)
  have hat := hne '@' (by decide)
  exact isInner_iff.mpr ⟨hpad, by simp [endsAuthority, hslash, hquestion, hhash, hback], hat⟩

private theorem isInner_render {host : Host} (h : host.IsCanonical) {c : Char}
    (hc : c ∈ host.render) :
    isInner c := by
  cases h with
  | @ipv6 pieces h =>
    have hdigits : ∀ d < 16, isInner d.digitChar := by decide
    rcases Host.mem_ipv6 hc with rfl | rfl | rfl | ⟨d, hd, rfl⟩
    · decide
    · decide
    · decide
    · exact hdigits d hd
  | ipv4 h => exact isInner_of_isSettled (Host.isSettled_ipv4 hc)
  | named h hne hcalled => exact isInner_of_isSettled (Domain.isSettled_of_toAscii h c hc)

/-- A host ends at the first colon, if it has no bracket. -/
private theorem cutHost_outside {cs rest : List Char} (h : ∀ c ∈ cs, c ≠ ':' ∧ c ≠ '[')
    (hrest : rest.head?.all (· = ':')) : cutHost false (cs ++ rest) = (cs, rest) := by
  induction cs with
  | nil =>
    cases rest with
    | nil => rfl
    | cons c rest =>
      rw [of_decide_eq_true hrest]
      rfl
  | cons c cs ih =>
    obtain ⟨⟨hcolon, hbracket⟩, hcs⟩ := List.forall_mem_cons.mp h
    rw [List.cons_append, cutHost, if_neg (by simp [hcolon]), if_neg hbracket, ite_self, ih hcs]

/-- A host with a bracket ends behind the closing one. -/
private theorem cutHost_inside {cs rest : List Char} (h : ∀ c ∈ cs, c ≠ '[' ∧ c ≠ ']')
    (hrest : rest.head?.all (· = ':')) :
    cutHost true (cs ++ ']' :: rest) = (cs ++ [']'], rest) := by
  induction cs with
  | nil =>
    have hout := cutHost_outside (List.forall_mem_nil _) hrest
    rw [List.nil_append] at hout
    simp [cutHost, hout]
  | cons c cs ih =>
    obtain ⟨⟨hopen, hclose⟩, hcs⟩ := List.forall_mem_cons.mp h
    rw [List.cons_append, cutHost, if_neg (by simp), if_neg hopen, if_neg hclose, ih hcs]
    rfl

private theorem cutHost_render {host : Host} (h : host.IsCanonical) {rest : List Char}
    (hrest : rest.head?.all (· = ':')) :
    cutHost false (host.render ++ rest) = (host.render, rest) := by
  have hsettled {cs : List Char} (hcs : ∀ c ∈ cs, Domain.isSettled c) :
      cutHost false (cs ++ rest) = (cs, rest) :=
    cutHost_outside (fun c hc => ⟨Domain.ne_of_isSettled (hcs c hc) (by decide),
      Domain.ne_of_isSettled (hcs c hc) (by decide)⟩) hrest
  cases h with
  | @ipv6 pieces h =>
    have hpieces : ∀ c ∈ Ipv6.render pieces, c ≠ '[' ∧ c ≠ ']' := by
      intro c hc
      have hdigits : ∀ d < 16, d.digitChar ≠ '[' ∧ d.digitChar ≠ ']' := by decide
      rcases Ipv6.mem_render hc with rfl | ⟨d, hd, rfl⟩
      · decide
      · exact hdigits d hd
    have hinside := cutHost_inside hpieces hrest
    rw [Host.render, List.cons_append, List.append_assoc, List.singleton_append, cutHost,
      if_neg (by decide), if_pos rfl, hinside]
  | ipv4 h => exact hsettled fun c hc => Host.isSettled_ipv4 hc
  | named h hne hcalled => exact hsettled (Domain.isSettled_of_toAscii h)

def portText (scheme : List Char) : Option Nat → List Char
  | none => []
  | some n => if defaultPort? scheme = some n then [] else ':' :: (toString n).toList

private theorem toList_render (scheme : List Char) (host : Host) (port : Option Nat) :
    (render scheme host port).text.toList =
      scheme ++ ':' :: '/' :: '/' :: (host.render ++ portText scheme port) := by
  cases port with
  | none => simp [render, portText]
  | some n => simp [render, portText]

private theorem portText_cases (scheme : List Char) (port : Option Nat) :
    portText scheme port = [] ∨ ∃ n ∈ port, portText scheme port = ':' :: Nat.toDigits 10 n := by
  cases port with
  | none => exact Or.inl rfl
  | some n =>
    rw [portText, toList_toString_nat]
    split
    · exact Or.inl rfl
    · exact Or.inr ⟨n, rfl, rfl⟩

private theorem readPort_toDigits {n : Nat} (h : n ≤ 65535) :
    readPort (':' :: Nat.toDigits 10 n) = .ok (some n) := by
  have hdigits : ∀ c ∈ Nat.toDigits 10 n, c.isDigit := fun c hc =>
    Nat.isDigit_of_mem_toDigits (by decide) (Nat.le_refl 10) hc
  have hvalue : (Nat.toDigits 10 n).foldl (fun n c => n * 10 + Json.digitValue c) 0 = n := by
    refine Eq.trans ?_ (Nat.ofDigitChars_ten_toDigits (n := n))
    rw [Nat.ofDigitChars_eq_foldl]
    simp only [Json.digitValue, Nat.mul_comm]
    rfl
  have hne : (Nat.toDigits 10 n).isEmpty = false :=
    List.isEmpty_eq_false_iff.mpr Nat.toDigits_ne_nil
  have htake : (Nat.toDigits 10 n).takeWhile Char.isDigit = Nat.toDigits 10 n :=
    List.takeWhile_eq_self_iff.mpr hdigits
  have hdrop : (Nat.toDigits 10 n).dropWhile Char.isDigit = [] :=
    List.dropWhile_eq_nil_iff.mpr hdigits
  simp only [readPort, htake, hvalue, if_neg (Nat.not_lt.mpr h), hdrop, hne]
  rfl

/-- A port is read as it is written, and written so again. -/
private theorem readPort_portText (scheme : List Char) {port : Option Nat}
    (h : ∀ n ∈ port, n ≤ 65535) :
    ∃ again, readPort (portText scheme port) = .ok again ∧
      portText scheme again = portText scheme port := by
  rcases portText_cases scheme port with hnone | ⟨n, hn, hsome⟩
  · refine ⟨none, ?_, hnone.symm⟩
    rw [hnone]
    rfl
  · refine ⟨port, ?_, rfl⟩
    rw [hsome, readPort_toDigits (h n hn), Option.mem_def.mp hn]

private theorem readPort_le {cs : List Char} {port : Option Nat} (h : readPort cs = .ok port) :
    ∀ n ∈ port, n ≤ 65535 := by
  have hread {digits : List Char} {m : Nat} (hm : ¬ 65535 < m) :
      ∀ n ∈ (if digits.isEmpty then none else some m), n ≤ 65535 := by
    intro n hn
    obtain ⟨-, hn⟩ := Option.ite_none_left_eq_some.mp hn
    cases hn
    exact Nat.le_of_not_lt hm
  unfold readPort at h
  split at h
  · simp only at h
    split at h
    · cases h
    · rename_i hle
      split at h
      · cases h
        exact hread hle
      · cases h
        exact hread hle
      · cases h
  · cases h
    exact fun n hn => absurd hn (Option.not_mem_none n)

def readPlace (place : List Char) : Except OriginFault (Host × Option Nat) :=
  if (cutHost false place).1.isEmpty then .error .emptyHost
  else
    match Host.parse (cutHost false place).1 with
    | .error fault => .error fault
    | .ok host =>
      match readPort (cutHost false place).2 with
      | .error fault => .error fault
      | .ok port => .ok (host, port)

private theorem exists_readPlace (authority : List Char) :
    ∃ place, readAddress authority = readPlace place := by
  unfold readAddress
  cases Text.cutLast? '@' authority with
  | none => exact ⟨authority, rfl⟩
  | some cut => exact ⟨cut.2, rfl⟩

private theorem cutLast?_eq_none {mark : Char} {cs : List Char} (h : mark ∉ cs) :
    Text.cutLast? mark cs = none := by
  induction cs with
  | nil => rfl
  | cons c cs ih =>
    obtain ⟨hc, hcs⟩ := List.ne_and_not_mem_of_not_mem_cons h
    rw [Text.cutLast?, ih hcs]
    exact if_neg hc.symm

private theorem readAddress_eq {authority : List Char} (h : '@' ∉ authority) :
    readAddress authority = readPlace authority := by
  unfold readAddress
  rw [cutLast?_eq_none h]
  rfl

private theorem readPlace_cases {place : List Char} {host : Host} {port : Option Nat}
    (h : readPlace place = .ok (host, port)) :
    host.IsCanonical ∧ ∀ n ∈ port, n ≤ 65535 := by
  unfold readPlace at h
  split at h
  · cases h
  · split at h
    · cases h
    · rename_i hhost
      split at h
      · cases h
      · rename_i hport
        cases h
        exact ⟨Host.isCanonical_of_parse hhost, readPort_le hport⟩

/-- An origin is written from a scheme, a host and a port. -/
private theorem exists_render {fuel : Nat} {cs : List Char} {origin : Origin}
    (h : read fuel cs = .ok origin) :
    ∃ scheme host port, (defaultPort? scheme).isSome ∧ host.IsCanonical ∧
      (∀ n ∈ port, n ≤ 65535) ∧ origin = render scheme host port := by
  induction fuel generalizing cs with
  | zero => cases h
  | succ fuel ih =>
    unfold read at h
    split at h
    · cases h
    · rename_i scheme rest _
      split at h
      · rename_i hscheme
        split at h
        · cases h
        · rename_i host port haddress
          cases h
          obtain ⟨place, hplace⟩ := exists_readPlace _
          obtain ⟨hhost, hport⟩ := readPlace_cases (hplace ▸ haddress)
          exact ⟨scheme, host, port, hscheme, hhost, hport, rfl⟩
      · split at h
        · cases h
        · split at h
          · split at h
            · rename_i hblob
              cases h
              exact ih hblob
            · cases h
          · cases h

private theorem mem_addressed {scheme : List Char} (h : (defaultPort? scheme).isSome) :
    scheme ∈ addressed.map (·.1) := by
  rw [defaultPort?, Option.isSome_map, List.find?_isSome] at h
  obtain ⟨entry, hentry, heq⟩ := h
  exact List.mem_map.mpr ⟨entry, hentry, beq_iff_eq.mp heq⟩

/-- The schemes whose URLs have an origin are read as they are written. -/
private theorem cutScheme_addressed {scheme : List Char} (h : (defaultPort? scheme).isSome)
    (rest : List Char) : cutScheme (scheme ++ ':' :: rest) = .ok (scheme, rest) := by
  have hmem := mem_addressed h
  simp only [addressed, List.map_cons, List.map_nil, List.mem_cons, List.not_mem_nil,
    or_false] at hmem
  rcases hmem with rfl | rfl | rfl | rfl | rfl <;> rfl

private theorem mem_scheme {scheme : List Char} (h : (defaultPort? scheme).isSome) {c : Char}
    (hc : c ∈ scheme) : isPadding c = false ∧ c ≠ '/' := by
  have hall : (addressed.map (·.1)).all fun scheme => scheme.all fun c =>
      !isPadding c && c ≠ '/' := by decide
  have := List.all_eq_true.mp (List.all_eq_true.mp hall scheme (mem_addressed h)) c hc
  simpa using this

private theorem dropWhile_append_kept (cs : List Char) {kept : List Char}
    (h : ∀ c ∈ kept, isPadding c = false) :
    (cs ++ kept).dropWhile isPadding = cs.dropWhile isPadding ++ kept := by
  induction cs with
  | nil =>
    cases kept with
    | nil => rfl
    | cons c kept => exact List.dropWhile_cons_of_neg (by simp [h c List.mem_cons_self])
  | cons c cs ih =>
    cases hc : isPadding c with
    | true => simp [hc, ih]
    | false => simp [hc]

private theorem filter_kept {cs : List Char} (h : ∀ c ∈ cs, isPadding c = false) :
    cs.filter (!isIgnored ·) = cs := by
  refine List.filter_eq_self.mpr fun c hc => ?_
  have hcode : 32 < c.toNat := by simpa [isPadding] using h c hc
  have hne (d : Char) (hd : d.toNat ≤ 32) : c ≠ d := by
    rintro rfl
    exact Nat.not_lt.mpr hd hcode
  simp [isIgnored, hne '\t' (by decide), hne '\n' (by decide), hne '\r' (by decide)]

/-- Cleaning keeps a front without padding, and how the rest begins unless it is padding. -/
private theorem clean_append {front : List Char} (hne : front ≠ [])
    (h : ∀ c ∈ front, isPadding c = false)
    {page : List Char} (hpage : page.head?.all (isPadding · = false)) :
    ∃ kept, clean (front ++ page) = front ++ kept ∧ kept.head? = page.head? := by
  refine ⟨((page.reverse.dropWhile isPadding).reverse).filter (!isIgnored ·), ?_, ?_⟩
  · have hfront : (front ++ page).dropWhile isPadding = front ++ page := by
      obtain ⟨c, cs, rfl⟩ := List.exists_cons_of_ne_nil hne
      exact List.dropWhile_cons_of_neg (by simp [h c List.mem_cons_self])
    have hreverse : ∀ c ∈ front.reverse, isPadding c = false := by simpa using h
    rw [clean, hfront, List.reverse_append, dropWhile_append_kept _ hreverse, List.reverse_append,
      List.reverse_reverse, List.filter_append, filter_kept h]
  · cases page with
    | nil => rfl
    | cons c page =>
      have hc : ∀ d ∈ [c], isPadding d = false := by simpa using hpage
      rw [List.reverse_cons, dropWhile_append_kept _ hc, List.reverse_append, List.filter_append,
        List.reverse_singleton, filter_kept hc]
      rfl

/-- The authority lies between the slashes and the page. -/
private theorem takeWhile_authority {inner page : List Char} (hne : inner ≠ [])
    (hinner : ∀ c ∈ inner, isInner c) (hpage : page.head?.all (endsAuthority true)) :
    (('/' :: '/' :: (inner ++ page)).dropWhile isSlash).takeWhile (!endsAuthority true ·) =
      inner := by
  have hends : ∀ c ∈ inner, endsAuthority true c = false := fun c hc =>
    (isInner_iff.mp (hinner c hc)).2.1
  have hdrop : ('/' :: '/' :: (inner ++ page)).dropWhile isSlash = inner ++ page := by
    obtain ⟨c, cs, rfl⟩ := List.exists_cons_of_ne_nil hne
    have hc : isSlash c = false := by
      have hc := hends c List.mem_cons_self
      simp only [endsAuthority, Bool.true_and, Bool.or_eq_false_iff] at hc
      simp only [isSlash, hc, Bool.or_self]
    rw [List.dropWhile_cons_of_pos rfl, List.dropWhile_cons_of_pos rfl, List.cons_append,
      List.dropWhile_cons_of_neg (by simp [hc])]
  have hstop : page.takeWhile (!endsAuthority true ·) = [] := by
    cases page with
    | nil => rfl
    | cons c page =>
      have hc : endsAuthority true c := hpage
      exact List.takeWhile_cons_of_neg (by simp [hc])
  rw [hdrop, List.takeWhile_append_of_pos (by simpa using hends), hstop, List.append_nil]

def isPage (page : List Char) : Bool := page.head?.all fun c => c = '/' || c = '?' || c = '#'

private theorem head_of_isPage {page : List Char} (h : isPage page) :
    page.head?.all (isPadding · = false) ∧ page.head?.all (endsAuthority true) := by
  cases page with
  | nil => exact ⟨rfl, rfl⟩
  | cons c page =>
    simp only [isPage, List.head?_cons, Option.all_some, Bool.or_eq_true, decide_eq_true_eq] at h ⊢
    rcases h with (rfl | rfl) | rfl <;> decide

/-- Behind the slashes of a URL with addresses stand host and port, and then the page. -/
private theorem read_inner {scheme inner page : List Char} (hscheme : (defaultPort? scheme).isSome)
    (hne : inner ≠ []) (hinner : ∀ c ∈ inner, isInner c) (hpage : isPage page) (fuel : Nat) :
    read (fuel + 1) (scheme ++ ':' :: '/' :: '/' :: (inner ++ page)) =
      match readPlace inner with
      | .error fault => .error fault
      | .ok (host, port) => .ok (render scheme host port) := by
  obtain ⟨hpadding, hends⟩ := head_of_isPage hpage
  have hfront : ∀ c ∈ scheme ++ ':' :: '/' :: '/' :: inner, isPadding c = false := by
    refine List.forall_mem_append.mpr ⟨fun c hc => (mem_scheme hscheme hc).1, ?_⟩
    simp only [List.forall_mem_cons]
    exact ⟨by decide, by decide, by decide, fun c hc => (isInner_iff.mp (hinner c hc)).1⟩
  obtain ⟨kept, hclean, hkept⟩ := clean_append (by simp) hfront hpadding
  rw [List.append_assoc, List.append_assoc] at hclean
  simp only [List.cons_append] at hclean
  rw [← hkept] at hends
  have hat : '@' ∉ inner := fun hmem => (isInner_iff.mp (hinner '@' hmem)).2.2 rfl
  rw [read, hclean, cutScheme_addressed hscheme]
  simp only [hscheme, takeWhile_authority hne hinner hends, readAddress_eq hat]
  rfl

section
variable (scheme : List Char) {host : Host} (port : Option Nat)

private theorem isInner_portText : ∀ c ∈ portText scheme port, isInner c := by
  intro c hc
  have hdigits : ∀ d < 10, isInner d.digitChar := by decide
  rcases portText_cases scheme port with hnone | ⟨n, -, hsome⟩
  · rw [hnone] at hc
    cases hc
  · rw [hsome] at hc
    rcases List.mem_cons.mp hc with rfl | hc
    · decide
    · obtain ⟨d, hd, rfl⟩ := exists_digitChar (by decide) hc
      exact hdigits d hd

private theorem head_portText : (portText scheme port).head?.all (· = ':') := by
  rcases portText_cases scheme port with hnone | ⟨n, -, hsome⟩
  · rw [hnone]
    rfl
  · rw [hsome]
    rfl

/-- Host and port are read as they are written. -/
private theorem readPlace_render {port : Option Nat} (hhost : host.IsCanonical)
    (hport : ∀ n ∈ port, n ≤ 65535) :
    ∃ again, portText scheme again = portText scheme port ∧
      readPlace (host.render ++ portText scheme port) =
        if host.isReadable then .ok (host, again) else .error .badDomain := by
  obtain ⟨again, hread, htext⟩ := readPort_portText scheme hport
  refine ⟨again, htext, ?_⟩
  have hne : host.render.isEmpty = false := List.isEmpty_eq_false_iff.mpr hhost.render_ne_nil
  simp only [readPlace, cutHost_render hhost (head_portText scheme port), hne, hhost.parse_render]
  cases host.isReadable with
  | true => simp [hread]
  | false => rfl

/-- An origin is read from its text with any page behind it, if no label is too long. -/
private theorem read_render {scheme : List Char} {port : Option Nat}
    (hscheme : (defaultPort? scheme).isSome) (hhost : host.IsCanonical)
    (hport : ∀ n ∈ port, n ≤ 65535) {page : List Char} (hpage : isPage page) (fuel : Nat) :
    read (fuel + 1) ((render scheme host port).text.toList ++ page) =
      if host.isReadable then .ok (render scheme host port) else .error .badDomain := by
  have hinner : ∀ c ∈ host.render ++ portText scheme port, isInner c :=
    List.forall_mem_append.mpr
      ⟨fun c hc => isInner_render hhost hc, isInner_portText scheme port⟩
  have hne : host.render ++ portText scheme port ≠ [] :=
    List.append_ne_nil_of_left_ne_nil hhost.render_ne_nil _
  obtain ⟨again, hagain, hplace⟩ := readPlace_render scheme hhost hport
  have hsame : render scheme host again = render scheme host port := by
    have htext : (render scheme host again).text = (render scheme host port).text := by
      rw [← String.toList_inj, toList_render, toList_render, hagain]
    exact congrArg Origin.mk htext
  rw [toList_render, List.append_assoc, List.cons_append, List.cons_append, List.cons_append,
    read_inner hscheme hne hinner hpage, hplace]
  cases host.isReadable with
  | true => simp [hsame]
  | false => rfl

end

def host (origin : Origin) : List Char :=
  (cutHost false ((origin.text.toList.dropWhile (· ≠ '/')).drop 2)).1

/-- Whether an origin can be read: no label of its host is an ASCII form beyond the length that is
read. -/
def isReadable (origin : Origin) : Bool := (Text.split '.' origin.host).all Label.isReadable

private theorem host_render {scheme : List Char} {host : Host}
    (hscheme : (defaultPort? scheme).isSome)
    (hhost : host.IsCanonical) (port : Option Nat) :
    (render scheme host port).host = host.render := by
  have hletters : ∀ c ∈ scheme ++ [':'], decide (c ≠ '/') := by
    refine List.forall_mem_append.mpr ⟨fun c hc => ?_, List.forall_mem_singleton.mpr (by decide)⟩
    exact decide_eq_true (mem_scheme hscheme hc).2
  have hdrop : ((render scheme host port).text.toList.dropWhile (· ≠ '/')).drop 2 =
      host.render ++ portText scheme port := by
    rw [toList_render, ← List.singleton_append, ← List.append_assoc,
      List.dropWhile_append_of_pos hletters]
    rfl
  rw [Origin.host, hdrop, cutHost_render hhost (head_portText scheme port)]

/-- An origin that was read is read from its text with any page behind it, if no label of its host
is too long. -/
theorem parse_page {url : String} {origin : Origin} (h : parse url = .ok origin) (page : String)
    (hpage : isPage page.toList) :
    parse (origin.text ++ page) =
      if origin.isReadable then .ok origin
      else .error (.invalidOrigin (origin.text ++ page) OriginFault.badDomain.text) := by
  have hread : read (url.toList.length + 1) url.toList = .ok origin := by
    unfold parse at h
    split at h
    · rename_i hread
      cases h
      exact hread
    · cases h
  obtain ⟨scheme, host, port, hscheme, hhost, hport, rfl⟩ := exists_render hread
  have hreadable : (render scheme host port).isReadable = host.isReadable := by
    rw [isReadable, host_render hscheme hhost, Host.isReadable]
  rw [parse, String.toList_append, read_render hscheme hhost hport hpage, hreadable]
  cases host.isReadable with
  | true => rfl
  | false => rfl

private theorem isInner_ideograph {c : Char} (h : isIdeographCode c.toNat) : isInner c := by
  have hne (d : Char) (hd : isIdeographCode d.toNat = false) : c ≠ d := ne_of_isIdeographCode h hd
  refine isInner_iff.mpr ⟨?_, ?_, hne '@' (by decide)⟩
  · have hcode := isIdeographCode_iff.mp h
    exact decide_eq_false (by omega)
  · simp [endsAuthority, hne '/' (by decide), hne '?' (by decide), hne '#' (by decide),
      hne '\\' (by decide)]

end Origin

section
variable {label : List Char} (h : ∀ c ∈ label, isIdeographCode c.toNat) (hne : label ≠ [])
  (hlength : label.length ≤ Label.maxLength)
include h hne hlength

private theorem isSettled_ideographs : ∀ c ∈ Label.toAscii label, Domain.isSettled c ∧ c ≠ '.' :=
  Label.isSettled_toAscii (Label.isPlain_ideographs h) (Label.read_ideographs h hne hlength)
    fun c hc => ⟨Domain.isForbidden_ideograph (h c hc), ne_of_isIdeographCode (h c hc) (by decide)⟩

private theorem split_ideographs : Text.split '.' (Label.toAscii label) = [Label.toAscii label] :=
  Text.split_part fun hmem => (isSettled_ideographs h hne hlength '.' hmem).2 rfl

private theorem Host.parse_ideographs : Host.parse label = .ok (.named (Label.toAscii label)) := by
  have hhead : label.head? ≠ some '[' := fun hhead =>
    ne_of_isIdeographCode (h '[' (List.mem_of_mem_head? hhead)) (by decide) rfl
  have hsplit := split_ideographs h hne hlength
  rw [Host.parse_of_head_ne hhead, Domain.toAscii_ideographs h hne hlength]
  rw [Label.toAscii_ideographs h hne] at hsplit ⊢
  have hcalled : Ipv4.isCalledFor (Label.asciiMark ++ Punycode.encode label) = false := by
    simp only [Ipv4.isCalledFor, hsplit]
    rfl
  simp only [Host.ofAscii, hcalled]
  rfl

/-- A host name of ideographs is taken, however long its form is. -/
theorem Origin.parse_ideographs :
    Origin.parse ("https://" ++ String.ofList label) =
      .ok (Origin.render ['h', 't', 't', 'p', 's'] (.named (Label.toAscii label)) none) := by
  have hcut : cutHost false (label ++ []) = (label, []) :=
    cutHost_outside (fun c hc => ⟨ne_of_isIdeographCode (h c hc) (by decide),
      ne_of_isIdeographCode (h c hc) (by decide)⟩) rfl
  rw [List.append_nil] at hcut
  have hplace : readPlace label = .ok (.named (Label.toAscii label), none) := by
    simp only [readPlace, hcut, List.isEmpty_eq_false_iff.mpr hne,
      Host.parse_ideographs h hne hlength]
    rfl
  have htext : ("https://" ++ String.ofList label).toList =
      ['h', 't', 't', 'p', 's'] ++ ':' :: '/' :: '/' :: (label ++ []) := by
    rw [String.toList_append, List.append_nil]
    exact congrArg ("https://".toList ++ ·) String.toList_ofList
  rw [parse, htext, read_inner rfl hne (fun c hc => isInner_ideograph (h c hc)) rfl, hplace]

/-- But what it is read as is not read again, if the ideographs are many and lie far apart. -/
theorem Origin.isReadable_ideographs (hmany : 714 ≤ label.length)
    (hfar : (label.map Char.toNat).Pairwise (· + 20 ≤ ·)) :
    (Origin.render ['h', 't', 't', 'p', 's'] (.named (Label.toAscii label)) none).isReadable =
      false := by
  have hcanonical : (Host.named (Label.toAscii label)).IsCanonical :=
    Host.isCanonical_of_parse (Host.parse_ideographs h hne hlength)
  have hform : Label.maxFormLength < (Punycode.encode label).length := by
    have hlong := Punycode.length_encode_ge (fun c hc => ?_) hfar
    · show 2000 < _
      omega
    · have hcode := isIdeographCode_iff.mp (h c hc)
      omega
  have htake : (Label.asciiMark ++ Punycode.encode label).take 4 = Label.asciiMark := rfl
  have hdrop : (Label.asciiMark ++ Punycode.encode label).drop 4 = Punycode.encode label := rfl
  rw [isReadable, host_render rfl hcanonical, Host.render, split_ideographs h hne hlength,
    List.all_cons, List.all_nil, Bool.and_true, Label.toAscii_ideographs h hne, Label.isReadable,
    htake, hdrop, decide_eq_false (Nat.not_le.mpr hform)]
  simp

end

private theorem Hub.start_congr {url other : String} (h : Origin.parse url = Origin.parse other)
    (hub : Hub)
    (runtime : Bool) : hub.start url runtime = hub.start other runtime := by
  rw [Hub.start, h]
  rfl

namespace Machine

private theorem directed_start {m : Machine} {url : String} {origin : Origin}
    (h : Origin.parse url = .ok origin) (hopen : m.isOpen) (hs : m.hub.started = false)
    (hl : m.hub.listening = false) : Directed origin (m.step (.call (.start url true))).1 := by
  have hstart : m.hub.begin (.start url true) =
      ⟨{ m.hub with channel := ⟨some origin⟩, listening := true, started := true },
        [.emit .stateChanged, .answer .done], [.remark (.started origin.text)]⟩ := by
    simp [Hub.begin, Hub.start, hs, h, hl]
  rw [(Works.call (.start url true) hopen).step_eq, hstart]
  exact ⟨rfl, rfl⟩

private theorem directed_after {m : Machine} {origin : Origin} (hm : Directed origin m)
    (turns : List Turn) : Directed origin (m.after turns) := by
  induction turns generalizing m with
  | nil => exact hm
  | cons turn turns ih => exact ih (directed_turn hm turn)

private theorem Directed.accepts_iff {m : Machine} {origin : Origin} (hm : Directed origin m)
    (event : Inbound) : m.hub.channel.accepts event ↔ event.origin = origin.text := by
  rw [Channel.accepts, hm.origin]
  exact decide_eq_true_iff.trans eq_comm

/-- Whatever URL an origin was read from, its text is read as that origin, with any page behind it
or none, unless a label of its host has an ASCII form beyond the length that is read. Then and only
then it is refused. A hub that is started with the text does all that it does when started with the
URL, and from then on it takes the events that carry the text and no others. -/
theorem canonical_origins_stay {url : String} {origin : Origin}
    (h : Origin.parse url = .ok origin) (page : String) (hpage : Origin.isPage page.toList) :
    (Origin.parse (origin.text ++ page) =
      if origin.isReadable then .ok origin
      else .error (.invalidOrigin (origin.text ++ page) "invalid international domain name")) ∧
    (origin.isReadable → ∀ (m : Machine) (runtime : Bool),
      m.step (.call (.start (origin.text ++ page) runtime)) =
        m.step (.call (.start url runtime))) ∧
    ∀ (m : Machine) (turns : List Turn) (event : Inbound), m.isOpen → m.hub.started = false →
      m.hub.listening = false →
      (((m.step (.call (.start url true))).1.after turns).hub.channel.accepts event ↔
        event.origin = origin.text) := by
  refine ⟨Origin.parse_page h page hpage, fun hreadable m runtime => ?_, ?_⟩
  · have hsame : Origin.parse (origin.text ++ page) = Origin.parse url := by
      rw [Origin.parse_page h page hpage, if_pos hreadable, h]
    rw [step, step, Hub.begin, Hub.begin, Hub.start_congr hsame]
  · intro m turns event hopen hs hl
    exact (directed_after (directed_start h hopen hs hl) turns).accepts_iff event

theorem canonical_origins_stay_blob :
    let url := "blob:HTTPS://me@BU\u0308CHER。Ｅxample:443/x"
    let origin : Origin := ⟨"https://xn--bcher-kva.example"⟩
    let m : Machine := ⟨Hub.new {} (.external false), []⟩
    Origin.parse url = .ok origin ∧
      Origin.parse "https://xn--bcher-kva.example?a#b" = .ok origin ∧
      m.step (.call (.start "https://xn--bcher-kva.example?a#b" true)) =
        m.step (.call (.start url true)) ∧
      ((m.step (.call (.start url true))).1.after [.move .proceed, .breakOff]).hub.channel.accepts
        ⟨"https://xn--bcher-kva.example", none, ""⟩ ∧
      ¬ ((m.step (.call (.start url true))).1.after [.move .proceed, .breakOff]).hub.channel.accepts
        ⟨"https://bücher.example", none, ""⟩ := by
  intro url origin m
  have hparse : Origin.parse url = .ok origin := by decide +kernel
  have hreadable : origin.isReadable := by decide +kernel
  obtain ⟨hagain, hstart, haccepts⟩ :=
    canonical_origins_stay hparse "?a#b" (by decide +kernel)
  rw [if_pos hreadable] at hagain
  have haccepts := fun event => haccepts m [.move .proceed, .breakOff] event rfl rfl rfl
  refine ⟨hparse, hagain, hstart hreadable m true, (haccepts _).mpr rfl, fun hother => ?_⟩
  have hne : "https://bücher.example" ≠ origin.text := by decide
  exact hne ((haccepts _).mp hother)

/-- The origin of a host name of eight hundred ideographs is not read again. -/
theorem long_origin_refused :
    ∃ origin, Origin.parse ("https://" ++ String.ofList Label.sparse) = .ok origin ∧
      Origin.parse origin.text =
        .error (.invalidOrigin origin.text "invalid international domain name") := by
  have hmany : 714 ≤ Label.sparse.length := by
    rw [Label.length_sparse]
    decide
  have hne : Label.sparse ≠ [] := List.ne_nil_of_length_pos (Nat.lt_of_lt_of_le (by decide) hmany)
  have hlength : Label.sparse.length ≤ Label.maxLength := by
    rw [Label.length_sparse]
    decide
  have hparse := Origin.parse_ideographs (fun c hc => Label.mem_sparse hc) hne hlength
  have hlong := Origin.isReadable_ideographs (fun c hc => Label.mem_sparse hc) hne hlength hmany
    Label.pairwise_sparse
  have hagain := Origin.parse_page hparse "" rfl
  rw [hlong, String.append_empty] at hagain
  exact ⟨_, hparse, hagain⟩

end Machine

end PreviewHub
