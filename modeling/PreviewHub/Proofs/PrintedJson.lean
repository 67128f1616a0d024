import PreviewHub.Json.Order
import PreviewHub.Json.Reader

/-! Printed text is read back. Each reader takes what the printer wrote and leaves what follows it,
provided that what follows cannot be taken for a part of it; only numbers could be taken too far. -/

namespace PreviewHub.Json

mutual

def Integral : Json → Prop
  | .num (.int i) => -(Nat.pow 2 63) ≤ i ∧ i < Nat.pow 2 64
  | .num (.real _) => False
  | .arr items => IntegralItems items
  | .obj fields => IntegralFields fields
  | _ => True

def IntegralItems : List Json → Prop
  | [] => True
  | x :: xs => Integral x ∧ IntegralItems xs

def IntegralFields : List (String × Json) → Prop
  | [] => True
  | (_, x) :: xs => Integral x ∧ IntegralFields xs

end

/-- What may stand behind a value: the end of the text, or what parts or closes arrays and
objects. -/
def Closes (rest : List Char) : Prop := ∀ c ∈ rest.head?, c = ',' ∨ c = ']' ∨ c = '}'

/-! Strings -/

private theorem hexValue?_hexDigit : ∀ n < 16, hexValue? (hexDigit n) = some n := by decide

private theorem unicodeEscape_control {c : Char} (hc : c.toNat < 32) (rest : List Char) :
    unicodeEscape ('0' :: '0' :: hexDigit (c.toNat / 16) :: hexDigit (c.toNat % 16) :: rest) =
      .ok (c, rest) := by
  have hhigh := hexValue?_hexDigit (c.toNat / 16) (by omega)
  have hlow := hexValue?_hexDigit (c.toNat % 16) (by omega)
  have hzero : hexValue? '0' = some 0 := by decide
  have hvalue : ((0 * 16 + 0) * 16 + c.toNat / 16) * 16 + c.toNat % 16 = c.toNat := by omega
  have hfour : hexFour
      ('0' :: '0' :: hexDigit (c.toNat / 16) :: hexDigit (c.toNat % 16) :: rest) =
        .ok (c.toNat, rest) := by
    simp only [hexFour, hexFour?, hzero, hhigh, hlow, Option.bind_eq_bind, Option.bind_some,
      Option.pure_def, hvalue]
  have hsingle : isLowSurrogate c.toNat = false ∧ isHighSurrogate c.toNat = false := by
    simp only [isLowSurrogate, isHighSurrogate, Bool.and_eq_false_iff, decide_eq_false_iff_not]
    omega
  simp only [unicodeEscape, hfour, Reading.andThen, hsingle, Bool.false_eq_true, if_false,
    Char.ofNat_toNat]

private theorem readCharacter_escape (c : Char) (rest : List Char) :
    readCharacter (escape c ++ rest) = .ok (some c, rest) := by
  by_cases hnamed : c ∈ ['"', '\\', '\x08', '\x0c', '\n', '\r', '\t']
  · simp only [List.mem_cons, List.not_mem_nil, or_false] at hnamed
    rcases hnamed with rfl | rfl | rfl | rfl | rfl | rfl | rfl <;> rfl
  · simp only [List.mem_cons, List.not_mem_nil, or_false, not_or] at hnamed
    obtain ⟨hquote, hslash, hb, hf, hn, hr, ht⟩ := hnamed
    by_cases hc : c.toNat < 32
    · have hescape : escape c =
          ['\\', 'u', '0', '0', hexDigit (c.toNat / 16), hexDigit (c.toNat % 16)] := by
        simp only [escape, hquote, hslash, hb, hf, hn, hr, ht, hc, if_true, if_false]
      rw [hescape]
      simp only [List.cons_append, List.nil_append, readCharacter, readEscape,
        unicodeEscape_control hc, Reading.andThen]
    · have hescape : escape c = [c] := by
        simp only [escape, hquote, hslash, hb, hf, hn, hr, ht, hc, if_false]
      rw [hescape]
      simp only [List.cons_append, List.nil_append, readCharacter, hc, if_false]

private theorem readCharacters_escaped (cs done rest : List Char) {fuel : Nat}
    (hf : cs.length < fuel) :
    readCharacters fuel done (cs.flatMap escape ++ '"' :: rest) =
      .ok (String.ofList (done.reverse ++ cs), rest) := by
  induction cs generalizing fuel done with
  | nil =>
    obtain ⟨fuel, rfl⟩ := Nat.exists_eq_succ_of_ne_zero (Nat.ne_of_gt hf)
    simp only [List.flatMap_nil, List.nil_append, readCharacters, readCharacter, List.append_nil]
  | cons c cs ih =>
    obtain ⟨fuel, rfl⟩ := Nat.exists_eq_succ_of_ne_zero (Nat.ne_of_gt (Nat.zero_lt_of_lt hf))
    rw [List.flatMap_cons, List.append_assoc, readCharacters, readCharacter_escape]
    simp only
    rw [ih (c :: done) (Nat.lt_of_succ_lt_succ hf), List.reverse_cons, List.append_assoc,
      List.singleton_append]

private theorem escape_ne_nil (c : Char) : escape c ≠ [] := by
  intro h
  have hread := readCharacter_escape c []
  rw [h] at hread
  cases hread

/-- A string is read back from its text behind the opening quote. -/
private theorem readString_quote (s : String) (rest : List Char) :
    readString (s.toList.flatMap escape ++ '"' :: rest) = .ok (s, rest) := by
  have hlength : s.toList.length ≤ (s.toList.flatMap escape).length := by
    induction s.toList with
    | nil => exact Nat.le_refl _
    | cons c cs ih =>
      have hone := List.length_pos_iff.mpr (escape_ne_nil c)
      rw [List.flatMap_cons, List.length_append, List.length_cons]
      omega
  rw [readString, readCharacters_escaped _ _ _ (by rw [List.length_append]; omega)]
  rw [List.reverse_nil, List.nil_append, String.ofList_toList]

/-! Numbers -/

private theorem head_toDigits {n : Nat} (hn : 0 < n) :
    ∃ d ds, Nat.toDigits 10 n = d :: ds ∧ d ≠ '0' := by
  induction n using Nat.strongRecOn with
  | ind n ih =>
    rw [Nat.toDigits_eq_if (by omega)]
    split
    · rename_i hlt
      refine ⟨n.digitChar, [], rfl, ?_⟩
      have hall : ∀ k < 10, 0 < k → k.digitChar ≠ '0' := by decide
      exact hall n hlt hn
    · obtain ⟨d, ds, hd, hne⟩ := ih (n / 10) (by omega) (by omega)
      exact ⟨d, ds ++ [(n % 10).digitChar], by rw [hd, List.cons_append], hne⟩

/-- Digits are taken one after the other as long as the number stays in range. -/
private theorem integerDigits_eq {ds : List Char} {s : Nat}
    (h : Nat.ofDigitChars 10 ds s ≤ maxNatural) :
    integerDigits s ds = (Nat.ofDigitChars 10 ds s, 0) := by
  induction ds generalizing s with
  | nil => rfl
  | cons d ds ih =>
    have hvalue : 10 * s + (d.toNat - '0'.toNat) = s * 10 + digitValue d := by
      rw [Nat.mul_comm]
      rfl
    rw [Nat.ofDigitChars_cons, hvalue] at h ⊢
    have hgrows : s * 10 + digitValue d ≤ Nat.ofDigitChars 10 ds (s * 10 + digitValue d) := by
      rw [Nat.ofDigitChars_eq_ofDigitChars_zero]
      exact Nat.le_add_right_of_le (Nat.le_mul_of_pos_left _ (Nat.pow_pos (by omega)))
    rw [integerDigits, if_pos (Nat.le_trans hgrows h), ih h]

section
variable {rest : List Char}

private theorem Closes.takeWhile_isDigit (hr : Closes rest) :
    rest.takeWhile Char.isDigit = [] ∧ rest.dropWhile Char.isDigit = rest := by
  cases rest with
  | nil => exact ⟨rfl, rfl⟩
  | cons c rest =>
    rcases hr c rfl with rfl | rfl | rfl <;> exact ⟨rfl, rfl⟩

/-- A number ends where something follows that cannot be part of it. -/
private theorem readUnsigned_closes (hr : Closes rest) (negative : Bool) {digits : List Char}
    {s : Nat}
    (hs : integerDigits 0 digits = (s, 0)) :
    readUnsigned negative digits rest = .ok (integer negative s, rest) := by
  rw [readUnsigned, hs]
  cases rest with
  | nil => rfl
  | cons c rest =>
    rcases hr c rfl with rfl | rfl | rfl <;> rfl

private theorem readMagnitude_toDigits (hr : Closes rest) (negative : Bool) {n : Nat}
    (hn : n ≤ maxNatural) :
    readMagnitude negative (Nat.toDigits 10 n ++ rest) = .ok (integer negative n, rest) := by
  have hvalue : Nat.ofDigitChars 10 (Nat.toDigits 10 n) 0 = n := Nat.ofDigitChars_ten_toDigits
  have hdigits : integerDigits 0 (Nat.toDigits 10 n) = (n, 0) := by
    rw [integerDigits_eq (by rw [hvalue]; exact hn), hvalue]
  obtain ⟨htake, hdrop⟩ := hr.takeWhile_isDigit
  rcases Nat.eq_zero_or_pos n with rfl | hpos
  · have hzero : Nat.toDigits 10 0 = ['0'] := Nat.toDigits_zero 10
    rw [hzero] at hdigits ⊢
    have hread := readUnsigned_closes hr negative hdigits
    cases rest with
    | nil => exact hread
    | cons c rest =>
      rcases hr c rfl with rfl | rfl | rfl <;> exact hread
  · obtain ⟨d, ds, hd, hne⟩ := head_toDigits hpos
    have hall : ∀ c ∈ d :: ds, c.isDigit = true := by
      intro c hc
      exact Nat.isDigit_of_mem_toDigits (by omega) (Nat.le_refl 10) (hd ▸ hc)
    obtain ⟨hfirst, hmore⟩ := List.forall_mem_cons.mp hall
    rw [hd] at hdigits ⊢
    simp only [List.cons_append, readMagnitude, if_neg hne, if_pos hfirst,
      List.takeWhile_append_of_pos hmore, List.dropWhile_append_of_pos hmore, htake, hdrop,
      List.append_nil]
    exact readUnsigned_closes hr negative hdigits

private theorem exists_toDigits (n : Nat) : ∃ d ds, Nat.toDigits 10 n = d :: ds ∧ d.isDigit := by
  obtain ⟨d, ds, hd⟩ := List.exists_cons_of_ne_nil (Nat.toDigits_ne_nil (n := n) (b := 10))
  refine ⟨d, ds, hd, Nat.isDigit_of_mem_toDigits (by omega) (Nat.le_refl 10) (n := n) ?_⟩
  rw [hd]
  exact List.mem_cons_self

private theorem readNumber_of_isDigit {d : Char} (hd : d.isDigit) (ds : List Char) :
    readNumber (d :: ds) = readMagnitude false (d :: ds) := by
  unfold readNumber
  split
  · rename_i heq
    cases heq
    cases hd
  · rfl

private theorem toList_toString_ofNat (n : Nat) :
    (toString (Int.ofNat n)).toList = Nat.toDigits 10 n := by
  simp only [Int.toString_eq_repr, Int.repr, Nat.repr_eq_ofList_toDigits, String.toList_ofList]

private theorem toList_toString_negSucc (n : Nat) :
    (toString (Int.negSucc n)).toList = '-' :: Nat.toDigits 10 (n + 1) := by
  simp [Int.toString_eq_repr, Int.repr, Nat.repr_eq_ofList_toDigits]

/-- The text of an integer begins with its sign or a digit. -/
private theorem exists_toString_int (i : Int) :
    ∃ c cs, (toString i).toList = c :: cs ∧ (c = '-' ∨ c.isDigit) := by
  cases i with
  | ofNat n =>
    obtain ⟨d, ds, hd, hdigit⟩ := exists_toDigits n
    exact ⟨d, ds, by rw [toList_toString_ofNat, hd], Or.inr hdigit⟩
  | negSucc n => exact ⟨'-', _, toList_toString_negSucc n, Or.inl rfl⟩

/-- An integer in range is read back from its digits. -/
private theorem readNumber_int (hr : Closes rest) {i : Int} (hlow : -(Nat.pow 2 63) ≤ i)
    (hhigh : i < Nat.pow 2 64) : readNumber ((toString i).toList ++ rest) = .ok (.int i, rest) := by
  have hmax : maxNatural = Nat.pow 2 64 - 1 := rfl
  have h64 : Nat.pow 2 63 < Nat.pow 2 64 := by decide
  cases i with
  | ofNat n =>
    rw [Int.ofNat_eq_natCast] at hhigh
    have hread := readMagnitude_toDigits hr false (n := n) (by omega)
    obtain ⟨d, ds, hd, hdigit⟩ := exists_toDigits n
    rw [toList_toString_ofNat]
    rw [hd, List.cons_append] at hread ⊢
    rw [readNumber_of_isDigit hdigit, hread]
    rfl
  | negSucc n =>
    have hread := readMagnitude_toDigits hr true (n := n + 1) (by omega)
    have hn : n + 1 ≤ Nat.pow 2 63 := by omega
    rw [toList_toString_negSucc, List.cons_append, readNumber, hread, integer, if_pos rfl,
      if_pos ⟨Nat.succ_pos n, hn⟩]
    rfl

end

/-! Values -/

def isFirst (c : Char) : Bool :=
  c = '-' || c.isDigit || ['n', 't', 'f', '"', '[', '{'].contains c

private theorem isFirst_ne {c other : Char} (hc : isFirst c) (ho : isFirst other = false) :
    c ≠ other := by
  rintro rfl
  rw [hc] at ho
  cases ho

private theorem skipBlanks_first {c : Char} (hc : isFirst c) (cs : List Char) :
    skipBlanks (c :: cs) = c :: cs := by
  have hblank : isBlank c = false := by
    have hspace : c ≠ ' ' := isFirst_ne hc (by decide)
    have hline : c ≠ '\n' := isFirst_ne hc (by decide)
    have htab : c ≠ '\t' := isFirst_ne hc (by decide)
    have hreturn : c ≠ '\r' := isFirst_ne hc (by decide)
    simp only [isBlank, hspace, hline, htab, hreturn, decide_false, Bool.or_false]
  rw [skipBlanks, List.dropWhile_cons_of_neg (by rw [hblank]; exact Bool.false_ne_true)]

private theorem isFirst_of_isDigit {c : Char} (hc : c = '-' ∨ c.isDigit) : isFirst c := by
  rcases hc with rfl | hc
  · rfl
  · rw [isFirst, hc, Bool.or_true, Bool.true_or]

private theorem write_first (j : Json) (hj : j.Integral) :
    ∃ c cs, write j = c :: cs ∧ isFirst c := by
  cases j with
  | null => exact ⟨_, _, rfl, rfl⟩
  | bool b => cases b <;> exact ⟨_, _, rfl, rfl⟩
  | num n =>
    cases n with
    | int i =>
      obtain ⟨c, cs, htext, hc⟩ := exists_toString_int i
      exact ⟨c, cs, htext, isFirst_of_isDigit hc⟩
    | real x => cases hj
  | str s => exact ⟨_, _, rfl, rfl⟩
  | arr items => cases items <;> exact ⟨_, _, rfl, rfl⟩
  | obj fields => cases fields <;> exact ⟨_, _, rfl, rfl⟩

private theorem readValue_number {c : Char} (hc : c = '-' ∨ c.isDigit) (fuel depth : Nat)
    (cs : List Char) :
    readValue (fuel + 1) depth (c :: cs) =
      (readNumber (c :: cs)).andThen fun n rest => .ok (.num n, rest) := by
  have hsign : (decide (c = '-') || c.isDigit) = true := by simpa using hc
  rw [readValue, skipBlanks_first (isFirst_of_isDigit hc)]
  split <;> rename_i heq <;> cases heq
  case h_8.refl => exact if_pos hsign
  all_goals cases hsign

private theorem readValue_array {c : Char} (hc : isFirst c) {depth : Nat}
    (hd : 1 < depth) (fuel : Nat) (cs : List Char) :
    readValue (fuel + 1) depth ('[' :: c :: cs) =
      (readValue fuel (depth - 1) (c :: cs)).andThen fun x rest =>
        (readItems fuel (depth - 1) rest).andThen fun xs rest => .ok (.arr (x :: xs), rest) := by
  simp only [readValue, skipBlanks_first hc, skipBlanks_first (c := '[') rfl, Nat.not_le.mpr hd,
    if_false]
  split
  · rename_i heq
    cases heq
  · rename_i heq
    cases heq
    cases hc
  · rfl

private theorem readItems_comma {c : Char} (hc : isFirst c) (fuel depth : Nat) (cs : List Char) :
    readItems (fuel + 1) depth (',' :: c :: cs) =
      (readValue fuel depth (c :: cs)).andThen fun x rest =>
        (readItems fuel depth rest).andThen fun xs rest => .ok (x :: xs, rest) := by
  have hcomma : skipBlanks (',' :: c :: cs) = ',' :: c :: cs := rfl
  simp only [readItems, hcomma, skipBlanks_first hc]
  split
  · rename_i heq
    cases heq
  · rename_i heq
    cases heq
    cases hc
  · rfl

private theorem readValue_object {depth : Nat} (hd : 1 < depth) (fuel : Nat) (key : String)
    (cs : List Char) :
    readValue (fuel + 1) depth ('{' :: (quote key ++ cs)) =
      (readField fuel (depth - 1) (quote key ++ cs)).andThen fun field rest =>
        (readFields fuel (depth - 1) [field] rest).andThen fun fields rest =>
          .ok (.obj fields, rest) := by
  simp only [quote, List.cons_append, readValue, skipBlanks_first (c := '{') rfl,
    skipBlanks_first (c := '"') rfl, Nat.not_le.mpr hd, if_false]
  rfl

private theorem readFields_comma (fuel depth : Nat) (fields : Fields) (key : String)
    (cs : List Char) :
    readFields (fuel + 1) depth fields (',' :: (quote key ++ cs)) =
      (readField fuel depth (quote key ++ cs)).andThen fun field rest =>
        readFields fuel depth (Fields.insert field.1 field.2 fields) rest := by
  have hcomma (cs : List Char) : skipBlanks (',' :: cs) = ',' :: cs := rfl
  simp only [quote, List.cons_append, readFields, hcomma, skipBlanks_first (c := '"') rfl]
  rfl

private theorem closes_writeItems (xs : List Json) (rest : List Char) :
    Closes (writeItems xs ++ rest) := by
  intro c hc
  cases xs with
  | nil =>
    cases hc
    exact Or.inr (Or.inl rfl)
  | cons x xs =>
    cases hc
    exact Or.inl rfl

private theorem closes_writeFields (fields : Fields) (rest : List Char) :
    Closes (writeFields fields ++ rest) := by
  intro c hc
  cases fields with
  | nil =>
    cases hc
    exact Or.inr (Or.inr rfl)
  | cons field fields =>
    cases hc
    exact Or.inl rfl

/-- A field is read back if its value is. -/
private theorem readField_quote {key : String} {x : Json} {fuel depth : Nat} {text rest : List Char}
    (hx : readValue fuel depth text = .ok (x, rest)) :
    readField (fuel + 1) depth (quote key ++ ':' :: text) = .ok ((key, x), rest) := by
  rw [quote, List.cons_append, List.append_assoc, List.singleton_append, readField,
    readString_quote]
  simp only [Reading.andThen]
  have hcolon : skipBlanks (':' :: text) = ':' :: text := rfl
  rw [hcolon]
  simp only [hx]

mutual

/-- The text of a value is read back, if the value is not nested too deep. -/
theorem readValue_write : (j : Json) → (fuel depth : Nat) → (rest : List Char) → j.Canonical →
    j.Integral → j.depth < depth → (write j).length ≤ fuel → Closes rest →
    readValue fuel depth (write j ++ rest) = .ok (j, rest)
  | j, 0, depth, rest, hc, hi, hd, hf, hr => by
    obtain ⟨c, cs, hw, -⟩ := write_first j hi
    rw [hw] at hf
    cases hf
  | .null, fuel + 1, depth, rest, hc, hi, hd, hf, hr => by
    rw [write, List.cons_append, readValue, skipBlanks_first rfl]
    rfl
  | .bool true, fuel + 1, depth, rest, hc, hi, hd, hf, hr => by
    rw [write, List.cons_append, readValue, skipBlanks_first rfl]
    rfl
  | .bool false, fuel + 1, depth, rest, hc, hi, hd, hf, hr => by
    rw [write, List.cons_append, readValue, skipBlanks_first rfl]
    rfl
  | .num (.int i), fuel + 1, depth, rest, hc, hi, hd, hf, hr => by
    have hread := readNumber_int hr hi.1 hi.2
    obtain ⟨c, cs, htext, hfirst⟩ := exists_toString_int i
    rw [write, writeNumber]
    rw [htext, List.cons_append] at hread ⊢
    rw [readValue_number hfirst, hread]
    rfl
  | .str s, fuel + 1, depth, rest, hc, hi, hd, hf, hr => by
    rw [write, quote, List.cons_append, List.append_assoc, readValue, skipBlanks_first rfl]
    simp only [List.singleton_append, readString_quote]
    rfl
  | .arr [], fuel + 1, depth, rest, hc, hi, hd, hf, hr => by
    have hdeep : ¬ depth ≤ 1 := Nat.not_le.mpr hd
    rw [write, List.cons_append, readValue, skipBlanks_first rfl]
    simp only [if_neg hdeep]
    rfl
  | .arr (x :: xs), fuel + 1, depth, rest, hc, hi, hd, hf, hr => by
    simp only [Json.depth, depthItems] at hd
    simp only [write, List.length_cons, List.length_append] at hf
    have hx := readValue_write x fuel (depth - 1) (writeItems xs ++ rest) hc.1 hi.1 (by omega)
      (by omega) (closes_writeItems xs rest)
    have hxs := readItems_write xs fuel (depth - 1) rest hc.2 hi.2 (by omega) (by omega)
    obtain ⟨c, cs, hw, hfirst⟩ := write_first x hi.1
    rw [write, List.cons_append, List.append_assoc]
    rw [hw, List.cons_append] at hx ⊢
    rw [readValue_array hfirst (by omega), hx, Reading.andThen, hxs]
    rfl
  | .obj [], fuel + 1, depth, rest, hc, hi, hd, hf, hr => by
    have hdeep : ¬ depth ≤ 1 := Nat.not_le.mpr hd
    rw [write, List.cons_append, readValue, skipBlanks_first rfl]
    simp only [if_neg hdeep]
    rfl
  | .obj ((_, _) :: _), 1, _, _, _, _, _, hf, _ => by
    simp only [write, List.length_cons, List.length_append] at hf
    omega
  | .obj ((k, x) :: fields), fuel + 2, depth, rest, hc, hi, hd, hf, hr => by
    simp only [Json.depth, depthFields] at hd
    simp only [write, quote, List.length_cons, List.length_append] at hf
    have hx := readValue_write x fuel (depth - 1) (writeFields fields ++ rest) hc.2.1 hi.1
      (by omega) (by omega) (closes_writeFields fields rest)
    have hfields := readFields_write fields [(k, x)] (fuel + 1) (depth - 1) rest hc.2.2 hi.2
      (by omega) (by omega) hc.1
    rw [write, List.cons_append, List.append_assoc, List.cons_append, List.append_assoc,
      readValue_object (by omega), readField_quote hx, Reading.andThen, hfields]
    rfl

theorem readItems_write : (xs : List Json) → (fuel depth : Nat) → (rest : List Char) →
    CanonicalItems xs → IntegralItems xs → depthItems xs < depth → (writeItems xs).length ≤ fuel →
    readItems fuel depth (writeItems xs ++ rest) = .ok (xs, rest)
  | xs, 0, _, _, _, _, _, hf => by
    cases xs <;> cases hf
  | [], fuel + 1, depth, rest, _, _, _, _ => by
    rw [writeItems, List.singleton_append, readItems]
    rfl
  | x :: xs, fuel + 1, depth, rest, hc, hi, hd, hf => by
    simp only [depthItems] at hd
    simp only [writeItems, List.length_cons, List.length_append] at hf
    have hx := readValue_write x fuel depth (writeItems xs ++ rest) hc.1 hi.1 (by omega)
      (by omega) (closes_writeItems xs rest)
    have hxs := readItems_write xs fuel depth rest hc.2 hi.2 (by omega) (by omega)
    obtain ⟨c, cs, hw, hfirst⟩ := write_first x hi.1
    rw [writeItems, List.cons_append, List.append_assoc]
    rw [hw, List.cons_append] at hx ⊢
    rw [readItems_comma hfirst, hx, Reading.andThen, hxs]
    rfl

/-- The fields come behind those that were read before, because their keys do. -/
theorem readFields_write : (fields : Fields) → (done : Fields) → (fuel depth : Nat) →
    (rest : List Char) → CanonicalFields fields → IntegralFields fields →
    depthFields fields < depth → (writeFields fields).length ≤ fuel →
    (done ++ fields).Pairwise (fun a b => a.1 < b.1) →
    readFields fuel depth done (writeFields fields ++ rest) = .ok (done ++ fields, rest)
  | fields, _, 0, _, _, _, _, _, hf, _ => by
    cases fields <;> cases hf
  | [], done, fuel + 1, depth, rest, _, _, _, _, _ => by
    rw [writeFields, List.singleton_append, readFields, List.append_nil]
    rfl
  | (_, _) :: _, _, 1, _, _, _, _, _, hf, _ => by
    simp only [writeFields, quote, List.length_cons, List.length_append] at hf
    omega
  | (k, x) :: fields, done, fuel + 2, depth, rest, hc, hi, hd, hf, hp => by
    simp only [depthFields] at hd
    simp only [writeFields, quote, List.length_cons, List.length_append] at hf
    have hx := readValue_write x fuel depth (writeFields fields ++ rest) hc.1 hi.1 (by omega)
      (by omega) (closes_writeFields fields rest)
    have hlast : Fields.insert k x done = done ++ [(k, x)] :=
      Fields.insert_last (fun field hfield => (List.pairwise_append.mp hp).2.2 field hfield _
        List.mem_cons_self) x
    rw [List.append_cons] at hp ⊢
    have hfields := readFields_write fields (done ++ [(k, x)]) (fuel + 1) depth rest hc.2 hi.2
      (by omega) (by omega) hp
    rw [writeFields, List.cons_append, List.append_assoc, List.cons_append, List.append_assoc,
      readFields_comma, readField_quote hx, Reading.andThen, hlast, hfields]

end

/-- A text that was printed is read as the value that it was printed from. -/
theorem parse_render {j : Json} (hc : j.Canonical) (hi : j.Integral) (hd : j.depth < depthLimit) :
    parse j.render = .ok j := by
  have hread := readValue_write j (fuelFor j.write) depthLimit [] hc hi hd
    (by rw [fuelFor]; omega) (by intro c h; cases h)
  rw [List.append_nil] at hread
  rw [parse, readAll, render, String.toList_ofList, hread]
  rfl

end PreviewHub.Json
