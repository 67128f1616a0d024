import PreviewHub.Origin.Punycode

/-! The ASCII form of a label stands for the label. Writing goes through the codes in ascending
order and, for each of them, through the label; reading jumps from one insertion to the next. Both
count the same places, so reading is always where writing was when it wrote the distance. -/

namespace PreviewHub.Punycode

private theorem digitValue?_digit : ∀ d < 36, digitValue? (digit d) = some d := by decide

/-- A distance that was written is read, whatever follows it. -/
private theorem readDistance_writeDistance (bias k weight i distance : Nat) (rest : List Char) :
    readDistance bias k weight i (writeDistance bias k distance ++ rest) =
      some (i + distance * weight, rest) := by
  fun_induction writeDistance bias k distance generalizing weight i with
  | case1 k distance t hlt =>
    have hle : t ≤ 26 := threshold_le bias k
    rw [List.singleton_append, readDistance, digitValue?_digit distance (by omega)]
    exact if_pos hlt
  | case2 k distance t hge ih =>
    have hpos : 0 < t := threshold_pos bias k
    have hle : t ≤ 26 := threshold_le bias k
    have hmod := Nat.mod_lt (distance - t) (show 0 < 36 - t by omega)
    have hparts := Nat.mod_add_div' (distance - t) (36 - t)
    have hsum : t + (distance - t) % (36 - t) + (distance - t) / (36 - t) * (36 - t) =
        distance := by omega
    rw [List.cons_append, readDistance, digitValue?_digit _ (by omega)]
    refine (if_neg (by omega)).trans ?_
    rw [ih, Nat.mul_comm weight, ← Nat.mul_assoc, Nat.add_assoc, ← Nat.add_mul, hsum]

/-- What is written are digits. -/
private theorem exists_digit_of_mem_writeDistance {bias k distance : Nat} {c : Char}
    (hc : c ∈ writeDistance bias k distance) : ∃ d < 36, c = digit d := by
  fun_induction writeDistance bias k distance with
  | case1 k distance t hlt =>
    have hle : t ≤ 26 := threshold_le bias k
    exact ⟨distance, by omega, List.mem_singleton.mp hc⟩
  | case2 k distance t hge ih =>
    have hle : t ≤ 26 := threshold_le bias k
    have hmod := Nat.mod_lt (distance - t) (show 0 < 36 - t by omega)
    rcases List.mem_cons.mp hc with rfl | hc
    · exact ⟨_, by omega, rfl⟩
    · exact ih hc

private theorem length_readDistance {bias k weight i j : Nat} {digits rest : List Char}
    (h : readDistance bias k weight i digits = some (j, rest)) : rest.length < digits.length := by
  fun_induction readDistance bias k weight i digits with
  | case1 => cases h
  | case2 => cases h
  | case3 =>
    cases h
    exact Nat.lt_succ_self _
  | case4 k weight i c cs d hd t hge ih => exact Nat.lt_succ_of_lt (ih h)

structure Reading where
  label : List Char
  code : Nat := 128
  place : Nat := 0
  bias : Nat := 72

namespace Reading

def insert (r : Reading) (j : Nat) : Reading :=
  let count := r.label.length + 1
  { label := r.label.take (j % count) ++ Char.ofNat (r.code + j / count) :: r.label.drop (j % count)
    code := r.code + j / count
    place := j % count + 1
    bias := adapt (j - r.place) count (r.place == 0) }

/-- The digits are read to their end and give the label. -/
inductive Gives : Reading → List Char → List Char → Prop where
  | done (r : Reading) : Gives r [] r.label
  | insert {r : Reading} {digits rest name : List Char} {j : Nat}
      (read : readDistance r.bias 36 1 r.place digits = some (j, rest))
      (valid : (r.insert j).code.isValidChar) (later : Gives (r.insert j) rest name) :
      Gives r digits name

private theorem Gives.readInsertions_eq {r : Reading} {digits name : List Char}
    (h : r.Gives digits name)
    {fuel : Nat} (hf : digits.length ≤ fuel) :
    readInsertions fuel r.label r.code r.place r.bias digits = some name := by
  induction h generalizing fuel with
  | done r => rw [readInsertions]
  | @insert r digits rest name j read valid later ih =>
    have hlength := length_readDistance read
    cases digits with
    | nil => cases read
    | cons c cs =>
      obtain ⟨fuel, rfl⟩ : ∃ n, fuel = n + 1 := ⟨fuel - 1, by simp at hf; omega⟩
      rw [readInsertions, read]
      refine (if_pos valid).trans ?_
      exact ih (by simp at hf hlength ⊢; omega)

structure Leads (r : Reading) (written : List Char) (r' : Reading) : Prop where
  digits : ∀ c ∈ written, ∃ d < 36, c = digit d
  gives : ∀ rest name, r'.Gives rest name → r.Gives (written ++ rest) name

private theorem Leads.refl (r : Reading) : r.Leads [] r :=
  ⟨List.forall_mem_nil _, fun _ _ h => h⟩

private theorem Leads.trans {r r' r'' : Reading} {first second : List Char} (hf : r.Leads first r')
    (hs : r'.Leads second r'') : r.Leads (first ++ second) r'' := by
  refine ⟨List.forall_mem_append.mpr ⟨hf.digits, hs.digits⟩, fun rest name h => ?_⟩
  rw [List.append_assoc]
  exact hf.gives _ _ (hs.gives _ _ h)

/-- A distance leads to the insertion that it stands for. -/
private theorem leads_writeDistance (r : Reading) {distance : Nat}
    (hv : (r.insert (r.place + distance)).code.isValidChar) :
    r.Leads (writeDistance r.bias 36 distance) (r.insert (r.place + distance)) := by
  refine ⟨fun c hc => exists_digit_of_mem_writeDistance hc, fun rest name h => .insert ?_ hv h⟩
  rw [readDistance_writeDistance, Nat.mul_one]

end Reading

/-- Reading has come as far as writing, which inserts the characters of code `n` and has passed
`done` of the label, and not yet `left`. In place are the characters of lower codes, and those of
code `n` that were passed. -/
structure Abreast (basic n : Nat) (done left : List Char) (w : Writing) (r : Reading) : Prop where
  label : r.label = done.filter (·.toNat ≤ n) ++ left.filter (·.toNat < n)
  count : w.count = r.label.length
  bias : r.bias = w.bias
  code : r.code ≤ n
  distance : r.place + w.distance =
    (n - r.code) * (w.count + 1) + (done.filter (·.toNat ≤ n)).length
  first : r.place = 0 ∧ w.count = basic ∨ 0 < r.place ∧ basic < w.count

section
variable {basic n : Nat} {c : Char} {done left : List Char} {w : Writing} {r : Reading}

/-- The insertion that writing has come to. -/
private theorem Abreast.insert_eq (h : Abreast basic c.toNat done (c :: left) w r) :
    r.insert (r.place + w.distance) =
      { label := (done ++ [c]).filter (·.toNat ≤ c.toNat) ++ left.filter (·.toNat < c.toNat)
        code := c.toNat
        place := (done.filter (·.toNat ≤ c.toNat)).length + 1
        bias := adapt w.distance (w.count + 1) (w.count == basic) } := by
  obtain ⟨hlabel, hcount, hbias, hcode, hdistance, hfirst⟩ := h
  rw [List.filter_cons_of_neg (by simp)] at hlabel
  have hplace : (done.filter (·.toNat ≤ c.toNat)).length < w.count + 1 := by
    rw [hcount, hlabel, List.length_append]
    omega
  have hdiv : (r.place + w.distance) / (w.count + 1) = c.toNat - r.code := by
    rw [hdistance, Nat.mul_comm, Nat.mul_add_div (Nat.succ_pos _), Nat.div_eq_of_lt hplace,
      Nat.add_zero]
  have hmod : (r.place + w.distance) % (w.count + 1) =
      (done.filter (·.toNat ≤ c.toNat)).length := by
    rw [hdistance, Nat.mul_comm, Nat.mul_add_mod, Nat.mod_eq_of_lt hplace]
  have hflag : (r.place == 0) = (w.count == basic) := by
    rcases hfirst with ⟨hp, hc⟩ | ⟨hp, hc⟩
    · rw [hp, hc, beq_self_eq_true, beq_self_eq_true]
    · rw [beq_false_of_ne (Nat.ne_of_gt hp), beq_false_of_ne (Nat.ne_of_gt hc)]
  have hc : r.code + (c.toNat - r.code) = c.toNat := Nat.add_sub_cancel' hcode
  simp only [Reading.insert, ← hcount, hdiv, hmod, hc, Char.ofNat_toNat, Nat.add_sub_cancel_left,
    hflag, Reading.mk.injEq, and_true]
  rw [hlabel, List.take_left, List.drop_left, List.filter_append,
    List.filter_cons_of_pos (by simp), List.filter_nil, List.append_assoc, List.singleton_append]

/-- One more character of the label is passed: one of code `n` is inserted, and the distance to the
next insertion grows by each one of a lower code. -/
private theorem Abreast.pass (h : Abreast basic n done (c :: left) w r) :
    ∃ written r', (w.pass basic n c).digits = w.digits ++ written ∧ r.Leads written r' ∧
      Abreast basic n (done ++ [c]) left (w.pass basic n c) r' := by
  unfold Writing.pass
  rcases Nat.lt_trichotomy c.toNat n with hlt | rfl | hgt
  · rw [if_pos hlt]
    refine ⟨[], r, (List.append_nil _).symm, .refl r, ?_, h.count, h.bias, h.code, ?_, h.first⟩
    · rw [h.label, List.filter_cons_of_pos (by simpa using hlt), List.filter_append,
        List.filter_cons_of_pos (by simpa using Nat.le_of_lt hlt), List.filter_nil,
        List.append_assoc, List.singleton_append]
    · have hdistance := h.distance
      rw [List.filter_append, List.filter_cons_of_pos (by simpa using Nat.le_of_lt hlt),
        List.filter_nil, List.length_append, List.length_singleton]
      show r.place + (w.distance + 1) = (n - r.code) * (w.count + 1) + _
      omega
  · rw [if_neg (Nat.lt_irrefl _), if_pos rfl]
    have hinsert := h.insert_eq
    refine ⟨writeDistance w.bias 36 w.distance, r.insert (r.place + w.distance), rfl, ?_, ?_⟩
    · rw [← h.bias]
      refine r.leads_writeDistance ?_
      rw [hinsert]
      exact c.valid
    · have hcount := h.count
      have hlabel := h.label
      rw [List.filter_cons_of_neg (by simp)] at hlabel
      rw [hinsert]
      refine ⟨rfl, ?_, rfl, Nat.le_refl _, ?_, Or.inr ⟨Nat.succ_pos _, ?_⟩⟩
      · rw [hlabel, List.length_append] at hcount
        rw [List.filter_append, List.filter_cons_of_pos (by simp), List.filter_nil,
          List.length_append, List.length_append, List.length_singleton]
        show w.count + 1 = _
        omega
      · rw [List.filter_append, List.filter_cons_of_pos (by simp), List.filter_nil,
          List.length_append, List.length_singleton]
        show _ + 0 = _
        simp
      · show basic < w.count + 1
        rcases h.first with ⟨-, hc⟩ | ⟨-, hc⟩
        · rw [hc]
          exact Nat.lt_succ_self _
        · exact Nat.lt_succ_of_lt hc
  · rw [if_neg (Nat.lt_asymm hgt), if_neg (Nat.ne_of_gt hgt)]
    refine ⟨[], r, (List.append_nil _).symm, .refl r, ?_, h.count, h.bias, h.code, ?_, h.first⟩
    · rw [h.label, List.filter_cons_of_neg (by simpa using Nat.le_of_lt hgt), List.filter_append,
        List.filter_cons_of_neg (by simpa using hgt), List.filter_nil, List.append_nil]
    · rw [List.filter_append, List.filter_cons_of_neg (by simpa using hgt), List.filter_nil,
        List.append_nil]
      exact h.distance

private theorem Abreast.foldl_pass (h : Abreast basic n done left w r) :
    ∃ written r', (left.foldl (Writing.pass basic n) w).digits = w.digits ++ written ∧
      r.Leads written r' ∧
      Abreast basic n (done ++ left) [] (left.foldl (Writing.pass basic n) w) r' := by
  induction left generalizing done w r with
  | nil => exact ⟨[], r, (List.append_nil _).symm, .refl r, by rwa [List.append_nil]⟩
  | cons c left ih =>
    obtain ⟨first, r', hfirst, hleads, h'⟩ := h.pass
    obtain ⟨second, r'', hsecond, hleads', h''⟩ := ih h'
    refine ⟨first ++ second, r'', ?_, hleads.trans hleads', ?_⟩
    · rw [List.foldl_cons, hsecond, hfirst, List.append_assoc]
    · rwa [List.append_assoc, List.singleton_append] at h''

end

section
variable {basic lowest : Nat} {label : List Char} {w : Writing} {r : Reading}

/-- Between two codes of the label there is nothing to insert. -/
private theorem Abreast.skip (h : Abreast basic lowest [] label w r) {n : Nat} (hn : lowest ≤ n)
    (hnone : ∀ c ∈ label, lowest ≤ c.toNat → n ≤ c.toNat) :
    Abreast basic n [] label { w with distance := w.distance + (n - lowest) * (w.count + 1) }
      r := by
  refine ⟨?_, h.count, h.bias, Nat.le_trans h.code hn, ?_, h.first⟩
  · rw [h.label]
    refine congrArg _ (List.filter_congr fun c hc => ?_)
    have := hnone c hc
    simp only [decide_eq_decide]
    omega
  · have hdistance := h.distance
    show r.place + (w.distance + (n - lowest) * (w.count + 1)) = _
    rw [← Nat.add_assoc, hdistance, List.filter_nil, List.length_nil, Nat.add_zero, Nat.add_zero,
      ← Nat.add_mul]
    have := h.code
    congr 1
    omega

/-- After all characters of a code are inserted, it is the turn of the next one. -/
private theorem Abreast.next (h : Abreast basic lowest label [] w r) :
    Abreast basic (lowest + 1) [] label { w with distance := w.distance + 1 } r := by
  have hlabel : r.label = label.filter (·.toNat ≤ lowest) := by
    rw [h.label, List.filter_nil, List.append_nil]
  refine ⟨?_, h.count, h.bias, Nat.le_succ_of_le h.code, ?_, h.first⟩
  · rw [hlabel]
    refine (congrArg _ (List.filter_congr fun c hc => ?_) : _ = [] ++ _)
    simp only [decide_eq_decide]
    omega
  · have hdistance := h.distance
    rw [← hlabel, ← h.count] at hdistance
    show r.place + (w.distance + 1) = (lowest + 1 - r.code) * (w.count + 1) + _
    rw [List.filter_nil, List.length_nil, Nat.add_zero, Nat.succ_sub h.code, Nat.succ_mul]
    omega

/-- What is written from here on gives the whole label. -/
private theorem Abreast.gives_insert {codes : List Nat} (h : Abreast basic lowest [] label w r)
    (hs : codes.Pairwise (· < ·)) (hl : ∀ n ∈ codes, lowest ≤ n)
    (hall : ∀ c ∈ label, lowest ≤ c.toNat → c.toNat ∈ codes) :
    ∃ written, (Writing.insert label basic codes lowest w).digits = w.digits ++ written ∧
      (∀ c ∈ written, ∃ d < 36, c = digit d) ∧ r.Gives written label := by
  induction codes generalizing lowest w r with
  | nil =>
    have hlabel : r.label = label := by
      rw [h.label, List.filter_nil, List.nil_append]
      refine List.filter_eq_self.mpr fun c hc => decide_eq_true (Nat.lt_of_not_le fun hle => ?_)
      exact List.not_mem_nil (hall c hc hle)
    refine ⟨[], (List.append_nil _).symm, List.forall_mem_nil _, ?_⟩
    rw [← hlabel]
    exact .done r
  | cons n codes ih =>
    obtain ⟨hn, hs⟩ := List.pairwise_cons.mp hs
    have hnone : ∀ c ∈ label, lowest ≤ c.toNat → n ≤ c.toNat := by
      intro c hc hle
      rcases List.mem_cons.mp (hall c hc hle) with he | hm
      · exact Nat.le_of_eq he.symm
      · exact Nat.le_of_lt (hn _ hm)
    have hlower := hl n List.mem_cons_self
    obtain ⟨first, r', hfirst, hleads, h'⟩ := (h.skip hlower hnone).foldl_pass
    have hrest : ∀ c ∈ label, n + 1 ≤ c.toNat → c.toNat ∈ codes := by
      intro c hc hle
      rcases List.mem_cons.mp (hall c hc (Nat.le_trans hlower (Nat.le_of_lt hle))) with he | hm
      · exact absurd he (Nat.ne_of_gt hle)
      · exact hm
    obtain ⟨second, hsecond, hdigits, hgives⟩ := ih h'.next hs hn hrest
    refine ⟨first ++ second, ?_, List.forall_mem_append.mpr ⟨hleads.digits, hdigits⟩,
      hleads.gives _ _ hgives⟩
    rw [Writing.insert, hsecond, ← List.append_assoc]
    exact congrArg (· ++ second) hfirst

end

private theorem mem_insertAscending {m n : Nat} {codes : List Nat} :
    m ∈ insertAscending n codes ↔ m = n ∨ m ∈ codes := by
  fun_induction insertAscending n codes with
  | case1 => simp
  | case2 => simp
  | case3 => simp
  | case4 k ks hlt hne ih =>
    rw [List.mem_cons, ih, List.mem_cons]
    exact or_left_comm

private theorem pairwise_insertAscending {n : Nat} {codes : List Nat} (h : codes.Pairwise (· < ·)) :
    (insertAscending n codes).Pairwise (· < ·) := by
  fun_induction insertAscending n codes with
  | case1 => exact List.pairwise_singleton _ _
  | case2 k ks hlt =>
    refine List.pairwise_cons.mpr ⟨List.forall_mem_cons.mpr ⟨hlt, fun m hm => ?_⟩, h⟩
    exact Nat.lt_trans hlt ((List.pairwise_cons.mp h).1 m hm)
  | case3 => exact h
  | case4 k ks hlt hne ih =>
    obtain ⟨hk, hks⟩ := List.pairwise_cons.mp h
    refine List.pairwise_cons.mpr ⟨fun m hm => ?_, ih hks⟩
    rcases mem_insertAscending.mp hm with rfl | hm
    · omega
    · exact hk m hm

private theorem mem_extendedCodes {n : Nat} {label : List Char} :
    n ∈ extendedCodes label ↔ 128 ≤ n ∧ ∃ c ∈ label, c.toNat = n := by
  unfold extendedCodes
  induction label with
  | nil => simp
  | cons c label ih =>
    rw [List.foldr_cons]
    split
    · rw [ih]
      refine and_congr_right fun hn => ?_
      simp only [List.mem_cons, exists_eq_or_imp]
      exact (or_iff_right (by omega)).symm
    · rw [mem_insertAscending, ih]
      simp only [List.mem_cons, exists_eq_or_imp]
      constructor
      · rintro (rfl | ⟨hn, hm⟩)
        · exact ⟨by omega, Or.inl rfl⟩
        · exact ⟨hn, Or.inr hm⟩
      · rintro ⟨hn, rfl | hm⟩
        · exact Or.inl rfl
        · exact Or.inr ⟨hn, hm⟩

private theorem pairwise_extendedCodes (label : List Char) :
    (extendedCodes label).Pairwise (· < ·) := by
  unfold extendedCodes
  induction label with
  | nil => exact List.Pairwise.nil
  | cons c label ih =>
    rw [List.foldr_cons]
    split
    · exact ih
    · exact pairwise_insertAscending ih

def basicPart (label : List Char) : List Char := label.filter (·.toNat < 128)

/-- The digits of the form, which give the label back. -/
private theorem exists_digits (label : List Char) :
    ∃ digits, encode label =
        (if (basicPart label).isEmpty then digits else basicPart label ++ '-' :: digits) ∧
      (∀ c ∈ digits, ∃ d < 36, c = digit d) ∧
      Reading.Gives { label := basicPart label } digits label := by
  have h : Abreast (basicPart label).length 128 [] label { count := (basicPart label).length }
      { label := basicPart label } :=
    ⟨rfl, rfl, rfl, Nat.le_refl _, by simp, Or.inl ⟨rfl, rfl⟩⟩
  obtain ⟨digits, hdigits, hshape, hgives⟩ := h.gives_insert (pairwise_extendedCodes label)
    (fun n hn => (mem_extendedCodes.mp hn).1)
    (fun c hc hle => mem_extendedCodes.mpr ⟨hle, c, hc, rfl⟩)
  refine ⟨digits, ?_, hshape, hgives⟩
  rw [List.nil_append] at hdigits
  rw [← hdigits]
  rfl

/-- A form has the ASCII characters of its label, hyphens and digits. -/
theorem mem_encode {label : List Char} {c : Char} (h : c ∈ encode label) :
    (c ∈ label ∧ c.toNat < 128) ∨ c = '-' ∨ ∃ d < 36, c = digit d := by
  obtain ⟨digits, hform, hshape, -⟩ := exists_digits label
  have hmem : c ∈ basicPart label ∨ c = '-' ∨ c ∈ digits := by
    rw [hform] at h
    split at h
    · exact Or.inr (Or.inr h)
    · rwa [List.mem_append, List.mem_cons] at h
  rcases hmem with hbasic | rfl | hdigit
  · obtain ⟨hc, hlt⟩ := List.mem_filter.mp hbasic
    exact Or.inl ⟨hc, of_decide_eq_true hlt⟩
  · exact Or.inr (Or.inl rfl)
  · exact Or.inr (Or.inr (hshape c hdigit))

private theorem digit_ne_hyphen : ∀ d < 36, digit d ≠ '-' := by decide

private theorem hyphen_notMem_digits {digits : List Char}
    (h : ∀ c ∈ digits, ∃ d < 36, c = digit d) :
    ∀ c ∈ digits, c ≠ '-' := by
  intro c hc
  obtain ⟨d, hd, rfl⟩ := h c hc
  exact digit_ne_hyphen d hd

/-- A form is cut at its last hyphen. -/
private theorem cutBasic_hyphen (basic : List Char) {digits : List Char}
    (h : ∀ c ∈ digits, c ≠ '-') :
    cutBasic (basic ++ '-' :: digits) = (basic, digits) := by
  have htake : ((basic ++ '-' :: digits).reverse.takeWhile (· ≠ '-')).reverse = digits := by
    rw [List.reverse_append, List.reverse_cons, List.append_assoc,
      List.takeWhile_append_of_pos (by simpa using h), List.singleton_append,
      List.takeWhile_cons_of_neg (by simp), List.append_nil, List.reverse_reverse]
  have hlength : (basic ++ '-' :: digits).length - digits.length = (basic ++ ['-']).length := by
    simp
    omega
  have hfront : (basic ++ '-' :: digits).take (basic ++ ['-']).length = basic ++ ['-'] := by
    rw [List.append_cons basic '-' digits, List.take_left]
  rw [cutBasic, htake, hlength, hfront, List.dropLast_concat]

private theorem cutBasic_digits {digits : List Char} (h : ∀ c ∈ digits, c ≠ '-') :
    cutBasic digits = ([], digits) := by
  have htake : (digits.reverse.takeWhile (· ≠ '-')).reverse = digits := by
    rw [← List.append_nil digits.reverse, List.takeWhile_append_of_pos (by simpa using h),
      List.takeWhile_nil, List.append_nil, List.reverse_reverse]
  rw [cutBasic, htake, Nat.sub_self, List.take_zero, List.dropLast_nil]

/-- The form of a label stands for it. -/
theorem decode_encode (label : List Char) : decode (encode label) = some label := by
  obtain ⟨digits, hform, hshape, hgives⟩ := exists_digits label
  have hcut : cutBasic (encode label) = (basicPart label, digits) := by
    rw [hform]
    split
    · rename_i hempty
      rw [List.isEmpty_iff.mp hempty]
      exact cutBasic_digits (hyphen_notMem_digits hshape)
    · exact cutBasic_hyphen _ (hyphen_notMem_digits hshape)
  have hbasic : (basicPart label).all (·.toNat < 128) :=
    List.all_eq_true.mpr fun c hc => (List.mem_filter.mp hc).2
  simp only [decode, hcut]
  exact (if_pos hbasic).trans (hgives.readInsertions_eq (Nat.le_refl _))

end PreviewHub.Punycode
