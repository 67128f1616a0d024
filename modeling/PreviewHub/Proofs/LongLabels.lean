import PreviewHub.Proofs.HostNames

/-! Labels whose ASCII forms are too long to be read. A label of ideographs that lie far apart takes
three digits for nearly each of them, so a label within the limit for labels can have a form beyond
the limit for forms. -/

namespace PreviewHub

namespace Punycode

private theorem length_writeDistance_pos (bias k distance : Nat) :
    0 < (writeDistance bias k distance).length := by
  rw [writeDistance]
  split <;> simp

/-- Two digits do not reach this far, whatever the bias. -/
private theorem three_le_length_writeDistance {bias distance : Nat} (h : 911 ≤ distance) :
    3 ≤ (writeDistance bias 36 distance).length := by
  have hpos := threshold_pos bias 36
  have hfirst := threshold_le bias 36
  have hsecond := threshold_le bias (36 + 36)
  have hrest : 26 ≤ (distance - threshold bias 36) / (36 - threshold bias 36) := by
    rw [Nat.le_div_iff_mul_le (by omega)]
    omega
  rw [writeDistance, if_neg (by omega), writeDistance, if_neg (by omega), List.length_cons,
    List.length_cons]
  have hthird := length_writeDistance_pos bias (36 + 36 + 36)
    (((distance - threshold bias 36) / (36 - threshold bias 36) - threshold bias (36 + 36)) /
      (36 - threshold bias (36 + 36)))
  omega

section
variable (basic n : Nat)

private theorem Writing.pass_grows (w : Writing) (c : Char) :
    w.digits.length ≤ (w.pass basic n c).digits.length ∧ w.count ≤ (w.pass basic n c).count := by
  unfold Writing.pass
  split
  · exact ⟨Nat.le_refl _, Nat.le_refl _⟩
  · split
    · exact ⟨by simp, Nat.le_succ _⟩
    · exact ⟨Nat.le_refl _, Nat.le_refl _⟩

private theorem Writing.foldl_pass_grows (label : List Char) (w : Writing) :
    w.digits.length ≤ (label.foldl (Writing.pass basic n) w).digits.length ∧
      w.count ≤ (label.foldl (Writing.pass basic n) w).count := by
  induction label generalizing w with
  | nil => exact ⟨Nat.le_refl _, Nat.le_refl _⟩
  | cons c label ih =>
    obtain ⟨hdigits, hcount⟩ := w.pass_grows basic n c
    obtain ⟨hdigits', hcount'⟩ := ih (w.pass basic n c)
    exact ⟨Nat.le_trans hdigits hdigits', Nat.le_trans hcount hcount'⟩

/-- A code of the label is inserted, with three digits if the distance to it is large. -/
private theorem Writing.foldl_pass_writes {label : List Char} (w : Writing)
    (h : ∃ c ∈ label, c.toNat = n) :
    w.count < (label.foldl (Writing.pass basic n) w).count ∧
      (911 ≤ w.distance →
        w.digits.length + 3 ≤ (label.foldl (Writing.pass basic n) w).digits.length) := by
  induction label generalizing w with
  | nil =>
    obtain ⟨c, hc, -⟩ := h
    cases hc
  | cons c label ih =>
    rw [List.foldl_cons]
    by_cases heq : c.toNat = n
    · obtain ⟨hdigits, hcount⟩ := (w.pass basic n c).foldl_pass_grows basic n label
      have hpass : w.pass basic n c =
          { digits := w.digits ++ writeDistance w.bias 36 w.distance
            distance := 0
            bias := adapt w.distance (w.count + 1) (w.count == basic)
            count := w.count + 1 } := by
        rw [Writing.pass, if_neg (by omega), if_pos heq]
      rw [hpass] at hdigits hcount ⊢
      refine ⟨hcount, fun hfar => Nat.le_trans ?_ hdigits⟩
      rw [List.length_append]
      exact Nat.add_le_add_left (three_le_length_writeDistance hfar) _
    · have hrest : ∃ c ∈ label, c.toNat = n := by
        obtain ⟨d, hd, hn⟩ := h
        rcases List.mem_cons.mp hd with rfl | hd
        · exact absurd hn heq
        · exact ⟨d, hd, hn⟩
      rcases Nat.lt_or_gt_of_ne heq with hlt | hgt
      · rw [Writing.pass, if_pos hlt]
        obtain ⟨hcount, hdigits⟩ := ih { w with distance := w.distance + 1 } hrest
        exact ⟨hcount, fun hfar => hdigits (Nat.le_succ_of_le hfar)⟩
      · rw [Writing.pass, if_neg (by omega), if_neg heq]
        exact ih w hrest

end

/-- Once 47 characters are in place, codes that lie far apart take three digits each. -/
private theorem Writing.length_insert {label : List Char} {codes : List Nat} (basic lowest : Nat)
    (w : Writing) (hcodes : ∀ n ∈ codes, ∃ c ∈ label, c.toNat = n)
    (hfar : codes.Pairwise (· + 20 ≤ ·)) (hlowest : ∀ n ∈ codes, lowest + 19 ≤ n) :
    w.digits.length + 3 * codes.length ≤
      (Writing.insert label basic codes lowest w).digits.length + 3 * (47 - w.count) := by
  induction codes generalizing lowest w with
  | nil => exact Nat.le_add_right _ _
  | cons n codes ih =>
    obtain ⟨hn, hcodes⟩ := List.forall_mem_cons.mp hcodes
    obtain ⟨hnext, hfar⟩ := List.pairwise_cons.mp hfar
    obtain ⟨hl, -⟩ := List.forall_mem_cons.mp hlowest
    let skipped : Writing := { w with distance := w.distance + (n - lowest) * (w.count + 1) }
    let passed : Writing := label.foldl (Writing.pass basic n) skipped
    have hgrows : w.digits.length ≤ passed.digits.length :=
      (skipped.foldl_pass_grows basic n label).1
    obtain ⟨hcount, hthree⟩ := skipped.foldl_pass_writes basic n hn
    have hrest : passed.digits.length + 3 * codes.length ≤
        (Writing.insert label basic (n :: codes) lowest w).digits.length +
          3 * (47 - passed.count) :=
      ih (n + 1) { passed with distance := passed.distance + 1 } hcodes hfar fun m hm => by
        have := hnext m hm
        omega
    rw [List.length_cons]
    by_cases hmany : 47 ≤ w.count
    · have hdistance : 911 ≤ skipped.distance := by
        show 911 ≤ w.distance + (n - lowest) * (w.count + 1)
        have : 19 * 48 ≤ (n - lowest) * (w.count + 1) := Nat.mul_le_mul (by omega) (by omega)
        omega
      have hthree : w.digits.length + 3 ≤ passed.digits.length := hthree hdistance
      have hcount : w.count < passed.count := hcount
      omega
    · have hcount : w.count < passed.count := hcount
      omega

private theorem insertAscending_of_lt {n : Nat} {codes : List Nat} (h : ∀ m ∈ codes, n < m) :
    insertAscending n codes = n :: codes := by
  cases codes with
  | nil => rfl
  | cons m codes => exact if_pos (h m List.mem_cons_self)

private theorem extendedCodes_of_ascending {label : List Char}
    (hbeyond : ∀ c ∈ label, 128 ≤ c.toNat)
    (h : (label.map Char.toNat).Pairwise (· < ·)) : extendedCodes label = label.map Char.toNat := by
  induction label with
  | nil => rfl
  | cons c label ih =>
    obtain ⟨hc, hbeyond⟩ := List.forall_mem_cons.mp hbeyond
    obtain ⟨hlt, h⟩ := List.pairwise_cons.mp h
    have hrest := ih hbeyond h
    unfold extendedCodes at hrest ⊢
    rw [List.foldr_cons, hrest, if_neg (by omega), insertAscending_of_lt hlt]
    rfl

private theorem length_digits_le (label : List Char) :
    (Writing.insert label (basicPart label).length (extendedCodes label) 128
      { count := (basicPart label).length }).digits.length ≤ (encode label).length := by
  unfold encode
  simp only
  split
  · exact Nat.le_refl _
  · rw [List.length_append, List.length_cons]
    exact Nat.le_trans (Nat.le_succ _) (Nat.le_add_left _ _)

/-- The form of a label whose codes lie far apart is nearly three times as long as the label. -/
theorem length_encode_ge {label : List Char} (hbeyond : ∀ c ∈ label, 147 ≤ c.toNat)
    (hfar : (label.map Char.toNat).Pairwise (· + 20 ≤ ·)) :
    3 * label.length ≤ (encode label).length + 141 := by
  have hcodes : extendedCodes label = label.map Char.toNat :=
    extendedCodes_of_ascending (fun c hc => Nat.le_trans (by decide) (hbeyond c hc))
      (hfar.imp fun h => by omega)
  have hdigits := length_digits_le label
  rw [hcodes] at hdigits
  calc 3 * label.length
      = 0 + 3 * (label.map Char.toNat).length := by rw [List.length_map, Nat.zero_add]
    _ ≤ _ + 3 * (47 - (basicPart label).length) :=
        Writing.length_insert (basicPart label).length 128 { count := (basicPart label).length }
          (fun n hn => List.mem_map.mp hn) hfar (by simpa using hbeyond)
    _ ≤ (encode label).length + 141 := Nat.add_le_add hdigits (by omega)

end Punycode

def isIdeographCode (n : Nat) : Bool := 0x4e00 ≤ n && n ≤ 0x9fff

theorem isIdeographCode_iff {n : Nat} : isIdeographCode n ↔ 0x4e00 ≤ n ∧ n ≤ 0x9fff := by
  simp only [isIdeographCode, Bool.and_eq_true, decide_eq_true_eq]

theorem ne_of_isIdeographCode {c d : Char} (hc : isIdeographCode c.toNat)
    (hd : isIdeographCode d.toNat = false) : c ≠ d := by
  rintro rfl
  rw [hc] at hd
  cases hd

namespace Label

section
variable {c : Char} (h : isIdeographCode c.toNat)
include h

private theorem isMark_ideograph : isMark c = false :=
  Text.Runs.has_eq_false (isIdeographCode_iff.mp h) (by decide +kernel)

private theorem turnsText_ideograph : turnsText c = false := by
  rw [turnsText, direction, Text.classOf_eq_none (isIdeographCode_iff.mp h) (by decide +kernel)]
  split <;> rfl

private theorem isAllowed_ideograph : isAllowed c := by
  have hcode := isIdeographCode_iff.mp h
  have hrun : (0x3400, 0xa48c) ∈ middleRuns := by decide +kernel
  have hmiddle : middleRuns.has c := by
    refine List.any_eq_true.mpr ⟨_, hrun, ?_⟩
    simp only [Bool.and_eq_true, decide_eq_true_eq]
    omega
  rw [isAllowed, if_neg (by rw [isAscii, decide_eq_true_eq]; omega), hmiddle, Bool.or_true]
  rfl

end

private theorem toNat_ofNat_ideograph {n : Nat} (h : isIdeographCode n) :
    (Char.ofNat n).toNat = n := by
  have hcode := isIdeographCode_iff.mp h
  rw [Char.toNat_ofNat, if_pos (Or.inl (by omega))]

/-- Ideographs are not composed of others, nor with others. -/
private theorem compose_ideographs {label : List Char} (h : ∀ c ∈ label, isIdeographCode c.toNat) :
    compose label = label :=
  compose_of_inert fun c hc => inert_of_stretch (isIdeographCode_iff.mp (h c hc)) (by omega)
    (by decide +kernel) (by decide +kernel)

theorem isPlain_ideographs {label : List Char} (h : ∀ c ∈ label, isIdeographCode c.toNat) :
    isPlain label := by
  rw [isPlain, compose_ideographs h, beq_self_eq_true, Bool.and_true]
  exact List.all_eq_true.mpr fun c hc => isAllowed_ideograph (h c hc)

private theorem joinersFit_ideographs {label : List Char} (before : List Char)
    (h : ∀ c ∈ label, isIdeographCode c.toNat) : joinersFit before label := by
  induction label generalizing before with
  | nil => rfl
  | cons c label ih =>
    obtain ⟨hc, hlabel⟩ := List.forall_mem_cons.mp h
    have hnon : c ≠ nonJoiner := ne_of_isIdeographCode hc (by decide)
    have hjoiner : c ≠ joiner := ne_of_isIdeographCode hc (by decide)
    simp [joinersFit, hnon, hjoiner, ih (c :: before) hlabel]

/-- A label of ideographs can be had, up to the limit. -/
private theorem isAdmissible_ideographs {label : List Char}
    (h : ∀ c ∈ label, isIdeographCode c.toNat)
    (hlength : label.length ≤ maxLength) : isAdmissible label := by
  have hmark : (label.head?.map isMark).getD false = false := by
    cases label with
    | nil => rfl
    | cons c label => exact isMark_ideograph (h c List.mem_cons_self)
  simp [isAdmissible, hmark, joinersFit_ideographs [] h, hlength]

section
variable {label : List Char} (h : ∀ c ∈ label, isIdeographCode c.toNat) (hne : label ≠ [])
  (hlength : label.length ≤ maxLength)
include h hne

private theorem not_all_isAscii_ideographs : ¬ label.all isAscii := by
  obtain ⟨c, cs, rfl⟩ := List.exists_cons_of_ne_nil hne
  have hc := isIdeographCode_iff.mp (h c List.mem_cons_self)
  intro hall
  have hascii : c.toNat < 128 := of_decide_eq_true (List.all_eq_true.mp hall c List.mem_cons_self)
  omega

theorem toAscii_ideographs : toAscii label = asciiMark ++ Punycode.encode label :=
  if_neg (not_all_isAscii_ideographs h hne)

include hlength

theorem read_ideographs : read label = some label := by
  have hmark : label.take 4 ≠ asciiMark := by
    obtain ⟨c, cs, rfl⟩ := List.exists_cons_of_ne_nil hne
    intro htake
    have hx : c = 'x' := by
      rw [List.take_succ_cons] at htake
      exact (List.cons.inj htake).1
    exact ne_of_isIdeographCode (h c List.mem_cons_self) (by decide) hx
  rw [read, if_neg hmark, isAdmissible_ideographs h hlength, Bool.or_true, if_pos rfl]

end

def sparse : List Char := (List.range 800).map fun i => Char.ofNat (0x4e00 + 20 * i)

theorem length_sparse : sparse.length = 800 := by
  rw [sparse, List.length_map, List.length_range]

private theorem isIdeographCode_sparse {i : Nat} (h : i < 800) :
    isIdeographCode (0x4e00 + 20 * i) :=
  isIdeographCode_iff.mpr (by omega)

private theorem map_toNat_sparse :
    sparse.map Char.toNat = (List.range 800).map (0x4e00 + 20 * ·) := by
  rw [sparse, List.map_map]
  refine List.map_congr_left fun i hi => ?_
  exact toNat_ofNat_ideograph (isIdeographCode_sparse (List.mem_range.mp hi))

theorem mem_sparse {c : Char} (h : c ∈ sparse) : isIdeographCode c.toNat := by
  have hmem := List.mem_map_of_mem (f := Char.toNat) h
  rw [map_toNat_sparse] at hmem
  obtain ⟨i, hi, hc⟩ := List.mem_map.mp hmem
  rw [← hc]
  exact isIdeographCode_sparse (List.mem_range.mp hi)

theorem pairwise_sparse : (sparse.map Char.toNat).Pairwise (· + 20 ≤ ·) := by
  rw [map_toNat_sparse, List.pairwise_map]
  exact List.pairwise_lt_range.imp fun h => by omega

end Label

namespace Domain

theorem isForbidden_ideograph {c : Char} (h : isIdeographCode c.toNat) : isForbidden c = false := by
  have hothers (marks : List Char) (hall : marks.all (!isIdeographCode ·.toNat)) :
      marks.contains c = false := by
    refine Bool.eq_false_iff.mpr fun hmem => ?_
    have hc := List.all_eq_true.mp hall c (List.contains_iff_mem.mp hmem)
    rw [h] at hc
    cases hc
  have hcode := isIdeographCode_iff.mp h
  rw [isForbidden, hothers _ (by decide), decide_eq_false (by omega), decide_eq_false (by omega)]
  rfl

/-- A host name of ideographs has an ASCII form, however long that is. -/
theorem toAscii_ideographs {label : List Char} (h : ∀ c ∈ label, isIdeographCode c.toNat)
    (hne : label ≠ []) (hlength : label.length ≤ Label.maxLength) :
    toAscii label = some (Label.toAscii label) := by
  have hnotMem (d : Char) (hd : isIdeographCode d.toNat = false) : d ∉ label :=
    fun hmem => ne_of_isIdeographCode (h d hmem) hd rfl
  have hsplit : Text.split '.' label = [label] := Text.split_part (hnotMem '.' (by decide))
  have hplain : plainLabels? label = some [label] := by
    rw [← hsplit]
    refine plainLabels?_eq_split (hnotMem '%' (by decide))
      (fun c hc => Label.isAllowed_ideograph (h c hc)) fun part hpart => ?_
    rw [hsplit, List.mem_singleton] at hpart
    rw [hpart, Label.compose_ideographs h]
  have hforbidden : [label].any (·.any isForbidden) = false := by
    rw [List.any_cons, List.any_nil, Bool.or_false]
    exact List.any_eq_false.mpr fun c hc => by simp [isForbidden_ideograph (h c hc)]
  have hturns : label.any Label.turnsText = false :=
    List.any_eq_false.mpr fun c hc => by simp [Label.turnsText_ideograph (h c hc)]
  have hread : [label].mapM Label.read = some [label] := by
    rw [List.mapM_cons, Label.read_ideographs h hne hlength]
    rfl
  simp only [toAscii, hplain, hforbidden, hread, Label.directionsAgree, List.any_cons, hturns]
  rfl

end Domain

end PreviewHub
