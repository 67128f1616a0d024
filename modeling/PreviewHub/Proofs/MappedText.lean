import PreviewHub.Origin.Label.Basic
import PreviewHub.Proofs.ComposedText

/-! Plain text. What a character stands for may stand in a label itself, and so may all that takes
part in compositions. So text is plain once it is mapped and composed. -/

namespace PreviewHub.Label

private def beyondRuns : Text.Runs := lowRuns ++ (middleRuns ++ highRuns)

private def allowedBits : Nat := Text.Runs.bits ((0, 0x40) :: (0x5b, 0x7f) :: beyondRuns)

private theorem beyondRuns_valid : beyondRuns.all fun run =>
    0x80 ≤ run.1 && (run.2 < 0xd800 || 0xe000 ≤ run.1 && run.2 < 0x110000) := by
  decide +kernel

private theorem testBit_allowedBits (n : Nat) : allowedBits.testBit n =
    (n ≤ 0x40 || (0x5b ≤ n && n ≤ 0x7f || beyondRuns.any fun run => run.1 ≤ n && n ≤ run.2)) := by
  rw [allowedBits, Text.Runs.testBit_bits, List.any_cons, List.any_cons]
  simp

private theorem beyondRuns_le {n : Nat} (h : beyondRuns.any fun run => run.1 ≤ n && n ≤ run.2) :
    0x80 ≤ n ∧ (n < 0xd800 ∨ 0xe000 ≤ n ∧ n < 0x110000) := by
  obtain ⟨run, hmem, hrun⟩ := List.any_eq_true.mp h
  have hvalid := List.all_eq_true.mp beyondRuns_valid run hmem
  simp only [Bool.or_eq_true, Bool.and_eq_true, decide_eq_true_eq] at hrun hvalid
  omega

private theorem toNat_ofNat_of_testBit {n : Nat} (h : allowedBits.testBit n) :
    (Char.ofNat n).toNat = n := by
  rw [testBit_allowedBits] at h
  simp only [Bool.or_eq_true, Bool.and_eq_true, decide_eq_true_eq] at h
  refine (Char.toNat_ofNat n).trans (if_pos ?_)
  rcases h with h | h | h
  · exact Or.inl (by omega)
  · exact Or.inl (by omega)
  · exact (beyondRuns_le h).2.imp_right fun h => ⟨by omega, h.2⟩

private theorem testBit_toNat (c : Char) : allowedBits.testBit c.toNat = isAllowed c := by
  have hbeyond : (beyondRuns.any fun run => run.1 ≤ c.toNat && c.toNat ≤ run.2) =
      (lowRuns.has c || middleRuns.has c || highRuns.has c) := by
    rw [beyondRuns, List.any_append, List.any_append, ← Bool.or_assoc]
    rfl
  rw [testBit_allowedBits, isAllowed, isAscii]
  by_cases hascii : c.toNat < 128
  · have hupper : c.isUpper ↔ 65 ≤ c.toNat ∧ c.toNat ≤ 90 := by
      simp [Char.isUpper, UInt32.le_iff_toNat_le, ← Char.toNat_val]
    have hnot : (beyondRuns.any fun run => run.1 ≤ c.toNat && c.toNat ≤ run.2) = false :=
      Bool.eq_false_iff.mpr fun h => absurd (beyondRuns_le h).1 (by omega)
    rw [hnot, if_pos (decide_eq_true hascii), Bool.eq_iff_iff]
    simp only [Bool.or_false, Bool.or_eq_true, Bool.and_eq_true, decide_eq_true_eq,
      Bool.not_eq_true', Bool.eq_false_iff, ne_eq, hupper]
    omega
  · rw [← hbeyond, if_neg (by simpa using hascii)]
    simp only [decide_eq_false (show ¬ c.toNat ≤ 0x40 by omega),
      decide_eq_false (show ¬ c.toNat ≤ 0x7f by omega), Bool.and_false, Bool.false_or]

private theorem isAllowed_ofNat {n : Nat} (h : allowedBits.testBit n) :
    isAllowed (Char.ofNat n) := by
  rw [← testBit_toNat, toNat_ofNat_of_testBit h]
  exact h

private theorem testBit_of_mem (run : Nat × Nat) {n : Nat} (hmem : run ∈ beyondRuns)
    (hn : run.1 ≤ n ∧ n ≤ run.2) : allowedBits.testBit n := by
  have hany : beyondRuns.any fun run => run.1 ≤ n && n ≤ run.2 :=
    List.any_eq_true.mpr ⟨run, hmem, by simpa using hn⟩
  rw [testBit_allowedBits, hany, Bool.or_true, Bool.or_true]

private def IsInner (n : Nat) : Prop := allowedBits.testBit n ∧ n ≠ 46

private theorem isInner_jamo {n : Nat} (h : 0x1100 ≤ n ∧ n < 0x1113 ∨ 0x1161 ≤ n ∧ n < 0x11c3) :
    IsInner n := by
  refine ⟨?_, by omega⟩
  rcases h with h | h
  · exact testBit_of_mem (0x10fd, 0x115e) (by decide +kernel) (by omega)
  · exact testBit_of_mem (0x1161, 0x1248) (by decide +kernel) (by omega)

private theorem isInner_syllable {n : Nat} (h : 0xac00 ≤ n ∧ n < 0xd7a4) : IsInner n :=
  ⟨testBit_of_mem (0xac00, 0xd7a3) (by decide +kernel) (by omega), by omega⟩

private theorem Composite.isInner {a b c : Nat} (h : Composite a b c) :
    IsInner a ∧ IsInner b ∧ IsInner c := by
  cases h with
  | listed h =>
    have hall : compositions.all fun entry =>
        (allowedBits.testBit entry.1 && entry.1 ≠ 46) &&
          (allowedBits.testBit entry.2.1 && entry.2.1 ≠ 46) &&
          (allowedBits.testBit entry.2.2 && entry.2.2 ≠ 46) := by decide +kernel
    have hentry := List.all_eq_true.mp hall _ h
    simp only [Bool.and_eq_true, decide_eq_true_eq] at hentry
    exact ⟨hentry.1.1, hentry.1.2, hentry.2⟩
  | openSyllable hl hv =>
    exact ⟨isInner_jamo (by omega), isInner_jamo (by omega), isInner_syllable (by omega)⟩
  | closedSyllable hs ht htt =>
    exact ⟨isInner_syllable (by omega), isInner_jamo (by omega), isInner_syllable (by omega)⟩

private theorem isInner_composed {text : List Char} (h : ∀ c ∈ text, isAllowed c ∧ c ≠ '.') :
    ∀ n ∈ composed (text.map Char.toNat), IsInner n := by
  refine forall_composed Composite.isInner fun n hn => ?_
  obtain ⟨c, hc, rfl⟩ := List.mem_map.mp hn
  obtain ⟨hallowed, hdot⟩ := h c hc
  exact ⟨(testBit_toNat c).trans hallowed, fun hcode => hdot (Char.toNat_inj.mp hcode)⟩

/-- Composing allowed text gives plain text, and no dots. -/
theorem isPlain_compose {text : List Char} (h : ∀ c ∈ text, isAllowed c ∧ c ≠ '.') :
    isPlain (compose text) ∧ '.' ∉ compose text := by
  have hinner := isInner_composed h
  have hcodes : (compose text).map Char.toNat = composed (text.map Char.toNat) := by
    rw [compose, List.map_map]
    refine (List.map_congr_left fun n hn => ?_).trans (List.map_id _)
    exact toNat_ofNat_of_testBit (hinner n hn).1
  refine ⟨?_, fun hdot => ?_⟩
  · rw [isPlain, Bool.and_eq_true, List.all_eq_true, beq_iff_eq]
    constructor
    · intro c hc
      obtain ⟨n, hn, rfl⟩ := List.mem_map.mp hc
      exact isAllowed_ofNat (hinner n hn).1
    · rw [compose, hcodes, composed_composed]
      rfl
  · have hcode : Char.toNat '.' ∈ composed (text.map Char.toNat) :=
      hcodes ▸ List.mem_map_of_mem hdot
    exact (hinner _ hcode).2 rfl

private theorem inRun?_allowed {n m : Nat} (h : inRun? n = some m) : allowedBits.testBit m := by
  have hall : letterRuns.all fun run => (List.range (run.2.1 + 1 - run.1)).all fun k =>
      k % run.2.2.1 ≠ 0 || allowedBits.testBit (run.2.2.2 + k) := by decide +kernel
  obtain ⟨⟨first, last, step, target⟩, hmem, hrun⟩ := List.exists_of_findSome?_eq_some h
  obtain ⟨hrange, hm⟩ := Option.ite_none_right_eq_some.mp hrun
  cases hm
  simp only [Bool.and_eq_true, decide_eq_true_eq] at hrange
  have hstep := List.all_eq_true.mp (List.all_eq_true.mp hall _ hmem) (n - first)
    (List.mem_range.mpr (by simp only; omega))
  simpa [hrange.2] using hstep

private theorem inBlock?_all {α : Type} {blocks : List (Nat × List α)} {p : α → Bool}
    (hall : blocks.all fun block => block.2.all p) {n : Nat} {entry : α}
    (h : inBlock? blocks n = some entry) : p entry := by
  obtain ⟨block, hmem, hblock⟩ := List.exists_of_findSome?_eq_some h
  obtain ⟨-, hentry⟩ := Option.ite_none_right_eq_some.mp hblock
  have hentries := List.all_eq_true.mp (List.all_eq_true.mp hall block hmem)
  exact hentries entry (List.mem_of_getElem? hentry)

private theorem mappedText?_allowed {n : Nat} {codes : List Nat} (h : mappedText? n = some codes) :
    ∀ m ∈ codes, allowedBits.testBit m := by
  have hletters : letterBlocks.all fun block => block.2.all (allowedBits.testBit ·) := by
    decide +kernel
  have hhigh : highLetterBlocks.all fun block => block.2.all (allowedBits.testBit ·) := by
    decide +kernel
  have htexts : textBlocks.all fun block => block.2.all (·.all (allowedBits.testBit ·)) := by
    decide +kernel
  have hhighTexts :
      highTextBlocks.all fun block => block.2.all (·.all (allowedBits.testBit ·)) := by
    decide +kernel
  simp only [mappedText?, mappedLetter?, Option.orElse_eq_some, Option.map_eq_some_iff] at h
  rcases h with ⟨m, h, rfl⟩ | ⟨-, h | ⟨-, h⟩⟩
  · refine List.forall_mem_singleton.mpr ?_
    rcases h with h | ⟨-, h | ⟨-, h⟩⟩
    · exact inRun?_allowed h
    · exact inBlock?_all hletters h
    · exact inBlock?_all hhigh h
  · exact List.all_eq_true.mp (inBlock?_all htexts h)
  · exact List.all_eq_true.mp (inBlock?_all hhighTexts h)

/-- What a character stands for may stand in a label. -/
theorem isAllowed_of_mapped? {c : Char} {text : List Char} (h : mapped? c = some text) :
    ∀ d ∈ text, isAllowed d := by
  unfold mapped? at h
  split at h
  · rename_i hallowed
    cases h
    simpa using hallowed
  · split at h
    · cases h
      exact List.forall_mem_nil _
    · obtain ⟨codes, hcodes, rfl⟩ := Option.map_eq_some_iff.mp h
      intro d hd
      obtain ⟨n, hn, rfl⟩ := List.mem_map.mp hd
      exact isAllowed_ofNat (mappedText?_allowed hcodes n hn)

end PreviewHub.Label
