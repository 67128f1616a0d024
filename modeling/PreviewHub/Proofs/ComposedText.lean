import Mathlib
import PreviewHub.Origin.Label.Composition

/-! Composing text. Whatever was composed is taken apart again to the same parts, and marks that a
composition has passed sink back to their places. So composed text stays as it is when it is
composed again. -/

namespace PreviewHub

namespace Text

def Runs.bits (runs : Runs) : Nat :=
  runs.foldr (fun run bits => (Nat.pow 2 (run.2 + 1 - run.1) - 1) <<< run.1 ||| bits) 0

theorem Runs.testBit_bits (runs : Runs) (n : Nat) :
    runs.bits.testBit n = runs.any fun run => run.1 ≤ n && n ≤ run.2 := by
  induction runs with
  | nil => exact Nat.zero_testBit n
  | cons run runs ih =>
    have hrun : ((Nat.pow 2 (run.2 + 1 - run.1) - 1) <<< run.1).testBit n =
        (decide (run.1 ≤ n) && decide (n ≤ run.2)) := by
      rw [Nat.testBit_shiftLeft]
      refine (congrArg _ (Nat.testBit_two_pow_sub_one _ _)).trans ?_
      by_cases hle : run.1 ≤ n
      · simp only [ge_iff_le, hle, decide_true, Bool.true_and, decide_eq_decide]
        omega
      · simp [hle]
    rw [bits, List.foldr_cons, Nat.testBit_or, hrun, List.any_cons, ← ih]
    rfl

def misses (first last : Nat) (run : Nat × Nat) : Bool := run.2 < first || last < run.1

section
variable {first last : Nat} {c : Char} (hc : first ≤ c.toNat ∧ c.toNat ≤ last)
include hc

theorem Runs.has_eq_false {runs : Runs} (h : runs.all (misses first last)) :
    runs.has c = false := by
  refine List.any_eq_false.mpr fun run hrun => ?_
  have hrun := List.all_eq_true.mp h run hrun
  simp only [misses, Bool.and_eq_true, Bool.or_eq_true, decide_eq_true_eq] at hrun ⊢
  omega

theorem classOf_eq_none {κ : Type} {classes : List (κ × Runs)}
    (h : classes.all fun entry => entry.2.all (misses first last)) : classOf classes c = none := by
  rw [classOf, Option.map_eq_none_iff, List.find?_eq_none]
  intro entry hentry
  simp [Runs.has_eq_false hc (List.all_eq_true.mp h entry hentry)]

end

end Text

namespace Label

inductive Composite : Nat → Nat → Nat → Prop where
  | listed {a b c : Nat} (h : (a, b, c) ∈ compositions) : Composite a b c
  | openSyllable {l v : Nat} (hl : l < 19) (hv : v < 21) :
      Composite (0x1100 + l) (0x1161 + v) (0xac00 + 28 * (21 * l + v))
  | closedSyllable {s t : Nat} (hs : s < 399) (ht : 0 < t) (htt : t < 28) :
      Composite (0xac00 + 28 * s) (0x11a7 + t) (0xac00 + 28 * s + t)

private def composites : Nat :=
  Text.Runs.bits (compositions.map fun entry => (entry.2.2, entry.2.2))

private def composedTwice : Nat :=
  Text.Runs.bits ((compositions.filter fun entry => composites.testBit entry.1).map fun entry =>
    (entry.2.2, entry.2.2))

private theorem testBit_results {entries : List (Nat × Nat × Nat)} {n : Nat} :
    (Text.Runs.bits (entries.map fun entry => (entry.2.2, entry.2.2))).testBit n ↔
      ∃ entry ∈ entries, entry.2.2 = n := by
  rw [Text.Runs.testBit_bits, List.any_map, List.any_eq_true]
  simp only [Function.comp_apply, Bool.and_eq_true, decide_eq_true_eq]
  exact exists_congr fun entry => and_congr_right fun _ => Nat.le_antisymm_iff.symm

private theorem nodup_results : (compositions.map (·.2.2)).Nodup := by
  have hchain : (compositions.map (·.2.2)).IsChain (· < ·) := by decide +kernel
  exact (List.isChain_iff_pairwise.mp hchain).imp Nat.ne_of_lt

private theorem listed_apart {a b c : Nat} (h : (a, b, c) ∈ compositions) :
    ¬ (0xac00 ≤ c ∧ c < 0xd7a4) ∧ ¬ (0x1100 ≤ c ∧ c < 0x11c3) ∧ ¬ (0xac00 ≤ a ∧ a < 0xd7a4) ∧
      ¬ (0xac00 ≤ b ∧ b < 0xd7a4) ∧ composites.testBit b = false ∧
      composedTwice.testBit a = false := by
  have hall : compositions.all fun entry =>
      !(0xac00 ≤ entry.2.2 && entry.2.2 < 0xd7a4) && !(0x1100 ≤ entry.2.2 && entry.2.2 < 0x11c3) &&
        !(0xac00 ≤ entry.1 && entry.1 < 0xd7a4) && !(0xac00 ≤ entry.2.1 && entry.2.1 < 0xd7a4) &&
        !composites.testBit entry.2.1 && !composedTwice.testBit entry.1 := by decide +kernel
  have hentry := List.all_eq_true.mp hall _ h
  simp only [Bool.and_eq_true, Bool.not_eq_true', Bool.and_eq_false_iff, decide_eq_false_iff_not]
    at hentry
  obtain ⟨⟨⟨⟨⟨hc, hc'⟩, ha⟩, hb⟩, hbit⟩, htwice⟩ := hentry
  exact ⟨by omega, by omega, by omega, by omega, hbit, htwice⟩

private theorem parts?_eq_none {n : Nat} (hn : ¬ (0xac00 ≤ n ∧ n < 0xd7a4))
    (h : composites.testBit n = false) : parts? n = none := by
  have hfind : compositions.find? (fun entry => entry.2.2 = n) = none := by
    refine List.find?_eq_none.mpr fun entry hmem heq => Bool.eq_false_iff.mp h ?_
    exact testBit_results.mpr ⟨entry, hmem, of_decide_eq_true heq⟩
  rw [parts?, if_neg (by simpa using hn), hfind]
  rfl

private theorem parts?_letter {n : Nat} (hn : 0x1100 ≤ n) (hn' : n < 0x11c3) : parts? n = none := by
  refine parts?_eq_none (by omega) (Bool.eq_false_iff.mpr fun h => ?_)
  obtain ⟨entry, hmem, rfl⟩ := testBit_results.mp h
  exact (listed_apart hmem).2.1 ⟨hn, hn'⟩

private theorem Composite.parts? {a b c : Nat} (h : Composite a b c) : parts? c = some (a, b) := by
  cases h with
  | listed h =>
    have hfind : compositions.find? (fun entry => entry.2.2 = c) = some (a, b, c) := by
      cases hf : compositions.find? (fun entry => entry.2.2 = c) with
      | none => exact absurd (decide_eq_true rfl) (List.find?_eq_none.mp hf _ h)
      | some entry =>
        have hc : entry.2.2 = c := by simpa using List.find?_some hf
        rw [List.inj_on_of_nodup_map nodup_results (List.mem_of_find?_eq_some hf) h hc]
    rw [Label.parts?, if_neg (by simpa using (listed_apart h).1), hfind]
    rfl
  | openSyllable hl hv =>
    simp only [Label.parts?]
    rw [if_pos (by simp only [Bool.and_eq_true, decide_eq_true_eq]; omega), if_pos (by omega)]
    simp only [Option.some.injEq, Prod.mk.injEq]
    omega
  | closedSyllable hs ht htt =>
    simp only [Label.parts?]
    rw [if_pos (by simp only [Bool.and_eq_true, decide_eq_true_eq]; omega), if_neg (by omega)]
    simp only [Option.some.injEq, Prod.mk.injEq]
    omega

private theorem composite_of_parts? {a b c : Nat} (h : parts? c = some (a, b)) :
    Composite a b c := by
  simp only [parts?] at h
  split at h
  · rename_i hc
    simp only [Bool.and_eq_true, decide_eq_true_eq] at hc
    split at h
    · obtain ⟨rfl, rfl⟩ := Prod.mk.inj (Option.some.inj h)
      have := @Composite.openSyllable ((c - 0xac00) / 588) ((c - 0xac00) / 28 % 21)
        (by omega) (by omega)
      convert this using 1
      omega
    · obtain ⟨rfl, rfl⟩ := Prod.mk.inj (Option.some.inj h)
      have := @Composite.closedSyllable ((c - 0xac00) / 28) ((c - 0xac00) % 28) (by omega)
        (by omega) (by omega)
      convert this using 1 <;> omega
  · obtain ⟨entry, hf, hab⟩ := Option.map_eq_some_iff.mp h
    obtain ⟨rfl, rfl⟩ := Prod.mk.inj hab
    have hc : entry.2.2 = c := by simpa using List.find?_some hf
    exact .listed (hc ▸ List.mem_of_find?_eq_some hf)

private theorem composite_of_compose? {a b c : Nat} (h : compose? a b = some c) :
    Composite a b c := by
  unfold compose? at h
  split at h
  · rename_i hab
    simp only [Bool.and_eq_true, decide_eq_true_eq] at hab
    have := @Composite.openSyllable (a - 0x1100) (b - 0x1161) (by omega) (by omega)
    rw [← Option.some.inj h]
    convert this using 1 <;> omega
  · split at h
    · rename_i hab
      simp only [Bool.and_eq_true, decide_eq_true_eq] at hab
      have := @Composite.closedSyllable ((a - 0xac00) / 28) (b - 0x11a7) (by omega) (by omega)
        (by omega)
      rw [← Option.some.inj h]
      convert this using 1 <;> omega
    · obtain ⟨entry, hf, rfl⟩ := Option.map_eq_some_iff.mp h
      have hab := List.find?_some hf
      simp only [Bool.and_eq_true, decide_eq_true_eq] at hab
      exact .listed (hab.1 ▸ hab.2 ▸ List.mem_of_find?_eq_some hf)

private theorem Composite.second_apart {a b c : Nat} (h : Composite a b c) :
    Label.parts? b = none := by
  cases h with
  | listed h =>
    obtain ⟨-, -, -, hb, hbit, -⟩ := listed_apart h
    exact parts?_eq_none hb hbit
  | openSyllable hl hv => exact parts?_letter (by omega) (by omega)
  | closedSyllable hs ht htt => exact parts?_letter (by omega) (by omega)

private theorem Composite.first_apart {a b c a' b' : Nat} (h : Composite a b c)
    (h' : Composite a' b' a) : Label.parts? a' = none := by
  cases h with
  | listed h =>
    obtain ⟨-, -, ha, -, -, htwice⟩ := listed_apart h
    cases h' with
    | listed h' =>
      obtain ⟨-, -, ha', -, -, -⟩ := listed_apart h'
      refine parts?_eq_none ha' (Bool.eq_false_iff.mpr fun hbit => ?_)
      refine Bool.eq_false_iff.mp htwice (testBit_results.mpr ⟨(a', b', a), ?_, rfl⟩)
      exact List.mem_filter.mpr ⟨h', hbit⟩
    | openSyllable hl hv => omega
    | closedSyllable hs ht htt => omega
  | openSyllable hl hv =>
    have := h'.parts?
    rw [parts?_letter (by omega) (by omega)] at this
    cases this
  | closedSyllable hs ht htt =>
    generalize hsyllable : 0xac00 + 28 * _ = syllable at h'
    cases h' with
    | listed h' =>
      have := (listed_apart h').1
      omega
    | openSyllable hl hv => exact parts?_letter (by omega) (by omega)
    | closedSyllable hs' ht' htt' => omega

private theorem takeApart_of_none {n : Nat} (h : parts? n = none) (depth : Nat) :
    takeApart depth n = [n] := by
  cases depth with
  | zero => rfl
  | succ depth => rw [takeApart, h]

/-- Taking apart comes to an end before its depth does. -/
private theorem Composite.takeApart {a b c : Nat} (h : Composite a b c) :
    takeApart 3 c = takeApart 3 a ++ [b] := by
  rw [Label.takeApart, h.parts?]
  refine congrArg (· ++ [b]) ?_
  cases hparts : Label.parts? a with
  | none => rw [takeApart_of_none hparts, takeApart_of_none hparts]
  | some ab =>
    have h' : Composite ab.1 ab.2 a := composite_of_parts? hparts
    rw [Label.takeApart, Label.takeApart, hparts]
    simp only [takeApart_of_none (h.first_apart h')]

private theorem parts?_takeApart {n m : Nat} (h : m ∈ takeApart 3 n) : parts? m = none := by
  have single {n : Nat} (hn : parts? n = none) (h : m ∈ takeApart 3 n) : parts? m = none := by
    rw [takeApart_of_none hn] at h
    rwa [List.mem_singleton.mp h]
  cases hn : parts? n with
  | none => exact single hn h
  | some ab =>
    have hc : Composite ab.1 ab.2 n := composite_of_parts? hn
    rw [hc.takeApart] at h
    rcases List.mem_append.mp h with h | h
    · cases ha : parts? ab.1 with
      | none => exact single ha h
      | some ab' =>
        have hc' : Composite ab'.1 ab'.2 ab.1 := composite_of_parts? ha
        rw [hc'.takeApart] at h
        rcases List.mem_append.mp h with h | h
        · exact single (hc.first_apart hc') h
        · rw [List.mem_singleton.mp h]
          exact hc'.second_apart
    · rw [List.mem_singleton.mp h]
      exact hc.second_apart

private def apart (codes : List Nat) : List Nat := codes.flatMap (takeApart 3)

private theorem apart_of_none {codes : List Nat} (h : ∀ n ∈ codes, parts? n = none) :
    apart codes = codes := by
  induction codes with
  | nil => rfl
  | cons n codes ih =>
    obtain ⟨hn, hcodes⟩ := List.forall_mem_cons.mp h
    rw [apart, List.flatMap_cons, takeApart_of_none hn]
    exact congrArg (n :: ·) (ih hcodes)

section
variable {c d : Nat} {codes : List Nat}

private theorem mem_sink {n : Nat} : n ∈ sink c codes ↔ n = c ∨ n ∈ codes := by
  induction codes with
  | nil => exact List.mem_singleton.trans (or_iff_left List.not_mem_nil).symm
  | cons d codes ih =>
    rw [sink]
    split
    · rw [List.mem_cons, List.mem_cons, ih, or_left_comm]
    · exact List.mem_cons

private def Follows (c d : Nat) : Prop := classOfCode d ≠ 0 → classOfCode c ≤ classOfCode d

private theorem sink_cons_of_follows (h : Follows c d) : sink c (d :: codes) = c :: d :: codes := by
  refine if_neg fun hlt => ?_
  simp only [Bool.and_eq_true, decide_eq_true_eq] at hlt
  exact absurd (h hlt.1) (Nat.not_le_of_lt hlt.2)

private theorem sink_cons_of_lt (hd : classOfCode d ≠ 0) (h : classOfCode d < classOfCode c) :
    sink c (d :: codes) = d :: sink c codes :=
  if_pos (by simp [hd, h])

private theorem follows_or (c d : Nat) :
    Follows c d ∨ classOfCode d ≠ 0 ∧ classOfCode d < classOfCode c := by
  unfold Follows
  omega

private theorem sink_sink (hd : classOfCode d ≠ 0) (hlt : classOfCode d < classOfCode c) :
    sink c (sink d codes) = sink d (sink c codes) := by
  have hdc : Follows d c := fun _ => hlt.le
  induction codes with
  | nil => exact (sink_cons_of_lt hd hlt).trans (sink_cons_of_follows hdc).symm
  | cons e codes ih =>
    rcases follows_or d e with hde | ⟨he, hed⟩
    · rw [sink_cons_of_follows hde, sink_cons_of_lt hd hlt]
      rcases follows_or c e with hce | ⟨he, hec⟩
      · rw [sink_cons_of_follows hce, sink_cons_of_follows hdc]
      · rw [sink_cons_of_lt he hec, sink_cons_of_follows hde]
    · rw [sink_cons_of_lt he hed, sink_cons_of_lt he (hed.trans hlt),
        sink_cons_of_lt he (hed.trans hlt), sink_cons_of_lt he hed, ih]

private theorem isChain_sink (h : codes.IsChain Follows) : (sink c codes).IsChain Follows := by
  induction codes with
  | nil => exact .singleton c
  | cons d codes ih =>
    rcases follows_or c d with hcd | ⟨hd, hdc⟩
    · rw [sink_cons_of_follows hcd]
      exact .cons_cons hcd h
    · rw [sink_cons_of_lt hd hdc]
      refine List.isChain_cons.mpr ⟨?_, ih h.tail⟩
      cases codes with
      | nil =>
        rintro _ ⟨⟩
        exact fun _ => hdc.le
      | cons e codes =>
        rcases follows_or c e with hce | ⟨he, hec⟩
        · rw [sink_cons_of_follows hce]
          rintro _ ⟨⟩
          exact fun _ => hdc.le
        · rw [sink_cons_of_lt he hec]
          rintro _ ⟨⟩
          exact h.rel

private def sort (codes : List Nat) : List Nat := codes.foldr sink []

private theorem mem_sort {n : Nat} : n ∈ sort codes ↔ n ∈ codes := by
  induction codes with
  | nil => rfl
  | cons c codes ih => exact mem_sink.trans (by rw [List.mem_cons]; exact or_congr_right ih)

private theorem isChain_sort (codes : List Nat) : (sort codes).IsChain Follows := by
  induction codes with
  | nil => exact .nil
  | cons c codes ih => exact isChain_sink ih

private theorem sort_of_isChain (h : codes.IsChain Follows) : sort codes = codes := by
  induction h with
  | nil => rfl
  | singleton c => rfl
  | cons_cons hcd _ ih =>
    rw [sort, List.foldr_cons, ← sort, ih, sink_cons_of_follows hcd]

private structure Held (held rest : List Nat) : Prop where
  marks : ∀ d ∈ held, classOfCode d ≠ 0
  sorted : held.Pairwise fun d e => classOfCode e ≤ classOfCode d
  next : ∀ d ∈ held, ∀ c ∈ rest.head?, Follows d c
  chain : rest.IsChain Follows

variable {held : List Nat}

private theorem Held.push (h : Held held (c :: codes)) (hc : classOfCode c ≠ 0) :
    Held (c :: held) codes where
  marks := List.forall_mem_cons.mpr ⟨hc, h.marks⟩
  sorted := List.pairwise_cons.mpr ⟨fun d hd => h.next d hd c rfl hc, h.sorted⟩
  next := by
    intro d hd e he
    have hce : Follows c e := (List.isChain_cons.mp h.chain).1 e he
    rcases List.mem_cons.mp hd with rfl | hd
    · exact hce
    · exact fun hmark => (h.next d hd c rfl hc).trans (hce hmark)
  chain := h.chain.tail

private theorem Held.skip (h : Held held (c :: codes))
    (hlt : ∀ d ∈ held, classOfCode d < classOfCode c) : Held held codes where
  marks := h.marks
  sorted := h.sorted
  next := fun d hd e he hmark =>
    (hlt d hd).le.trans ((List.isChain_cons.mp h.chain).1 e he hmark)
  chain := h.chain.tail

private theorem Held.restart (h : Held held (c :: codes)) : Held [] codes where
  marks := List.forall_mem_nil _
  sorted := .nil
  next := List.forall_mem_nil _
  chain := h.chain.tail

private theorem Held.lt_of_free (h : Held held codes)
    (hfree : (held.head?.map fun d => decide (classOfCode d < classOfCode c)).getD true) :
    ∀ d ∈ held, classOfCode d < classOfCode c := by
  cases held with
  | nil => exact List.forall_mem_nil _
  | cons e held =>
    have he : classOfCode e < classOfCode c := of_decide_eq_true hfree
    refine List.forall_mem_cons.mpr ⟨he, fun d hd => ?_⟩
    exact ((List.pairwise_cons.mp h.sorted).1 d hd).trans_lt he

private theorem foldr_sink_sink {marks : List Nat} (hmarks : ∀ d ∈ marks, classOfCode d ≠ 0)
    (hlt : ∀ d ∈ marks, classOfCode d < classOfCode c) :
    sink c (marks.foldr sink codes) = marks.foldr sink (sink c codes) := by
  induction marks with
  | nil => rfl
  | cons d marks ih =>
    obtain ⟨hd, hmarks⟩ := List.forall_mem_cons.mp hmarks
    obtain ⟨hdc, hlt⟩ := List.forall_mem_cons.mp hlt
    rw [List.foldr_cons, List.foldr_cons, sink_sink hd hdc, ih hmarks hlt]

private theorem sort_append (codes codes' : List Nat) :
    sort (codes ++ codes') = codes.foldr sink (sort codes') :=
  List.foldr_append

private theorem Held.sort_cons {rest : List Nat} (h : Held held rest)
    (hlt : ∀ d ∈ held, classOfCode d < classOfCode c) :
    sort (c :: (held.reverse ++ codes)) = sort (held.reverse ++ c :: codes) := by
  rw [sort, List.foldr_cons, ← sort, sort_append, sort_append,
    foldr_sink_sink (by simpa using h.marks) (by simpa using hlt)]
  rfl

private theorem sort_apart_fuse {base : Nat} {rest : List Nat} (h : Held held rest)
    (hheld : ∀ n ∈ held, parts? n = none) (hrest : ∀ n ∈ rest, parts? n = none) :
    sort (apart (fuse base held rest)) = sort (takeApart 3 base ++ (held.reverse ++ rest)) := by
  have happ (codes codes' : List Nat) : apart (codes ++ codes') = apart codes ++ apart codes' :=
    List.flatMap_append
  induction rest generalizing base held with
  | nil =>
    rw [fuse, apart, List.flatMap_cons, ← apart, apart_of_none (by simpa using hheld),
      List.append_nil]
  | cons c rest ih =>
    obtain ⟨hc, hrest⟩ := List.forall_mem_cons.mp hrest
    simp only [fuse]
    split
    · rename_i joined hjoin
      split at hjoin
      · rename_i hfree
        have hlt := h.lt_of_free hfree
        have hjoined : Composite base c joined := composite_of_compose? hjoin
        rw [ih (h.skip hlt) hheld hrest, hjoined.takeApart, List.append_assoc,
          List.singleton_append, sort_append, h.sort_cons hlt, ← sort_append]
      · cases hjoin
    · split
      · rw [apart, List.flatMap_cons, ← apart, happ, apart_of_none (by simpa using hheld),
          sort_append, sort_append, ih h.restart (List.forall_mem_nil _) hrest,
          takeApart_of_none hc, sort_append _ (held.reverse ++ c :: rest), sort_append held.reverse]
        rfl
      · rename_i hmark
        rw [ih (h.push hmark) (List.forall_mem_cons.mpr ⟨hc, hheld⟩) hrest, List.reverse_cons,
          List.append_assoc, List.singleton_append]

theorem composed_composed (codes : List Nat) : composed (composed codes) = composed codes := by
  have hatoms : ∀ n ∈ sort (apart codes), parts? n = none := by
    intro n hn
    obtain ⟨m, -, hm⟩ := List.mem_flatMap.mp (mem_sort.mp hn)
    exact parts?_takeApart hm
  have hchain := isChain_sort (apart codes)
  suffices hsame : sort (apart (composed codes)) = sort (apart codes) by
    rw [composed, ← apart, ← sort, hsame]
    rfl
  conv_lhs => rw [composed, ← apart, ← sort]
  generalize sort (apart codes) = sorted at hatoms hchain
  cases sorted with
  | nil => rfl
  | cons base rest =>
    obtain ⟨hbase, hrest⟩ := List.forall_mem_cons.mp hatoms
    have hheld : Held [] rest := ⟨by simp, .nil, by simp, hchain.tail⟩
    simp only
    rw [sort_apart_fuse hheld (by simp) hrest, takeApart_of_none hbase]
    exact sort_of_isChain hchain

end

section
variable {p : Nat → Prop} (hp : ∀ {a b c}, Composite a b c → p a ∧ p b ∧ p c)
include hp

private theorem forall_takeApart (depth : Nat) {n : Nat} (hn : p n) :
    ∀ m ∈ takeApart depth n, p m := by
  induction depth generalizing n with
  | zero => exact List.forall_mem_singleton.mpr hn
  | succ depth ih =>
    rw [takeApart]
    split
    · rename_i a b hparts
      obtain ⟨ha, hb, -⟩ := hp (composite_of_parts? hparts)
      exact List.forall_mem_append.mpr ⟨ih ha, List.forall_mem_singleton.mpr hb⟩
    · exact List.forall_mem_singleton.mpr hn

private theorem forall_fuse {base : Nat} {held rest : List Nat} (hbase : p base)
    (hheld : ∀ n ∈ held, p n) (hrest : ∀ n ∈ rest, p n) : ∀ n ∈ fuse base held rest, p n := by
  induction rest generalizing base held with
  | nil => exact List.forall_mem_cons.mpr ⟨hbase, by simpa using hheld⟩
  | cons c rest ih =>
    obtain ⟨hc, hrest⟩ := List.forall_mem_cons.mp hrest
    simp only [fuse]
    split
    · rename_i joined hjoin
      obtain ⟨-, hjoin⟩ := Option.ite_none_right_eq_some.mp hjoin
      exact ih (hp (composite_of_compose? hjoin)).2.2 hheld hrest
    · split
      · refine List.forall_mem_cons.mpr ⟨hbase, List.forall_mem_append.mpr ⟨?_, ?_⟩⟩
        · simpa using hheld
        · exact ih hc (List.forall_mem_nil _) hrest
      · exact ih hbase (List.forall_mem_cons.mpr ⟨hc, hheld⟩) hrest

/-- What holds of all that takes part in compositions is kept by composing. -/
theorem forall_composed {codes : List Nat} (h : ∀ n ∈ codes, p n) : ∀ n ∈ composed codes, p n := by
  have hsorted : ∀ n ∈ sort (apart codes), p n := by
    intro n hn
    obtain ⟨m, hm, hn⟩ := List.mem_flatMap.mp (mem_sort.mp hn)
    exact forall_takeApart hp 3 (h m hm) n hn
  rw [composed, ← apart, ← sort]
  split
  · exact List.forall_mem_nil _
  · rename_i base rest heq
    obtain ⟨hbase, hrest⟩ := List.forall_mem_cons.mp (heq ▸ hsorted)
    exact forall_fuse hp hbase (List.forall_mem_nil _) hrest

end

/-- Whether a character takes no part in compositions, unless as the first of two. -/
structure Inert (n : Nat) : Prop where
  whole : ∀ {a b}, ¬ Composite a b n
  alone : ∀ {a c}, ¬ Composite a n c
  noMark : classOfCode n = 0

private theorem fuse_of_inert (base : Nat) {rest : List Nat} (h : ∀ n ∈ rest, Inert n) :
    fuse base [] rest = base :: rest := by
  induction rest generalizing base with
  | nil => rfl
  | cons c rest ih =>
    obtain ⟨hc, hrest⟩ := List.forall_mem_cons.mp h
    have hnone : compose? base c = none :=
      Option.eq_none_iff_forall_ne_some.mpr fun d hd => hc.alone (composite_of_compose? hd)
    simp [fuse, hnone, hc.noMark, ih c hrest]

private theorem composed_of_inert {codes : List Nat} (h : ∀ n ∈ codes, Inert n) :
    composed codes = codes := by
  have hapart : apart codes = codes := by
    refine apart_of_none fun n hn => Option.eq_none_iff_forall_ne_some.mpr fun ab hab => ?_
    exact (h n hn).whole (composite_of_parts? hab)
  have hsort : sort codes = codes := by
    refine sort_of_isChain (List.Pairwise.isChain (List.pairwise_of_forall_mem_list ?_))
    exact fun c _ d hd hmark => absurd (h d hd).noMark hmark
  rw [composed, ← apart, ← sort, hapart, hsort]
  cases codes with
  | nil => rfl
  | cons base rest => exact fuse_of_inert base (List.forall_mem_cons.mp h).2

/-- No character of a stretch takes part in compositions that no table and no syllable meets. -/
theorem inert_of_stretch {first last n : Nat} (hn : first ≤ n ∧ n ≤ last)
    (hletters : last < 0x1100 ∨ 0x11c3 ≤ first ∧ last < 0xac00)
    (hlisted : compositions.all fun entry =>
      Text.misses first last (entry.2.1, entry.2.1) &&
        Text.misses first last (entry.2.2, entry.2.2))
    (hclasses : combiningClasses.all fun entry => entry.2.all (Text.misses first last)) :
    Inert n := by
  have hmiss {a b c : Nat} (h : Composite a b c) : n ≠ b ∧ n ≠ c := by
    cases h with
    | listed h =>
      have hentry := List.all_eq_true.mp hlisted _ h
      simp only [Text.misses, Bool.and_eq_true, Bool.or_eq_true, decide_eq_true_eq] at hentry
      omega
    | openSyllable hl hv => omega
    | closedSyllable hs ht htt => omega
  have hcode : (Char.ofNat n).toNat = n :=
    (Char.toNat_ofNat n).trans (if_pos (Or.inl (by omega)))
  refine ⟨fun h => (hmiss h).2 rfl, fun h => (hmiss h).1 rfl, ?_⟩
  rw [classOfCode, combiningClass, Text.classOf_eq_none (hcode.symm ▸ hn) hclasses]
  rfl

theorem inert_ascii {n : Nat} (h : n < 128) : Inert n :=
  inert_of_stretch ⟨Nat.zero_le n, show n ≤ 127 by omega⟩ (by omega) (by decide +kernel)
    (by decide +kernel)

theorem compose_of_inert {text : List Char} (h : ∀ c ∈ text, Inert c.toNat) :
    compose text = text := by
  rw [compose, composed_of_inert (by simpa using h), List.map_map]
  refine (List.map_congr_left fun c _ => ?_).trans (List.map_id text)
  exact Char.ofNat_toNat c

end Label

end PreviewHub
