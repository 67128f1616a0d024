import PreviewHub.Origin.Ipv4
import PreviewHub.Origin.Ipv6
import PreviewHub.Proofs.HostNames

/-! Hosts that are addresses. An address is written in one way, and what is written is read as that
address: four decimal numbers, or eight hexadecimal ones with the longest run of zeros left out. -/

namespace PreviewHub

theorem toList_toString_nat (n : Nat) : (toString n).toList = Nat.toDigits 10 n := by
  rw [Nat.toString_eq_repr, Nat.toList_repr]

theorem exists_digitChar {b n : Nat} (hb : 1 < b) {c : Char} (h : c ∈ Nat.toDigits b n) :
    ∃ d < b, c = d.digitChar := by
  induction n using Nat.strongRecOn with
  | ind n ih =>
    rw [Nat.toDigits_eq_if hb] at h
    split at h
    · rename_i hlt
      exact ⟨n, hlt, List.mem_singleton.mp h⟩
    · rename_i hge
      rcases List.mem_append.mp h with h | h
      · exact ih (n / b) (Nat.div_lt_self (by omega) hb) h
      · exact ⟨n % b, Nat.mod_lt _ (by omega), List.mem_singleton.mp h⟩

namespace Ipv4

private theorem number?_toDigits : ∀ n < 256, number? (Nat.toDigits 10 n) = some n := by
  decide +kernel

def numbers (address : Nat) : List Nat := [3, 2, 1, 0].map fun i => address / Nat.pow 256 i % 256

private theorem render_eq (address : Nat) :
    render address = Text.join '.' ((numbers address).map (Nat.toDigits 10)) := by
  simp only [render, numbers, toList_toString_nat, List.map_map, Function.comp_def]

theorem split_render (address : Nat) :
    Text.split '.' (render address) = (numbers address).map (Nat.toDigits 10) := by
  rw [render_eq]
  refine Text.split_join (List.cons_ne_nil _ _) fun part hpart hdot => ?_
  obtain ⟨n, -, rfl⟩ := List.mem_map.mp hpart
  cases Nat.isDigit_of_mem_toDigits (by decide) (Nat.le_refl 10) hdot

/-- An address is written in digits and dots. -/
theorem mem_render {address : Nat} {c : Char} (h : c ∈ render address) :
    c = '.' ∨ ∃ d < 10, c = d.digitChar := by
  rw [render_eq] at h
  rcases Text.mem_join h with h | ⟨part, hpart, hc⟩
  · exact Or.inl h
  · obtain ⟨n, -, rfl⟩ := List.mem_map.mp hpart
    exact Or.inr (exists_digitChar (by decide) hc)

/-- Bytes in front leave room for those behind. -/
private theorem foldl_bytes_le (leading : List Nat) (last i : Nat) (hi : i + leading.length ≤ 4)
    (hb : ∀ n ∈ leading, n ≤ 255) :
    (leading.zipIdx i).foldl (fun sum byte => sum + byte.1 * Nat.pow 256 (3 - byte.2)) last +
      Nat.pow 256 (4 - i - leading.length) ≤ last + Nat.pow 256 (4 - i) := by
  induction leading generalizing last i with
  | nil => exact Nat.le_refl _
  | cons n leading ih =>
    obtain ⟨hn, hb⟩ := List.forall_mem_cons.mp hb
    rw [List.length_cons] at hi ⊢
    have hrest := ih (last + n * Nat.pow 256 (3 - i)) (i + 1) (by omega) hb
    have hpow : Nat.pow 256 (4 - i) = 256 * Nat.pow 256 (3 - i) := by
      rw [show 4 - i = 3 - i + 1 by omega]
      exact Nat.pow_succ'
    have hbyte : n * Nat.pow 256 (3 - i) ≤ 255 * Nat.pow 256 (3 - i) := Nat.mul_le_mul_right _ hn
    rw [show 4 - (i + 1) = 3 - i by omega] at hrest
    rw [hpow, show 4 - i - (leading.length + 1) = 3 - i - leading.length by omega]
    simp only [List.zipIdx_cons, List.foldl_cons]
    omega

private theorem assemble_lt {leading : List Nat} {last address : Nat} (hl : leading.length ≤ 4)
    (h : assemble leading last = some address) : address < Nat.pow 256 4 := by
  obtain ⟨⟨hbytes, hlast⟩, h⟩ := Option.ite_none_right_eq_some.mp h
  have hsum : (leading.zipIdx 0).foldl
      (fun sum byte => sum + byte.1 * Nat.pow 256 (3 - byte.2)) last = address := Option.some.inj h
  have hroom := foldl_bytes_le leading last 0 (by omega) (by simpa using hbytes)
  rw [hsum, Nat.sub_zero] at hroom
  omega

theorem parse?_lt {host : List Char} {address : Nat} (h : parse? host = some address) :
    address < Nat.pow 256 4 := by
  unfold parse? at h
  obtain ⟨hlength, h⟩ := Option.ite_none_right_eq_some.mp h
  split at h
  · cases h
  · rename_i numbers hnumbers
    split at h
    · cases h
    · rename_i last hlast
      refine assemble_lt ?_ h
      rw [List.length_dropLast, (Text.exists_of_mapM hnumbers).1]
      omega

/-- What is written for an address is read as that address. -/
theorem parse?_render {address : Nat} (h : address < Nat.pow 256 4) :
    parse? (render address) = some address := by
  have hbyte (i : Nat) : number? (Nat.toDigits 10 (address / Nat.pow 256 i % 256)) =
      some (address / Nat.pow 256 i % 256) := number?_toDigits _ (Nat.mod_lt _ (by decide))
  have hread : ((numbers address).map (Nat.toDigits 10)).mapM number? = some (numbers address) := by
    simp only [numbers, List.map_cons, List.map_nil, List.mapM_cons, List.mapM_nil, hbyte]
    rfl
  have hlast : ((numbers address).map (Nat.toDigits 10)).getLast? ≠ some [] := by
    simp [numbers, Nat.toDigits_ne_nil]
  simp only [parse?, split_render, if_neg hlast, hread]
  simp [numbers, assemble] at h ⊢
  omega

/-- It is nothing but an address. -/
theorem isCalledFor_render (address : Nat) : isCalledFor (render address) := by
  have hdigits (n : Nat) : (Nat.toDigits 10 n).all Char.isDigit :=
    List.all_eq_true.mpr fun c hc => Nat.isDigit_of_mem_toDigits (by decide) (Nat.le_refl 10) hc
  simp only [isCalledFor, split_render]
  simp [numbers, Nat.toDigits_ne_nil, hdigits]

end Ipv4

namespace Ipv6

private theorem hexValue?_digitChar : ∀ d < 16, Json.hexValue? d.digitChar = some d := by decide

private theorem hexNumber_toDigits (n : Nat) : hexNumber (Nat.toDigits 16 n) = n := by
  induction n using Nat.strongRecOn with
  | ind n ih =>
    rw [Nat.toDigits_eq_if (by omega)]
    split
    · rename_i hlt
      simp [hexNumber, hexValue?_digitChar n hlt]
    · have hlast := hexValue?_digitChar (n % 16) (Nat.mod_lt _ (by decide))
      have hfront : List.foldl _ 0 (Nat.toDigits 16 (n / 16)) = n / 16 := ih (n / 16) (by omega)
      rw [hexNumber, List.foldl_append, hfront, List.foldl_cons, List.foldl_nil, hlast,
        Option.getD_some]
      omega

private theorem pieceDigits_toDigits {n : Nat} (hn : n < 65536) (rest : List Char)
    (hrest : rest.head?.all (· = ':')) :
    pieceDigits (Nat.toDigits 16 n ++ rest) = (Nat.toDigits 16 n, rest) := by
  have hlength : (Nat.toDigits 16 n).length ≤ 4 :=
    (Nat.length_toDigits_le_iff (by decide) (by decide)).mpr hn
  have hdigits : ∀ c ∈ Nat.toDigits 16 n, (Json.hexValue? c).isSome := by
    intro c hc
    obtain ⟨d, hd, rfl⟩ := exists_digitChar (by decide) hc
    rw [hexValue?_digitChar d hd, Option.isSome_some]
  have hstop : ∀ k, (rest.take k).takeWhile (fun c => (Json.hexValue? c).isSome) = [] := by
    intro k
    cases k with
    | zero => rfl
    | succ k =>
      cases rest with
      | nil => rfl
      | cons c rest =>
        rw [of_decide_eq_true hrest]
        rfl
  have htake : ((Nat.toDigits 16 n ++ rest).take 4).takeWhile
      (fun c => (Json.hexValue? c).isSome) = Nat.toDigits 16 n := by
    rw [List.take_append, List.take_of_length_le hlength, List.takeWhile_append_of_pos hdigits,
      hstop, List.append_nil]
  rw [pieceDigits, htake, List.drop_left]

private theorem exists_toDigits (n : Nat) : ∃ c cs, Nat.toDigits 16 n = c :: cs ∧ c ≠ ':' := by
  obtain ⟨c, cs, h⟩ := List.exists_cons_of_ne_nil (Nat.toDigits_ne_nil (n := n) (b := 16))
  obtain ⟨d, hd, rfl⟩ := exists_digitChar (by decide) (h ▸ List.mem_cons_self)
  have hcolon : ∀ d < 16, d.digitChar ≠ ':' := by decide
  exact ⟨d.digitChar, cs, h, hcolon d hd⟩

section
variable {n room : Nat} {pieces : List Nat} {gap : Option Nat}

private theorem readPieces_piece (hn : n < 65536) (c : Char) (rest : List Char) :
    readPieces (room + 1) pieces gap (Nat.toDigits 16 n ++ ':' :: c :: rest) =
      readPieces room (pieces ++ [n]) gap (c :: rest) := by
  have hpiece := pieceDigits_toDigits hn (':' :: c :: rest) rfl
  have hvalue := hexNumber_toDigits n
  obtain ⟨d, ds, hd, hne⟩ := exists_toDigits n
  rw [hd] at hpiece hvalue ⊢
  rw [List.cons_append] at hpiece ⊢
  simp only [readPieces, if_neg hne, hpiece, hvalue]

private theorem readPieces_last (hn : n < 65536) :
    readPieces (room + 1) pieces gap (Nat.toDigits 16 n) = some (pieces ++ [n], gap) := by
  have hpiece := pieceDigits_toDigits hn [] rfl
  have hvalue := hexNumber_toDigits n
  obtain ⟨d, ds, hd, hne⟩ := exists_toDigits n
  rw [hd] at hpiece hvalue ⊢
  rw [List.append_nil] at hpiece
  simp only [readPieces, if_neg hne, hpiece, hvalue]

variable {ns : List Nat}

private theorem renderPieces_cons_cons (n m : Nat) (ns : List Nat) :
    renderPieces (n :: m :: ns) = Nat.toDigits 16 n ++ ':' :: renderPieces (m :: ns) := rfl

private theorem exists_renderPieces (n : Nat) (ns : List Nat) :
    ∃ c cs, renderPieces (n :: ns) = c :: cs ∧ c ≠ ':' := by
  obtain ⟨c, cs, h, hc⟩ := exists_toDigits n
  cases ns with
  | nil => exact ⟨c, cs, h, hc⟩
  | cons m ns =>
    refine ⟨c, cs ++ ':' :: renderPieces (m :: ns), ?_, hc⟩
    rw [renderPieces_cons_cons, h, List.cons_append]

/-- Pieces are read as they are written. -/
private theorem readPieces_renderPieces (room : Nat) (pieces : List Nat) (gap : Option Nat)
    (hns : ∀ n ∈ ns, n < 65536) (hroom : ns.length ≤ room) :
    readPieces room pieces gap (renderPieces ns) = some (pieces ++ ns, gap) := by
  induction ns generalizing room pieces with
  | nil =>
    rw [List.append_nil]
    cases room <;> rfl
  | cons n ns ih =>
    obtain ⟨hn, hns⟩ := List.forall_mem_cons.mp hns
    cases room with
    | zero => exact absurd hroom (Nat.not_succ_le_zero _)
    | succ room =>
      cases ns with
      | nil => exact readPieces_last hn
      | cons m ns =>
        have hrest := ih room (pieces ++ [n]) hns (Nat.le_of_succ_le_succ hroom)
        obtain ⟨c, cs, hc, -⟩ := exists_renderPieces m ns
        rw [renderPieces_cons_cons]
        rw [hc] at hrest ⊢
        rw [readPieces_piece hn, hrest, List.append_assoc, List.singleton_append]

/-- Pieces in front of the run that is left out are read as they are written. -/
private theorem readPieces_renderPieces_gap (room : Nat) (pieces : List Nat) (hne : ns ≠ [])
    (hns : ∀ n ∈ ns, n < 65536) (rest : List Char) :
    readPieces (room + 1 + ns.length) pieces none (renderPieces ns ++ ':' :: ':' :: rest) =
      readPieces room (pieces ++ ns ++ [0]) (some (pieces.length + ns.length + 1)) rest := by
  induction ns generalizing pieces with
  | nil => exact absurd rfl hne
  | cons n ns ih =>
    obtain ⟨hn, hns⟩ := List.forall_mem_cons.mp hns
    cases ns with
    | nil =>
      show readPieces (room + 1 + 1) pieces none (Nat.toDigits 16 n ++ ':' :: ':' :: rest) = _
      rw [readPieces_piece hn]
      simp [readPieces]
    | cons m ns =>
      have hrest := ih (pieces ++ [n]) (List.cons_ne_nil _ _) hns
      obtain ⟨c, cs, hc, -⟩ := exists_renderPieces m ns
      rw [renderPieces_cons_cons, List.append_assoc, List.cons_append]
      rw [hc, List.cons_append] at hrest ⊢
      rw [List.length_cons, ← Nat.add_assoc, readPieces_piece hn, hrest]
      simp [Nat.add_assoc, Nat.add_comm 1]

end

def IsAddress (pieces : List Nat) : Prop := pieces.length = 8 ∧ ∀ n ∈ pieces, n < 65536

private theorem replicate_zeroRun (pieces : List Nat) :
    List.replicate (zeroRun pieces) 0 ++ pieces.drop (zeroRun pieces) = pieces := by
  induction pieces with
  | nil => rfl
  | cons n pieces ih =>
    unfold zeroRun
    cases n with
    | zero => exact congrArg (0 :: ·) ih
    | succ n => rfl

/-- The longest run is a run of zeros. -/
private theorem longestRun_spec {place start length : Nat} {pieces : List Nat}
    (h : longestRun place pieces = (start, length)) (hpos : 0 < length) :
    ∃ before, start = place + before ∧
      pieces.take before ++ List.replicate length 0 ++ pieces.drop (before + length) = pieces := by
  induction pieces generalizing place start length with
  | nil =>
    cases h
    cases hpos
  | cons n pieces ih =>
    cases hlater : longestRun (place + 1) pieces with
    | mk later longest =>
      simp only [longestRun, hlater] at h
      split at h
      · cases h
        refine ⟨0, rfl, ?_⟩
        rw [Nat.zero_add]
        exact replicate_zeroRun (n :: pieces)
      · cases h
        obtain ⟨before, hstart, hpieces⟩ := ih hlater hpos
        refine ⟨before + 1, by omega, ?_⟩
        rw [Nat.add_right_comm]
        exact congrArg (n :: ·) hpieces

/-- The pieces as they are written, or with a run of zeros left out. -/
private theorem render_cases (pieces : List Nat) :
    render pieces = renderPieces pieces ∨
      ∃ front length back, 2 ≤ length ∧ pieces = front ++ List.replicate length 0 ++ back ∧
        render pieces = renderPieces front ++ ':' :: ':' :: renderPieces back := by
  cases hrun : longestRun 0 pieces with
  | mk start length =>
    simp only [render, hrun]
    split
    · rename_i hlength
      obtain ⟨before, hstart, hpieces⟩ := longestRun_spec hrun (by omega)
      rw [Nat.zero_add] at hstart
      rw [hstart]
      exact Or.inr ⟨_, length, _, hlength, hpieces.symm, rfl⟩
    · exact Or.inl rfl

/-- A text that does not begin with a run is read from its first piece on. -/
private theorem parse?_cons {c : Char} {cs : List Char} (hc : c ≠ ':') (hcs : cs ≠ []) :
    parse? (c :: cs) = (readPieces 8 [] none (c :: cs)).bind fill := by
  obtain ⟨d, ds, rfl⟩ := List.exists_cons_of_ne_nil hcs
  unfold parse?
  split
  · rename_i heq
    cases heq
  · rename_i heq
    cases heq
  · rename_i heq
    cases heq
    exact absurd rfl hc
  · rfl

/-- A run that is left out stands as one zero until it is filled. -/
private theorem parse?_gap {front back : List Nat} (hfront : ∀ n ∈ front, n < 65536)
    (hback : ∀ n ∈ back, n < 65536) (hroom : front.length + back.length ≤ 7) :
    parse? (renderPieces front ++ ':' :: ':' :: renderPieces back) =
      fill (front ++ [0] ++ back, some (front.length + 1)) := by
  cases front with
  | nil =>
    show (readPieces 7 [0] (some 1) (renderPieces back)).bind fill = _
    rw [readPieces_renderPieces 7 [0] (some 1) hback (by simpa using hroom)]
    rfl
  | cons n front =>
    have hread := readPieces_renderPieces_gap (7 - (n :: front).length) []
      (List.cons_ne_nil n front) hfront (renderPieces back)
    rw [readPieces_renderPieces _ _ _ hback (by omega),
      show 7 - (n :: front).length + 1 + (n :: front).length = 8 by omega] at hread
    obtain ⟨c, cs, hc, hcolon⟩ := exists_renderPieces n front
    rw [hc, List.cons_append] at hread ⊢
    rw [parse?_cons hcolon (by simp), hread, List.length_nil, Nat.zero_add, List.nil_append]
    rfl

private theorem fill_gap {front back : List Nat} {length : Nat} (hpos : 0 < length)
    (h : front.length + length + back.length = 8) :
    fill (front ++ [0] ++ back, some (front.length + 1)) =
      some (front ++ List.replicate length 0 ++ back) := by
  obtain ⟨k, rfl⟩ : ∃ k, length = k + 1 := ⟨length - 1, by omega⟩
  have hplace : front.length + 1 = (front ++ [0]).length := by simp
  have hrest : 8 - (front ++ [0] ++ back).length = k := by
    simp only [List.length_append, List.length_singleton]
    omega
  rw [fill, hrest, hplace, List.take_left, List.drop_left, List.append_assoc front,
    List.singleton_append, List.replicate_succ]

/-- What is written for an address is read as that address. -/
theorem parse?_render {pieces : List Nat} (h : IsAddress pieces) :
    parse? (render pieces) = some pieces := by
  obtain ⟨hlength, hpieces⟩ := h
  rcases render_cases pieces with hrender | ⟨front, length, back, htwo, rfl, hrender⟩
  · have hread := readPieces_renderPieces 8 [] none hpieces (Nat.le_of_eq hlength)
    match pieces, hlength with
    | n :: m :: ns, hlength =>
      obtain ⟨c, cs, hc, hcolon⟩ := exists_toDigits n
      rw [hrender]
      rw [renderPieces_cons_cons, hc, List.cons_append] at hread ⊢
      rw [parse?_cons hcolon (by simp), hread]
      exact if_pos hlength
  · simp only [List.length_append, List.length_replicate] at hlength
    have hback : ∀ n ∈ back, n < 65536 := fun n hn => hpieces n (List.mem_append_right _ hn)
    have hfront : ∀ n ∈ front, n < 65536 := fun n hn =>
      hpieces n (List.mem_append_left _ (List.mem_append_left _ hn))
    rw [hrender, parse?_gap hfront hback (by omega), fill_gap (by omega) hlength]

private theorem hexValue?_getD_lt (c : Char) : (Json.hexValue? c).getD 0 < 16 := by
  unfold Json.hexValue?
  split
  · rename_i h
    have : c.toNat ≤ 57 := h.2
    simp only [Option.getD_some]
    omega
  · split
    · rename_i h
      have : c.toNat ≤ 102 := h.2
      simp only [Option.getD_some]
      omega
    · split
      · rename_i h
        have : c.toNat ≤ 70 := h.2
        simp only [Option.getD_some]
        omega
      · decide

private theorem foldl_hex_lt {cs : List Char} {n k : Nat} (h : n < Nat.pow 16 k) :
    cs.foldl (fun n c => n * 16 + (Json.hexValue? c).getD 0) n < Nat.pow 16 (k + cs.length) := by
  induction cs generalizing n k with
  | nil => exact h
  | cons c cs ih =>
    have hc := hexValue?_getD_lt c
    have hpow : Nat.pow 16 (k + 1) = Nat.pow 16 k * 16 := rfl
    rw [List.length_cons, Nat.add_comm cs.length, ← Nat.add_assoc]
    refine ih ?_
    show n * 16 + _ < _
    omega

private theorem hexNumber_pieceDigits_lt (cs : List Char) :
    hexNumber (pieceDigits cs).1 < 65536 := by
  have hlength : (pieceDigits cs).1.length ≤ 4 :=
    Nat.le_trans (List.takeWhile_sublist _).length_le (List.length_take_le _ _)
  calc hexNumber (pieceDigits cs).1
      < Nat.pow 16 (0 + (pieceDigits cs).1.length) := foldl_hex_lt (by decide)
    _ ≤ Nat.pow 16 4 := Nat.pow_le_pow_right (by decide) (by omega)

private theorem byte?_le {cs : List Char} {n : Nat} (h : byte? cs = some n) : n ≤ 255 := by
  unfold byte? at h
  split at h
  · cases h
  · cases h
    decide
  · cases h
  · obtain ⟨-, h⟩ := Option.ite_none_right_eq_some.mp h
    obtain ⟨hle, h⟩ := Option.ite_none_right_eq_some.mp h
    cases h
    exact hle

private theorem dotted?_spec {cs : List Char} {pieces : List Nat} (h : dotted? cs = some pieces) :
    pieces.length = 2 ∧ ∀ n ∈ pieces, n < 65536 := by
  unfold dotted? at h
  split at h
  · rename_i a b c d hbytes
    have hle : ∀ n ∈ [a, b, c, d], n ≤ 255 := by
      intro n hn
      obtain ⟨part, -, hpart⟩ := (Text.exists_of_mapM hbytes).2 n hn
      exact byte?_le hpart
    cases h
    simp only [List.forall_mem_cons] at hle ⊢
    refine ⟨rfl, by omega, by omega, List.forall_mem_nil _⟩
  · cases h

/-- Pieces that are read are of sixteen bits and there is room for them. -/
private theorem readPieces_spec {room : Nat} {pieces ns : List Nat} {gap place : Option Nat}
    {cs : List Char} (h : readPieces room pieces gap cs = some (ns, place))
    (hroom : pieces.length + room = 8) (hp : ∀ n ∈ pieces, n < 65536) :
    ns.length ≤ 8 ∧ ∀ n ∈ ns, n < 65536 := by
  have hconcat {pieces : List Nat} {room : Nat} (hroom : pieces.length + (room + 1) = 8)
      (hp : ∀ m ∈ pieces, m < 65536) (n : Nat) (hn : n < 65536) :
      (pieces ++ [n]).length + room = 8 ∧ ∀ m ∈ pieces ++ [n], m < 65536 := by
    refine ⟨?_, List.forall_mem_append.mpr ⟨hp, List.forall_mem_singleton.mpr hn⟩⟩
    rw [List.length_append, List.length_singleton, Nat.add_assoc, Nat.add_comm 1, hroom]
  fun_induction readPieces room pieces gap cs with
  | case1 room pieces gap =>
    cases h
    exact ⟨by omega, hp⟩
  | case4 room pieces cs ih =>
    obtain ⟨hroom, hp⟩ := hconcat hroom hp 0 (by decide)
    exact ih h hroom hp
  | case5 room pieces gap c cs hc digits hdigits =>
    have hn := hexNumber_pieceDigits_lt (c :: cs)
    rw [hdigits] at hn
    obtain ⟨hroom, hp⟩ := hconcat hroom hp (hexNumber digits) hn
    cases h
    exact ⟨by omega, hp⟩
  | case7 room pieces gap c cs hc digits rest hrest hdigits ih =>
    have hn := hexNumber_pieceDigits_lt (c :: cs)
    rw [hdigits] at hn
    obtain ⟨hroom, hp⟩ := hconcat hroom hp (hexNumber digits) hn
    exact ih h hroom hp
  | case9 room pieces gap c cs hc digits tail hfew hdigits =>
    obtain ⟨pair, hpair, h⟩ := Option.map_eq_some_iff.mp h
    obtain ⟨htwo, hn⟩ := dotted?_spec hpair
    cases h
    refine ⟨?_, List.forall_mem_append.mpr ⟨hp, hn⟩⟩
    rw [List.length_append]
    omega
  | case2 | case3 | case6 | case8 | case10 => cases h

private theorem fill_spec {ns pieces : List Nat} {place : Option Nat}
    (h : fill (ns, place) = some pieces)
    (hl : ns.length ≤ 8) (hn : ∀ n ∈ ns, n < 65536) : IsAddress pieces := by
  cases place with
  | none =>
    obtain ⟨hlength, h⟩ := Option.ite_none_right_eq_some.mp h
    cases h
    exact ⟨hlength, hn⟩
  | some place =>
    cases h
    refine ⟨?_, fun n hmem => ?_⟩
    · simp only [List.length_append, List.length_take, List.length_replicate, List.length_drop]
      omega
    · simp only [List.mem_append, List.mem_replicate] at hmem
      rcases hmem with (hmem | ⟨-, rfl⟩) | hmem
      · exact hn n (List.mem_of_mem_take hmem)
      · decide
      · exact hn n (List.mem_of_mem_drop hmem)

/-- What is read is an address. -/
theorem isAddress_of_parse? {cs : List Char} {pieces : List Nat} (h : parse? cs = some pieces) :
    IsAddress pieces := by
  unfold parse? at h
  split at h
  · cases h
  · cases h
  · obtain ⟨-, h⟩ := Option.ite_none_right_eq_some.mp h
    obtain ⟨⟨ns, place⟩, hread, h⟩ := Option.bind_eq_some_iff.mp h
    obtain ⟨hl, hn⟩ := readPieces_spec hread rfl (by simp)
    exact fill_spec h hl hn
  · obtain ⟨⟨ns, place⟩, hread, h⟩ := Option.bind_eq_some_iff.mp h
    obtain ⟨hl, hn⟩ := readPieces_spec hread rfl (List.forall_mem_nil _)
    exact fill_spec h hl hn

private theorem mem_renderPieces {pieces : List Nat} {c : Char} (h : c ∈ renderPieces pieces) :
    c = ':' ∨ ∃ d < 16, c = d.digitChar := by
  rcases Text.mem_join h with h | ⟨part, hpart, hc⟩
  · exact Or.inl h
  · obtain ⟨n, -, rfl⟩ := List.mem_map.mp hpart
    exact Or.inr (exists_digitChar (by decide) hc)

/-- An address is written in digits and colons. -/
theorem mem_render {pieces : List Nat} {c : Char} (h : c ∈ render pieces) :
    c = ':' ∨ ∃ d < 16, c = d.digitChar := by
  rcases render_cases pieces with hrender | ⟨front, -, back, -, -, hrender⟩
  · rw [hrender] at h
    exact mem_renderPieces h
  · rw [hrender, List.mem_append, List.mem_cons, List.mem_cons] at h
    rcases h with h | h | h | h
    · exact mem_renderPieces h
    · exact Or.inl h
    · exact Or.inl h
    · exact mem_renderPieces h

end Ipv6

end PreviewHub
