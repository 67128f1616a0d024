import PreviewHub.Json.Order
import PreviewHub.Json.Reader

/-! What can be read at all. Whatever the text, a value that is read has its keys in order at every
level, each of them once, and is nested less deep than the limit. -/

namespace PreviewHub

namespace Json

theorem depthFields_le_iff {fields : Fields} {n : Nat} :
    depthFields fields ≤ n ↔ ∀ field ∈ fields, field.2.depth ≤ n := by
  induction fields with
  | nil => simp [depthFields]
  | cons field fields ih => rw [depthFields, Nat.max_le, ih, List.forall_mem_cons]

structure SoundFields (depth : Nat) (fields : Fields) : Prop where
  ascending : fields.Pairwise fun a b => a.1 < b.1
  canonical : ∀ field ∈ fields, field.2.Canonical
  shallow : ∀ field ∈ fields, field.2.depth < depth

private theorem SoundFields.insert {depth : Nat} {fields : Fields} (h : SoundFields depth fields)
    (key : String) {value : Json} (hc : value.Canonical) (hd : value.depth < depth) :
    SoundFields depth (Fields.insert key value fields) where
  ascending := Fields.pairwise_insert h.ascending
  canonical := Fields.forall_insert hc h.canonical
  shallow := Fields.forall_insert (P := fun x => x.depth < depth) hd h.shallow

private theorem Reading.andThen_eq_ok {α β : Type} {reading : Reading α}
    {next : α → List Char → Reading β}
    {y : β} {last : List Char} (h : reading.andThen next = .ok (y, last)) :
    ∃ x rest, reading = .ok (x, rest) ∧ next x rest = .ok (y, last) := by
  cases reading with
  | error fault => cases h
  | ok result => exact ⟨result.1, result.2, rfl, h⟩

private theorem readWord_ok {meaning j : Json} {letters cs rest : List Char}
    (h : readWord meaning letters cs = .ok (j, rest)) : j = meaning := by
  induction letters generalizing cs with
  | nil =>
    cases h
    rfl
  | cons l letters ih =>
    cases cs with
    | nil => cases h
    | cons c cs =>
      rw [readWord] at h
      split at h
      · exact ih h
      · cases h

private theorem depthFields_lt {depth : Nat} (hd : 0 < depth) {fields : Fields}
    (h : ∀ field ∈ fields, field.2.depth < depth) : depthFields fields < depth := by
  have hle : depthFields fields ≤ depth - 1 := by
    rw [depthFields_le_iff]
    intro field hfield
    have hlt := h field hfield
    omega
  omega

structure SoundReaders (fuel : Nat) : Prop where
  value : ∀ {depth cs j rest}, 0 < depth → readValue fuel depth cs = .ok (j, rest) →
    j.Canonical ∧ j.depth < depth
  items : ∀ {depth cs xs rest}, 0 < depth → readItems fuel depth cs = .ok (xs, rest) →
    CanonicalItems xs ∧ depthItems xs < depth
  field : ∀ {depth cs field rest}, 0 < depth → readField fuel depth cs = .ok (field, rest) →
    field.2.Canonical ∧ field.2.depth < depth
  fields : ∀ {depth done cs fields rest}, 0 < depth → SoundFields depth done →
    readFields fuel depth done cs = .ok (fields, rest) → SoundFields depth fields

section
variable {fuel depth : Nat} {cs rest : List Char}

private theorem readValue_succ (ih : SoundReaders fuel) (hd : 0 < depth) {j : Json}
    (h : readValue (fuel + 1) depth cs = .ok (j, rest)) : j.Canonical ∧ j.depth < depth := by
  rw [readValue] at h
  split at h
  · cases h
  · rw [readWord_ok h]
    exact ⟨trivial, hd⟩
  · rw [readWord_ok h]
    exact ⟨trivial, hd⟩
  · rw [readWord_ok h]
    exact ⟨trivial, hd⟩
  · obtain ⟨s, more, -, hs⟩ := Reading.andThen_eq_ok h
    cases hs
    exact ⟨trivial, hd⟩
  · split at h
    · cases h
    · rename_i hdeep
      split at h
      · cases h
      · cases h
        exact ⟨trivial, Nat.lt_of_not_le hdeep⟩
      · obtain ⟨x, more, hx, h⟩ := Reading.andThen_eq_ok h
        obtain ⟨xs, more, hxs, h⟩ := Reading.andThen_eq_ok h
        obtain ⟨hxc, hxd⟩ := ih.value (by omega) hx
        obtain ⟨hxsc, hxsd⟩ := ih.items (by omega) hxs
        cases h
        refine ⟨⟨hxc, hxsc⟩, ?_⟩
        simp only [Json.depth, depthItems]
        omega
  · split at h
    · cases h
    · rename_i hdeep
      split at h
      · cases h
      · cases h
        exact ⟨⟨.nil, trivial⟩, Nat.lt_of_not_le hdeep⟩
      · obtain ⟨field, more, hfield, h⟩ := Reading.andThen_eq_ok h
        obtain ⟨fields, more, hfields, h⟩ := Reading.andThen_eq_ok h
        obtain ⟨hc, hs⟩ := ih.field (by omega) hfield
        have hone : SoundFields (depth - 1) [field] :=
          ⟨List.pairwise_singleton _ _, by simpa using hc, by simpa using hs⟩
        have hall := ih.fields (by omega) hone hfields
        cases h
        refine ⟨⟨hall.ascending, canonicalFields_iff.mpr hall.canonical⟩, ?_⟩
        have hless := depthFields_lt (by omega) hall.shallow
        rw [Json.depth]
        omega
  · split at h
    · obtain ⟨n, more, -, hn⟩ := Reading.andThen_eq_ok h
      cases hn
      exact ⟨trivial, hd⟩
    · cases h

private theorem readItems_succ (ih : SoundReaders fuel) (hd : 0 < depth) {xs : List Json}
    (h : readItems (fuel + 1) depth cs = .ok (xs, rest)) :
    CanonicalItems xs ∧ depthItems xs < depth := by
  rw [readItems] at h
  split at h
  · cases h
  · cases h
    exact ⟨trivial, hd⟩
  · split at h
    · cases h
    · cases h
    · obtain ⟨x, more, hx, h⟩ := Reading.andThen_eq_ok h
      obtain ⟨xs, more, hxs, h⟩ := Reading.andThen_eq_ok h
      obtain ⟨hxc, hxd⟩ := ih.value hd hx
      obtain ⟨hxsc, hxsd⟩ := ih.items hd hxs
      cases h
      exact ⟨⟨hxc, hxsc⟩, Nat.max_lt.mpr ⟨hxd, hxsd⟩⟩
  · cases h

private theorem readField_succ (ih : SoundReaders fuel) (hd : 0 < depth) {field : String × Json}
    (h : readField (fuel + 1) depth cs = .ok (field, rest)) :
    field.2.Canonical ∧ field.2.depth < depth := by
  unfold readField at h
  split at h
  · obtain ⟨key, more, -, h⟩ := Reading.andThen_eq_ok h
    split at h
    · cases h
    · obtain ⟨x, more, hx, h⟩ := Reading.andThen_eq_ok h
      cases h
      exact ih.value hd hx
    · cases h
  · cases h

private theorem readFields_succ (ih : SoundReaders fuel) (hd : 0 < depth) {done fields : Fields}
    (hs : SoundFields depth done)
    (h : readFields (fuel + 1) depth done cs = .ok (fields, rest)) : SoundFields depth fields := by
  rw [readFields] at h
  split at h
  · cases h
  · cases h
    exact hs
  · split at h
    · cases h
    · cases h
    · obtain ⟨field, more, hfield, h⟩ := Reading.andThen_eq_ok h
      obtain ⟨hc, hshallow⟩ := ih.field hd hfield
      exact ih.fields hd (hs.insert field.1 hc hshallow) h
  · cases h

end

private theorem sound_readers (fuel : Nat) : SoundReaders fuel := by
  induction fuel with
  | zero =>
    constructor
    · intro depth cs j rest hd h
      rw [readValue] at h
      cases h
    · intro depth cs xs rest hd h
      rw [readItems] at h
      cases h
    · intro depth cs field rest hd h
      rw [readField] at h
      cases h
    · intro depth done cs fields rest hd hs h
      rw [readFields] at h
      cases h
  | succ fuel ih =>
    exact ⟨fun hd h => readValue_succ ih hd h, fun hd h => readItems_succ ih hd h,
      fun hd h => readField_succ ih hd h, fun hd hs h => readFields_succ ih hd hs h⟩

/-- What is read from a text has its keys in order and is not nested too deep. -/
theorem canonical_of_parse {text : String} {j : Json} (h : parse text = .ok j) :
    j.Canonical ∧ j.depth < depthLimit := by
  rw [parse, readAll] at h
  split at h
  · rename_i x hx
    cases h
    generalize hread : readValue (fuelFor text.toList) depthLimit text.toList = reading at hx
    cases reading with
    | error fault => cases hx
    | ok result =>
      obtain ⟨x', rest⟩ := result
      rw [finish] at hx
      split at hx
      · cases hx
        exact (sound_readers _).value (by decide) hread
      · cases hx
  · cases h

end Json

end PreviewHub
