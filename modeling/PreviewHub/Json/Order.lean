import PreviewHub.Json.Basic

/-! The order of keys. Any value can be arranged so that its keys ascend at every level, and one
whose keys do so stays as it is. An object of this kind carries the order with it. -/

namespace PreviewHub

namespace Fields

private theorem mem_insert {key : String} {value : Json} {fields : Fields} {field : String × Json}
    (h : field ∈ insert key value fields) : field = (key, value) ∨ field ∈ fields := by
  induction fields with
  | nil => exact Or.inl (List.mem_singleton.mp h)
  | cons first fields ih =>
    rw [insert] at h
    split at h
    · exact List.mem_cons.mp h
    · split at h
      · rcases List.mem_cons.mp h with h | h
        · exact Or.inl h
        · exact Or.inr (List.mem_cons_of_mem _ h)
      · rcases List.mem_cons.mp h with h | h
        · exact Or.inr (List.mem_cons.mpr (Or.inl h))
        · exact (ih h).imp_right (List.mem_cons_of_mem _)

/-- What holds of the new value and of all old ones holds of the values after an insertion. -/
theorem forall_insert {P : Json → Prop} {key : String} {value : Json} {fields : Fields}
    (hv : P value) (hf : ∀ field ∈ fields, P field.2) :
    ∀ field ∈ insert key value fields, P field.2 := by
  intro field h
  rcases mem_insert h with rfl | h
  · exact hv
  · exact hf field h

theorem pairwise_insert {key : String} {value : Json} {fields : Fields}
    (h : fields.Pairwise fun a b => a.1 < b.1) :
    (insert key value fields).Pairwise fun a b => a.1 < b.1 := by
  induction fields with
  | nil => exact List.pairwise_singleton _ _
  | cons first fields ih =>
    obtain ⟨hfirst, hfields⟩ := List.pairwise_cons.mp h
    rw [insert]
    split
    · rename_i hlt
      refine List.pairwise_cons.mpr ⟨?_, h⟩
      intro field hfield
      rcases List.mem_cons.mp hfield with rfl | hfield
      · exact hlt
      · exact String.lt_trans hlt (hfirst field hfield)
    · rename_i hnot
      split
      · rename_i heq
        exact List.pairwise_cons.mpr ⟨fun field hfield => heq ▸ hfirst field hfield, hfields⟩
      · rename_i hne
        have hafter : first.1 < key := Std.lt_of_le_of_ne (String.not_lt.mp hnot) (Ne.symm hne)
        refine List.pairwise_cons.mpr ⟨?_, ih hfields⟩
        intro field hfield
        rcases mem_insert hfield with rfl | hfield
        · exact hafter
        · exact hfirst field hfield

theorem insert_last {key : String} {fields : Fields} (h : ∀ field ∈ fields, field.1 < key)
    (value : Json) : insert key value fields = fields ++ [(key, value)] := by
  induction fields with
  | nil => rfl
  | cons field fields ih =>
    obtain ⟨hfield, hfields⟩ := List.forall_mem_cons.mp h
    have hne : key ≠ field.1 := fun he => String.lt_irrefl key (he ▸ hfield)
    rw [insert, if_neg (String.lt_asymm hfield), if_neg hne, ih hfields, List.cons_append]

private theorem pairwise_foldl_insert {pairs start : Fields}
    (h : start.Pairwise fun a b => a.1 < b.1) :
    (pairs.foldl (fun fields pair => insert pair.1 pair.2 fields) start).Pairwise
      fun a b => a.1 < b.1 := by
  induction pairs generalizing start with
  | nil => exact h
  | cons pair pairs ih => exact ih (pairwise_insert h)

private theorem forall_foldl_insert {P : Json → Prop} {pairs start : Fields}
    (hp : ∀ pair ∈ pairs, P pair.2) (hs : ∀ field ∈ start, P field.2) :
    ∀ field ∈ pairs.foldl (fun fields pair => insert pair.1 pair.2 fields) start, P field.2 := by
  induction pairs generalizing start with
  | nil => exact hs
  | cons pair pairs ih =>
    obtain ⟨hpair, hpairs⟩ := List.forall_mem_cons.mp hp
    exact ih hpairs (forall_insert hpair hs)

/-- Keys that ascend stay where they are. -/
private theorem foldl_insert_of_pairwise (pairs start : Fields)
    (h : (start ++ pairs).Pairwise fun a b => a.1 < b.1) :
    pairs.foldl (fun fields pair => insert pair.1 pair.2 fields) start = start ++ pairs := by
  induction pairs generalizing start with
  | nil => exact (List.append_nil start).symm
  | cons pair pairs ih =>
    have hlast : insert pair.1 pair.2 start = start ++ [pair] :=
      insert_last (fun field hfield => (List.pairwise_append.mp h).2.2 field hfield pair
        List.mem_cons_self) pair.2
    rw [List.append_cons] at h ⊢
    rw [List.foldl_cons, hlast, ih _ h]

end Fields

namespace Json

theorem canonicalFields_iff {fields : Fields} :
    CanonicalFields fields ↔ ∀ field ∈ fields, field.2.Canonical := by
  induction fields with
  | nil => simp [CanonicalFields]
  | cons field fields ih => rw [CanonicalFields, ih, List.forall_mem_cons]

mutual

/-- Puts the keys in order at every level. The last value of a key stays. -/
def arrange : Json → Json
  | .arr items => .arr (arrangeItems items)
  | .obj fields => .obj (Fields.ofList (arrangeFields fields))
  | other => other

def arrangeItems : List Json → List Json
  | [] => []
  | x :: xs => arrange x :: arrangeItems xs

def arrangeFields : List (String × Json) → List (String × Json)
  | [] => []
  | (key, x) :: xs => (key, arrange x) :: arrangeFields xs

end

mutual

private theorem canonical_arrange : (j : Json) → j.arrange.Canonical
  | .null | .bool _ | .num _ | .str _ => trivial
  | .arr items => canonicalItems_arrange items
  | .obj fields =>
    ⟨Fields.pairwise_foldl_insert .nil,
      canonicalFields_iff.mpr (Fields.forall_foldl_insert
        (canonicalFields_iff.mp (canonicalFields_arrange fields)) (List.forall_mem_nil _))⟩

theorem canonicalItems_arrange : (items : List Json) → CanonicalItems (arrangeItems items)
  | [] => trivial
  | x :: xs => ⟨canonical_arrange x, canonicalItems_arrange xs⟩

theorem canonicalFields_arrange :
    (fields : List (String × Json)) → CanonicalFields (arrangeFields fields)
  | [] => trivial
  | (_, x) :: xs => ⟨canonical_arrange x, canonicalFields_arrange xs⟩

end

mutual

private theorem arrange_of_canonical : (j : Json) → j.Canonical → j.arrange = j
  | .null, _ | .bool _, _ | .num _, _ | .str _, _ => rfl
  | .arr items, h => congrArg Json.arr (arrangeItems_of_canonical items h)
  | .obj fields, h => by
    rw [arrange, arrangeFields_of_canonical fields h.2]
    exact congrArg Json.obj (Fields.foldl_insert_of_pairwise fields [] h.1)

theorem arrangeItems_of_canonical :
    (items : List Json) → CanonicalItems items → arrangeItems items = items
  | [], _ => rfl
  | x :: xs, h => by
    rw [arrangeItems, arrange_of_canonical x h.1, arrangeItems_of_canonical xs h.2]

theorem arrangeFields_of_canonical :
    (fields : List (String × Json)) → CanonicalFields fields → arrangeFields fields = fields
  | [], _ => rfl
  | (key, x) :: xs, h => by
    rw [arrangeFields, arrange_of_canonical x h.1, arrangeFields_of_canonical xs h.2]

end

/-- An object whose keys ascend at every level. -/
structure Object where
  fields : Fields := []
  canonical : (Json.obj fields).Canonical := by exact ⟨.nil, trivial⟩
  deriving DecidableEq, Repr

namespace Object

def ofFields (fields : Fields) : Object := ⟨_, (Json.obj fields).canonical_arrange⟩

instance : Coe Fields Object := ⟨ofFields⟩

instance {α : Type} : CoeDep (List α) [] Object := ⟨{}⟩

theorem ofFields_of_canonical {fields : Fields} (h : (Json.obj fields).Canonical) :
    ofFields fields = ⟨fields, h⟩ := by
  have hkept := Json.obj.inj (arrange_of_canonical _ h)
  simp only [ofFields, hkept]

def insert (object : Object) (key : String) (value : Json) : Object where
  fields := Fields.insert key value.arrange object.fields
  canonical := by
    obtain ⟨hkeys, hvalues⟩ := object.canonical
    refine ⟨Fields.pairwise_insert hkeys, canonicalFields_iff.mpr ?_⟩
    exact Fields.forall_insert value.canonical_arrange (canonicalFields_iff.mp hvalues)

end Object

end Json

end PreviewHub
