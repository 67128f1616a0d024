import Mathlib
import PreviewHub.Origin.Domain
import PreviewHub.Proofs.MappedText
import PreviewHub.Proofs.Punycode

/-! Host names that are read again. The ASCII form of a host name has small letters, digits and
marks only, and nothing in it is taken for an escape or for a separator. So it is its own ASCII form
again, unless the form of some label is longer than what is read. -/

namespace PreviewHub

namespace Text

variable {separator : Char}

private theorem split_separator (cs : List Char) :
    split separator (separator :: cs) = [] :: split separator cs := if_pos rfl

theorem split_part {part : List Char} (h : separator ∉ part) : split separator part = [part] := by
  induction part with
  | nil => rfl
  | cons c part ih =>
    obtain ⟨hc, hpart⟩ := List.ne_and_not_mem_of_not_mem_cons h
    rw [split, if_neg hc.symm, ih hpart]

private theorem split_part_separator {part : List Char} (h : separator ∉ part) (cs : List Char) :
    split separator (part ++ separator :: cs) = part :: split separator cs := by
  induction part with
  | nil => exact split_separator cs
  | cons c part ih =>
    obtain ⟨hc, hpart⟩ := List.ne_and_not_mem_of_not_mem_cons h
    rw [List.cons_append, split, if_neg hc.symm, ih hpart]

/-- Parts that are joined are cut again where they were joined. -/
theorem split_join {parts : List (List Char)} (hne : parts ≠ [])
    (h : ∀ part ∈ parts, separator ∉ part) : split separator (join separator parts) = parts := by
  induction parts with
  | nil => exact absurd rfl hne
  | cons part parts ih =>
    obtain ⟨hpart, hparts⟩ := List.forall_mem_cons.mp h
    cases parts with
    | nil => exact split_part hpart
    | cons next parts =>
      rw [join, split_part_separator hpart, ih (List.cons_ne_nil _ _) hparts]
      exact List.cons_ne_nil _ _

theorem mem_join {c : Char} {parts : List (List Char)} (h : c ∈ join separator parts) :
    c = separator ∨ ∃ part ∈ parts, c ∈ part := by
  fun_induction join separator parts with
  | case1 => cases h
  | case2 part => exact Or.inr ⟨part, List.mem_singleton_self _, h⟩
  | case3 part parts hne ih =>
    rcases List.mem_append.mp h with h | h
    · exact Or.inr ⟨part, List.mem_cons_self, h⟩
    · rcases List.mem_cons.mp h with h | h
      · exact Or.inl h
      · obtain hc | ⟨p, hp, hc⟩ := ih h
        · exact Or.inl hc
        · exact Or.inr ⟨p, List.mem_cons_of_mem _ hp, hc⟩

private theorem mem_split {c : Char} {cs part : List Char} (hp : part ∈ split separator cs)
    (hc : c ∈ part) : c ∈ cs ∧ c ≠ separator := by
  induction cs generalizing part with
  | nil =>
    rw [List.mem_singleton.mp hp] at hc
    cases hc
  | cons d cs ih =>
    by_cases hd : d = separator
    · rw [split, if_pos hd] at hp
      rcases List.mem_cons.mp hp with rfl | hp
      · cases hc
      · exact (ih hp hc).imp_left (List.mem_cons_of_mem _)
    · rw [split, if_neg hd] at hp
      cases hs : split separator cs with
      | nil => exact absurd hs (split_ne_nil separator cs)
      | cons first parts =>
        rw [hs] at hp ih
        rcases List.mem_cons.mp hp with rfl | hp
        · rcases List.mem_cons.mp hc with rfl | hc
          · exact ⟨List.mem_cons_self, hd⟩
          · exact (ih List.mem_cons_self hc).imp_left (List.mem_cons_of_mem _)
        · exact (ih (List.mem_cons_of_mem _ hp) hc).imp_left (List.mem_cons_of_mem _)

section
variable {α β : Type} {f : α → Option β} {parts : List α}

/-- What is read from parts comes from them one by one. -/
theorem exists_of_mapM {results : List β} (h : parts.mapM f = some results) :
    results.length = parts.length ∧ ∀ result ∈ results, ∃ part ∈ parts, f part = some result := by
  induction parts generalizing results with
  | nil =>
    cases h
    exact ⟨rfl, List.forall_mem_nil _⟩
  | cons part parts ih =>
    rw [List.mapM_cons] at h
    obtain ⟨first, hfirst, h⟩ := Option.bind_eq_some_iff.mp h
    obtain ⟨rest, hrest, h⟩ := Option.bind_eq_some_iff.mp h
    cases h
    obtain ⟨hlength, hall⟩ := ih hrest
    refine ⟨congrArg (· + 1) hlength, List.forall_mem_cons.mpr ⟨?_, fun result hr => ?_⟩⟩
    · exact ⟨part, List.mem_cons_self, hfirst⟩
    · obtain ⟨p, hp, hread⟩ := hall result hr
      exact ⟨p, List.mem_cons_of_mem _ hp, hread⟩

private theorem mapM_of_forall {g : α → β} (h : ∀ part ∈ parts, f part = some (g part)) :
    parts.mapM f = some (parts.map g) := by
  induction parts with
  | nil => rfl
  | cons part parts ih =>
    obtain ⟨hpart, hparts⟩ := List.forall_mem_cons.mp h
    rw [List.mapM_cons, hpart, ih hparts]
    rfl

end

end Text

/-- Whether a character stands for itself in a host name: an ASCII character that is allowed and no
capital letter. -/
def Domain.isSettled (c : Char) : Bool :=
  Label.isAscii c && !isForbidden c && c.toLower == c

namespace Label

def isReadable (written : List Char) : Bool :=
  written.take 4 ≠ asciiMark || (written.drop 4).length ≤ maxFormLength

/-- A label is the plain text that is written, or it is the label beyond ASCII with the form that is
written. -/
private theorem read_cases {written name : List Char} (hw : isPlain written)
    (h : read written = some name) :
    (written.take 4 ≠ asciiMark ∧ written.all isAscii ∧ name = written) ∨
      (¬ name.all isAscii ∧ isPlain name ∧ isAdmissible name ∧
        (written = asciiMark ++ Punycode.encode name ∨ written = name)) := by
  unfold read at h
  split at h
  · rename_i hmark
    unfold ofForm at h
    split at h
    · split at h
      · split at h
        · rename_i hchecks
          cases h
          simp only [Bool.and_eq_true, beq_iff_eq] at hchecks
          obtain ⟨⟨⟨hbeyond, hplain⟩, hadmissible⟩, hform⟩ := hchecks
          refine Or.inr ⟨?_, hplain, hadmissible, Or.inl ?_⟩
          · simpa using hbeyond
          · rw [hform, ← hmark, List.take_append_drop]
        · cases h
      · cases h
    · cases h
  · rename_i hmark
    obtain ⟨hchecks, h⟩ := Option.ite_none_right_eq_some.mp h
    cases h
    by_cases hascii : written.all isAscii
    · exact Or.inl ⟨hmark, hascii, rfl⟩
    · refine Or.inr ⟨hascii, hw, ?_, Or.inr rfl⟩
      simpa [hascii] using hchecks

/-- The form of a label beyond ASCII gives it back, if it is not too long. -/
private theorem read_form {name : List Char} (hbeyond : ¬ name.all isAscii) (hplain : isPlain name)
    (h : isAdmissible name) :
    read (asciiMark ++ Punycode.encode name) =
      if isReadable (asciiMark ++ Punycode.encode name) then some name else none := by
  have htake : (asciiMark ++ Punycode.encode name).take 4 = asciiMark := rfl
  have hdrop : (asciiMark ++ Punycode.encode name).drop 4 = Punycode.encode name := rfl
  have hany : name.any (!isAscii ·) = true := by simpa using hbeyond
  simp only [read, isReadable, htake, hdrop, ofForm, Punycode.decode_encode, hany, hplain, h]
  simp

/-- A label is read from its ASCII form, if that is not too long. -/
private theorem read_toAscii {written name : List Char} (hw : isPlain written)
    (h : read written = some name) :
    read (toAscii name) = if isReadable (toAscii name) then some name else none := by
  unfold toAscii
  rcases read_cases hw h with ⟨hmark, hascii, rfl⟩ | ⟨hbeyond, hplain, hadmissible, -⟩
  · rw [if_pos hascii, if_pos (by simp [isReadable, hmark]), h]
  · rw [if_neg hbeyond, read_form hbeyond hplain hadmissible]

private theorem isSettled_asciiMark {c : Char} (h : c ∈ asciiMark) :
    Domain.isSettled c ∧ c ≠ '.' := by
  have hall : asciiMark.all fun c => Domain.isSettled c && c ≠ '.' := by decide
  simpa using List.all_eq_true.mp hall c h

private theorem isSettled_digit :
    ∀ d < 36, Domain.isSettled (Punycode.digit d) ∧ Punycode.digit d ≠ '.' := by
  decide +kernel

private theorem isSettled_of_isAllowed {c : Char} (hascii : isAscii c) (hallowed : isAllowed c)
    (hforbidden : Domain.isForbidden c = false) : Domain.isSettled c := by
  have hupper : c.isUpper = false := by
    rw [isAllowed, if_pos hascii] at hallowed
    simpa using hallowed
  simp [Domain.isSettled, hascii, hforbidden, Char.toLower_eq_of_not_isUpper, hupper]

/-- The ASCII form of a label has no characters that stand for others. -/
theorem isSettled_toAscii {written name : List Char} (hplain : isPlain written)
    (h : read written = some name)
    (hw : ∀ c ∈ written, Domain.isForbidden c = false ∧ c ≠ '.') :
    ∀ c ∈ toAscii name, Domain.isSettled c ∧ c ≠ '.' := by
  have hsettled : ∀ c ∈ written, isAscii c → Domain.isSettled c ∧ c ≠ '.' := by
    intro c hc hascii
    have hallowed : isAllowed c := List.all_eq_true.mp (Bool.and_eq_true_iff.mp hplain).1 c hc
    exact ⟨isSettled_of_isAllowed hascii hallowed (hw c hc).1, (hw c hc).2⟩
  intro c hc
  unfold toAscii at hc
  rcases read_cases hplain h with ⟨-, hascii, rfl⟩ | ⟨hbeyond, -, -, hwritten⟩
  · rw [if_pos hascii] at hc
    exact hsettled c hc (List.all_eq_true.mp hascii c hc)
  · rw [if_neg hbeyond] at hc
    rcases List.mem_append.mp hc with hmark | hform
    · exact isSettled_asciiMark hmark
    · rcases Punycode.mem_encode hform with ⟨hname, hlt⟩ | rfl | ⟨d, hd, rfl⟩
      · refine hsettled c ?_ (decide_eq_true hlt)
        rcases hwritten with rfl | rfl
        · exact hc
        · exact hname
      · exact isSettled_asciiMark (List.mem_of_getLast? rfl)
      · exact isSettled_digit d hd

/-- Labels that were read are read from their ASCII forms. -/
private theorem mapM_read_toAscii {labels : List (List Char)}
    (h : ∀ label ∈ labels, ∃ written, isPlain written ∧ read written = some label) :
    (labels.map toAscii).mapM read =
      if (labels.map toAscii).all isReadable then some labels else none := by
  induction labels with
  | nil => rfl
  | cons label labels ih =>
    obtain ⟨⟨written, hplain, hwritten⟩, hlabels⟩ := List.forall_mem_cons.mp h
    rw [List.map_cons, List.mapM_cons, read_toAscii hplain hwritten, ih hlabels, List.all_cons]
    cases isReadable (toAscii label) <;> cases (labels.map toAscii).all isReadable <;> rfl

private theorem compose_of_ascii {text : List Char} (h : ∀ c ∈ text, isAscii c) :
    compose text = text :=
  compose_of_inert fun c hc => inert_ascii (of_decide_eq_true (h c hc))

end Label

namespace Domain

private theorem isAscii_of_isSettled {c : Char} (h : isSettled c) : Label.isAscii c := by
  simp only [isSettled, Bool.and_eq_true] at h
  exact h.1.1

private theorem isAllowed_of_isSettled {c : Char} (h : isSettled c) : Label.isAllowed c := by
  have hupper : c.isUpper = false := by
    simp only [isSettled, Bool.and_eq_true, beq_iff_eq] at h
    rw [← h.2, Char.isUpper_toLower_eq_false]
  rw [Label.isAllowed, if_pos (isAscii_of_isSettled h), hupper]
  rfl

private theorem any_isForbidden_of_isSettled {name : List Char} (h : ∀ c ∈ name, isSettled c) :
    (Text.split '.' name).any (·.any isForbidden) = false := by
  refine List.any_eq_false.mpr fun part hpart => Bool.not_eq_true _ ▸ List.any_eq_false.mpr ?_
  intro c hc
  have hsettled := h c (Text.mem_split hpart hc).1
  simp only [isSettled, Bool.and_eq_true, Bool.not_eq_true'] at hsettled
  simp [hsettled.1.2]

theorem ne_of_isSettled {c d : Char} (h : isSettled c) (hd : isSettled d = false) : c ≠ d := by
  rintro rfl
  rw [h] at hd
  cases hd

private theorem ne_nil_of_plainLabels? {host : List Char} {labels : List (List Char)}
    (h : plainLabels? host = some labels) : labels ≠ [] := by
  unfold plainLabels? at h
  split at h
  · cases h
  · cases h
    simpa using Text.split_ne_nil _ _

/-- The labels of a host name are plain text between dots. -/
private theorem isPlain_of_plainLabels? {host : List Char} {labels : List (List Char)}
    (h : plainLabels? host = some labels) :
    ∀ label ∈ labels, Label.isPlain label ∧ '.' ∉ label := by
  unfold plainLabels? at h
  split at h
  · cases h
  · rename_i texts htexts
    cases h
    obtain ⟨cs, -, hmapped⟩ := Option.bind_eq_some_iff.mp htexts
    obtain ⟨-, hmapped⟩ := Text.exists_of_mapM hmapped
    intro label hlabel
    obtain ⟨part, hpart, rfl⟩ := List.mem_map.mp hlabel
    refine Label.isPlain_compose fun c hc => ?_
    obtain ⟨hc, hdot⟩ := Text.mem_split hpart hc
    obtain ⟨text, htext, hc⟩ := List.mem_flatten.mp hc
    obtain ⟨d, -, hd⟩ := hmapped text htext
    exact ⟨Label.isAllowed_of_mapped? hd c hc, hdot⟩

/-- In allowed text that is composed nothing changes. -/
theorem plainLabels?_eq_split {host : List Char} (hpercent : '%' ∉ host)
    (hallowed : ∀ c ∈ host, Label.isAllowed c)
    (hcomposed : ∀ label ∈ Text.split '.' host, Label.compose label = label) :
    plainLabels? host = some (Text.split '.' host) := by
  have hunescape : unescape host = some host :=
    if_neg fun hmem => hpercent (List.contains_iff_mem.mp hmem)
  have hmapped : host.mapM Label.mapped? = some (host.map ([·])) :=
    Text.mapM_of_forall fun c hc => if_pos (hallowed c hc)
  have hflatten : (host.map ([·])).flatten = host := by
    rw [← List.flatMap_def]
    exact List.flatMap_singleton' host
  have hcompose : (Text.split '.' host).map Label.compose = Text.split '.' host :=
    (List.map_congr_left hcomposed).trans (List.map_id _)
  simp only [plainLabels?, hunescape, Option.bind_some, hmapped, hflatten, hcompose]

private theorem plainLabels?_of_isSettled {name : List Char} (h : ∀ c ∈ name, isSettled c) :
    plainLabels? name = some (Text.split '.' name) := by
  refine plainLabels?_eq_split (fun hmem => ne_of_isSettled (h '%' hmem) (by decide) rfl)
    (fun c hc => isAllowed_of_isSettled (h c hc)) fun label hlabel => ?_
  exact Label.compose_of_ascii fun c hc =>
    isAscii_of_isSettled (h c (Text.mem_split hlabel hc).1)

/-- An ASCII form comes from labels that were read. -/
private theorem exists_labels {host name : List Char} (h : toAscii host = some name) :
    ∃ labels, labels ≠ [] ∧ name = Text.join '.' (labels.map Label.toAscii) ∧
      Label.directionsAgree labels ∧
      (∀ label ∈ labels, ∃ written, Label.isPlain written ∧ Label.read written = some label) ∧
      ∀ label ∈ labels, ∀ c ∈ Label.toAscii label, isSettled c ∧ c ≠ '.' := by
  unfold toAscii at h
  split at h
  · cases h
  · rename_i plain hplain
    obtain ⟨hforbidden, h⟩ := Option.ite_none_left_eq_some.mp h
    split at h
    · cases h
    · rename_i labels hlabels
      obtain ⟨hagree, h⟩ := Option.ite_none_right_eq_some.mp h
      cases h
      obtain ⟨hlength, hread⟩ := Text.exists_of_mapM hlabels
      have hne : labels ≠ [] := by
        rw [← List.length_pos_iff, hlength, List.length_pos_iff]
        exact ne_nil_of_plainLabels? hplain
      refine ⟨labels, hne, rfl, hagree, ?_, ?_⟩
      · intro label hlabel
        obtain ⟨part, hmem, hpart⟩ := hread label hlabel
        exact ⟨part, (isPlain_of_plainLabels? hplain part hmem).1, hpart⟩
      · intro label hlabel
        obtain ⟨part, hmem, hpart⟩ := hread label hlabel
        obtain ⟨hwritten, hdot⟩ := isPlain_of_plainLabels? hplain part hmem
        refine Label.isSettled_toAscii hwritten hpart fun c hc => ⟨?_, ?_⟩
        · refine Bool.eq_false_iff.mpr fun hf => hforbidden ?_
          exact List.any_eq_true.mpr ⟨part, hmem, List.any_eq_true.mpr ⟨c, hc, hf⟩⟩
        · rintro rfl
          exact hdot hc

theorem isSettled_of_toAscii {host name : List Char} (h : toAscii host = some name) :
    ∀ c ∈ name, isSettled c := by
  obtain ⟨labels, -, rfl, -, -, hsettled⟩ := exists_labels h
  intro c hc
  rcases Text.mem_join hc with rfl | ⟨part, hpart, hc⟩
  · decide
  · obtain ⟨label, hlabel, rfl⟩ := List.mem_map.mp hpart
    exact (hsettled label hlabel c hc).1

/-- An ASCII form is its own ASCII form, unless the form of a label is too long to be read. -/
theorem toAscii_toAscii {host name : List Char} (h : toAscii host = some name) :
    toAscii name = if (Text.split '.' name).all Label.isReadable then some name else none := by
  have hsettled := isSettled_of_toAscii h
  obtain ⟨labels, hne, hname, hagree, hread, hdot⟩ := exists_labels h
  have hsplit : Text.split '.' name = labels.map Label.toAscii := by
    rw [hname]
    refine Text.split_join (by simpa using hne) fun part hpart hmem => ?_
    obtain ⟨label, hlabel, rfl⟩ := List.mem_map.mp hpart
    exact (hdot label hlabel '.' hmem).2 rfl
  have hforbidden := any_isForbidden_of_isSettled hsettled
  rw [hsplit] at hforbidden ⊢
  simp only [toAscii, plainLabels?_of_isSettled hsettled, hsplit, hforbidden,
    Label.mapM_read_toAscii hread]
  cases (labels.map Label.toAscii).all Label.isReadable with
  | true => simp [hagree, hname]
  | false => rfl

/-- A name without forms in it is its own ASCII form. -/
theorem toAscii_of_isSettled {name : List Char} (h : ∀ c ∈ name, isSettled c)
    (hmark : ∀ part ∈ Text.split '.' name, part.take 4 ≠ Label.asciiMark) :
    toAscii name = some name := by
  have hascii : ∀ part ∈ Text.split '.' name, ∀ c ∈ part, Label.isAscii c := by
    intro part hpart c hc
    exact isAscii_of_isSettled (h c (Text.mem_split hpart hc).1)
  have hread : (Text.split '.' name).mapM Label.read = some (Text.split '.' name) := by
    refine (Text.mapM_of_forall fun part hpart => ?_).trans (congrArg some (List.map_id _))
    rw [Label.read, if_neg (hmark part hpart), List.all_eq_true.mpr (hascii part hpart)]
    rfl
  have hagree : Label.directionsAgree (Text.split '.' name) := by
    refine if_neg ?_
    simp only [List.any_eq_true, not_exists, not_and]
    intro part hpart c hc
    rw [Label.turnsText, if_pos (of_decide_eq_true (hascii part hpart c hc))]
    exact Bool.false_ne_true
  have hjoin : (Text.split '.' name).map Label.toAscii = Text.split '.' name := by
    refine (List.map_congr_left fun part hpart => ?_).trans (List.map_id _)
    exact if_pos (List.all_eq_true.mpr (hascii part hpart))
  simp only [toAscii, plainLabels?_of_isSettled h, any_isForbidden_of_isSettled h, hread, hagree,
    hjoin, Text.join_split]
  rfl

end Domain

end PreviewHub
