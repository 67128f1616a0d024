import PreviewHub.Message
import PreviewHub.Proofs.PrintedJson
import PreviewHub.Proofs.ReadJson

/-! Messages on the wire. What is encoded is decoded to the same object, and to mark a message as a
request changes none of its other fields on the way. -/

namespace PreviewHub

private theorem Json.integralFields_iff {fields : Fields} :
    Json.IntegralFields fields ↔ ∀ field ∈ fields, field.2.Integral := by
  induction fields with
  | nil => simp [IntegralFields]
  | cons field fields ih => rw [IntegralFields, ih, List.forall_mem_cons]

private theorem Json.requestId?_natural (id : RequestId) (fields : Fields) :
    (Json.obj (Fields.insert requestKey (.natural id) fields)).requestId? = some id := by
  rw [requestId?, get?, Fields.get?_insert_self, Option.bind_some, natural, natural?,
    if_pos (Int.natCast_nonneg id), Int.toNat_natCast]

namespace Message

section
variable {m : Message} {key : String} {value : Json}

private theorem integral_insert (hm : m.toJson.Integral) (hv : value.arrange.Integral) :
    (m.insert key value).toJson.Integral := by
  apply Json.integralFields_iff.mpr
  exact Fields.forall_insert hv (Json.integralFields_iff.mp hm)

private theorem depth_insert {n : Nat} (hm : m.toJson.depth ≤ n + 1)
    (hv : value.arrange.depth ≤ n) :
    (m.insert key value).toJson.depth ≤ n + 1 := by
  rw [toJson, Json.depth, Nat.add_comm, Nat.add_le_add_iff_right, Json.depthFields_le_iff] at hm ⊢
  exact Fields.forall_insert (P := fun x => x.depth ≤ n) hv hm

private theorem decodePayload_encode (hi : m.toJson.Integral) (hd : m.toJson.depth ≤ 127) :
    decodePayload m.encode = .ok m.toJson := by
  have hc : m.toJson.Canonical := m.canonical
  rw [decodePayload, encode, Json.parse_render hc hi (Nat.lt_succ_of_le hd)]

end

private theorem canonical_of_decodePayload {text : String} {payload : Json}
    (h : decodePayload text = .ok payload) : payload.Canonical ∧ payload.depth ≤ 127 := by
  rw [decodePayload] at h
  split at h
  · rename_i hparse
    cases h
    obtain ⟨hc, hd⟩ := Json.canonical_of_parse hparse
    exact ⟨hc, Nat.le_of_lt_succ hd⟩
  · cases h

/-- A message whose numbers are integers in range can be read from some text just if it is nested at
most 127 deep. Then it is read from its own encoding, and once it is marked as a request, whatever
id it had, that id and all other fields are read. An object that is read from any text is a message
as it stands. -/
theorem encoding_is_read_back (m : Message) (hi : m.toJson.Integral) :
    ((∃ text, decodePayload text = .ok m.toJson) ↔ m.toJson.depth ≤ 127) ∧
    (m.toJson.depth ≤ 127 →
      decodePayload m.encode = .ok m.toJson ∧
      ∀ id : Nat, id < Nat.pow 2 64 → ∃ payload,
        decodePayload (m.withRequestId id).encode = .ok payload ∧ payload.requestId? = some id ∧
        ∀ key, key ≠ requestKey → payload.get? key = m.get? key) ∧
    ∀ text fields, decodePayload text = .ok (.obj fields) →
      ∃ read : Message, ofJson (.obj fields) = .ok read ∧ read.fields = fields ∧
        read.toJson.depth ≤ 127 := by
  refine ⟨⟨?_, ?_⟩, fun hd => ⟨decodePayload_encode hi hd, ?_⟩, ?_⟩
  · rintro ⟨text, htext⟩
    exact (canonical_of_decodePayload htext).2
  · intro hd
    exact ⟨m.encode, decodePayload_encode hi hd⟩
  · intro id hid
    have hinteger : (Json.natural id).Integral := by
      constructor <;> omega
    refine ⟨(m.withRequestId id).toJson, ?_, Json.requestId?_natural id m.fields, ?_⟩
    · exact decodePayload_encode (integral_insert hi hinteger) (depth_insert hd (Nat.zero_le _))
    · intro key hkey
      exact Fields.get?_insert_of_ne hkey _ m.fields
  · intro text fields htext
    obtain ⟨hc, hd⟩ := canonical_of_decodePayload htext
    refine ⟨⟨⟨fields, hc⟩⟩, ?_, rfl, hd⟩
    rw [ofJson, Json.Object.ofFields_of_canonical hc]

/-- Integers at both ends of their ranges, a key and a text with quotes and control characters, and
an id that is replaced. -/
theorem encoding_is_read_back_with_escapes :
    ∃ m : Message, m.fields = [("\x00\"", .arr [.num (.int (-9223372036854775808)), .arr [],
      .obj [("messageId", .str "\\\n\x1f/")]]), ("messageId", .num (.int 18446744073709551615))] ∧
      m.toJson.Integral ∧ m.toJson.depth ≤ 127 ∧
      decodePayload m.encode = .ok m.toJson ∧
      (∃ payload, decodePayload (m.withRequestId 7).encode = .ok payload ∧
        payload.requestId? = some 7 ∧ payload.get? "\x00\"" = m.get? "\x00\"") ∧
      ∃ read : Message, ofJson m.toJson = .ok read ∧ read.fields = m.fields := by
  let fields : Fields := [("\x00\"", .arr [.num (.int (-9223372036854775808)), .arr [],
    .obj [("messageId", .str "\\\n\x1f/")]]), ("messageId", .num (.int 18446744073709551615))]
  have hc : (Json.obj fields).Canonical := by
    have hkeys : fields.Pairwise fun a b => a.1 < b.1 := by decide
    refine ⟨hkeys, ?_⟩
    simp [fields, Json.Canonical, Json.CanonicalFields, Json.CanonicalItems]
  let m : Message := ⟨⟨fields, hc⟩⟩
  have hi : m.toJson.Integral := by
    simp [m, fields, toJson, Json.Integral, Json.IntegralFields, Json.IntegralItems]
  have hd : (Json.obj fields).depth ≤ 127 := by decide
  obtain ⟨_, hown, hobjects⟩ := encoding_is_read_back m hi
  obtain ⟨hread, hmarked⟩ := hown hd
  obtain ⟨payload, hpayload, hid, hother⟩ := hmarked 7 (by decide)
  obtain ⟨read, hofJson, hfields, _⟩ := hobjects m.encode fields hread
  exact ⟨m, rfl, hi, hd, hread, ⟨payload, hpayload, hid, hother _ (by decide)⟩, read, hofJson,
    hfields⟩

end Message

end PreviewHub
