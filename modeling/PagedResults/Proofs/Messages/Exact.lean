import PagedResults.Proofs.Cells.Exact
import PagedResults.Proofs.Messages

/-! # Messages and payloads correspond one to one

Every request and every response has one payload, and a payload that is cut short or followed by more is
told apart from a faulty one.
-/

namespace PagedResults

/-! ## The parts of a message -/

theorem Column.codec_exact : Column.codec.Exact :=
  (Codec.text_exact.pair (Kind.codec_exact.pair Codec.bool_exact)).through (fun _ => rfl) (fun _ => rfl)

private theorem Column.columns_exact : (Codec.list Column.codec).Exact := codec_exact.list codec_takes (by decide)

theorem WirePage.codec_exact : WirePage.codec.Exact :=
  (Codec.uint64_exact.pair (Codec.bool_exact.pair (Cell.cells_exact.list (Codec.list_takes _) (by decide)))).through
    (fun _ => rfl) (fun _ => rfl)

theorem ServiceError.codec_exact : ServiceError.codec.Exact :=
  (Codec.int32_exact.pair (Codec.text_exact.pair (Codec.text_exact.option _))).through
    (fun _ => rfl) (fun _ => rfl)

/-! ## Requests -/

namespace Request

private theorem openFields_exact : openFields.Exact :=
  Codec.text_exact.pair (Codec.text_exact.pair
    ((Codec.text_exact.pair Codec.text_exact).list (Codec.text_takes.pair Codec.text_takes) (by decide)))

private theorem executeFields_exact : executeFields.Exact :=
  Codec.uint64_exact.pair (Cell.cells_exact.pair (Codec.uint32_exact.pair Codec.uint64_exact))

private theorem prepareAndExecuteFields_exact : prepareAndExecuteFields.Exact :=
  Codec.text_exact.pair (Codec.uint32_exact.pair Codec.uint64_exact)

private theorem fetchFields_exact : fetchFields.Exact :=
  Codec.uint64_exact.pair (Codec.uint64_exact.pair Codec.uint32_exact)

private theorem streamFields_exact : streamFields.Exact := Codec.text_exact.pair Codec.uint32_exact

theorem codec_exact : codec.Exact :=
  Reader.Variants.exact (
    .cons (.fields openFields_exact (fun _ => rfl) fun _ => id) <|
    .cons (.alone rfl (by trivial)) <|
    .cons (.fields Codec.text_exact (fun _ => rfl) fun _ => id) <|
    .cons (.fields executeFields_exact (fun _ => rfl) fun _ => id) <|
    .cons (.fields prepareAndExecuteFields_exact (fun _ => rfl) fun _ => id) <|
    .cons (.fields fetchFields_exact (fun _ => rfl) fun _ _ => by trivial) <|
    .cons (.fields streamFields_exact (fun _ => rfl) fun _ => id) <|
    .cons (.fields Codec.uint64_exact (fun _ => rfl) fun _ => id) <|
    .cons (.fields Codec.uint64_exact (fun _ => rfl) fun _ => id) <|
    .cons (.alone rfl (by trivial)) <| .cons (.alone rfl (by trivial)) <| .cons (.alone rfl (by trivial)) .nil)
    rfl codec_roundTrips

end Request

namespace Response

private theorem preparedFields_exact : preparedFields.Exact := Codec.uint64_exact.pair Column.columns_exact

private theorem resultSetFields_exact : resultSetFields.Exact :=
  Codec.uint64_exact.pair (Column.columns_exact.pair WirePage.codec_exact)

theorem codec_exact : codec.Exact :=
  Reader.Variants.exact (
    .cons (.alone rfl (by trivial)) <| .cons (.alone rfl (by trivial)) <|
    .cons (.fields Codec.uint64_exact (fun _ => rfl) fun _ => id) <|
    .cons (.fields preparedFields_exact (fun _ => rfl) fun _ => id) <|
    .cons (.fields resultSetFields_exact (fun _ => rfl) fun _ => id) <|
    .cons (.fields WirePage.codec_exact (fun _ => rfl) fun _ => id) <|
    .cons (.fields ServiceError.codec_exact (fun _ => rfl) fun _ => id) .nil)
    rfl codec_roundTrips

end Response

theorem RequestEnvelope.codec_exact : RequestEnvelope.codec.Exact :=
  (Codec.uint64_exact.pair Request.codec_exact).through (fun _ => rfl) (fun _ => rfl)

theorem ResponseEnvelope.codec_exact : ResponseEnvelope.codec.Exact :=
  (Codec.uint64_exact.pair (Codec.bool_exact.pair Response.codec_exact)).through (fun _ => rfl) (fun _ => rfl)

/-! ## Payloads -/

namespace Codec

variable {α : Type} {codec : Codec α}

private theorem decode_eq_ok {payload : Bytes} {message : α} :
    codec.decode payload = .ok message ↔ codec.read payload = .ok (message, []) := by
  rw [decode]
  split <;> simp_all [Outcome.fail, Outcome.halt]

/-- The payload that is decoded is the one that carries the message. -/
theorem Canonical.encode_of_decode (canonical : codec.Canonical) {payload : Bytes} {message : α}
    (decoded : codec.decode payload = .ok message) : codec.encode message = payload := by
  have same := canonical.write_read (decode_eq_ok.mp decoded)
  rw [List.append_nil] at same
  exact same

/-- Whatever else was wrong with the beginning of a payload would be wrong with the whole of it. -/
theorem Exact.decode_beginning (exact : codec.Exact) {message : α} {front missing : Bytes}
    (storable : codec.Storable message) (whole : codec.encode message = front ++ missing) (proper : missing ≠ []) :
    ∃ additional, codec.decode front = Outcome.fail (.undecodable (.unexpectedEnd additional)) := by
  rcases exact.orderly.stands front missing with ⟨additional, ends⟩ | stands
  · exact ⟨additional, by rw [decode, ends]⟩
  · have read := exact.roundTrips.read_write message [] storable
    rw [List.append_nil, ← encode, whole, stands] at read
    rcases found : codec.read front with failure | ⟨value, rest⟩
    · rw [found] at read
      contradiction
    · rw [found] at read
      have nothing : rest ++ missing = [] := (Prod.mk.inj (Except.ok.inj read)).2
      exact absurd (List.append_eq_nil_iff.mp nothing).2 proper

/-- What follows a message is left over. -/
theorem RoundTrips.decode_longer (roundTrips : codec.RoundTrips) {message : α} {more : Bytes}
    (storable : codec.Storable message) (proper : more ≠ []) :
    codec.decode (codec.encode message ++ more) =
      Outcome.fail (.truncated (codec.encode message).length
        (codec.encode message ++ more).length) := by
  have read : codec.read (codec.encode message ++ more) = .ok (message, more) :=
    roundTrips.read_write message more storable
  have taken : (codec.encode message ++ more).length - more.length = (codec.encode message).length := by
    rw [List.length_append, Nat.add_sub_cancel]
  rw [decode, read]
  cases more with
  | nil => exact absurd rfl proper
  | cons byte rest => rw [← taken]

/-- Messages that can be in memory and the payloads that are decoded correspond one to one. Too short a
payload lacks bytes, and too long a one is cut behind its message. -/
structure OneToOne (codec : Codec α) : Prop where
  decode_encode : ∀ message, codec.Storable message → codec.decode (codec.encode message) = .ok message
  encode_decode : ∀ payload message, codec.decode payload = .ok message →
    codec.Storable message ∧ codec.encode message = payload
  shorter : ∀ message front, codec.Storable message →
    front <+: codec.encode message → front ≠ codec.encode message →
    ∃ additional, codec.decode front = Outcome.fail (.undecodable (.unexpectedEnd additional))
  longer : ∀ message payload, codec.Storable message →
    codec.encode message <+: payload → payload ≠ codec.encode message →
    codec.decode payload = Outcome.fail (.truncated (codec.encode message).length payload.length)

private theorem Exact.oneToOne (exact : codec.Exact) : codec.OneToOne where
  decode_encode message storable := exact.roundTrips.decode_encode storable
  encode_decode payload message decoded :=
    ⟨exact.canonical.storable (decode_eq_ok.mp decoded), exact.canonical.encode_of_decode decoded⟩
  shorter := by
    rintro message front storable ⟨missing, whole⟩ proper
    refine exact.decode_beginning storable whole.symm ?_
    rintro rfl
    rw [List.append_nil] at whole
    exact proper whole
  longer := by
    rintro message _ storable ⟨more, rfl⟩ proper
    refine exact.roundTrips.decode_longer storable ?_
    rintro rfl
    exact proper (List.append_nil _)

end Codec

/-- Every request and every response has exactly one payload. -/
theorem envelopes_oneToOne : RequestEnvelope.codec.OneToOne ∧ ResponseEnvelope.codec.OneToOne :=
  ⟨RequestEnvelope.codec_exact.oneToOne, ResponseEnvelope.codec_exact.oneToOne⟩

/-- A result set with one row, that holds an array, is told apart from what is left of it without its last
byte and from what is behind it. -/
theorem envelopes_oneToOne_page :
    let cells := [Value.array [.null, .array [.text "é"]]].map Value.toCell
    let message : ResponseEnvelope :=
      ⟨7, true, .resultSet 3 [⟨"a", .array, true⟩] ⟨0, true, [cells]⟩⟩
    let payload := ResponseEnvelope.codec.encode message
    ResponseEnvelope.codec.Storable message ∧ ResponseEnvelope.codec.decode payload = .ok message ∧
      (∃ additional, ResponseEnvelope.codec.decode payload.dropLast =
        Outcome.fail (.undecodable (.unexpectedEnd additional))) ∧
      ResponseEnvelope.codec.decode (payload ++ [0]) =
        Outcome.fail (.truncated payload.length (payload.length + 1)) := by
  intro cells message payload
  have storable : ResponseEnvelope.codec.Storable message :=
    ResponseEnvelope.codec_roundTrips.storable message (by decide +kernel)
  have replies := envelopes_oneToOne.2
  refine ⟨storable, replies.decode_encode message storable,
    replies.shorter message _ storable (List.dropLast_prefix _) (by decide +kernel), ?_⟩
  have left := replies.longer message (payload ++ [0]) storable (List.prefix_append _ _) (by decide +kernel)
  rw [List.length_append] at left
  exact left

end PagedResults
