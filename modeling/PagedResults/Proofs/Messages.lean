import PagedResults.Message.Codec
import PagedResults.Proofs.Cells

/-! # Messages are read back as they were sent

Every request and every response round-trips, under its id and with all of its fields. Decoding the
payload of a message gives the message, because the payload holds nothing else.
-/

namespace PagedResults

theorem Column.codec_roundTrips : Column.codec.RoundTrips :=
  (Codec.text_roundTrips.pair (Kind.codec_roundTrips.pair Codec.bool_roundTrips)).through fun _ => rfl

theorem Column.codec_takes : Column.codec.Takes where
  size_pos := by decide
  size_le column := by
    change 32 ≤ 3 * (Codec.bytes.write (Utf8.encode column.name) ++
      (LittleEndian.write 4 column.kind.number ++ [if column.nullable then 1 else 0])).length
    simp only [List.length_append, Codec.length_bytes, LittleEndian.length_write, List.length_singleton]
    omega

private theorem Column.columns_roundTrips : (Codec.list Column.codec).RoundTrips :=
  Column.codec_roundTrips.list Column.codec_takes

theorem WirePage.codec_roundTrips : WirePage.codec.RoundTrips :=
  (Codec.uint64_roundTrips.pair (Codec.bool_roundTrips.pair
    (Cell.cells_roundTrips.list (Codec.list_takes _)))).through fun _ => rfl

theorem ServiceError.codec_roundTrips : ServiceError.codec.RoundTrips :=
  (Codec.int32_roundTrips.pair
    (Codec.text_roundTrips.pair (Codec.text_roundTrips.option _))).through fun _ => rfl

section Alternatives

variable {α β : Type} {typeName : String} {alternatives : List (Reader α)} {number : Nat}

/-- An alternative without fields. -/
theorem Reader.choice_pure {value : α} (entry : alternatives[number]? = some (pure value))
    (small : number < 2 ^ 32) (rest : Bytes) :
    choice typeName alternatives (Codec.tag number ++ rest) = .ok (value, rest) :=
  choice_write entry small rest

/-- An alternative whose fields round-trip. -/
theorem Reader.choice_fields {fields : Codec β} (roundTrips : fields.RoundTrips) {change : β → α}
    {value : β} {result : α} (entry : alternatives[number]? = some (change <$> fields.read))
    (small : number < 2 ^ 32) (changed : change value = result) (rest : Bytes)
    (storable : fields.Storable value) :
    choice typeName alternatives (Codec.tag number ++ fields.write value ++ rest) = .ok (result, rest) := by
  rw [List.append_assoc, choice_write entry small]
  exact map_eq_ok.mpr ⟨value, roundTrips.read_write value rest storable, changed⟩

/-- The fields of an alternative take no more bytes than the alternative. -/
theorem Codec.RoundTrips.storable_fields {fields : Codec β} (roundTrips : fields.RoundTrips) {value : β}
    (bounded : 3 * (Codec.tag number ++ fields.write value).length ≤ Bytes.capacity) :
    fields.Storable value := by
  rw [List.length_append] at bounded
  exact roundTrips.storable value (by omega)

end Alternatives

namespace Request

private theorem openFields_roundTrips : openFields.RoundTrips :=
  Codec.text_roundTrips.pair (Codec.text_roundTrips.pair
    ((Codec.text_roundTrips.pair Codec.text_roundTrips).list (Codec.text_takes.pair Codec.text_takes)))

private theorem executeFields_roundTrips : executeFields.RoundTrips :=
  Codec.uint64_roundTrips.pair (Cell.cells_roundTrips.pair
    (Codec.uint32_roundTrips.pair Codec.uint64_roundTrips))

private theorem prepareAndExecuteFields_roundTrips : prepareAndExecuteFields.RoundTrips :=
  Codec.text_roundTrips.pair (Codec.uint32_roundTrips.pair Codec.uint64_roundTrips)

private theorem fetchFields_roundTrips : fetchFields.RoundTrips :=
  Codec.uint64_roundTrips.pair (Codec.uint64_roundTrips.pair Codec.uint32_roundTrips)

private theorem streamFields_roundTrips : streamFields.RoundTrips :=
  Codec.text_roundTrips.pair Codec.uint32_roundTrips

theorem codec_roundTrips : codec.RoundTrips where
  read_write request rest storable := by
    cases request <;> simp only [codec, write, read] at storable ⊢
    case openConnection =>
      exact Reader.choice_fields openFields_roundTrips (by rfl) (by decide) (by rfl) rest storable
    case closeConnection => exact Reader.choice_pure rfl (by decide) rest
    case prepare =>
      exact Reader.choice_fields Codec.text_roundTrips (by rfl) (by decide) (by rfl) rest storable
    case execute =>
      exact Reader.choice_fields executeFields_roundTrips (by rfl) (by decide) (by rfl) rest storable
    case prepareAndExecute =>
      exact Reader.choice_fields prepareAndExecuteFields_roundTrips (by rfl) (by decide) (by rfl) rest storable
    case fetch =>
      exact Reader.choice_fields fetchFields_roundTrips (by rfl) (by decide) (by rfl) rest ⟨trivial, trivial, trivial⟩
    case executeStream =>
      exact Reader.choice_fields streamFields_roundTrips (by rfl) (by decide) (by rfl) rest storable
    case closeResult =>
      exact Reader.choice_fields Codec.uint64_roundTrips (by rfl) (by decide) (by rfl) rest trivial
    case closeStatement =>
      exact Reader.choice_fields Codec.uint64_roundTrips (by rfl) (by decide) (by rfl) rest trivial
    case commit => exact Reader.choice_pure rfl (by decide) rest
    case rollback => exact Reader.choice_pure rfl (by decide) rest
    case ping => exact Reader.choice_pure rfl (by decide) rest
  storable request bounded := by
    cases request <;> simp only [codec, write] at bounded ⊢
    case openConnection => exact openFields_roundTrips.storable_fields bounded
    case prepare => exact Codec.text_roundTrips.storable_fields bounded
    case execute => exact executeFields_roundTrips.storable_fields bounded
    case prepareAndExecute => exact prepareAndExecuteFields_roundTrips.storable_fields bounded
    case executeStream => exact streamFields_roundTrips.storable_fields bounded
    all_goals trivial

end Request

namespace Response

private theorem preparedFields_roundTrips : preparedFields.RoundTrips :=
  Codec.uint64_roundTrips.pair Column.columns_roundTrips

private theorem resultSetFields_roundTrips : resultSetFields.RoundTrips :=
  Codec.uint64_roundTrips.pair (Column.columns_roundTrips.pair WirePage.codec_roundTrips)

theorem codec_roundTrips : codec.RoundTrips where
  read_write response rest storable := by
    cases response <;> simp only [codec, write, read] at storable ⊢
    case ok => exact Reader.choice_pure rfl (by decide) rest
    case pong => exact Reader.choice_pure rfl (by decide) rest
    case connected =>
      exact Reader.choice_fields Codec.uint64_roundTrips (by rfl) (by decide) (by rfl) rest trivial
    case prepared =>
      exact Reader.choice_fields preparedFields_roundTrips (by rfl) (by decide) (by rfl) rest storable
    case resultSet =>
      exact Reader.choice_fields resultSetFields_roundTrips (by rfl) (by decide) (by rfl) rest storable
    case page =>
      exact Reader.choice_fields WirePage.codec_roundTrips (by rfl) (by decide) (by rfl) rest storable
    case error =>
      exact Reader.choice_fields ServiceError.codec_roundTrips (by rfl) (by decide) (by rfl) rest storable
  storable response bounded := by
    cases response <;> simp only [codec, write] at bounded ⊢
    case prepared => exact preparedFields_roundTrips.storable_fields bounded
    case resultSet => exact resultSetFields_roundTrips.storable_fields bounded
    case page => exact WirePage.codec_roundTrips.storable_fields bounded
    case error => exact ServiceError.codec_roundTrips.storable_fields bounded
    all_goals trivial

end Response

theorem RequestEnvelope.codec_roundTrips : RequestEnvelope.codec.RoundTrips :=
  (Codec.uint64_roundTrips.pair Request.codec_roundTrips).through fun _ => rfl

theorem ResponseEnvelope.codec_roundTrips : ResponseEnvelope.codec.RoundTrips :=
  (Codec.uint64_roundTrips.pair (Codec.bool_roundTrips.pair Response.codec_roundTrips)).through
    fun _ => rfl

/-- The payload of a message gives the message back. -/
theorem Codec.RoundTrips.decode_encode {α : Type} {codec : Codec α} (roundTrips : codec.RoundTrips)
    {message : α} (storable : codec.Storable message) :
    codec.decode (codec.encode message) = .ok message := by
  have read := roundTrips.read_write message [] storable
  rw [List.append_nil] at read
  simp only [decode, encode, read]

/-! ## Messages that fit into a frame -/

/-- Under any id, the payload of the request is not too long. -/
def Request.Fits (request : Request) : Prop :=
  ∀ id, (RequestEnvelope.codec.encode ⟨id, request⟩).length ≤ maxFrameLength

/-- Under any id and with any mark, the payload of the response is not too long. -/
def Response.Fits (response : Response) : Prop :=
  ∀ id last, (ResponseEnvelope.codec.encode ⟨id, last, response⟩).length ≤ maxFrameLength

theorem maxFrameLength_le_capacity : 3 * maxFrameLength ≤ Bytes.capacity := by decide

/-- A message that fits into a frame can be in memory. -/
theorem Codec.RoundTrips.decode_frame {α : Type} {codec : Codec α} (roundTrips : codec.RoundTrips)
    {message : α} (fits : (codec.encode message).length ≤ maxFrameLength) :
    codec.decode (codec.encode message) = .ok message := by
  refine roundTrips.decode_encode (roundTrips.storable message ?_)
  exact Nat.le_trans (Nat.mul_le_mul_left 3 fits) maxFrameLength_le_capacity

theorem Request.Fits.decode_encode {request : Request} (fits : request.Fits) (id : UInt64) :
    RequestEnvelope.codec.decode (RequestEnvelope.codec.encode ⟨id, request⟩) = .ok ⟨id, request⟩ :=
  RequestEnvelope.codec_roundTrips.decode_frame (fits id)

theorem Response.Fits.decode_encode {response : Response} (fits : response.Fits) (id : UInt64)
    (last : Bool) : ResponseEnvelope.codec.decode (ResponseEnvelope.codec.encode ⟨id, last, response⟩) =
      .ok ⟨id, last, response⟩ :=
  ResponseEnvelope.codec_roundTrips.decode_frame (fits id last)

end PagedResults
