import PagedResults.Message

/-! # The encoding of messages

Every message is the concatenation of its fields in order; a request and a response begin with the
number of their alternative. A payload holds one message and nothing else.
-/

namespace PagedResults

def Column.codec : Codec Column :=
  (Codec.text.pair (Kind.codec.pair Codec.bool)).through
    (fun column => (column.name, column.kind, column.nullable))
    (fun (name, kind, nullable) => ⟨name, kind, nullable⟩)

def WirePage.codec : Codec WirePage :=
  (Codec.uint64.pair (Codec.bool.pair (Codec.list (Codec.list Cell.codec)))).through
    (fun page => (page.offset, page.isLast, page.rows))
    (fun (offset, isLast, rows) => ⟨offset, isLast, rows⟩)

def ServiceError.codec : Codec ServiceError :=
  (Codec.int32.pair
      (Codec.text.pair (Codec.option "core::option::Option<alloc::string::String>" Codec.text))).through
    (fun detail => (detail.code, detail.message, detail.sqlState))
    (fun (code, message, sqlState) => ⟨code, message, sqlState⟩)

namespace Request

/-! The fields of each request. -/

def openFields : Codec (String × String × List (String × String)) :=
  Codec.text.pair (Codec.text.pair (Codec.list (Codec.text.pair Codec.text)))

def executeFields : Codec (UInt64 × List Cell × UInt32 × UInt64) :=
  Codec.uint64.pair ((Codec.list Cell.codec).pair (Codec.uint32.pair Codec.uint64))

def prepareAndExecuteFields : Codec (String × UInt32 × UInt64) :=
  Codec.text.pair (Codec.uint32.pair Codec.uint64)

def fetchFields : Codec (UInt64 × UInt64 × UInt32) :=
  Codec.uint64.pair (Codec.uint64.pair Codec.uint32)

def streamFields : Codec (String × UInt32) := Codec.text.pair Codec.uint32

def write : Request → Bytes
  | openConnection user password properties =>
      Codec.tag 0 ++ openFields.write (user, password, properties)
  | closeConnection => Codec.tag 1
  | prepare sql => Codec.tag 2 ++ Codec.text.write sql
  | execute statement parameters fetchSize maxRows =>
      Codec.tag 3 ++ executeFields.write (statement, parameters, fetchSize, maxRows)
  | prepareAndExecute sql fetchSize maxRows =>
      Codec.tag 4 ++ prepareAndExecuteFields.write (sql, fetchSize, maxRows)
  | fetch statement offset fetchSize =>
      Codec.tag 5 ++ fetchFields.write (statement, offset, fetchSize)
  | executeStream sql fetchSize => Codec.tag 6 ++ streamFields.write (sql, fetchSize)
  | closeResult statement => Codec.tag 7 ++ Codec.uint64.write statement
  | closeStatement statement => Codec.tag 8 ++ Codec.uint64.write statement
  | commit => Codec.tag 9
  | rollback => Codec.tag 10
  | ping => Codec.tag 11

def read : Reader Request := Reader.choice "Request" [
  (fun (user, password, properties) => openConnection user password properties) <$> openFields.read,
  pure closeConnection,
  prepare <$> Codec.text.read,
  (fun (statement, parameters, fetchSize, maxRows) =>
    execute statement parameters fetchSize maxRows) <$> executeFields.read,
  (fun (sql, fetchSize, maxRows) => prepareAndExecute sql fetchSize maxRows) <$>
    prepareAndExecuteFields.read,
  (fun (statement, offset, fetchSize) => fetch statement offset fetchSize) <$> fetchFields.read,
  (fun (sql, fetchSize) => executeStream sql fetchSize) <$> streamFields.read,
  closeResult <$> Codec.uint64.read,
  closeStatement <$> Codec.uint64.read,
  pure commit,
  pure rollback,
  pure ping]

/-- The fields of the request are storable. -/
def Storable : Request → Prop
  | openConnection user password properties => openFields.Storable (user, password, properties)
  | prepare sql => Codec.text.Storable sql
  | execute statement parameters fetchSize maxRows =>
      executeFields.Storable (statement, parameters, fetchSize, maxRows)
  | prepareAndExecute sql fetchSize maxRows => prepareAndExecuteFields.Storable (sql, fetchSize, maxRows)
  | executeStream sql fetchSize => streamFields.Storable (sql, fetchSize)
  | _ => True

def codec : Codec Request := ⟨write, read, Storable⟩

end Request

namespace Response

/-! The fields of each response. -/

def preparedFields : Codec (UInt64 × List Column) := Codec.uint64.pair (Codec.list Column.codec)

def resultSetFields : Codec (UInt64 × List Column × WirePage) :=
  Codec.uint64.pair ((Codec.list Column.codec).pair WirePage.codec)

def write : Response → Bytes
  | ok => Codec.tag 0
  | pong => Codec.tag 1
  | connected connection => Codec.tag 2 ++ Codec.uint64.write connection
  | prepared statement columns => Codec.tag 3 ++ preparedFields.write (statement, columns)
  | resultSet statement columns first =>
      Codec.tag 4 ++ resultSetFields.write (statement, columns, first)
  | page content => Codec.tag 5 ++ WirePage.codec.write content
  | error detail => Codec.tag 6 ++ ServiceError.codec.write detail

def read : Reader Response := Reader.choice "Response" [
  pure ok,
  pure pong,
  connected <$> Codec.uint64.read,
  (fun (statement, columns) => prepared statement columns) <$> preparedFields.read,
  (fun (statement, columns, first) => resultSet statement columns first) <$> resultSetFields.read,
  page <$> WirePage.codec.read,
  error <$> ServiceError.codec.read]

/-- The fields of the response are storable. -/
def Storable : Response → Prop
  | prepared statement columns => preparedFields.Storable (statement, columns)
  | resultSet statement columns first => resultSetFields.Storable (statement, columns, first)
  | page content => WirePage.codec.Storable content
  | error detail => ServiceError.codec.Storable detail
  | _ => True

def codec : Codec Response := ⟨write, read, Storable⟩

end Response

def RequestEnvelope.codec : Codec RequestEnvelope :=
  (Codec.uint64.pair Request.codec).through (fun envelope => (envelope.id, envelope.request))
    (fun (id, request) => ⟨id, request⟩)

def ResponseEnvelope.codec : Codec ResponseEnvelope :=
  (Codec.uint64.pair (Codec.bool.pair Response.codec)).through
    (fun envelope => (envelope.id, envelope.last, envelope.response))
    (fun (id, last, response) => ⟨id, last, response⟩)

namespace Codec

variable {α : Type}

/-- The payload that carries a message. -/
def encode (codec : Codec α) (message : α) : Bytes := codec.write message

/-- The message that a payload carries; it must fill the payload. -/
def decode (codec : Codec α) (payload : Bytes) : Outcome WireError α :=
  match codec.read payload with
  | .ok (message, []) => .ok message
  | .ok (_, rest) => Outcome.fail (.truncated (payload.length - rest.length) payload.length)
  | .error (.error cause) => Outcome.fail (.undecodable cause)
  | .error (.halt reason) => Outcome.halt reason

end Codec

end PagedResults
