import PagedResults.Message

/-! # Descriptions of responses

A response that answers the wrong request is described in full, with the names of all its parts.
-/

namespace PagedResults

/-- The descriptions of several things between brackets. -/
def describeList {α : Type} (describe : α → String) (items : List α) : String :=
  "[" ++ String.intercalate ", " (items.map describe) ++ "]"

def Cell.description (cell : Cell) : String :=
  let payload := describeList (fun byte => toString byte.toNat) cell.payload
  s!"WireCell \x7b kind: {cell.kind.name}, data: {payload} \x7d"

def Column.description (column : Column) : String :=
  s!"Column \x7b name: {Text.quoted column.name}, kind: {column.kind.name}, nullable: {column.nullable} \x7d"

def WirePage.description (page : WirePage) : String :=
  let describeRow := fun row => s!"WireRow({describeList Cell.description row})"
  let rows := describeList describeRow page.rows
  s!"WireFrame \x7b offset: {page.offset}, is_last: {page.isLast}, rows: {rows} \x7d"

def ServiceError.description (detail : ServiceError) : String :=
  s!"ErrorDetail \x7b code: {detail.code.toInt}, message: {Text.quoted detail.message}, sql_state: {Text.quotedOption detail.sqlState} \x7d"

/-- The response with the names of its parts. -/
def Response.description : Response → String
  | .ok => "Ok"
  | .pong => "Pong"
  | .connected connection => s!"Connected \x7b connection_id: {connection} \x7d"
  | .prepared statement columns =>
      s!"Prepared \x7b statement_id: {statement}, columns: {describeList Column.description columns} \x7d"
  | .resultSet statement columns first =>
      s!"ResultSet \x7b statement_id: {statement}, columns: {describeList Column.description columns}, frame: {first.description} \x7d"
  | .page content => s!"Frame({content.description})"
  | .error detail => s!"Err({detail.description})"

end PagedResults
