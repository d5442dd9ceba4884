import PagedResults.Server.Table
import PagedResults.Text.Blank
import PagedResults.Text.Lowercase

/-! # Catalogs

A data set answers statements with tables. A catalog is a data set of named tables. It knows two kinds
of statements, the name of a table alone and `select * from` a name, in any case, with blanks around
the words and semicolons at the end.
-/

namespace PagedResults

/-- What answers a statement with its parameters. -/
abbrev Dataset := String → List Value → Except ServiceError Table

/-- Tables by their names in lower case. -/
structure Catalog where
  tables : List (String × Table) := []

namespace Catalog

/-- Name a table; a table of the same name is replaced. -/
def withTable (name : String) (table : Table) (catalog : Catalog) : Catalog :=
  let name := String.ofList (Text.lower name.toList)
  ⟨(name, table) :: catalog.tables.filter (·.1 ≠ name)⟩

/-- The text of a statement that counts. -/
def normalize (sql : String) : List Char :=
  Text.lower (Text.dropWhileEnd (· == ';') (Text.trim sql.toList))

/-- The name of the table that a statement reads. -/
def tableName (sql : String) : Except ServiceError String :=
  let statement := normalize sql
  match (Text.words statement).map String.ofList with
  | [name] => .ok name
  | ["select", "*", "from", name] => .ok name
  | [] => .error ⟨1, "empty statement", some "42000"⟩
  | _ => .error ⟨1, s!"unsupported statement '{String.ofList statement}'", some "42000"⟩

/-- The table that a statement reads. Parameters have no meaning here. -/
def query (catalog : Catalog) : Dataset := fun sql _ => do
  let name ← tableName sql
  match catalog.tables.lookup name with
  | some table => return table
  | none => .error ⟨2, s!"unknown table '{name}'", some "42S02"⟩

end Catalog

end PagedResults
