import TableQuery.Json.Printer
import TableQuery.Json.Record

/-!
# Pages of rows

What a read returns, and what caches hold as JSON text: `ResultPage.toJson`, read back by
`ResultPage.ofText?`.
-/

namespace TableQuery

/-- One page of the rows of a read. -/
structure ResultPage where
  /-- Each row with its columns in order. -/
  rows : List (List (String × Json))
  /-- The number of rows on all pages. -/
  totalCount : Nat
  page : Nat
  limit : Nat
  totalPages : Nat
deriving Inhabited

/-- What a write did. -/
structure WriteOutcome where
  /-- The number of rows written. -/
  affected : Nat
  /-- Written fields that the table does not have. -/
  droppedFields : List String
deriving DecidableEq, Repr

/-- The outcome as an object. -/
def WriteOutcome.toJson (o : WriteOutcome) : Json := .object [
  ("affected", .nat o.affected),
  ("droppedFields", .array (o.droppedFields.map Json.string))]

namespace ResultPage

/-- The fields of the page. -/
def fields (p : ResultPage) : List (String × Json) := [
  ("rows", .array (p.rows.map Json.object)),
  ("totalCount", .nat p.totalCount),
  ("page", .nat p.page),
  ("limit", .nat p.limit),
  ("totalPages", .nat p.totalPages)]

/-- The page as an object. -/
def toJson (p : ResultPage) : Json := .object p.fields

/-- Reads a row, which stands inside of a page and a list. -/
def rowOf? (tree : JsonSyntax) : Option (List (String × Json)) :=
  match tree.toJson? (jsonDepth - 2) with
  | some (.object fields) => some fields
  | _ => none

/-- Reads a page. -/
def ofSyntax? (tree : JsonSyntax) : Option ResultPage := do
  let [rows, totalCount, page, limit, totalPages] ←
    tree.record? ["rows", "totalCount", "page", "limit", "totalPages"] | none
  let rows ← (← rows.items?).mapM rowOf?
  let totalCount ← totalCount.word?
  let page ← page.word?
  let limit ← limit.word?
  let totalPages ← totalPages.word?
  some { rows, totalCount, page, limit, totalPages }

/-- Reads the JSON text of a page. -/
def ofText? (text : String) : Option ResultPage := (JsonSyntax.parse? text).bind ofSyntax?

end ResultPage

end TableQuery
