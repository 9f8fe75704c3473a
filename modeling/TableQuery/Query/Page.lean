import TableQuery.Fault

/-!
# Pages

Rows are read a page at a time. Pages are counted from 1.
-/

namespace TableQuery

/-- A page of at most `limit` rows. -/
structure PageRequest where
  page : Nat
  limit : Nat
deriving DecidableEq, Repr

namespace PageRequest

/-- Refuses a page or limit of 0. -/
def make (page limit : Nat) : Except RequestFault PageRequest :=
  if page = 0 then .error .pageZero
  else if limit = 0 then .error .limitZero
  else .ok ⟨page, limit⟩

/-- The first ten rows. -/
def first : PageRequest := ⟨1, 10⟩

/-- How many rows come before the page, as far as a word of 64 bits can tell. -/
def offset (p : PageRequest) : Nat := min ((p.page - 1) * p.limit) maxWord64

/-- How many pages so many rows fill. -/
def totalPages (p : PageRequest) (rows : Nat) : Nat := (rows + p.limit - 1) / p.limit

end PageRequest

end TableQuery
