import TableQuery.Hash.Sha256
import TableQuery.Json.Canonical
import TableQuery.Json.Printer

/-!
# Cache keys

The key of a page names the dataset, the page and limit, and the filter by a digest of its
canonical text. All keys of a dataset begin alike, so they can be found together.
-/

namespace TableQuery

/-- The digest of a filter that puts no condition. -/
def unfilteredDigest : String := "all"

/-- The filter is missing or has no entries. -/
def isNoFilter : Json → Bool
  | .null => true
  | .object fields => fields.isEmpty
  | _ => false

/-- The digest of a filter; the order of fields in objects does not matter. -/
def filterDigest (filter : Json) : String :=
  if isNoFilter filter then unfilteredDigest else Sha256.hexDigest filter.canonical.compact

/-- What all keys of a dataset begin with. -/
def keyNamespace (start datasetId : String) : String := start ++ datasetId ++ ":"

/-- The key of a page of a filtered read. -/
def cacheKey (start datasetId : String) (page limit : Nat) (filter : Json) : String :=
  keyNamespace start datasetId ++ toString page ++ ":" ++ toString limit ++ ":" ++
    filterDigest filter

end TableQuery
