import TableQuery.Cache.Key
import TableQuery.Dataset.Table
import TableQuery.Proofs.Json.Text

/-!
# What keys of pages tell

The key of a page names its dataset, its page and limit, and its filter up to the order of
fields, as far as the digests of texts do not meet.

* `cacheKey_inj`: the parts of a key.
* `filterDigest_cases`: filters with one digest.
* `beginsWith_cacheKey`: the keys of a dataset begin with its namespace.
-/

namespace TableQuery

/-- The texts of two filters are the same if their digests are. -/
def DigestsApart (f g : Json) : Prop :=
  Sha256.hexDigest f.canonical.compact = Sha256.hexDigest g.canonical.compact →
    f.canonical.compact = g.canonical.compact

/-- Filters with one digest have no entries both, or they have one canonical form. -/
theorem filterDigest_cases {f g : Json} (h : filterDigest f = filterDigest g)
    (hapart : DigestsApart f g) :
    isNoFilter f = true ∧ isNoFilter g = true ∨ f.canonical = g.canonical := by
  have heven (text : String) : Sha256.hexDigest text ≠ unfilteredDigest := by
    intro heq
    have hlength := congrArg (fun s => s.toList.length) heq
    unfold Sha256.hexDigest Sha256.hexText unfilteredDigest at hlength
    simp only [String.toList_ofList, List.length_flatMap, List.length_cons, List.length_nil] at hlength
    rw [List.map_const', List.sum_replicate] at hlength
    have htwo : (Sha256.digest text.toUTF8.toList).length * 2 = 3 := hlength
    omega
  unfold filterDigest at h
  split at h
  · rename_i hf
    split at h
    · rename_i hg
      exact .inl ⟨hf, hg⟩
    · exact absurd h.symm (heven _)
  · split at h
    · exact absurd h (heven _)
    · exact .inr (Json.compact_injective (hapart h))

theorem digits_append_inj {as bs rest rest' : List Char} (ha : AreDigits as) (hb : AreDigits bs)
    (h : as ++ ':' :: rest = bs ++ ':' :: rest') : as = bs ∧ rest = rest' := by
  have hstop {cs more : List Char} (hc : AreDigits cs) :
      (cs ++ ':' :: more).takeWhile (· != ':') = cs := by
    rw [List.takeWhile_append_of_pos fun c hmem => hc.ne_mark hmem (by decide)]
    simp
  have hdigits := congrArg (List.takeWhile (· != ':')) h
  rw [hstop ha, hstop hb] at hdigits
  subst hdigits
  exact ⟨rfl, (List.cons.inj (List.append_cancel_left h)).2⟩

theorem toString_nat_inj {m n : ℕ} (h : Nat.toDigits 10 m = Nat.toDigits 10 n) : m = n := by
  have hvalues := congrArg (Nat.ofDigitChars 10 · 0) h
  simpa using hvalues

theorem toList_cacheKey (start id : String) (page limit : ℕ) (filter : Json) :
    (cacheKey start id page limit filter).toList = start.toList ++ (id.toList ++ ':' ::
      (Nat.toDigits 10 page ++ ':' :: (Nat.toDigits 10 limit ++ ':' ::
        (filterDigest filter).toList))) := by
  unfold cacheKey keyNamespace
  simp

theorem length_of_isDatasetId {id : String} (h : isDatasetId id = true) :
    id.toList.length = 32 := by
  unfold isDatasetId at h
  rw [Bool.and_eq_true] at h
  exact eq_of_beq h.1

/-- The parts of a key. -/
theorem cacheKey_inj {start id id' : String} {page page' limit limit' : ℕ} {f g : Json}
    (hid : isDatasetId id = true) (hid' : isDatasetId id' = true)
    (h : cacheKey start id page limit f = cacheKey start id' page' limit' g) :
    id = id' ∧ page = page' ∧ limit = limit' ∧ filterDigest f = filterDigest g := by
  have hlists := congrArg String.toList h
  rw [toList_cacheKey, toList_cacheKey] at hlists
  obtain ⟨hids, hlists⟩ := List.append_inj (List.append_cancel_left hlists)
    ((length_of_isDatasetId hid).trans (length_of_isDatasetId hid').symm)
  obtain ⟨hpage, hlists⟩ := digits_append_inj (AreDigits.toDigits page) (AreDigits.toDigits page')
    (List.cons.inj hlists).2
  obtain ⟨hlimit, hdigest⟩ := digits_append_inj (AreDigits.toDigits limit)
    (AreDigits.toDigits limit') hlists
  exact ⟨String.toList_injective hids, toString_nat_inj hpage, toString_nat_inj hlimit,
    String.toList_injective hdigest⟩

/-- The keys of a dataset begin with its namespace. -/
theorem beginsWith_cacheKey (start id : String) (page limit : ℕ) (filter : Json) :
    beginsWith (keyNamespace start id) (cacheKey start id page limit filter) = true := by
  unfold beginsWith cacheKey
  simp

/-- A key begins with the namespace of its own dataset alone. -/
theorem beginsWith_cacheKey_iff (start : String) {id id' : String} (page limit : ℕ) (filter : Json)
    (hid : isDatasetId id = true) (hid' : isDatasetId id' = true) :
    beginsWith (keyNamespace start id) (cacheKey start id' page limit filter) = true ↔ id' = id := by
  constructor
  · intro h
    obtain ⟨more, hmore⟩ := List.isPrefixOf_iff_prefix.mp h
    unfold keyNamespace at hmore
    rw [toList_cacheKey, String.toList_append, String.toList_append, List.append_assoc,
      List.append_assoc] at hmore
    obtain ⟨hids, -⟩ := List.append_inj (List.append_cancel_left hmore)
      ((length_of_isDatasetId hid).trans (length_of_isDatasetId hid').symm)
    exact (String.toList_injective hids).symm
  · rintro rfl
    exact beginsWith_cacheKey ..

end TableQuery
