import Mathlib.Data.List.Infix
import TableQuery.Proofs.Cache.Tiered

/-!
# Patterns of a shared cache

A server finds keys by patterns and compares them byte by byte. A star stands for any bytes and a
question mark for one. Brackets hold the bytes that may stand in their place, one by one or as
ranges, and behind `^` those that may not. A backslash takes the meaning from the byte behind it.

* `globParts`: the parts of a pattern.
* `globMatches`: a key matches a pattern.
* `matchParts_cons`, `matchParts_any`: one lemma for each kind of part.
* `globMatches_eq_beginsWith`: a plain text with a star matches what begins with the text.
-/

namespace TableQuery

/-- The bytes of a text. -/
def bytesOf (text : String) : List UInt8 := text.toList.flatMap String.utf8EncodeChar

/-- What may stand in a place of a key. -/
inductive GlobPart where
  /-- Any bytes, written `*`. -/
  | any
  /-- One byte, written `?`. -/
  | one
  /-- This byte. -/
  | byte (b : UInt8)
  /-- One byte of the ranges, or one that is in none of them, written in brackets. -/
  | among (negated : Bool) (ranges : List (UInt8 × UInt8))
deriving DecidableEq, Repr

mutual

/-- The parts of a pattern. -/
def globParts : List UInt8 → List GlobPart
  | [] => []
  | 0x2A :: rest => .any :: globParts rest
  | 0x3F :: rest => .one :: globParts rest
  | 0x5B :: 0x5E :: rest => partsInBrackets true [] rest
  | 0x5B :: rest => partsInBrackets false [] rest
  | 0x5C :: b :: rest => .byte b :: globParts rest
  | b :: rest => .byte b :: globParts rest

/-- The parts of a pattern behind an opening bracket and some ranges. The end of the pattern closes
a bracket too. -/
def partsInBrackets (negated : Bool) (ranges : List (UInt8 × UInt8)) : List UInt8 → List GlobPart
  | [] => [.among negated ranges]
  | 0x5C :: b :: rest => partsInBrackets negated (ranges ++ [(b, b)]) rest
  | 0x5D :: rest => .among negated ranges :: globParts rest
  | a :: 0x2D :: b :: rest => partsInBrackets negated (ranges ++ [(min a b, max a b)]) rest
  | b :: rest => partsInBrackets negated (ranges ++ [(b, b)]) rest

end

/-- A byte may stand in the place of a part. -/
def GlobPart.admits (b : UInt8) : GlobPart → Bool
  | any | one => true
  | byte c => b == c
  | among negated ranges => (ranges.any fun r => decide (r.1 ≤ b) && decide (b ≤ r.2)) != negated

/-- Bytes match the parts of a pattern. -/
def matchParts : List GlobPart → List UInt8 → Bool
  | [], bytes => bytes.isEmpty
  | .any :: rest, bytes => bytes.tails.any (matchParts rest)
  | _ :: _, [] => false
  | part :: rest, b :: bytes => part.admits b && matchParts rest bytes

/-- A key matches a pattern. -/
def globMatches (pattern key : String) : Bool := matchParts (globParts (bytesOf pattern)) (bytesOf key)

/-! ## Parts -/

theorem matchParts_any (rest : List GlobPart) (bytes : List UInt8) :
    matchParts (.any :: rest) bytes = true ↔ ∃ tail, tail <:+ bytes ∧ matchParts rest tail = true := by
  rw [matchParts, List.any_eq_true]
  simp only [List.mem_tails]

theorem matchParts_cons {part : GlobPart} (h : part ≠ .any) (rest : List GlobPart) (b : UInt8)
    (bytes : List UInt8) :
    matchParts (part :: rest) (b :: bytes) = (part.admits b && matchParts rest bytes) := by
  cases part with
  | any => exact absurd rfl h
  | _ => rfl

theorem matchParts_nil {part : GlobPart} (h : part ≠ .any) (rest : List GlobPart) :
    matchParts (part :: rest) [] = false := by
  cases part with
  | any => exact absurd rfl h
  | _ => rfl

/-- Parts that are bytes match these bytes, and the other parts what is behind them. -/
theorem matchParts_bytes (start : List UInt8) (rest : List GlobPart) (bytes : List UInt8) :
    matchParts (start.map .byte ++ rest) bytes = true ↔
      ∃ more, bytes = start ++ more ∧ matchParts rest more = true := by
  induction start generalizing bytes with
  | nil => simp
  | cons b start ih =>
    rw [List.map_cons, List.cons_append]
    cases bytes with
    | nil => simp [matchParts_nil]
    | cons c bytes =>
      rw [matchParts_cons (by simp), Bool.and_eq_true, ih, GlobPart.admits, beq_iff_eq]
      constructor
      · rintro ⟨rfl, more, rfl, hmore⟩
        exact ⟨more, rfl, hmore⟩
      · rintro ⟨more, hsplit, hmore⟩
        cases hsplit
        exact ⟨rfl, more, rfl, hmore⟩

/-! ## Plain texts -/

/-- The bytes of the characters that have a meaning in patterns. -/
def globBytes : List UInt8 := globCharacters.flatMap String.utf8EncodeChar

/-- A byte without a meaning stands for itself. -/
theorem globParts_byte {b : UInt8} (h : b ∉ globBytes) (rest : List UInt8) :
    globParts (b :: rest) = .byte b :: globParts rest := by
  have hmeaning : b ≠ 0x2A ∧ b ≠ 0x3F ∧ b ≠ 0x5B ∧ b ≠ 0x5C := by
    refine ⟨?_, ?_, ?_, ?_⟩ <;> rintro rfl <;> exact h (by decide)
  rw [globParts] <;> simp [hmeaning]

theorem globParts_plain {start : List UInt8} (h : ∀ b ∈ start, b ∉ globBytes)
    (rest : List UInt8) : globParts (start ++ rest) = start.map .byte ++ globParts rest := by
  induction start with
  | nil => rfl
  | cons b start ih =>
    rw [List.cons_append, globParts_byte (h b List.mem_cons_self),
      ih fun c hc => h c (List.mem_cons_of_mem b hc)]
    rfl

/-- The bytes of a character are its number or above those of the characters with one byte. -/
theorem toNat_of_mem_utf8EncodeChar {c : Char} {b : UInt8} (h : b ∈ String.utf8EncodeChar c) :
    b.toNat = c.toNat ∨ 128 ≤ b.toNat := by
  have hnat (n : Nat) : (UInt8.ofNat n).toNat = n % 256 := UInt8.toNat_ofNat'
  unfold String.utf8EncodeChar at h
  simp only at h
  split at h
  · rw [List.mem_singleton.mp h, hnat]
    exact .inl (Nat.mod_eq_of_lt (show c.val.toNat < 256 by omega))
  · refine .inr ?_
    -- All bytes of a longer form have their highest bit set.
    split at h
    · simp only [List.mem_cons, List.not_mem_nil, or_false] at h
      rcases h with rfl | rfl <;> rw [hnat] <;> omega
    · split at h
      · simp only [List.mem_cons, List.not_mem_nil, or_false] at h
        rcases h with rfl | rfl | rfl <;> rw [hnat] <;> omega
      · simp only [List.mem_cons, List.not_mem_nil, or_false] at h
        rcases h with rfl | rfl | rfl | rfl <;> rw [hnat] <;> omega

/-- No byte of a plain text has a meaning. -/
theorem not_mem_globBytes {text : String} (h : IsPlainPattern text) :
    ∀ b ∈ bytesOf text, b ∉ globBytes := by
  intro b hb hglob
  obtain ⟨c, hc, hb⟩ := List.mem_flatMap.mp hb
  have hall : globBytes.all (fun b => globCharacters.any fun d => b.toNat == d.toNat) = true := by
    decide
  obtain ⟨d, hd, hbd⟩ := List.any_eq_true.mp (List.all_eq_true.mp hall b hglob)
  have hsmall : globCharacters.all (·.toNat < 128) = true := by decide
  rcases toNat_of_mem_utf8EncodeChar hb with hnat | hlarge
  · have hcd : c = d := Char.toNat_inj.mp (hnat.symm.trans (eq_of_beq hbd))
    exact h c hc (hcd ▸ hd)
  · have hd := of_decide_eq_true (List.all_eq_true.mp hsmall d hd)
    rw [eq_of_beq hbd] at hlarge
    omega

/-- A key begins with a text if its bytes do. -/
theorem beginsWith_iff_bytesOf {start key : String} :
    beginsWith start key = true ↔ ∃ more, bytesOf key = bytesOf start ++ more := by
  rw [beginsWith, List.isPrefixOf_iff_prefix]
  constructor
  · rintro ⟨more, hmore⟩
    exact ⟨more.flatMap String.utf8EncodeChar, by rw [bytesOf, ← hmore, List.flatMap_append]; rfl⟩
  · rintro ⟨more, hmore⟩
    refine List.isPrefix_of_utf8Encode_append_eq_utf8Encode more.toByteArray ?_
    rw [List.utf8Encode, List.utf8Encode, ← List.toByteArray_append]
    exact congrArg List.toByteArray hmore.symm

/-- A plain text with a star matches what begins with the text. -/
theorem globMatches_eq_beginsWith {start : String} (h : IsPlainPattern start) (key : String) :
    globMatches (start ++ "*") key = beginsWith start key := by
  have hparts : globParts (bytesOf (start ++ "*")) = (bytesOf start).map .byte ++ [.any] := by
    rw [bytesOf, String.toList_append, List.flatMap_append]
    exact globParts_plain (not_mem_globBytes h) [0x2A]
  have hall (bytes : List UInt8) : matchParts [.any] bytes = true :=
    (matchParts_any [] bytes).mpr ⟨[], List.nil_suffix, rfl⟩
  rw [Bool.eq_iff_iff, globMatches, hparts, matchParts_bytes, beginsWith_iff_bytesOf]
  simp only [hall, and_true]

example : globMatches "p[1-3]\\*:?:*" "p2*:a:" = true := by decide +kernel

end TableQuery
