import Rsduck.Catalog.Checksum

/-!
The hash of the catalog checksum keeps a difference at one byte.
-/

namespace Rsduck.Catalog.ChecksumStream

open Lib

/-! ### Folds that separate -/

section Folds

variable {σ β : Type} {step : σ → β → σ}

lemma foldl_injective (h : ∀ b, Function.Injective (step · b)) (bs : List β) :
    Function.Injective fun s => bs.foldl step s := by
  induction bs with
  | nil => exact fun _ _ h => h
  | cons b bs ih =>
    intro s t hst
    exact h b (ih hst)

/-- Two lists of one length that differ at one place. -/
def OneApart (u v : List β) : Prop :=
  u.length = v.length ∧ ∃ i : ℕ, u[i]? ≠ v[i]? ∧ ∀ j : ℕ, j ≠ i → u[j]? = v[j]?

lemma oneApart_of_ne {x y : β} (a b : List β) (h : x ≠ y) :
    OneApart (a ++ x :: b) (a ++ y :: b) := by
  refine ⟨by simp, a.length, by simpa using h, fun j hj => ?_⟩
  rcases Nat.lt_or_ge j a.length with hlt | hge
  · rw [List.getElem?_append_left hlt, List.getElem?_append_left hlt]
  · obtain ⟨k, rfl⟩ : ∃ k, j = a.length + (k + 1) := ⟨j - a.length - 1, by omega⟩
    simp [List.getElem?_append_right]

/-- What is before the place and what is after it are the same. -/
lemma OneApart.split {u v : List β} (h : OneApart u v) :
    ∃ a x y b, x ≠ y ∧ u = a ++ x :: b ∧ v = a ++ y :: b := by
  obtain ⟨hlen, i, hne, hsame⟩ := h
  have hu : i < u.length := by
    by_contra hge
    rw [List.getElem?_eq_none (by omega), List.getElem?_eq_none (by omega)] at hne
    exact hne rfl
  have hv : i < v.length := by omega
  rw [List.getElem?_eq_getElem hu, List.getElem?_eq_getElem hv] at hne
  have htake : u.take i = v.take i := by
    apply List.ext_getElem?
    intro j
    rw [List.getElem?_take, List.getElem?_take]
    split_ifs with hj
    · exact hsame j (by omega)
    · rfl
  have hdrop : u.drop (i + 1) = v.drop (i + 1) := by
    apply List.ext_getElem?
    intro j
    rw [List.getElem?_drop, List.getElem?_drop]
    exact hsame _ (by omega)
  refine ⟨u.take i, u[i], v[i], u.drop (i + 1), fun hxy => hne (congrArg some hxy), ?_, ?_⟩
  · rw [← List.drop_eq_getElem_cons hu, List.take_append_drop]
  · rw [htake, hdrop, ← List.drop_eq_getElem_cons hv, List.take_append_drop]

/-- **One difference is never undone** by steps that keep states apart. -/
theorem foldl_ne_of_oneApart (h : ∀ b, Function.Injective (step · b))
    (hstep : ∀ s, Function.Injective (step s)) {u v : List β} (huv : OneApart u v) (s : σ) :
    u.foldl step s ≠ v.foldl step s := by
  obtain ⟨a, x, y, b, hxy, rfl, rfl⟩ := huv.split
  rw [List.foldl_append, List.foldl_append, List.foldl_cons, List.foldl_cons]
  intro heq
  exact hxy (hstep _ (foldl_injective h b heq))

end Folds

/-! ### The hash -/

/-- The inverse of the prime modulo `2 ^ 64`. -/
def fnv64Inverse : UInt64 := 0xce965057aff6957b

lemma fnv64Prime_mul_inverse : fnv64Prime * fnv64Inverse = 1 := by decide

/-- The step before, for the byte it was taken with. -/
def unhashChecksumByte (state : UInt64) (byte : UInt8) : UInt64 :=
  (state * fnv64Inverse) ^^^ byte.toUInt64

lemma unhash_hash (s : UInt64) (b : UInt8) : unhashChecksumByte (hashChecksumByte s b) b = s := by
  unfold unhashChecksumByte hashChecksumByte
  rw [UInt64.mul_assoc, fnv64Prime_mul_inverse, UInt64.mul_one, UInt64.xor_assoc, UInt64.xor_self,
    UInt64.xor_zero]

lemma hash_unhash (s : UInt64) (b : UInt8) : hashChecksumByte (unhashChecksumByte s b) b = s := by
  unfold unhashChecksumByte hashChecksumByte
  rw [UInt64.xor_assoc, UInt64.xor_self, UInt64.xor_zero, UInt64.mul_assoc,
    UInt64.mul_comm fnv64Inverse, fnv64Prime_mul_inverse, UInt64.mul_one]

lemma hashChecksumByte_bijective (b : UInt8) : Function.Bijective (hashChecksumByte · b) :=
  Function.bijective_iff_has_inverse.2
    ⟨(unhashChecksumByte · b), fun s => unhash_hash s b, fun s => hash_unhash s b⟩

lemma hashChecksumByte_injective (s : UInt64) : Function.Injective (hashChecksumByte s) := by
  intro b b' h
  have hmul : (s ^^^ b.toUInt64) * fnv64Prime * fnv64Inverse =
      (s ^^^ b'.toUInt64) * fnv64Prime * fnv64Inverse := congrArg (· * fnv64Inverse) h
  rw [UInt64.mul_assoc, UInt64.mul_assoc, fnv64Prime_mul_inverse, UInt64.mul_one, UInt64.mul_one,
    UInt64.xor_right_inj, UInt8.toUInt64_inj] at hmul
  exact hmul

/-- The bytes the hash is fed with. -/
def checksumStream (c : Catalog) : List UInt8 := (checksumParts c).flatMap checksumPartBytes

def checksumText (stream : List UInt8) : String :=
  "fnv1a64:" ++ hex16 (hashChecksumBytes fnv64Offset stream)

lemma calculateCatalogChecksum_eq (c : Catalog) :
    calculateCatalogChecksum c = checksumText (checksumStream c) := by
  unfold calculateCatalogChecksum checksumText checksumStream hashChecksumBytes
  rw [List.foldl_flatMap]
  rfl

/-! ### The checksum string -/

def hexValue (c : Char) : ℕ := if c.isDigit then c.toNat - 48 else c.toNat - 87

def readHex (s : List Char) : ℕ := s.foldl (fun n c => 16 * n + hexValue c) 0

lemma hexValue_digitChar {d : ℕ} (h : d < 16) : hexValue d.digitChar = d := by
  have hall : ∀ d < 16, hexValue d.digitChar = d := by decide
  exact hall d h

lemma readHex_toDigits (n : ℕ) : readHex (Nat.toDigits 16 n) = n := by
  induction n using Nat.strongRecOn with
  | _ n ih =>
    rcases Nat.lt_or_ge n 16 with h | h
    · rw [Nat.toDigits_of_lt_base h]
      simp [readHex, hexValue_digitChar h]
    · have hd : n % 16 < 16 := Nat.mod_lt n (by omega)
      have hn : 0 < n / 16 := by omega
      have hsplit := Nat.toDigits_append_toDigits (b := 16) (by omega) hn hd
      rw [Nat.div_add_mod, Nat.toDigits_of_lt_base hd] at hsplit
      have hq := ih (n / 16) (by omega)
      unfold readHex at hq ⊢
      rw [← hsplit, List.foldl_append, hq, List.foldl_cons, List.foldl_nil, hexValue_digitChar hd]
      omega

lemma readHex_hex16 (n : UInt64) : readHex (hex16 n).toList = n.toNat := by
  have hzeros (k : ℕ) : readHex (List.replicate k '0' ++ Nat.toDigits 16 n.toNat) =
      readHex (Nat.toDigits 16 n.toNat) := by
    induction k with
    | zero => rfl
    | succ k ih => exact ih
  unfold hex16
  rw [String.toList_ofList, hzeros, readHex_toDigits]

lemma checksumText_injective {u v : List UInt8} (h : checksumText u = checksumText v) :
    hashChecksumBytes fnv64Offset u = hashChecksumBytes fnv64Offset v := by
  have hhex : hex16 (hashChecksumBytes fnv64Offset u) = hex16 (hashChecksumBytes fnv64Offset v) :=
    (String.append_right_inj _).1 h
  have hread := congrArg (fun s : String => readHex s.toList) hhex
  rw [readHex_hex16, readHex_hex16] at hread
  exact UInt64.toNat_inj.1 hread

/-- **A changed byte changes the checksum.** Each step of the hash is a bijection for its byte and
keeps bytes apart, so no difference at one place is lost. -/
theorem checksum_ne_of_oneApart :
    (∀ b, Function.Bijective (hashChecksumByte · b)) ∧
      (∀ s, Function.Injective (hashChecksumByte s)) ∧
      (∀ s u v, OneApart u v → hashChecksumBytes s u ≠ hashChecksumBytes s v) ∧
      (∀ u v, OneApart u v → checksumText u ≠ checksumText v) ∧
      ∀ c c' : Catalog, OneApart (checksumStream c) (checksumStream c') →
        calculateCatalogChecksum c ≠ calculateCatalogChecksum c' := by
  have hbytes (s : UInt64) (u v : List UInt8) (h : OneApart u v) :
      hashChecksumBytes s u ≠ hashChecksumBytes s v :=
    foldl_ne_of_oneApart (fun b => (hashChecksumByte_bijective b).1) hashChecksumByte_injective h s
  have htexts (u v : List UInt8) (h : OneApart u v) : checksumText u ≠ checksumText v :=
    fun heq => hbytes _ _ _ h (checksumText_injective heq)
  refine ⟨hashChecksumByte_bijective, hashChecksumByte_injective, hbytes, htexts, ?_⟩
  intro c c' h
  rw [calculateCatalogChecksum_eq, calculateCatalogChecksum_eq]
  exact htexts _ _ h

/-- A catalog with one privilege, granted by the given user. -/
def catalogGrantedBy (grantor : ℤ) : Catalog where
  rsPrivilege := ⟨[⟨1, .user, 1, .system, 0, .read, grantor⟩], List.pairwise_singleton _ _⟩

/-- The grantor is the last cell of the stream. -/
lemma checksumStream_grantedBy : ∃ before : List UInt8, ∀ grantor : ℤ,
    checksumStream (catalogGrantedBy grantor) =
      before ++ checksumPartBytes (toString grantor) := by
  refine ⟨["rs_catalog_version", "rs_oid_alloc", "rs_catalog_journal", "rs_schema", "rs_type",
    "rs_relation", "rs_column", "rs_column_default", "rs_constraint", "rs_index", "rs_vector_index",
    "rs_dependency", "rs_comment", "rs_relation_ext", "rs_partition", "rs_user", "rs_role",
    "rs_user_role", "rs_privilege", "row", toString (1 : ℤ), "user", toString (1 : ℤ), "system",
    toString (0 : ℤ), "read"].flatMap checksumPartBytes, fun grantor => ?_⟩
  have hparts : checksumParts (catalogGrantedBy grantor) =
      ["rs_catalog_version", "rs_oid_alloc", "rs_catalog_journal", "rs_schema", "rs_type",
        "rs_relation", "rs_column", "rs_column_default", "rs_constraint", "rs_index",
        "rs_vector_index", "rs_dependency", "rs_comment", "rs_relation_ext", "rs_partition",
        "rs_user", "rs_role", "rs_user_role", "rs_privilege", "row", toString (1 : ℤ), "user",
        toString (1 : ℤ), "system", toString (0 : ℤ), "read"] ++ [toString grantor] := by
    simp [checksumParts, catalogChecksumQueries, checksumQuery, catalogGrantedBy, Cells.privilege,
      PrincipalType.text, PrivilegeObject.text, PrivilegeAction.text]
  rw [checksumStream, hparts, List.flatMap_append, List.flatMap_singleton]

/-- The theorem at two single bytes, and at two catalogs that differ in one grantor. -/
theorem checksum_ne_of_oneApart_grantors :
    hashChecksumBytes fnv64Offset [48] ≠ hashChecksumBytes fnv64Offset [49] ∧
      calculateCatalogChecksum (catalogGrantedBy 0) ≠
        calculateCatalogChecksum (catalogGrantedBy 1) := by
  obtain ⟨-, -, hbytes, -, hcatalogs⟩ := checksum_ne_of_oneApart
  refine ⟨hbytes _ _ _ (oneApart_of_ne [] [] (by decide)), hcatalogs _ _ ?_⟩
  obtain ⟨before, hbefore⟩ := checksumStream_grantedBy
  have h0 : checksumPartBytes (toString (0 : ℤ)) = [49, 58] ++ 48 :: [59] := by decide +kernel
  have h1 : checksumPartBytes (toString (1 : ℤ)) = [49, 58] ++ 49 :: [59] := by decide +kernel
  rw [hbefore 0, hbefore 1, h0, h1, ← List.append_assoc, ← List.append_assoc]
  exact oneApart_of_ne _ _ (by decide)

end Rsduck.Catalog.ChecksumStream
