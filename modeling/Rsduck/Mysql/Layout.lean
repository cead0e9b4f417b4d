import Rsduck.Mysql.Parameters

/-!
The layout of parameter values, apart from their reading.

`valueSize` says how many bytes of the payload the value at its start takes. A parameter is read
exactly where there is such a number, and the next one after that many bytes.
-/

namespace Rsduck.Mysql

open Lib.Wire Lib.Wire.Reader Db

/-! ### Sizes -/

/-- The bytes of a length-encoded number, by the first of them. -/
def lenencWidth (first : UInt8) : Option ℕ :=
  if first = 0xfc then some 3
  else if first = 0xfd then some 4
  else if first = 0xfe then some 9
  else if first = 0xff then none
  else some 1

/-- A length-encoded number of `width` bytes. -/
def lenencValue (width : ℕ) (s : List UInt8) : ℕ :=
  if width = 1 then (s.headD 0).toNat else ofLeBytes ((s.drop 1).take (width - 1))

def lenencSize (s : List UInt8) : Option ℕ :=
  match s with
  | [] => none
  | first :: _ => (lenencWidth first).bind fun width => wholeSize width s

/-- A length and that many bytes. -/
def blobSize (s : List UInt8) : Option ℕ :=
  (lenencSize s).bind fun width => wholeSize (width + lenencValue width s) s

/-- The bytes after the length. -/
def blobContent (s : List UInt8) : List UInt8 :=
  let width := (lenencSize s).getD 0
  (s.drop width).take (lenencValue width s)

/-- A length and that many bytes of UTF-8. -/
def textSize (s : List UInt8) : Option ℕ :=
  (blobSize s).filter fun _ => (ofUtf8 (blobContent s)).isSome

/-- A date or time: its length, one of those given, and that many bytes. -/
def temporalSize (lengths : List ℕ) : List UInt8 → Option ℕ
  | [] => none
  | len :: s => if len.toNat ∈ lengths then (wholeSize len.toNat s).map (1 + ·) else none

/-- The bytes that the value of a type at the start of the bytes takes, if it is there whole. -/
def valueSize (ty : UInt8) (s : List UInt8) : Option ℕ :=
  if ty = mysqlTypeTiny then wholeSize 1 s
  else if ty = mysqlTypeShort then wholeSize 2 s
  else if ty = mysqlTypeLong then wholeSize 4 s
  else if ty = mysqlTypeLonglong then wholeSize 8 s
  else if ty = mysqlTypeFloat then wholeSize 4 s
  else if ty = mysqlTypeDouble then wholeSize 8 s
  else if ty ∈ textTypes then textSize s
  else if ty = mysqlTypeBlob then blobSize s
  else if ty ∈ datetimeTypes then temporalSize [0, 4, 7, 11] s
  else if ty = mysqlTypeTime then temporalSize [0, 8, 12] s
  else none

/-! ### The payload before the values -/

/-- The bit of a parameter in the bitmap. -/
def nullAt (nullBitmap : List UInt8) (idx : ℕ) : Bool :=
  (nullBitmap.getD (idx / 8) 0).toNat.testBit (idx % 8)

/-- A type and its flags for each parameter. -/
def boundTypes : ℕ → List UInt8 → List (UInt8 × UInt8)
  | n + 1, ty :: flags :: s => (ty, flags) :: boundTypes n s
  | _, _ => []

/-- What stands before the values, and their bytes. -/
structure ExecuteHead where
  nullBitmap : List UInt8
  newParamsBound : UInt8
  bound : List (UInt8 × UInt8)
  values : List UInt8

/-- The types of the parameters: those sent, or those they had before. -/
def ExecuteHead.types (head : ExecuteHead) (previousTypes : List UInt8) : List UInt8 :=
  if head.newParamsBound = 1 then head.bound.map Prod.fst else previousTypes

/-- The bitmap, the flag and, if that is one, the types. -/
def executeHead (paramCount : ℕ) (s : List UInt8) : Option ExecuteHead :=
  let width := (paramCount + 7) / 8
  let rest := s.drop (width + 1)
  if s.length < width + 1 then none
  else if s.getD width 0 = 1 then
    if rest.length < 2 * paramCount then none
    else some ⟨s.take width, 1, boundTypes paramCount rest, rest.drop (2 * paramCount)⟩
  else some ⟨s.take width, s.getD width 0, [], rest⟩

/-! ### Values take as many bytes as their layout says -/

lemma sized_takeByte : Sized (wholeSize 1) takeByte :=
  sized_return _ (sized_take 1 truncated)

lemma sized_getLe (k : ℕ) : Sized (wholeSize k) (getLe k) := sized_map _ (sized_take k truncated)

lemma run_takeByte {first : UInt8} {s : List UInt8} :
    takeByte.run (first :: s) = .ok (first, s) := rfl

/-- A byte that decides what follows. -/
lemma sized_takeByte_bind {α : Type} {size : List UInt8 → Option ℕ}
    (next : UInt8 → List UInt8 → Option ℕ) {f : UInt8 → Reader α}
    (hf : ∀ b, Sized (next b) (f b)) (hnil : size [] = none)
    (hcons : ∀ b s, size (b :: s) = (next b s).map (1 + ·)) : Sized size (takeByte >>= f) := by
  refine sized_bind sized_takeByte hf ?_ ?_
  · intro s hs
    have hlen := wholeSize_eq_none.1 hs
    have hs : s = [] := List.eq_nil_of_length_eq_zero (by omega)
    rw [hs, hnil]
  · intro s n a hrun hle hn
    obtain ⟨-, rfl⟩ := wholeSize_eq_some.1 hn
    rcases s with _ | ⟨b, s⟩
    · cases hle
    · rw [run_takeByte] at hrun
      cases hrun
      exact hcons _ s

lemma map_wholeSize {m n : ℕ} {s : List UInt8} {b : UInt8} (h : n = 1 + m) :
    (wholeSize m s).map (1 + ·) = wholeSize n (b :: s) := by
  subst h
  unfold wholeSize
  rw [List.length_cons]
  split_ifs
  · rfl
  · omega
  · omega
  · rfl

/-- A length-encoded number is read from as many bytes as its first says. -/
lemma sized_getLenencInt : Sized lenencSize getLenencInt := by
  unfold getLenencInt
  refine sized_takeByte_bind (fun first s =>
    if first = 0xfc then wholeSize 2 s else if first = 0xfd then wholeSize 3 s
    else if first = 0xfe then wholeSize 8 s else if first = 0xff then none else wholeSize 0 s)
    ?_ rfl ?_
  · intro first
    exact sized_ite (sized_getLe 2) (sized_ite (sized_getLe 3) (sized_ite (sized_getLe 8)
      (sized_ite (sized_throw _) (sized_pure _))))
  · intro first s
    show (lenencWidth first).bind (fun width => wholeSize width (first :: s)) = _
    unfold lenencWidth
    split_ifs
    · exact (map_wholeSize (n := 3) rfl).symm
    · exact (map_wholeSize (n := 4) rfl).symm
    · exact (map_wholeSize (n := 9) rfl).symm
    · rfl
    · exact (map_wholeSize (n := 1) rfl).symm

/-- What is read is the number that stands there. -/
lemma eq_lenencValue {s rest : List UInt8} {n width : ℕ} (hrun : getLenencInt.run s = .ok (n, rest))
    (hwidth : lenencSize s = some width) : n = lenencValue width s := by
  rcases s with _ | ⟨first, s⟩
  · cases hwidth
  have hnum : ∀ k, 0 < k → (getLe k).run s = .ok (n, rest) → some (1 + k) = some width →
      n = lenencValue width (first :: s) := by
    intro k hpos hk hw
    cases hw
    obtain ⟨bytes, hbytes, hn⟩ := run_map_eq_ok.1 hk
    obtain ⟨-, rfl, -⟩ := run_take_eq_ok.1 hbytes
    have hsub : 1 + k - 1 = k := by omega
    rw [lenencValue, if_neg (by omega), hn, hsub]
    rfl
  have hw : ∀ {m}, lenencWidth first = some m → some m = some width := by
    intro m hm
    have h : (lenencWidth first).bind (fun width => wholeSize width (first :: s)) = some width :=
      hwidth
    rw [hm] at h
    exact congrArg some (wholeSize_eq_some.1 h).2
  unfold getLenencInt at hrun
  obtain ⟨b, t, hfirst, hrun⟩ := run_bind_eq_ok.1 hrun
  rw [run_takeByte] at hfirst
  cases hfirst
  unfold lenencWidth at hw
  split_ifs at hrun hw with h₂ h₃ h₈ h₀
  · exact hnum 2 (by omega) hrun (hw rfl)
  · exact hnum 3 (by omega) hrun (hw rfl)
  · exact hnum 8 (by omega) hrun (hw rfl)
  · cases hrun
  · have h1 := hw rfl
    cases h1
    rw [StateT.run_pure] at hrun
    cases hrun
    rfl

lemma wholeSize_drop {m n : ℕ} {s : List UInt8} (h : m ≤ s.length) :
    (wholeSize n (s.drop m)).map (m + ·) = wholeSize (m + n) s := by
  unfold wholeSize
  rw [List.length_drop]
  split_ifs
  · rfl
  · omega
  · omega
  · rfl

lemma sized_getLenencBytes : Sized blobSize getLenencBytes := by
  unfold getLenencBytes
  refine sized_bind sized_getLenencInt (fun n => sized_take n truncated) ?_ ?_
  · intro s hs
    rw [blobSize, hs]
    rfl
  · intro s width n hrun hle hwidth
    rw [eq_lenencValue hrun hwidth, wholeSize_drop hle, blobSize, hwidth]
    rfl

lemma eq_blobContent {s rest bytes : List UInt8} (hrun : getLenencBytes.run s = .ok (bytes, rest)) :
    bytes = blobContent s := by
  obtain ⟨n, t, hn, hbytes⟩ := run_bind_eq_ok.1 hrun
  obtain ⟨width, hwidth, -, rfl⟩ := sized_getLenencInt.eq_drop hn
  obtain ⟨-, rfl, -⟩ := run_take_eq_ok.1 hbytes
  rw [eq_lenencValue hn hwidth, blobContent, hwidth]
  rfl

/-- A text is read where its bytes are UTF-8. -/
lemma sized_text : Sized textSize (getLenencBytes >>= fun bytes =>
    match ofUtf8 bytes with
    | some value => (return .text value)
    | none => throw "invalid string parameter" : Reader SqlParam) := by
  have hvalue : ∀ bytes, Sized (fun s => if (ofUtf8 bytes).isSome then wholeSize 0 s else none)
      (match ofUtf8 bytes with
      | some value => (return .text value)
      | none => throw "invalid string parameter" : Reader SqlParam) := by
    intro bytes
    rcases ofUtf8 bytes with _ | value
    · exact sized_throw _
    · exact sized_pure _
  refine sized_bind sized_getLenencBytes hvalue ?_ ?_
  · intro s hs
    rw [textSize, hs]
    rfl
  · intro s n bytes hrun hle hn
    rw [textSize, hn, eq_blobContent hrun, Option.filter_some]
    split_ifs
    · exact ((wholeSize_drop (n := 0) hle).trans (if_pos hle)).symm
    · rfl

/-- A date or time has as many bytes as its length says. -/
lemma sized_temporal {α : Type} {lengths : List ℕ} {f : UInt8 → Reader α}
    (hlegal : ∀ len, len.toNat ∈ lengths → Sized (wholeSize len.toNat) (f len))
    (hother : ∀ len, len.toNat ∉ lengths → Sized (fun _ => none) (f len)) :
    Sized (temporalSize lengths) (takeByte >>= f) := by
  refine sized_takeByte_bind
    (fun len s => if len.toNat ∈ lengths then wholeSize len.toNat s else none) ?_ rfl ?_
  · intro len
    by_cases h : len.toNat ∈ lengths
    · simp only [h, if_true]
      exact hlegal len h
    · simp only [h, if_false]
      exact hother len h
  · intro len s
    rw [temporalSize]
    split_ifs
    · rfl
    · rfl

lemma sized_parseBinaryDatetime : Sized (temporalSize [0, 4, 7, 11]) parseBinaryDatetime := by
  unfold parseBinaryDatetime
  refine sized_temporal ?_ ?_
  · intro len hlen
    have hcases : len.toNat = 0 ∨ len.toNat = 4 ∨ len.toNat = 7 ∨ len.toNat = 11 := by
      simpa using hlen
    rcases hcases with h | h | h | h
    · rw [h]
      exact sized_pure _
    · rw [h]
      exact sized_whole_bind (m := 2) (n := 2) (sized_getLe 2) fun year =>
        sized_whole_bind (m := 1) (n := 1) sized_takeByte fun month =>
        sized_whole_bind (m := 1) (n := 0) sized_takeByte fun day => sized_pure _
    · rw [h]
      exact sized_whole_bind (m := 2) (n := 5) (sized_getLe 2) fun year =>
        sized_whole_bind (m := 1) (n := 4) sized_takeByte fun month =>
        sized_whole_bind (m := 1) (n := 3) sized_takeByte fun day =>
        sized_whole_bind (m := 1) (n := 2) sized_takeByte fun hour =>
        sized_whole_bind (m := 1) (n := 1) sized_takeByte fun minute =>
        sized_whole_bind (m := 1) (n := 0) sized_takeByte fun second => sized_pure _
    · rw [h]
      exact sized_whole_bind (m := 2) (n := 9) (sized_getLe 2) fun year =>
        sized_whole_bind (m := 1) (n := 8) sized_takeByte fun month =>
        sized_whole_bind (m := 1) (n := 7) sized_takeByte fun day =>
        sized_whole_bind (m := 1) (n := 6) sized_takeByte fun hour =>
        sized_whole_bind (m := 1) (n := 5) sized_takeByte fun minute =>
        sized_whole_bind (m := 1) (n := 4) sized_takeByte fun second =>
        sized_whole_bind (m := 4) (n := 0) (sized_getLe 4) fun micros => sized_pure _
  · intro len hlen
    have hcases : ¬ len.toNat = 0 ∧ ¬ len.toNat = 4 ∧ ¬ len.toNat = 7 ∧ ¬ len.toNat = 11 := by
      simpa using hlen
    obtain ⟨h0, h4, h7, h11⟩ := hcases
    simp only [h0, if_false, ne_eq, h4, h7, h11, not_false_eq_true, and_self, if_true]
    exact sized_throw _

lemma sized_parseBinaryTime : Sized (temporalSize [0, 8, 12]) parseBinaryTime := by
  unfold parseBinaryTime
  refine sized_temporal ?_ ?_
  · intro len hlen
    have hcases : len.toNat = 0 ∨ len.toNat = 8 ∨ len.toNat = 12 := by
      simpa using hlen
    rcases hcases with h | h | h
    · rw [h]
      exact sized_pure _
    · rw [h]
      exact sized_whole_bind (m := 1) (n := 7) sized_takeByte fun sign =>
        sized_whole_bind (m := 4) (n := 3) (sized_getLe 4) fun days =>
        sized_whole_bind (m := 1) (n := 2) sized_takeByte fun hour =>
        sized_whole_bind (m := 1) (n := 1) sized_takeByte fun minutes =>
        sized_whole_bind (m := 1) (n := 0) sized_takeByte fun seconds => sized_pure _
    · rw [h]
      exact sized_whole_bind (m := 1) (n := 11) sized_takeByte fun sign =>
        sized_whole_bind (m := 4) (n := 7) (sized_getLe 4) fun days =>
        sized_whole_bind (m := 1) (n := 6) sized_takeByte fun hour =>
        sized_whole_bind (m := 1) (n := 5) sized_takeByte fun minutes =>
        sized_whole_bind (m := 1) (n := 4) sized_takeByte fun seconds =>
        sized_whole_bind (m := 4) (n := 0) (sized_getLe 4) fun micros => sized_pure _
  · intro len hlen
    have hcases : ¬ len.toNat = 0 ∧ ¬ len.toNat = 8 ∧ ¬ len.toNat = 12 := by
      simpa using hlen
    obtain ⟨h0, h8, h12⟩ := hcases
    simp only [h0, if_false, ne_eq, h8, h12, not_false_eq_true, and_self, if_true]
    exact sized_throw _

/-- **A parameter is read where its type has a value there, and just that value's bytes.** -/
lemma sized_parseBinaryParam (ty : UInt8) : Sized (valueSize ty) (parseBinaryParam ty) := by
  unfold parseBinaryParam valueSize
  refine sized_ite (sized_return _ sized_takeByte) ?_
  refine sized_ite (sized_return _ (sized_getLe 2)) ?_
  refine sized_ite (sized_return _ (sized_getLe 4)) ?_
  refine sized_ite (sized_return _ (sized_getLe 8)) ?_
  refine sized_ite (sized_return _ (sized_getLe 4)) ?_
  refine sized_ite (sized_return _ (sized_getLe 8)) ?_
  refine sized_ite sized_text ?_
  refine sized_ite (sized_return _ sized_getLenencBytes) ?_
  refine sized_ite (sized_return _ sized_parseBinaryDatetime) ?_
  exact sized_ite (sized_return _ sized_parseBinaryTime) (sized_throw _)

/-! ### The payload is read where its head is there -/

lemma length_boundTypes {n : ℕ} {s : List UInt8} (h : 2 * n ≤ s.length) :
    (boundTypes n s).length = n := by
  induction n generalizing s with
  | zero => rfl
  | succ n ih =>
    rcases s with _ | ⟨ty, _ | ⟨flags, s⟩⟩
    · simp at h
    · simp at h
      omega
    · simp only [List.length_cons] at h
      rw [boundTypes, List.length_cons, ih (by omega)]

lemma parseParamTypes_eq_ok {n : ℕ} {s types rest : List UInt8} :
    (parseParamTypes n).run s = .ok (types, rest) ↔
      2 * n ≤ s.length ∧ types = (boundTypes n s).map Prod.fst ∧ rest = s.drop (2 * n) := by
  induction n generalizing s types with
  | zero =>
    constructor
    · intro h
      cases h
      exact ⟨Nat.zero_le _, rfl, rfl⟩
    · rintro ⟨-, rfl, rfl⟩
      rfl
  | succ n ih =>
    rcases s with _ | ⟨ty, _ | ⟨flags, s⟩⟩
    · constructor
      · intro h
        cases h
      · rintro ⟨h, -⟩
        simp at h
    · constructor
      · intro h
        cases h
      · rintro ⟨h, -⟩
        simp at h
        omega
    · have hrun : (parseParamTypes (n + 1)).run (ty :: flags :: s) =
          ((ty :: ·) <$> parseParamTypes n).run s := by
        rw [← bind_pure_comp]
        rfl
      rw [hrun, run_map_eq_ok]
      simp only [ih, List.length_cons, boundTypes, List.map_cons]
      have hdrop : (ty :: flags :: s).drop (2 * (n + 1)) = s.drop (2 * n) := by
        rw [Nat.mul_add]
        rfl
      rw [hdrop]
      constructor
      · rintro ⟨types, ⟨hle, rfl, rfl⟩, rfl⟩
        exact ⟨by omega, rfl, rfl⟩
      · rintro ⟨hle, rfl, rfl⟩
        exact ⟨_, ⟨by omega, rfl, rfl⟩, rfl⟩

/-- The types, after the flag. -/
def typesAfter (paramCount : ℕ) (previousTypes : List UInt8) (newParamsBound : UInt8) :
    Reader (List UInt8) :=
  if newParamsBound = 1 then parseParamTypes paramCount
  else if previousTypes.length = paramCount then pure previousTypes
  else throw "COM_STMT_EXECUTE missing parameter types"

lemma takeByte_eq_ok {b : UInt8} {s rest : List UInt8} :
    takeByte.run s = .ok (b, rest) ↔ s = b :: rest := by
  constructor
  · intro h
    rcases s with _ | ⟨c, s⟩
    · cases h
    · rw [run_takeByte] at h
      cases h
      rfl
  · rintro rfl
    exact run_takeByte

lemma getLe_eq_ok {k n : ℕ} {s rest : List UInt8} :
    (getLe k).run s = .ok (n, rest) ↔
      k ≤ s.length ∧ n = ofLeBytes (s.take k) ∧ rest = s.drop k := by
  constructor
  · intro h
    obtain ⟨bytes, htake, rfl⟩ := run_map_eq_ok.1 h
    obtain ⟨hle, rfl, rfl⟩ := run_take_eq_ok.1 htake
    exact ⟨hle, rfl, rfl⟩
  · rintro ⟨hle, rfl, rfl⟩
    exact run_map_eq_ok.2 ⟨_, run_take_eq_ok.2 ⟨hle, rfl, rfl⟩, rfl⟩

lemma typesAfter_eq_ok {paramCount : ℕ} {previousTypes s types values : List UInt8} {flag : UInt8} :
    (typesAfter paramCount previousTypes flag).run s = .ok (types, values) ↔
      types.length = paramCount ∧
        if flag = 1 then 2 * paramCount ≤ s.length ∧
          types = (boundTypes paramCount s).map Prod.fst ∧ values = s.drop (2 * paramCount)
        else types = previousTypes ∧ values = s := by
  unfold typesAfter
  split_ifs with hflag hlen
  · rw [parseParamTypes_eq_ok]
    constructor
    · rintro ⟨hle, rfl, rfl⟩
      refine ⟨?_, hle, rfl, rfl⟩
      rw [List.length_map, length_boundTypes hle]
    · exact fun h => h.2
  · constructor
    · intro h
      cases h
      exact ⟨hlen, rfl, rfl⟩
    · rintro ⟨-, rfl, rfl⟩
      rfl
  · constructor
    · intro h
      cases h
    · rintro ⟨h, rfl, -⟩
      exact absurd h hlen

/-- **The head of the payload is read where it is there**, with a type for each parameter. -/
lemma readHead_eq_ok {paramCount : ℕ} {previousTypes s nullBitmap types values : List UInt8} :
    (∃ t flag t', (take ((paramCount + 7) / 8) truncated).run s = .ok (nullBitmap, t) ∧
      takeByte.run t = .ok (flag, t') ∧
      (typesAfter paramCount previousTypes flag).run t' = .ok (types, values)) ↔
    ∃ head, executeHead paramCount s = some head ∧ nullBitmap = head.nullBitmap ∧
      types = head.types previousTypes ∧ types.length = paramCount ∧ values = head.values := by
  simp only [run_take_eq_ok, takeByte_eq_ok, typesAfter_eq_ok]
  generalize hw : (paramCount + 7) / 8 = width
  have hdrop : ∀ flag t', s.drop width = flag :: t' ↔
      width + 1 ≤ s.length ∧ flag = s.getD width 0 ∧ t' = s.drop (width + 1) := by
    intro flag t'
    constructor
    · intro h
      have hlen : (s.drop width).length = t'.length + 1 := by rw [h, List.length_cons]
      rw [List.length_drop] at hlen
      have hget : s[width]? = some flag := by
        rw [← Nat.add_zero width, ← List.getElem?_drop, h]
        rfl
      refine ⟨by omega, ?_, ?_⟩
      · rw [List.getD_eq_getElem?_getD, hget]
        rfl
      · rw [← List.drop_drop, h]
        rfl
    · rintro ⟨hlen, rfl, rfl⟩
      rw [List.drop_eq_getElem_cons (by omega), List.getD_eq_getElem?_getD,
        List.getElem?_eq_getElem (by omega)]
      rfl
  constructor
  · rintro ⟨t, flag, t', ⟨-, rfl, rfl⟩, ht, hlen, htypes⟩
    obtain ⟨hwidth, rfl, rfl⟩ := (hdrop _ _).1 ht
    unfold executeHead
    simp only [hw]
    rw [if_neg (by omega)]
    split_ifs at htypes ⊢ with hflag hshort
    · omega
    · obtain ⟨-, rfl, rfl⟩ := htypes
      exact ⟨_, rfl, rfl, rfl, hlen, rfl⟩
    · obtain ⟨rfl, rfl⟩ := htypes
      exact ⟨_, rfl, rfl, (if_neg hflag).symm, hlen, rfl⟩
  · rintro ⟨head, hhead, rfl, rfl, hlen, rfl⟩
    unfold executeHead at hhead
    simp only [hw] at hhead
    split_ifs at hhead with hwidth hflag hshort
    · cases hhead
      refine ⟨_, _, _, ⟨by omega, rfl, rfl⟩, (hdrop _ _).2 ⟨by omega, rfl, rfl⟩, hlen, ?_⟩
      rw [if_pos hflag]
      exact ⟨by omega, rfl, rfl⟩
    · cases hhead
      refine ⟨_, _, _, ⟨by omega, rfl, rfl⟩, (hdrop _ _).2 ⟨by omega, rfl, rfl⟩, hlen, ?_⟩
      rw [if_neg hflag]
      exact ⟨if_neg hflag, rfl⟩

lemma parseExecuteParams_eq {paramCount : ℕ} (h : paramCount ≠ 0) (previousTypes : List UInt8) :
    parseExecuteParams paramCount previousTypes = (do
      let nullBitmap ← take ((paramCount + 7) / 8) truncated
      let newParamsBound ← takeByte
      let types ← typesAfter paramCount previousTypes newParamsBound
      return (← parseParamsFrom nullBitmap 0 types, types)) := by
  unfold parseExecuteParams
  rw [if_neg h]
  refine bind_congr fun nullBitmap => bind_congr fun newParamsBound => ?_
  unfold typesAfter
  split_ifs
  · rfl
  · rfl
  · rfl

end Rsduck.Mysql
