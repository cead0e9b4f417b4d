import Rsduck.Mysql.ParamsDecoding

/-!
Which payloads of `COM_STMT_EXECUTE` are decoded as they are meant.

A payload is decoded right if a client's parameters are read as what they denote and to the last byte,
and anything else is refused.
-/

namespace Rsduck.Mysql

open Lib Lib.Wire Lib.Wire.Reader Lib.Cursor Db

/-! ### What the payload must be -/

/-- The types and their unsigned flags: those sent, or those of the execution before. -/
def ExecuteHead.kinds (head : ExecuteHead) (previous : List (UInt8 × Bool)) :
    List (UInt8 × Bool) :=
  if head.newParamsBound = 1 then head.bound.map typeKind else previous

/-- What is left after the values, if they are all there. -/
def afterValues (nullBitmap : List UInt8) (idx : ℕ) : List UInt8 → List UInt8 → Option (List UInt8)
  | [], s => some s
  | ty :: types, s =>
    if nullAt nullBitmap idx then afterValues nullBitmap (idx + 1) types s
    else (valueSize ty s).bind fun n => afterValues nullBitmap (idx + 1) types (s.drop n)

/-- Each value is well made. -/
def AllWellMade (nullBitmap : List UInt8) (idx : ℕ) : List (UInt8 × Bool) → List UInt8 → Prop
  | [], _ => True
  | (ty, unsigned) :: kinds, s =>
    if nullAt nullBitmap idx then AllWellMade nullBitmap (idx + 1) kinds s
    else ∀ n, valueSize ty s = some n →
      WellMade ty unsigned n s ∧ AllWellMade nullBitmap (idx + 1) kinds (s.drop n)

/-- If the parameters are all there, the flag is zero or one, the values are well made, and nothing
is left; and no `TIME` on the way has too many hours. -/
def ParamsWellMade (paramCount : ℕ) (previous : List (UInt8 × Bool)) (s : List UInt8) : Prop :=
  if paramCount = 0 then s = []
  else ¬ Checked.ParamsOverflow paramCount (previous.map Prod.fst) s ∧
    ∀ head, executeHead paramCount s = some head → (head.kinds previous).length = paramCount →
      ∀ rest, afterValues head.nullBitmap 0 ((head.kinds previous).map Prod.fst) head.values =
          some rest →
        head.newParamsBound.toNat ≤ 1 ∧ rest = [] ∧
          AllWellMade head.nullBitmap 0 (head.kinds previous) head.values

/-- A client's parameters are decoded as what they denote and to the last byte, with their types kept
for the next execution; any other payload is an error. -/
def ParamsDecoded (paramCount : ℕ) (previous : List (UInt8 × Bool)) (input : List UInt8)
    (idx : ℕ) : Prop :=
  (∀ ps : List BoundParam, ps.length = paramCount → Encodes previous ps (input.drop idx) →
    ∃ params, (Checked.parseExecuteParams paramCount (previous.map Prod.fst)).runFrom input idx =
        .ok ((params, ps.map (·.ty)), input.length) ∧ List.Forall₂ DenotesBound params ps) ∧
  ((∀ ps : List BoundParam, ps.length = paramCount → ¬ Encodes previous ps (input.drop idx)) →
    ∃ e, (Checked.parseExecuteParams paramCount (previous.map Prod.fst)).runFrom input idx =
      .error (.error e))

/-! ### The values one after the other -/

/-- The bits of the parameters from `idx` on. -/
def NullsFrom (nullBitmap : List UInt8) (idx : ℕ) : List BoundParam → Prop
  | [] => True
  | p :: ps => nullAt nullBitmap idx = p.value.isNone ∧ NullsFrom nullBitmap (idx + 1) ps

variable {nullBitmap : List UInt8}

lemma nullsFrom_iff {idx : ℕ} {ps : List BoundParam} :
    NullsFrom nullBitmap idx ps ↔
      ∀ i (h : i < ps.length), nullAt nullBitmap (idx + i) = (ps.get ⟨i, h⟩).value.isNone := by
  induction ps generalizing idx with
  | nil => exact iff_of_true trivial fun i h => absurd h (Nat.not_lt_zero i)
  | cons p ps ih =>
    rw [NullsFrom, ih]
    constructor
    · rintro ⟨hp, hps⟩ i h
      rcases i with _ | i
      · exact hp
      · have := hps i (Nat.lt_of_succ_lt_succ h)
        rwa [Nat.add_assoc, Nat.add_comm 1 i] at this
    · intro h
      refine ⟨h 0 (Nat.zero_lt_succ _), ?_⟩
      intro i hi
      have := h (i + 1) (Nat.succ_lt_succ hi)
      rwa [← Nat.add_assoc, Nat.add_right_comm] at this

lemma parseParamsFrom_null {idx : ℕ} {ty : UInt8} {types s rest : List UInt8}
    {params : List SqlParam} (h : nullAt nullBitmap idx = true) :
    (parseParamsFrom nullBitmap idx (ty :: types)).run s = .ok (params, rest) ↔
      ∃ ps, (parseParamsFrom nullBitmap (idx + 1) types).run s = .ok (ps, rest) ∧
        params = .null :: ps := by
  have h' : (nullBitmap.getD (idx / 8) 0).toNat.testBit (idx % 8) = true := h
  rw [parseParamsFrom]
  simp only [if_pos h', pure_bind]
  rw [bind_pure_comp, run_map_eq_ok]

lemma parseParamsFrom_value {idx : ℕ} {ty : UInt8} {types s rest : List UInt8}
    {params : List SqlParam} (h : ¬ nullAt nullBitmap idx = true) :
    (parseParamsFrom nullBitmap idx (ty :: types)).run s = .ok (params, rest) ↔
      ∃ param t, (parseBinaryParam ty).run s = .ok (param, t) ∧
        ∃ ps, (parseParamsFrom nullBitmap (idx + 1) types).run t = .ok (ps, rest) ∧
          params = param :: ps := by
  have h' : ¬ (nullBitmap.getD (idx / 8) 0).toNat.testBit (idx % 8) = true := h
  rw [parseParamsFrom]
  simp only [if_neg h']
  rw [run_bind_eq_ok]
  simp only [bind_pure_comp, run_map_eq_ok]

/-- The values are read where they are all there. -/
lemma parseParamsFrom_eq_ok {idx : ℕ} {types s rest : List UInt8} :
    (∃ params, (parseParamsFrom nullBitmap idx types).run s = .ok (params, rest)) ↔
      afterValues nullBitmap idx types s = some rest := by
  induction types generalizing idx s with
  | nil =>
    constructor
    · rintro ⟨params, h⟩
      cases h
      rfl
    · intro h
      cases h
      exact ⟨[], rfl⟩
  | cons ty types ih =>
    by_cases hnull : nullAt nullBitmap idx = true
    · simp only [parseParamsFrom_null hnull, afterValues, if_pos hnull, ← ih]
      constructor
      · rintro ⟨params, ps, hps, -⟩
        exact ⟨ps, hps⟩
      · rintro ⟨ps, hps⟩
        exact ⟨_, ps, hps, rfl⟩
    · simp only [parseParamsFrom_value hnull, afterValues, if_neg hnull, Option.bind_eq_some_iff, ← ih]
      constructor
      · rintro ⟨params, param, t, hparam, ps, hps, -⟩
        obtain ⟨n, hn, -, rfl⟩ := (sized_parseBinaryParam ty).eq_drop hparam
        exact ⟨n, hn, ps, hps⟩
      · rintro ⟨n, hn, ps, hps⟩
        obtain ⟨-, param, hparam⟩ := (sized_parseBinaryParam ty s).1 n hn
        exact ⟨_, param, _, hparam, ps, hps, rfl⟩

/-! ### A client's values -/

/-- The bytes of one parameter. -/
def BoundParam.bytes (p : BoundParam) : List UInt8 := (p.value.map (ParamValue.bytes p.ty)).getD []

lemma valueSize_of_takes {ty : UInt8} {param : SqlParam} {bytes : List UInt8}
    (h : Takes (parseBinaryParam ty) bytes param) (rest : List UInt8) :
    valueSize ty (bytes ++ rest) = some bytes.length := by
  obtain ⟨n, hn, hle, hrest⟩ := (sized_parseBinaryParam ty).eq_drop (h rest)
  have hlen := congrArg List.length hrest
  rw [List.length_drop] at hlen
  rw [List.length_append] at hle hlen
  rw [hn]
  congr 1
  omega

/-- **The values of a client are decoded right exactly where they are well made.** -/
lemma decoded_iff_wellMade {idx : ℕ} {ps : List BoundParam} {rest : List UInt8}
    (hnulls : NullsFrom nullBitmap idx ps)
    (hhours : ¬ Checked.HoursOverflow nullBitmap idx (ps.map (·.ty)) (valuesBytes ps ++ rest)) :
    ∃ params, (parseParamsFrom nullBitmap idx (ps.map (·.ty))).run (valuesBytes ps ++ rest) =
        .ok (params, rest) ∧
      (List.Forall₂ DenotesBound params ps ↔
        AllWellMade nullBitmap idx (ps.map BoundParam.kind) (valuesBytes ps ++ rest)) := by
  induction ps generalizing idx with
  | nil => exact ⟨[], rfl, iff_of_true List.Forall₂.nil trivial⟩
  | cons p ps ih =>
    obtain ⟨hp, hps⟩ := hnulls
    have hbytes : valuesBytes (p :: ps) ++ rest = p.bytes ++ (valuesBytes ps ++ rest) := by
      rw [valuesBytes, List.flatMap_cons, List.append_assoc]
      rfl
    rw [hbytes] at hhours ⊢
    rw [List.map_cons, Checked.HoursOverflow] at hhours
    rcases hv : p.value with _ | v
    · have hnull : nullAt nullBitmap idx = true := by
        rw [hp, hv]
        rfl
      have hnil : p.bytes = [] := by
        rw [BoundParam.bytes, hv]
        rfl
      rw [if_pos hnull, hnil, List.nil_append] at hhours
      obtain ⟨params, hrun, hiff⟩ := ih hps hhours
      rw [hnil, List.nil_append]
      refine ⟨.null :: params, (parseParamsFrom_null hnull).2 ⟨params, hrun, rfl⟩, ?_⟩
      rw [List.map_cons, BoundParam.kind, AllWellMade, if_pos hnull, ← hiff, List.forall₂_cons]
      have hdenotes : DenotesBound .null p := by
        rw [DenotesBound, hv]
      exact and_iff_right hdenotes
    · have hnull : ¬ nullAt nullBitmap idx = true := by
        rw [hp, hv]
        simp
      have hfits : v.Fits p.ty p.unsigned := p.fits v hv
      have hpbytes : p.bytes = v.bytes p.ty := by
        rw [BoundParam.bytes, hv]
        rfl
      obtain ⟨param, htakes, hkept, hint⟩ := takes_value hfits
      have hsize := valueSize_of_takes htakes (valuesBytes ps ++ rest)
      rw [if_neg hnull, hpbytes, not_or] at hhours
      obtain ⟨hown, hhours⟩ := hhours
      have hdrop : (v.bytes p.ty ++ (valuesBytes ps ++ rest)).drop (v.bytes p.ty).length =
          valuesBytes ps ++ rest := List.drop_left' rfl
      have hrest : ¬ Checked.HoursOverflow nullBitmap (idx + 1) (ps.map (·.ty))
          (valuesBytes ps ++ rest) := by
        intro h
        rw [← hdrop] at h
        exact hhours ⟨_, hsize, h⟩
      obtain ⟨params, hrun, hiff⟩ := ih hps hrest
      rw [hpbytes]
      refine ⟨param :: params, (parseParamsFrom_value hnull).2
        ⟨param, _, htakes _, params, hrun, rfl⟩, ?_⟩
      rw [List.map_cons, BoundParam.kind, AllWellMade, if_neg hnull, List.forall₂_cons, hiff]
      have hdenotes : DenotesBound param p ↔ Denotes param v := by
        rw [DenotesBound, hv]
      rw [hdenotes]
      constructor
      · rintro ⟨hparam, htail⟩ n hn
        rw [hsize] at hn
        cases hn
        rw [hdrop]
        exact ⟨wellMade_of_fits _ hfits fun n hn => hint n hn hparam, htail⟩
      · intro h
        obtain ⟨hmade, htail⟩ := h _ hsize
        rw [hdrop] at htail
        exact ⟨hkept (kept_of_wellMade hfits hmade hown), htail⟩

/-- **Well-made values are those of some parameters of a client.** -/
lemma exists_params {idx : ℕ} {kinds : List (UInt8 × Bool)} {s rest : List UInt8}
    (hafter : afterValues nullBitmap idx (kinds.map Prod.fst) s = some rest)
    (hmade : AllWellMade nullBitmap idx kinds s) :
    ∃ ps : List BoundParam, ps.map BoundParam.kind = kinds ∧ NullsFrom nullBitmap idx ps ∧
      s = valuesBytes ps ++ rest := by
  induction kinds generalizing idx s with
  | nil =>
    cases hafter
    exact ⟨[], rfl, trivial, rfl⟩
  | cons kind kinds ih =>
    obtain ⟨ty, unsigned⟩ := kind
    rw [List.map_cons, afterValues] at hafter
    rw [AllWellMade] at hmade
    by_cases hnull : nullAt nullBitmap idx = true
    · rw [if_pos hnull] at hafter hmade
      obtain ⟨ps, hkinds, hnulls, hs⟩ := ih hafter hmade
      refine ⟨⟨ty, unsigned, none, by simp⟩ :: ps, ?_, ⟨hnull, hnulls⟩, hs⟩
      rw [List.map_cons, hkinds]
      rfl
    · rw [if_neg hnull] at hafter hmade
      obtain ⟨n, hn, hafter⟩ := Option.bind_eq_some_iff.1 hafter
      obtain ⟨hvalue, hrest⟩ := hmade n hn
      obtain ⟨ps, hkinds, hnulls, hs⟩ := ih hafter hrest
      obtain ⟨v, hfits, hbytes⟩ := exists_value hn hvalue
      have hfits' : ∀ w ∈ some v, w.Fits ty unsigned := by
        rintro w ⟨⟩
        exact hfits
      refine ⟨⟨ty, unsigned, some v, hfits'⟩ :: ps, ?_, ⟨?_, hnulls⟩, ?_⟩
      · rw [List.map_cons, hkinds]
        rfl
      · simpa using hnull
      · rw [valuesBytes, List.flatMap_cons, List.append_assoc]
        show s = v.bytes ty ++ (valuesBytes ps ++ rest)
        rw [hbytes, ← hs, List.take_append_drop]

/-! ### The head of the payload -/

/-- The bytes of a table of types. -/
def tableBytes (table : List (UInt8 × UInt8)) : List UInt8 := table.flatMap fun x => [x.1, x.2]

lemma length_tableBytes (table : List (UInt8 × UInt8)) :
    (tableBytes table).length = 2 * table.length := by
  induction table with
  | nil => rfl
  | cons x table ih =>
    unfold tableBytes at ih ⊢
    rw [List.flatMap_cons, List.length_append, ih]
    simp only [List.length_cons, List.length_nil]
    omega

lemma boundTypes_tableBytes (table : List (UInt8 × UInt8)) (s : List UInt8) :
    boundTypes table.length (tableBytes table ++ s) = table := by
  induction table with
  | nil => rfl
  | cons x table ih =>
    show x :: boundTypes table.length (tableBytes table ++ s) = _
    rw [ih]

lemma tableBytes_boundTypes {n : ℕ} {s : List UInt8} (h : 2 * n ≤ s.length) :
    tableBytes (boundTypes n s) = s.take (2 * n) := by
  induction n generalizing s with
  | zero => rfl
  | succ n ih =>
    rcases s with _ | ⟨ty, _ | ⟨flags, s⟩⟩
    · simp at h
    · simp at h
      omega
    · simp only [List.length_cons] at h
      have hmul : 2 * (n + 1) = 2 * n + 1 + 1 := by omega
      rw [hmul, List.take_succ_cons, List.take_succ_cons, ← ih (by omega)]
      rfl

/-- **The head is found where the payload is a bitmap, a flag, the types after a flag of one, and the
values.** -/
lemma executeHead_eq_some {n : ℕ} {s : List UInt8} {head : ExecuteHead} :
    executeHead n s = some head ↔ head.nullBitmap.length = (n + 7) / 8 ∧
      (head.newParamsBound = 1 ∧ head.bound.length = n ∧
          s = head.nullBitmap ++ 1 :: (tableBytes head.bound ++ head.values) ∨
        head.newParamsBound ≠ 1 ∧ head.bound = [] ∧
          s = head.nullBitmap ++ head.newParamsBound :: head.values) := by
  unfold executeHead
  generalize (n + 7) / 8 = width
  have hsplit : width + 1 ≤ s.length → s = s.take width ++ s.getD width 0 :: s.drop (width + 1) := by
    intro h
    have hget : s.getD width 0 = s[width] := by
      rw [List.getD_eq_getElem?_getD, List.getElem?_eq_getElem (by omega), Option.getD_some]
    rw [hget, ← List.drop_eq_getElem_cons (by omega), List.take_append_drop]
  have htake : width + 1 ≤ s.length → (s.take width).length = width := by
    intro h
    rw [List.length_take]
    omega
  dsimp only
  constructor
  · intro h
    split_ifs at h with hlen hflag hshort
    · cases h
      have hs := hsplit (by omega)
      refine ⟨htake (by omega), .inl ⟨rfl, length_boundTypes (by omega), ?_⟩⟩
      rw [hflag] at hs
      rw [tableBytes_boundTypes (by omega), List.take_append_drop]
      exact hs
    · cases h
      exact ⟨htake (by omega), .inr ⟨hflag, rfl, hsplit (by omega)⟩⟩
  · have hparts : ∀ (bitmap : List UInt8) flag tail, bitmap.length = width →
        (bitmap ++ flag :: tail).take width = bitmap ∧
          (bitmap ++ flag :: tail).getD width 0 = flag ∧
          (bitmap ++ flag :: tail).drop (width + 1) = tail ∧
          ¬ (bitmap ++ flag :: tail).length < width + 1 := by
      rintro bitmap flag tail rfl
      refine ⟨List.take_left' rfl, ?_, ?_, ?_⟩
      · rw [List.getD_eq_getElem?_getD, List.getElem?_append_right le_rfl, Nat.sub_self]
        rfl
      · rw [← List.drop_drop, List.drop_left' rfl]
        rfl
      · rw [List.length_append, List.length_cons]
        omega
    obtain ⟨bitmap, flag, bound, values⟩ := head
    rintro ⟨hbitmap, ⟨rfl, rfl, rfl⟩ | ⟨hone, rfl, rfl⟩⟩
    · obtain ⟨htake, hget, hdrop, hlen⟩ := hparts bitmap 1 (tableBytes bound ++ values) hbitmap
      dsimp only at htake hget hdrop hlen ⊢
      rw [if_neg hlen, htake, hget, hdrop, if_pos rfl, boundTypes_tableBytes,
        ← length_tableBytes, List.drop_left' rfl, if_neg]
      rw [List.length_append]
      omega
    · obtain ⟨htake, hget, hdrop, hlen⟩ := hparts bitmap flag values hbitmap
      dsimp only at hone htake hget hdrop hlen ⊢
      rw [if_neg hlen, htake, hget, hdrop, if_neg hone]

/-- **A payload is a client's where its head is, with the flag zero or one and the values of the
parameters.** -/
lemma encodes_iff {previous : List (UInt8 × Bool)} {ps : List BoundParam} {s : List UInt8}
    (hne : ps ≠ []) :
    Encodes previous ps s ↔ ∃ head, executeHead ps.length s = some head ∧
      head.newParamsBound.toNat ≤ 1 ∧ NullsFrom head.nullBitmap 0 ps ∧
      head.kinds previous = ps.map BoundParam.kind ∧ head.values = valuesBytes ps := by
  have hbitmap : ∀ bitmap, IsNullBitmap ps bitmap ↔
      bitmap.length = (ps.length + 7) / 8 ∧ NullsFrom bitmap 0 ps := by
    intro bitmap
    rw [IsNullBitmap, nullsFrom_iff]
    simp only [Nat.zero_add]
  have hflag₁ : (1 : UInt8).toNat ≤ 1 := by decide
  have hflag₀ : (0 : UInt8).toNat ≤ 1 := by decide
  have hne₀ : (0 : UInt8) ≠ 1 := by decide
  rw [Encodes, if_neg hne]
  constructor
  · rintro ⟨bitmap, hb, ⟨table, htable, rfl⟩ | ⟨hprevious, rfl⟩⟩
    · obtain ⟨hlen, hnulls⟩ := (hbitmap bitmap).1 hb
      have htlen : table.length = ps.length := by
        have := congrArg List.length htable
        rwa [List.length_map, List.length_map] at this
      refine ⟨⟨bitmap, 1, table, valuesBytes ps⟩, ?_, hflag₁, hnulls, ?_, rfl⟩
      · exact executeHead_eq_some.2 ⟨hlen, .inl ⟨rfl, htlen, rfl⟩⟩
      · rw [ExecuteHead.kinds, if_pos rfl, htable]
    · obtain ⟨hlen, hnulls⟩ := (hbitmap bitmap).1 hb
      refine ⟨⟨bitmap, 0, [], valuesBytes ps⟩, ?_, hflag₀, hnulls, ?_, rfl⟩
      · exact executeHead_eq_some.2 ⟨hlen, .inr ⟨hne₀, rfl, rfl⟩⟩
      · rw [ExecuteHead.kinds, if_neg hne₀, hprevious]
  · rintro ⟨⟨bitmap, flag, bound, values⟩, hhead, hflag, hnulls, hkinds, hvalues⟩
    dsimp only at hflag hnulls hvalues
    subst hvalues
    obtain ⟨hlen, ⟨hone, hbound, hs⟩ | ⟨hone, hbound, hs⟩⟩ := executeHead_eq_some.1 hhead
    · refine ⟨bitmap, (hbitmap bitmap).2 ⟨hlen, hnulls⟩, .inl ⟨bound, ?_, hs⟩⟩
      rwa [ExecuteHead.kinds, if_pos hone] at hkinds
    · have hzero : flag = 0 := by
        have hne1 : flag.toNat ≠ 1 := fun h => hone (UInt8.toNat_inj.1 h)
        apply UInt8.toNat_inj.1
        show flag.toNat = 0
        omega
      refine ⟨bitmap, (hbitmap bitmap).2 ⟨hlen, hnulls⟩, .inr ⟨?_, hzero ▸ hs⟩⟩
      rwa [ExecuteHead.kinds, if_neg hone] at hkinds

lemma kinds_types (head : ExecuteHead) (previous : List (UInt8 × Bool)) :
    head.types (previous.map Prod.fst) = (head.kinds previous).map Prod.fst := by
  unfold ExecuteHead.types ExecuteHead.kinds
  split_ifs
  · rw [List.map_map]
    rfl
  · rfl

/-! ### The whole payload -/

lemma parseExecuteParams_eq_ok {n : ℕ} (hn : n ≠ 0) {previous s rest types : List UInt8}
    {params : List SqlParam} :
    (parseExecuteParams n previous).run s = .ok ((params, types), rest) ↔
      ∃ head, executeHead n s = some head ∧ types = head.types previous ∧ types.length = n ∧
        (parseParamsFrom head.nullBitmap 0 types).run head.values = .ok (params, rest) := by
  rw [parseExecuteParams_eq hn]
  constructor
  · intro h
    obtain ⟨bitmap, t, hbitmap, h⟩ := run_bind_eq_ok.1 h
    obtain ⟨flag, t', hflag, h⟩ := run_bind_eq_ok.1 h
    obtain ⟨types', values, htypes, h⟩ := run_bind_eq_ok.1 h
    obtain ⟨params', rest', hvalues, h⟩ := run_bind_eq_ok.1 h
    cases h
    obtain ⟨head, hhead, rfl, htypes', hlen, rfl⟩ :=
      readHead_eq_ok.1 ⟨t, flag, t', hbitmap, hflag, htypes⟩
    exact ⟨head, hhead, htypes', hlen, hvalues⟩
  · rintro ⟨head, hhead, htypes, hlen, hvalues⟩
    obtain ⟨t, flag, t', hbitmap, hflag, htypes⟩ :=
      readHead_eq_ok.2 ⟨head, hhead, rfl, htypes, hlen, rfl⟩
    refine run_bind_eq_ok.2 ⟨_, t, hbitmap, ?_⟩
    refine run_bind_eq_ok.2 ⟨flag, t', hflag, ?_⟩
    refine run_bind_eq_ok.2 ⟨types, head.values, htypes, ?_⟩
    exact run_bind_eq_ok.2 ⟨params, rest, hvalues, rfl⟩

lemma params_decoded_none (previous : List (UInt8 × Bool)) {input : List UInt8} {idx : ℕ}
    (hidx : idx ≤ input.length) :
    ParamsDecoded 0 previous input idx ↔ input.drop idx = [] := by
  have hrun : (Checked.parseExecuteParams 0 (previous.map Prod.fst)).runFrom input idx =
      .ok (([], []), idx) := rfl
  have hend : input.drop idx = [] ↔ idx = input.length := by
    rw [List.drop_eq_nil_iff]
    omega
  have hencodes : ∀ s, Encodes previous [] s ↔ s = [] := fun s => by rw [Encodes, if_pos rfl]
  unfold ParamsDecoded
  rw [hrun]
  constructor
  · rintro ⟨-, herror⟩
    by_contra hne
    obtain ⟨e, he⟩ := herror fun ps hps henc => hne (by
      rw [List.eq_nil_of_length_eq_zero hps] at henc
      exact (hencodes _).1 henc)
    cases he
  · intro hnil
    refine ⟨?_, ?_⟩
    · intro ps hps _
      rw [List.eq_nil_of_length_eq_zero hps, ← hend.1 hnil]
      exact ⟨[], rfl, List.Forall₂.nil⟩
    · intro hno
      exact absurd ((hencodes _).2 hnil) (hno [] rfl)

lemma map_kind_fst (ps : List BoundParam) :
    (ps.map BoundParam.kind).map Prod.fst = ps.map (·.ty) := List.map_map ..

lemma matches_ok {α : Type} {input : List UInt8} {idx : ℕ} {x : Except Fault (α × ℕ)} {a : α}
    {rest : List UInt8} (h : Matches input idx x (.ok (a, rest))) :
    ∃ j, x = .ok (a, j) ∧ (rest = [] ↔ j = input.length) := by
  cases h with
  | ok a n hn =>
    refine ⟨idx + n, rfl, ?_⟩
    rw [List.drop_eq_nil_iff]
    omega

/-- A client's payload has its head, and its values are there to the last byte. -/
lemma head_of_encodes {n : ℕ} (hzero : n ≠ 0) {previous : List (UInt8 × Bool)} {ps : List BoundParam}
    {s : List UInt8} (hps : ps.length = n) (henc : Encodes previous ps s)
    (hover : ¬ Checked.ParamsOverflow n (previous.map Prod.fst) s) :
    ∃ head params, executeHead n s = some head ∧ head.newParamsBound.toNat ≤ 1 ∧
      head.kinds previous = ps.map BoundParam.kind ∧
      (parseParamsFrom head.nullBitmap 0 (ps.map (·.ty))).run head.values = .ok (params, []) ∧
      (List.Forall₂ DenotesBound params ps ↔
        AllWellMade head.nullBitmap 0 (head.kinds previous) head.values) := by
  have hne : ps ≠ [] := by
    rintro rfl
    exact hzero hps.symm
  obtain ⟨head, hhead, hflag, hnulls, hkinds, hvalues⟩ := (encodes_iff hne).1 henc
  rw [hps] at hhead
  have htypes : head.types (previous.map Prod.fst) = ps.map (·.ty) := by
    rw [kinds_types, hkinds, map_kind_fst]
  have hhours : ¬ Checked.HoursOverflow head.nullBitmap 0 (ps.map (·.ty)) (valuesBytes ps ++ []) := by
    intro hlong
    rw [List.append_nil, ← hvalues, ← htypes] at hlong
    refine hover ⟨hzero, head, hhead, ?_, hlong⟩
    rw [htypes, List.length_map, hps]
  obtain ⟨params, hrun, hiff⟩ := decoded_iff_wellMade hnulls hhours
  rw [List.append_nil, ← hvalues] at hrun hiff
  rw [← hkinds] at hiff
  exact ⟨head, params, hhead, hflag, hkinds, hrun, hiff⟩

/-- **The parameters of an execution are decoded right exactly where the payload is well made.** -/
theorem params_decoded_iff (paramCount : ℕ) (previous : List (UInt8 × Bool)) (input : List UInt8)
    (idx : ℕ) (h : Addressable input) (hidx : idx ≤ input.length) :
    ParamsDecoded paramCount previous input idx ↔
      ParamsWellMade paramCount previous (input.drop idx) := by
  by_cases hzero : paramCount = 0
  · subst hzero
    rw [ParamsWellMade, if_pos rfl, params_decoded_none previous hidx]
  have hfollows := Checked.followsUnless_parseExecuteParams paramCount (previous.map Prod.fst)
  rw [ParamsWellMade, if_neg hzero]
  constructor
  · rintro ⟨hclient, hother⟩
    have hover : ¬ Checked.ParamsOverflow paramCount (previous.map Prod.fst) (input.drop idx) := by
      intro hover
      have hout := hfollows.outOfRange h hidx hover
      rw [hout] at hother
      by_cases hex : ∃ ps : List BoundParam, ps.length = paramCount ∧
          Encodes previous ps (input.drop idx)
      · obtain ⟨ps, hps, henc⟩ := hex
        obtain ⟨params, hok, -⟩ := hclient ps hps henc
        rw [hout] at hok
        cases hok
      · obtain ⟨e, he⟩ := hother fun ps hps henc => hex ⟨ps, hps, henc⟩
        cases he
    refine ⟨hover, ?_⟩
    intro head hhead hlen rest hafter
    obtain ⟨params, hvalues⟩ := parseParamsFrom_eq_ok.2 hafter
    have htypes := kinds_types head previous
    have hread := (parseExecuteParams_eq_ok hzero).2
      ⟨head, hhead, htypes.symm, by rw [List.length_map, hlen], hvalues⟩
    have hmatches := hfollows.follows h hidx hover
    rw [hread] at hmatches
    obtain ⟨j, hj, hend⟩ := matches_ok hmatches
    -- what is not refused is a client's
    obtain ⟨ps, hps, henc⟩ : ∃ ps : List BoundParam, ps.length = paramCount ∧
        Encodes previous ps (input.drop idx) := by
      by_contra hno
      obtain ⟨e, he⟩ := hother fun ps hps henc => hno ⟨ps, hps, henc⟩
      rw [hj] at he
      cases he
    obtain ⟨params', hok, hdenotes⟩ := hclient ps hps henc
    rw [hj] at hok
    simp only [Except.ok.injEq, Prod.mk.injEq] at hok
    obtain ⟨⟨rfl, -⟩, -⟩ := hok
    obtain ⟨head', params', hhead', hflag, hkinds, hrun, hiff⟩ := head_of_encodes hzero hps henc hover
    rw [hhead] at hhead'
    cases hhead'
    rw [hkinds, map_kind_fst, hrun] at hvalues
    cases hvalues
    exact ⟨hflag, rfl, hiff.1 hdenotes⟩
  · rintro ⟨hover, hmade⟩
    have hmatches := hfollows.follows h hidx hover
    refine ⟨?_, ?_⟩
    · intro ps hps henc
      obtain ⟨head, params, hhead, hflag, hkinds, hrun, hiff⟩ :=
        head_of_encodes hzero hps henc hover
      have htypes : head.types (previous.map Prod.fst) = ps.map (·.ty) := by
        rw [kinds_types, hkinds, map_kind_fst]
      have hafter := parseParamsFrom_eq_ok.1 ⟨params, hrun⟩
      obtain ⟨-, -, hall⟩ := hmade head hhead (by rw [hkinds, List.length_map, hps]) []
        (by rw [hkinds, map_kind_fst, hafter])
      have hread := (parseExecuteParams_eq_ok hzero).2
        ⟨head, hhead, htypes.symm, by rw [List.length_map, hps], hrun⟩
      rw [hread] at hmatches
      obtain ⟨j, hj, hend⟩ := matches_ok hmatches
      rw [hj, hend.1 rfl]
      exact ⟨params, rfl, hiff.2 hall⟩
    · intro hno
      rcases hread : (parseExecuteParams paramCount (previous.map Prod.fst)).run (input.drop idx) with
        e | ⟨⟨params, types⟩, rest⟩
      · rw [hread] at hmatches
        generalize (Checked.parseExecuteParams paramCount (previous.map Prod.fst)).runFrom input idx = x
          at hmatches ⊢
        cases hmatches with
        | error => exact ⟨e, rfl⟩
      · obtain ⟨head, hhead, rfl, hlen, hvalues⟩ := (parseExecuteParams_eq_ok hzero).1 hread
        rw [kinds_types] at hlen hvalues
        have hafter := parseParamsFrom_eq_ok.1 ⟨params, hvalues⟩
        have hlen' : (head.kinds previous).length = paramCount := by rwa [List.length_map] at hlen
        obtain ⟨hflag, rfl, hall⟩ := hmade head hhead hlen' rest hafter
        obtain ⟨ps, hkinds, hnulls, hs⟩ := exists_params hafter hall
        rw [List.append_nil] at hs
        have hps : ps.length = paramCount := by rw [← hlen', ← hkinds, List.length_map]
        have hne : ps ≠ [] := by
          rintro rfl
          exact hzero hps.symm
        refine absurd ((encodes_iff hne).2 ⟨head, ?_, hflag, hnulls, hkinds.symm, hs⟩) (hno ps hps)
        rw [hps]
        exact hhead

/-- The payload of one unsigned `TINYINT`. -/
def tinyPayload (n : UInt8) : List UInt8 := [0, 1, mysqlTypeTiny, 0x80, n]

/-- A number below 128 is well made, so it is decoded right. -/
theorem params_decoded_tiny : ParamsDecoded 1 [] (tinyPayload 7) 0 := by
  have hhead : executeHead 1 ((tinyPayload 7).drop 0) = some ⟨[0], 1, [(mysqlTypeTiny, 0x80)], [7]⟩ :=
    rfl
  have hmade : ParamsWellMade 1 [] ((tinyPayload 7).drop 0) := by
    rw [ParamsWellMade, if_neg one_ne_zero]
    refine ⟨?_, ?_⟩
    · rintro ⟨-, head, hsome, -, hhours⟩
      cases hhead.symm.trans hsome
      obtain ⟨htime, -⟩ | ⟨n, -, hnone⟩ := hhours
      · revert htime
        decide
      · exact hnone
    · intro head hsome _ rest hrest
      cases hhead.symm.trans hsome
      refine ⟨by decide, (Option.some.inj hrest).symm, fun n hn => ?_⟩
      obtain rfl : 1 = n := Option.some.inj hn
      have hdate : mysqlTypeTiny ∉ datetimeTypes := by decide
      have htime : mysqlTypeTiny ≠ mysqlTypeTime := by decide
      exact ⟨⟨fun _ k hk => by cases hk; decide, by decide, fun h => absurd h hdate,
        fun h => absurd h htime⟩, trivial⟩
  exact (params_decoded_iff 1 [] (tinyPayload 7) 0 (by unfold Addressable; decide) (by decide)).2
    hmade

/-- An unsigned 200 is read as -56. -/
theorem unsigned_read_as_signed :
    ¬ ∀ paramCount previous input idx, Addressable input → idx ≤ input.length →
      ParamsDecoded paramCount previous input idx := by
  intro h
  have hdecoded := (h 1 [] (tinyPayload 200) 0 (by unfold Addressable; decide) (by decide)).1
  have hfits : ∀ v ∈ some (ParamValue.int 200), v.Fits mysqlTypeTiny true := by
    rintro v ⟨⟩
    exact ⟨1, rfl, by decide⟩
  have hnulls : IsNullBitmap [⟨mysqlTypeTiny, true, some (.int 200), hfits⟩] [0] := by
    refine ⟨by simp, ?_⟩
    intro i hi
    obtain rfl : i = 0 := Nat.lt_one_iff.1 hi
    rfl
  have hencodes : Encodes [] [⟨mysqlTypeTiny, true, some (.int 200), hfits⟩] (tinyPayload 200) := by
    rw [Encodes, if_neg (by simp)]
    exact ⟨[0], hnulls, .inl ⟨[(mysqlTypeTiny, 0x80)], rfl, rfl⟩⟩
  obtain ⟨params, hrun, hdenotes⟩ := hdecoded _ rfl hencodes
  have hread : (Checked.parseExecuteParams 1 []).runFrom (tinyPayload 200) 0 =
      .ok (([.integer (-56)], [mysqlTypeTiny]), 5) := rfl
  rw [List.map_nil, hread] at hrun
  cases hrun
  obtain ⟨hfirst, -⟩ := List.forall₂_cons.1 hdenotes
  have hvalue : (-56 : ℤ) = 200 := hfirst
  omega

end Rsduck.Mysql
