import Rsduck.Mysql.Checked

/-!
Where the decoding of a client's packets leaves the range of a type.

The decoders in machine arithmetic follow the readers of the parameters at every step but one: the
hours of a `TIME` are computed as `u32`.
-/

namespace Rsduck.Mysql.Checked

open Lib Lib.DecimalText Lib.FloatFormat Lib.Wire Lib.Cursor Db

/-! ### Parts of the payload -/

lemma usizeBound_eq : usizeBound = 2 * 2 ^ 63 := by decide

lemma follows_take (len : ℕ) : Follows (take len) (Reader.take len truncated) := by
  refine follows_of_matches ?_
  intro input idx hin hidx
  have hrun : (take len).runFrom input idx =
      if input.length - idx < len then .error (.error truncated)
      else .ok ((input.drop idx).take len, idx + len) := by
    show ((if input.length - idx < len then fail truncated else do
      let out ← slice input idx (← fit usizeBound (idx + len))
      set (← fit usizeBound (idx + len))
      return out : Cursor (List UInt8)).run input).run idx = _
    split_ifs with hlen
    · rfl
    · have hfit : idx + len < usizeBound := by
        unfold Addressable at hin
        rw [usizeBound_eq]
        omega
      have hsub : idx + len - idx = len := by omega
      rw [fit_of_lt hfit, pure_bind, slice_of_le (by omega) (by omega), pure_bind, pure_bind, hsub]
      rfl
  rw [hrun, Reader.run_take, List.length_drop]
  split_ifs with hlen
  · exact .error truncated
  · rw [List.drop_drop]
    exact .ok _ len (by omega)

lemma length_of_take {len : ℕ} {s bytes rest : List UInt8}
    (h : (Reader.take len truncated).run s = .ok (bytes, rest)) : bytes.length = len := by
  obtain ⟨hle, rfl, -⟩ := Reader.run_take_eq_ok.1 h
  rw [List.length_take]
  omega

lemma follows_takeFirst (missing : String) : Follows (takeFirst missing) Mysql.takeByte := by
  refine follows_bindOf (fun bytes => bytes.length = 1) (follows_take 1) length_of_take ?_
  intro bytes hbytes
  obtain ⟨first, rfl⟩ := List.length_eq_one_iff.1 hbytes
  exact follows_pure first

lemma follows_takeByte : Follows takeByte Mysql.takeByte := by
  refine follows_bindOf (fun bytes => bytes.length = 1) (follows_take 1) length_of_take ?_
  intro bytes hbytes
  obtain ⟨first, rfl⟩ := List.length_eq_one_iff.1 hbytes
  exact follows_pure first

lemma follows_getLe (k : ℕ) : Follows (getLe k) (Mysql.getLe k) := by
  unfold Mysql.getLe
  rw [← bind_pure_comp]
  refine follows_bindOf (fun bytes => bytes.length = k) (follows_take k) length_of_take ?_
  rintro bytes rfl
  rw [mapM_index, pure_bind]
  exact follows_pure (ofLeBytes bytes)

lemma follows_getLenencInt : Follows getLenencInt Mysql.getLenencInt := by
  refine follows_bind (follows_takeFirst _) fun first => ?_
  refine follows_ite (follows_getLe 2) ?_
  refine follows_ite (follows_getLe 3) ?_
  refine follows_ite (follows_getLe 8) ?_
  exact follows_ite (follows_fail _) (follows_pure _)

/-- A length-encoded number is at most `2 ^ 64 - 1`. -/
lemma lt_of_getLenencInt {s rest : List UInt8} {n : ℕ}
    (h : Mysql.getLenencInt.run s = .ok (n, rest)) : n < usizeBound := by
  obtain ⟨first, t, -, h⟩ := Reader.run_bind_eq_ok.1 h
  have hnum : ∀ k ≤ 8, (Mysql.getLe k).run t = .ok (n, rest) → n < usizeBound := by
    intro k hk hrun
    obtain ⟨bytes, htake, rfl⟩ := Reader.run_map_eq_ok.1 hrun
    have hlt := ofLeBytes_lt bytes
    rw [length_of_take htake] at hlt
    calc ofLeBytes bytes < 256 ^ k := hlt
      _ ≤ 256 ^ 8 := Nat.pow_le_pow_right (by decide) hk
      _ = usizeBound := by decide
  split_ifs at h
  · exact hnum 2 (by decide) h
  · exact hnum 3 (by decide) h
  · exact hnum 8 (by decide) h
  · cases h
  · cases h
    have := first.toNat_lt
    unfold usizeBound
    omega

lemma follows_getLenencBytes : Follows getLenencBytes Mysql.getLenencBytes := by
  refine follows_bindOf (· < usizeBound) follows_getLenencInt lt_of_getLenencInt ?_
  intro n hn
  rw [fit_of_lt hn, pure_bind]
  exact follows_take n

/-! ### Values -/

lemma follows_parseBinaryDatetime : Follows parseBinaryDatetime Mysql.parseBinaryDatetime := by
  refine follows_bind (follows_takeFirst _) fun len => ?_
  refine follows_ite (follows_pure _) ?_
  refine follows_guard _ ?_
  refine follows_bind (follows_getLe 2) fun year => ?_
  refine follows_bind follows_takeByte fun month => ?_
  refine follows_bind follows_takeByte fun day => ?_
  refine follows_ite (follows_pure _) ?_
  refine follows_bind follows_takeByte fun hour => ?_
  refine follows_bind follows_takeByte fun minute => ?_
  refine follows_bind follows_takeByte fun second => ?_
  refine follows_ite (follows_pure _) ?_
  exact follows_bind (follows_getLe 4) fun micros => follows_pure _

/-- The days and hours of a `TIME` of either length are more hours than a `u32` holds. -/
def TooManyHours (s : List UInt8) : Prop :=
  ((s.headD 0).toNat = 8 ∨ (s.headD 0).toNat = 12) ∧ 7 ≤ s.length ∧
    2 ^ 32 ≤ ofLeBytes ((s.drop 2).take 4) * 24 + (s.getD 6 0).toNat

/-- The hour that stands next makes too many hours of the days. -/
def HoursFrom (days : ℕ) (s : List UInt8) : Prop :=
  1 ≤ s.length ∧ 2 ^ 32 ≤ days * 24 + (s.headD 0).toNat

lemma headD_drop (n : ℕ) (s : List UInt8) : (s.drop n).headD 0 = s.getD n 0 := by
  rw [List.headD_eq_head?_getD, List.head?_drop, List.getD_eq_getElem?_getD]

/-- The sum of the hours ends the decoder where it is no `u32`. -/
lemma followsUnless_hours {α : Type} (days : ℕ) {f : ℕ → Cursor α} {g : UInt8 → Reader α}
    (h : ∀ hour, hour.toNat + days * 24 < 2 ^ 32 →
      Follows (f (hour.toNat + days * 24)) (g hour)) :
    FollowsUnless (HoursFrom days)
      (do
        let hour ← takeByte
        let hours ← fit u32Bound (hour.toNat + (← fit u32Bound (days * 24)))
        f hours)
      (Mysql.takeByte >>= g) := by
  refine (follows_takeByte.bind fun hour => followsUnless_fit fun hdays =>
    followsUnless_fit (B := fun _ => False) fun hhours => ?_).congr fun s => ?_
  · exact h hour hhours
  · constructor
    · rintro ⟨hlen, hle⟩
      obtain ⟨hour, rest, rfl⟩ := List.exists_cons_of_length_pos hlen
      refine .inr ⟨hour, rest, run_takeByte, .inr (.inl ?_)⟩
      rw [Nat.add_comm]
      exact hle
    · rintro (h | ⟨hour, rest, hrun, hle⟩)
      · exact h.elim
      rw [takeByte_eq_ok.1 hrun]
      have hle : 2 ^ 32 ≤ days * 24 + hour.toNat := by
        rcases hle with h | h | h
        · exact le_trans h (Nat.le_add_right _ _)
        · rw [Nat.add_comm]
          exact h
        · exact h.elim
      exact ⟨by simp, hle⟩

lemma followsUnless_parseBinaryTime :
    FollowsUnless TooManyHours parseBinaryTime Mysql.parseBinaryTime := by
  refine FollowsUnless.congr (follows_takeByte.bind fun len =>
    (follows_pure _).ite (followsUnless_guard _ (follows_takeByte.bind fun sign =>
      (follows_getLe 4).bind fun days => followsUnless_hours days fun hour hlt => ?_))) fun s => ?_
  · simp only [Nat.mod_eq_of_lt hlt]
    refine follows_bind follows_takeByte fun minutes => ?_
    refine follows_bind follows_takeByte fun seconds => ?_
    refine follows_ite (follows_pure _) ?_
    exact follows_bind (follows_getLe 4) fun micros => follows_pure _
  · simp only [takeByte_eq_ok, getLe_eq_ok, false_or]
    constructor
    · rintro ⟨hlen, hseven, hle⟩
      rcases s with _ | ⟨len, _ | ⟨sign, s⟩⟩
      · simp at hseven
      · simp at hseven
      refine ⟨len, _, rfl, ?_⟩
      have hlen' : len.toNat = 8 ∨ len.toNat = 12 := hlen
      rw [if_neg (by omega)]
      simp only [List.length_cons] at hseven
      refine ⟨by omega, sign, s, rfl, _, _, ⟨by omega, rfl, rfl⟩, ?_, ?_⟩
      · rw [List.length_drop]
        omega
      · rw [headD_drop]
        exact hle
    · rintro ⟨len, rest, rfl, h⟩
      split_ifs at h with hzero
      obtain ⟨hlen, sign, s, rfl, days, rest, ⟨hfour, rfl, rfl⟩, hone, hle⟩ := h
      rw [List.length_drop] at hone
      rw [headD_drop] at hle
      refine ⟨?_, ?_, hle⟩
      · show len.toNat = 8 ∨ len.toNat = 12
        omega
      · simp only [List.length_cons]
        omega

lemma follows_return {α β : Type} {B : List UInt8 → Prop} {d : Cursor α} {r : Reader α}
    (h : FollowsUnless B d r) (f : α → β) :
    FollowsUnless B (d >>= fun a => pure (f a)) (r >>= fun a => pure (f a)) :=
  (h.bind fun a => follows_pure (f a)).congr fun s => by simp

/-- A parameter leaves the range where it is a `TIME` of too many hours. -/
lemma follows_textParam :
    Follows (getLenencBytes >>= fun bytes =>
        match ofUtf8 bytes with
        | some value => pure (SqlParam.text value)
        | none => fail "invalid string parameter")
      (Mysql.getLenencBytes >>= fun bytes =>
        match ofUtf8 bytes with
        | some value => pure (SqlParam.text value)
        | none => throw "invalid string parameter") := by
  refine follows_bind follows_getLenencBytes fun bytes => ?_
  rcases ofUtf8 bytes with _ | value
  · exact follows_fail _
  · exact follows_pure _

lemma followsUnless_parseBinaryParam (ty : UInt8) :
    FollowsUnless (fun s => ty = mysqlTypeTime ∧ TooManyHours s) (parseBinaryParam ty)
      (Mysql.parseBinaryParam ty) := by
  refine FollowsUnless.congr ((follows_return (follows_takeFirst _) _).ite
    ((follows_return (follows_getLe 2) _).ite ((follows_return (follows_getLe 4) _).ite
    ((follows_return (follows_getLe 8) _).ite ((follows_return (follows_getLe 4) _).ite
    ((follows_return (follows_getLe 8) _).ite (follows_textParam.ite
    ((follows_return follows_getLenencBytes _).ite
    ((follows_return follows_parseBinaryDatetime _).ite
    ((follows_return followsUnless_parseBinaryTime _).ite (follows_fail _))))))))))) fun s => ?_
  by_cases hty : ty = mysqlTypeTime
  · subst hty
    have hother : ∀ t ∈ [mysqlTypeTiny, mysqlTypeShort, mysqlTypeLong, mysqlTypeLonglong,
        mysqlTypeFloat, mysqlTypeDouble, mysqlTypeBlob], mysqlTypeTime ≠ t := by decide +kernel
    simp only [List.forall_mem_cons, ne_eq] at hother
    obtain ⟨h₁, h₂, h₃, h₄, h₅, h₆, h₇, -⟩ := hother
    have htext : mysqlTypeTime ∉ textTypes := by decide
    have hdate : mysqlTypeTime ∉ datetimeTypes := by decide
    simp only [h₁, h₂, h₃, h₄, h₅, h₆, h₇, htext, hdate, if_true, if_false, true_and]
  · simp [hty]

/-! ### All parameters -/

/-- The values come to a `TIME` of too many hours, those before it being there. -/
def HoursOverflow (nullBitmap : List UInt8) (idx : ℕ) : List UInt8 → List UInt8 → Prop
  | [], _ => False
  | ty :: types, s =>
    if nullAt nullBitmap idx then HoursOverflow nullBitmap (idx + 1) types s
    else ty = mysqlTypeTime ∧ TooManyHours s ∨
      ∃ n, valueSize ty s = some n ∧ HoursOverflow nullBitmap (idx + 1) types (s.drop n)

lemma isNull_eq {nullBitmap : List UInt8} {idx : ℕ} (h : idx / 8 < nullBitmap.length) :
    isNull nullBitmap idx = pure (nullAt nullBitmap idx) := by
  unfold isNull
  rw [index_of_lt h, pure_bind, fit_of_lt (Nat.mod_lt _ (by decide)), pure_bind]
  rfl

lemma followsUnless_parseParamsFrom (nullBitmap : List UInt8) (types : List UInt8) (idx : ℕ)
    (h : idx + types.length ≤ 8 * nullBitmap.length) :
    FollowsUnless (HoursOverflow nullBitmap idx types) (parseParamsFrom nullBitmap idx types)
      (Mysql.parseParamsFrom nullBitmap idx types) := by
  induction types generalizing idx with
  | nil => exact follows_pure []
  | cons ty types ih =>
    rw [List.length_cons] at h
    have hrest := ih (idx + 1) (by omega)
    unfold parseParamsFrom Mysql.parseParamsFrom
    rw [isNull_eq (by omega), pure_bind]
    by_cases hnull : nullAt nullBitmap idx = true
    · have hnull' : (nullBitmap.getD (idx / 8) 0).toNat.testBit (idx % 8) = true := hnull
      simp only [if_pos hnull, if_pos hnull', pure_bind]
      refine (follows_return hrest _).congr fun s => ?_
      rw [HoursOverflow, if_pos hnull]
    · have hnull' : ¬ (nullBitmap.getD (idx / 8) 0).toNat.testBit (idx % 8) = true := hnull
      simp only [if_neg hnull, if_neg hnull']
      refine ((followsUnless_parseBinaryParam ty).bind fun param =>
        follows_return hrest _).congr fun s => ?_
      rw [HoursOverflow, if_neg hnull]
      refine or_congr_right ?_
      constructor
      · rintro ⟨n, hn, h⟩
        obtain ⟨-, param, hrun⟩ := (sized_parseBinaryParam ty s).1 n hn
        exact ⟨param, _, hrun, h⟩
      · rintro ⟨param, rest, hrun, h⟩
        obtain ⟨n, hn, -, rfl⟩ := (sized_parseBinaryParam ty).eq_drop hrun
        exact ⟨n, hn, h⟩

/-- The parameters come to a `TIME` of too many hours. -/
def ParamsOverflow (paramCount : ℕ) (previousTypes s : List UInt8) : Prop :=
  paramCount ≠ 0 ∧ ∃ head, executeHead paramCount s = some head ∧
    (head.types previousTypes).length = paramCount ∧
    HoursOverflow head.nullBitmap 0 (head.types previousTypes) head.values

lemma follows_parseParamTypes (n : ℕ) : Follows (parseParamTypes n) (Mysql.parseParamTypes n) := by
  induction n with
  | zero => exact follows_pure []
  | succ n ih =>
    unfold parseParamTypes Mysql.parseParamTypes
    refine follows_bind (follows_takeFirst _) fun ty => ?_
    have hflags : Mysql.takeByte >>= (fun _ => do return ty :: (← Mysql.parseParamTypes n)) =
        Reader.take 1 truncated >>= fun _ => do return ty :: (← Mysql.parseParamTypes n) := by
      unfold Mysql.takeByte
      rw [bind_assoc]
      simp only [pure_bind]
    rw [hflags]
    exact follows_bind (follows_take 1) fun _ => follows_return ih _

/-- The types, after the flag. -/
def typesAfter (paramCount : ℕ) (previousTypes : List UInt8) (newParamsBound : UInt8) :
    Cursor (List UInt8) :=
  if newParamsBound = 1 then parseParamTypes paramCount
  else if previousTypes.length = paramCount then pure previousTypes
  else fail "COM_STMT_EXECUTE missing parameter types"

lemma follows_typesAfter (paramCount : ℕ) (previousTypes : List UInt8) (flag : UInt8) :
    Follows (typesAfter paramCount previousTypes flag)
      (Mysql.typesAfter paramCount previousTypes flag) :=
  follows_ite (follows_parseParamTypes paramCount) (follows_ite (follows_pure _) (follows_fail _))

lemma parseExecuteParams_eq {paramCount : ℕ} (h : paramCount ≠ 0) (previousTypes : List UInt8) :
    parseExecuteParams paramCount previousTypes = (do
      let nullBitmap ← take ((paramCount + 7) / 8)
      let newParamsBound ← takeFirst "missing new params bound flag"
      let types ← typesAfter paramCount previousTypes newParamsBound
      return (← parseParamsFrom nullBitmap 0 types, types)) := by
  unfold parseExecuteParams
  rw [if_neg h]
  refine bind_congr fun nullBitmap => bind_congr fun newParamsBound => ?_
  unfold typesAfter
  split_ifs
  · rfl
  · rfl
  · rfl

/-- Where a bitmap was read there is a bit in it for each parameter. -/
lemma followsUnless_parseExecuteParams (paramCount : ℕ) (previousTypes : List UInt8) :
    FollowsUnless (ParamsOverflow paramCount previousTypes)
      (parseExecuteParams paramCount previousTypes)
      (Mysql.parseExecuteParams paramCount previousTypes) := by
  by_cases hzero : paramCount = 0
  · unfold parseExecuteParams Mysql.parseExecuteParams
    rw [if_pos hzero, if_pos hzero]
    exact (follows_pure _).congr fun s => by simp [ParamsOverflow, hzero]
  rw [Mysql.parseExecuteParams_eq hzero, parseExecuteParams_eq hzero]
  have hvalues : ∀ nullBitmap types, nullBitmap.length = (paramCount + 7) / 8 →
      types.length = paramCount → FollowsUnless (HoursOverflow nullBitmap 0 types)
        (parseParamsFrom nullBitmap 0 types) (Mysql.parseParamsFrom nullBitmap 0 types) :=
    fun nullBitmap types hbitmap htypes =>
      followsUnless_parseParamsFrom nullBitmap types 0 (by omega)
  refine ((follows_take _).bindOf (fun bitmap => bitmap.length = (paramCount + 7) / 8)
    length_of_take fun nullBitmap hbitmap => (follows_takeFirst _).bind fun flag =>
      (follows_typesAfter paramCount previousTypes flag).bindOf (fun types =>
        types.length = paramCount) (fun h => (typesAfter_eq_ok.1 h).1) fun types htypes =>
          follows_return (hvalues nullBitmap types hbitmap htypes) _).congr fun s => ?_
  simp only [false_or]
  constructor
  · rintro ⟨-, head, hhead, hlen, hover⟩
    obtain ⟨t, flag, t', hbitmap, hflag, htypes⟩ :=
      readHead_eq_ok.2 ⟨head, hhead, rfl, rfl, hlen, rfl⟩
    exact ⟨_, t, hbitmap, flag, t', hflag, _, _, htypes, hover⟩
  · rintro ⟨bitmap, t, hbitmap, flag, t', hflag, types, values, htypes, hover⟩
    obtain ⟨head, hhead, rfl, rfl, hlen, rfl⟩ :=
      readHead_eq_ok.1 ⟨t, flag, t', hbitmap, hflag, htypes⟩
    exact ⟨hzero, head, hhead, hlen, hover⟩

/-! ### The handshake response -/

lemma safe_getLe (k : ℕ) : Safe (getLe k) := (follows_getLe k).safe

/-- The loop stops within the buffer. -/
lemma skipToNull_eq_ok {input : List UInt8} (hin : Addressable input) (idx : ℕ)
    (hidx : idx ≤ input.length) :
    ∃ stop, skipToNull input idx = .ok stop ∧ idx ≤ stop ∧ stop ≤ input.length := by
  induction idx using skipToNull.induct input with
  | case1 idx h hzero =>
    rw [skipToNull, dif_pos h, if_pos hzero]
    exact ⟨idx, rfl, le_rfl, hidx⟩
  | case2 idx h hzero hfit ih =>
    obtain ⟨stop, hstop, hle, hin⟩ := ih h
    rw [skipToNull, dif_pos h, if_neg hzero, if_pos hfit]
    exact ⟨stop, hstop, by omega, hin⟩
  | case3 idx h hzero hfit =>
    unfold Addressable at hin
    rw [usizeBound_eq] at hfit
    omega
  | case4 idx h =>
    rw [skipToNull, dif_neg h]
    exact ⟨idx, rfl, le_rfl, hidx⟩

lemma runFrom_getNullStr {input : List UInt8} {idx stop : ℕ} (hin : Addressable input)
    (hstop : skipToNull input idx = .ok stop) (hle : idx ≤ stop) (hstopin : stop ≤ input.length) :
    getNullStr.runFrom input idx =
      if input.length ≤ stop then .error (.error "missing null terminator")
      else match ofUtf8 ((input.drop idx).take (stop - idx)) with
        | none => .error (.error "invalid UTF-8 string")
        | some value => .ok (value, stop + 1) := by
  show ((do
    let stop ← (skipToNull input idx : Cursor ℕ)
    set stop
    if input.length ≤ stop then fail "missing null terminator"
    else
      match ofUtf8 (← slice input idx stop) with
      | none => fail "invalid UTF-8 string"
      | some value =>
        set (← fit usizeBound (stop + 1))
        return value : Cursor (List Char)).run input).run idx = _
  rw [hstop]
  show ((if input.length ≤ stop then fail "missing null terminator"
    else do
      match ofUtf8 (← slice input idx stop) with
      | none => fail "invalid UTF-8 string"
      | some value =>
        set (← fit usizeBound (stop + 1))
        return value : Cursor (List Char)).run input).run stop = _
  split_ifs with hend
  · rfl
  · have hfit : stop + 1 < usizeBound := by
      unfold Addressable at hin
      rw [usizeBound_eq]
      omega
    rw [slice_of_le hle hstopin, pure_bind]
    rcases ofUtf8 ((input.drop idx).take (stop - idx)) with _ | value
    · rfl
    · rw [fit_of_lt hfit]
      rfl

lemma safe_getNullStr : Safe getNullStr := by
  refine ⟨fun {input idx} hin hidx => ?_⟩
  obtain ⟨stop, hstop, hle, hstopin⟩ := skipToNull_eq_ok hin idx hidx
  rw [runFrom_getNullStr hin hstop hle hstopin]
  by_cases hend : input.length ≤ stop
  · rw [if_pos hend]
    exact within_error _ _ _
  · rw [if_neg hend]
    rcases ofUtf8 ((input.drop idx).take (stop - idx)) with _ | value
    · exact within_error _ _ _
    · exact within_ok value (by omega) (by omega)

lemma safe_utf8Bytes (error : String) : Safe (utf8Bytes error) := by
  refine safe_bind follows_getLenencBytes.safe fun bytes => ?_
  rcases ofUtf8 bytes with _ | value
  · exact safe_fail error
  · exact safe_pure value

lemma safe_connectAttr : Safe connectAttr := by
  refine safe_bind (safe_utf8Bytes _) fun key => ?_
  exact safe_bind (safe_utf8Bytes _) fun value => safe_pure (key, value)

/-- The attributes end within the buffer. -/
lemma within_connectAttrsUntil {input : List UInt8} (hin : Addressable input) (stop idx : ℕ)
    (attrs : Attrs) (hidx : idx ≤ input.length) :
    Within input idx (connectAttrsUntil input stop idx attrs) := by
  induction idx, attrs using connectAttrsUntil.induct input stop with
  | case1 idx attrs h e hattr =>
    have hin := safe_connectAttr.within hin hidx
    rw [connectAttrsUntil, if_pos h]
    split
    · next e' he =>
      rw [he] at hin
      cases e' with
      | error text => exact within_error _ _ text
      | outOfRange => exact absurd rfl hin.1
    · next hok =>
      rw [hattr] at hok
      cases hok
  | case2 idx attrs h key value next hattr ih =>
    obtain ⟨hle, hnext⟩ := (safe_connectAttr.within hin hidx).2 _ _ hattr
    rw [connectAttrsUntil, if_pos h]
    split
    · next e he =>
      rw [hattr] at he
      cases he
    · next hok =>
      rw [hattr] at hok
      cases hok
      exact (ih hnext).mono hle
  | case3 idx attrs h =>
    rw [connectAttrsUntil, if_neg h]
    exact within_ok attrs le_rfl hidx

lemma safe_parseConnectAttrs : Safe parseConnectAttrs := by
  refine ⟨fun {input idx} hin hidx => ?_⟩
  refine (follows_getLenencInt.safe.within hin hidx).bind fun total j hj => ?_
  have hfit := follows_getLenencInt.property lt_of_getLenencInt hin hidx hj
  have hj' := ((follows_getLenencInt.safe.within hin hidx).2 _ _ hj).2
  rw [fit_of_lt hfit, pure_bind]
  refine (safe_position fun {input idx} hin hidx => ?_).within hin hj'
  split_ifs
  · exact (safe_fail _).within hin hidx
  · exact (safe_fail _).within hin hidx
  · have h := within_connectAttrsUntil hin (idx + total) idx [] hidx
    show Within input idx (((do
      let found ← (connectAttrsUntil input (idx + total) idx [] : Cursor (Attrs × ℕ))
      set found.2
      return found.1 : Cursor Attrs).run input).run idx)
    rcases hx : connectAttrsUntil input (idx + total) idx [] with e | ⟨attrs, next⟩
    · rw [hx] at h
      cases e with
      | error text => exact within_error _ _ text
      | outOfRange => exact absurd rfl h.1
    · obtain ⟨hle, hnext⟩ := h.2 attrs next hx
      exact within_ok attrs hle hnext

lemma safe_optionalNullStr (announced : Bool) : Safe (optionalNullStr announced) := by
  refine safe_position fun {input idx} hin hidx => ?_
  refine (safe_ite ?_ (safe_pure none)).within hin hidx
  exact safe_bind safe_getNullStr fun value => safe_pure _

/-- What follows the answer to the nonce. -/
lemma safe_afterAuthResponse (capabilities : ℕ) (username : List Char) (authResponse : List UInt8) :
    Safe (do
      let database ← optionalNullStr (capabilities &&& clientConnectWithDb != 0)
      let authPlugin ← optionalNullStr (capabilities &&& clientPluginAuth != 0)
      let input ← read
      let idx ← get
      let attrs ← if capabilities &&& clientConnectAttrs ≠ 0 ∧ idx < input.length then
          parseConnectAttrs
        else pure []
      return ({ capabilities, username, database, authResponse, authPlugin, attrs } :
        HandshakeResponse)) := by
  refine safe_bind (safe_optionalNullStr _) fun database => ?_
  refine safe_bind (safe_optionalNullStr _) fun authPlugin => ?_
  refine safe_position fun {input idx} hin hidx => ?_
  refine (safe_ite ?_ (safe_pure _)).within hin hidx
  exact safe_bind safe_parseConnectAttrs fun attrs => safe_pure _

lemma safe_parseHandshakeResponse : Safe parseHandshakeResponse := by
  refine safe_bind (safe_getLe 4) fun capabilities => ?_
  refine safe_guard _ ?_
  refine safe_bind (safe_getLe 4) fun _ => ?_
  refine safe_bind (follows_takeFirst _).safe fun _ => ?_
  refine safe_bind (follows_take 23).safe fun _ => ?_
  refine safe_bind safe_getNullStr fun username => ?_
  have hrest := safe_afterAuthResponse capabilities username
  split_ifs
  · exact safe_bind follows_getLenencBytes.safe hrest
  · refine safe_bind (follows_takeFirst _).safe fun len => ?_
    exact safe_bind (follows_take _).safe hrest
  · exact safe_bind (safe_fail _) hrest

/-! ### Commands -/

lemma safe_ofUtf8 (input : List UInt8) (error : String) :
    Safe (match ofUtf8 input with
      | some text => pure text
      | none => fail error : Cursor (List Char)) := by
  rcases ofUtf8 input with _ | text
  · exact safe_fail _
  · exact safe_pure _

lemma safe_wholeText (error : String) : Safe (wholeText error) := by
  refine safe_position fun {input idx} hin hidx => ?_
  exact (safe_ofUtf8 input error).within hin hidx

/-- The payload of a `COM_STMT_EXECUTE` on an open statement comes to a `TIME` of too many hours. -/
def RequestOverflows (statements : ℕ → Option (ℕ × List UInt8)) : List UInt8 → Prop
  | [] => False
  | command :: payload =>
    command = comStmtExecute ∧ 9 ≤ payload.length ∧
      ∃ entry, statements (ofLeBytes (payload.take 4)) = some entry ∧
        ParamsOverflow entry.1 entry.2 (payload.drop 9)

/-- What is read of the payload of a `COM_STMT_EXECUTE`. -/
def executeReader (statements : ℕ → Option (ℕ × List UInt8)) : Reader Request := do
  let id ← Mysql.getLe 4
  let _ ← Mysql.takeByte
  let _ ← Mysql.getLe 4
  match statements id with
  | none => throw s!"unknown prepared statement id: {id}"
  | some (paramCount, previousTypes) =>
    let (params, types) ← Mysql.parseExecuteParams paramCount previousTypes
    return .execute id params types

lemma followsUnless_execute (statements : ℕ → Option (ℕ × List UInt8)) :
    FollowsUnless (fun s => RequestOverflows statements (comStmtExecute :: s))
      (parseRequest statements comStmtExecute) (executeReader statements) := by
  have hparams : ∀ id, FollowsUnless
      (fun s => ∃ entry, statements id = some entry ∧ ParamsOverflow entry.1 entry.2 s)
      (match statements id with
        | none => fail s!"unknown prepared statement id: {id}"
        | some (paramCount, previousTypes) => do
          let (params, types) ← parseExecuteParams paramCount previousTypes
          return Request.execute id params types)
      (match statements id with
        | none => throw s!"unknown prepared statement id: {id}"
        | some (paramCount, previousTypes) => do
          let (params, types) ← Mysql.parseExecuteParams paramCount previousTypes
          return Request.execute id params types) := by
    intro id
    rcases statements id with _ | ⟨paramCount, previousTypes⟩
    · exact (follows_fail _).congr fun s => by simp
    · refine (follows_return (followsUnless_parseExecuteParams paramCount previousTypes) _).congr
        fun s => ?_
      simp
  refine ((follows_getLe 4).bind fun id => (follows_takeFirst _).bind fun _ =>
    (follows_getLe 4).bind fun _ => hparams id).congr fun s => ?_
  simp only [getLe_eq_ok, takeByte_eq_ok, false_or]
  constructor
  · rintro ⟨-, hlen, entry, hentry, hover⟩
    obtain ⟨flags, rest, hrest⟩ := List.exists_cons_of_length_pos (l := s.drop 4) (by
      rw [List.length_drop]
      omega)
    have hdrop : rest = s.drop 5 := by
      rw [show 5 = 4 + 1 by decide, ← List.drop_drop, hrest]
      rfl
    refine ⟨_, _, ⟨by omega, rfl, rfl⟩, flags, rest, hrest, _, _, ⟨?_, rfl, rfl⟩, entry, hentry, ?_⟩
    · rw [hdrop, List.length_drop]
      omega
    · rw [hdrop, List.drop_drop]
      exact hover
  · rintro ⟨id, rest, ⟨hfour, rfl, rfl⟩, flags, rest, hflags, n, rest, ⟨hcount, rfl, rfl⟩, entry,
      hentry, hover⟩
    have hdrop : rest = s.drop 5 := by
      rw [show 5 = 4 + 1 by decide, ← List.drop_drop, hflags]
      rfl
    rw [hdrop, List.length_drop] at hcount
    rw [hdrop, List.drop_drop] at hover
    exact ⟨rfl, by omega, entry, hentry, hover⟩

lemma safe_parseRequest (statements : ℕ → Option (ℕ × List UInt8)) {command : UInt8}
    (h : command ≠ comStmtExecute) : Safe (parseRequest statements command) := by
  have hid : ∀ f : ℕ → Request, Safe (do return f (← getU32Le)) := fun f =>
    safe_bind (safe_getLe 4) fun id => safe_pure _
  have htext : ∀ (f : List Char → Request) error, Safe (do return f (← wholeText error)) :=
    fun f error => safe_bind (safe_wholeText error) fun text => safe_pure _
  unfold parseRequest
  rw [if_neg h]
  split_ifs
  · exact safe_pure _
  · exact safe_pure _
  · exact htext _ _
  · exact htext _ _
  · exact htext _ _
  · exact hid _
  · exact hid _
  · exact safe_pure _
  · exact safe_pure _

/-- **The decoding of a client's packet leaves the range of a type exactly where it comes to a `TIME`
whose days and hours are more hours than a `u32` holds.** -/
theorem decodes_in_range_iff (statements : ℕ → Option (ℕ × List UInt8)) (packet : List UInt8)
    (h : Addressable packet) :
    (parseHandshakeResponse.runFrom packet 0 ≠ .error .outOfRange ∧
      parseCommand statements packet ≠ .error .outOfRange) ↔
    ¬ RequestOverflows statements packet := by
  have hhandshake := (safe_parseHandshakeResponse.within h (Nat.zero_le _)).1
  rw [and_iff_right hhandshake]
  rcases packet with _ | ⟨command, payload⟩
  · exact iff_of_true (fun h => by cases h) not_false
  have hpayload : Addressable payload := by
    unfold Addressable at h ⊢
    rw [List.length_cons] at h
    omega
  have hmap : parseCommand statements (command :: payload) = .error .outOfRange ↔
      (parseRequest statements command).runFrom payload 0 = .error .outOfRange := by
    show ((parseRequest statements command).runFrom payload 0).map _ = _ ↔ _
    rcases (parseRequest statements command).runFrom payload 0 with e | x
    · constructor
      · intro h
        cases h
        rfl
      · intro h
        rw [h]
        rfl
    · constructor
      · intro h
        cases h
      · intro h
        cases h
  rw [ne_eq, hmap, not_iff_not]
  by_cases hcommand : command = comStmtExecute
  · subst hcommand
    have hfollows := followsUnless_execute statements
    constructor
    · intro hout
      by_contra hover
      exact (hfollows.within hpayload (Nat.zero_le _) hover).1 hout
    · exact hfollows.outOfRange hpayload (Nat.zero_le _)
  · constructor
    · intro hout
      exact absurd hout ((safe_parseRequest statements hcommand).within hpayload (Nat.zero_le _)).1
    · rintro ⟨hexecute, -⟩
      exact absurd hexecute hcommand

/-- A statement with one parameter, open under the id 1. -/
def oneStatement (id : ℕ) : Option (ℕ × List UInt8) := if id = 1 then some (1, []) else none

/-- The execution of the statement with a `TIME` of that many days. -/
def executeTime (days : ℕ) : List UInt8 :=
  comStmtExecute :: leBytes 4 1 ++ 0 :: leBytes 4 1 ++ [0, 1, mysqlTypeTime, 0, 8, 0] ++
    leBytes 4 days ++ [0, 0, 0]

/-- One day is decoded, and so there are not too many hours. -/
theorem decodes_in_range_one_day : (parseCommand oneStatement (executeTime 1)).toOption.isSome ∧
    ¬ RequestOverflows oneStatement (executeTime 1) := by
  have haddressable : Addressable (executeTime 1) := by
    unfold Addressable
    decide
  refine ⟨rfl, (decodes_in_range_iff oneStatement (executeTime 1) haddressable).1 ⟨?_, ?_⟩⟩
  · rintro ⟨⟩
  · rintro ⟨⟩

/-- So many days are too many hours. -/
theorem time_out_of_range :
    ¬ ∀ statements packet, Addressable packet →
      parseHandshakeResponse.runFrom packet 0 ≠ .error .outOfRange ∧
        parseCommand statements packet ≠ .error .outOfRange := by
  intro h
  refine (h oneStatement (executeTime 0xffffffff) ?_).2 ?_
  · unfold Addressable
    decide
  · rfl

end Rsduck.Mysql.Checked
