import Rsduck.Lib.Cursor
import Rsduck.Mysql.CommandLoop
import Rsduck.Mysql.Layout

/-!
The decoding of a client's packets in machine arithmetic.

The decoders work on a buffer and an index into it, as the source has them. A `usize` has 64 bits.
-/

namespace Rsduck.Mysql

open Lib Lib.DecimalText Lib.FloatFormat Lib.Wire Lib.Cursor Db

namespace Checked

/-! ### Parts of the payload -/

def usizeBound : ℕ := 2 ^ 64

def u32Bound : ℕ := 2 ^ 32

def take (len : ℕ) : Cursor (List UInt8) := do
  let input ← read
  let idx ← get
  -- a saturating difference
  if input.length - idx < len then fail truncated
  else do
    let out ← slice input idx (← fit usizeBound (idx + len))
    set (← fit usizeBound (idx + len))
    return out

/-- `*take(..)?.first().ok_or_else(..)?` -/
def takeFirst (missing : String) : Cursor UInt8 := do
  match ← take 1 with
  | [] => fail missing
  | first :: _ => return first

/-- `take(..)?[0]` -/
def takeByte : Cursor UInt8 := do
  index (← take 1) 0

/-- A little-endian number of `k` bytes. -/
def getLe (k : ℕ) : Cursor ℕ := do
  let bytes ← take k
  return ofLeBytes (← (List.range k).mapM (index bytes))

def getU16Le : Cursor ℕ := getLe 2

def getU32Le : Cursor ℕ := getLe 4

def getU64Le : Cursor ℕ := getLe 8

def getLenencInt : Cursor ℕ := do
  let first ← takeFirst "missing length encoded integer"
  if first = 0xfc then getU16Le
  else if first = 0xfd then getLe 3
  else if first = 0xfe then getU64Le
  else if first = 0xff then fail "invalid length encoded integer marker 0xff"
  else return first.toNat

def getLenencBytes : Cursor (List UInt8) := do
  take (← fit usizeBound (← getLenencInt))

/-- The loop of `get_null_str`: where the first zero from the index on is. -/
def skipToNull (input : List UInt8) (idx : ℕ) : Except Fault ℕ :=
  if h : idx < input.length then
    if input[idx] = 0 then .ok idx
    else if idx + 1 < usizeBound then skipToNull input (idx + 1)
    else .error .outOfRange
  else .ok idx
  termination_by input.length - idx

def getNullStr : Cursor (List Char) := do
  let input ← read
  let start ← get
  let stop ← skipToNull input start
  set stop
  if input.length ≤ stop then fail "missing null terminator"
  else
    match ofUtf8 (← slice input start stop) with
    | none => fail "invalid UTF-8 string"
    | some value =>
      set (← fit usizeBound (stop + 1))
      return value

/-! ### Parameters -/

def parseBinaryDatetime : Cursor (List Char) := do
  let len := (← takeFirst "missing datetime length").toNat
  if len = 0 then return "0000-00-00".toList
  if len ≠ 4 ∧ len ≠ 7 ∧ len ≠ 11 then fail s!"invalid datetime parameter length: {len}"
  let year ← getU16Le
  let month ← takeByte
  let day ← takeByte
  let date := padded 4 year ++ '-' :: padded 2 month.toNat ++ '-' :: padded 2 day.toNat
  if len = 4 then return date
  let hour ← takeByte
  let minute ← takeByte
  let second ← takeByte
  let instant := date ++ ' ' :: padded 2 hour.toNat ++ ':' :: padded 2 minute.toNat ++
    ':' :: padded 2 second.toNat
  if len = 7 then return instant
  let micros ← getU32Le
  return instant ++ '.' :: padded 6 micros

def parseBinaryTime : Cursor (List Char) := do
  let len := (← takeByte).toNat
  if len = 0 then return "00:00:00".toList
  if len ≠ 8 ∧ len ≠ 12 then fail s!"invalid time parameter length: {len}"
  let negative := (← takeByte) != 0
  let days ← getU32Le
  let hour ← takeByte
  let hours ← fit u32Bound (hour.toNat + (← fit u32Bound (days * 24)))
  let minutes ← takeByte
  let seconds ← takeByte
  let time := (if negative then ['-'] else []) ++ padded 2 hours ++ ':' :: padded 2 minutes.toNat ++
    ':' :: padded 2 seconds.toNat
  if len = 8 then return time
  let micros ← getU32Le
  return time ++ '.' :: padded 6 micros

def parseBinaryParam (ty : UInt8) : Cursor SqlParam := do
  if ty = mysqlTypeTiny then
    return .integer (toSigned 1 (← takeFirst "missing tinyint parameter").toNat)
  else if ty = mysqlTypeShort then return .integer (toSigned 2 (← getU16Le))
  else if ty = mysqlTypeLong then return .integer (toSigned 4 (← getU32Le))
  else if ty = mysqlTypeLonglong then return .integer (toSigned 8 (← getU64Le))
  else if ty = mysqlTypeFloat then return .float (widen (BitVec.ofNat _ (← getU32Le)))
  else if ty = mysqlTypeDouble then return .float (BitVec.ofNat _ (← getU64Le))
  else if ty ∈ textTypes then
    match ofUtf8 (← getLenencBytes) with
    | some value => return .text value
    | none => fail "invalid string parameter"
  else if ty = mysqlTypeBlob then return .bytes (← getLenencBytes)
  else if ty ∈ datetimeTypes then return .text (← parseBinaryDatetime)
  else if ty = mysqlTypeTime then return .text (← parseBinaryTime)
  else fail s!"unsupported MySQL prepared parameter type: {ty.toNat}"

/-- A type and its flags for each parameter. -/
def parseParamTypes : ℕ → Cursor (List UInt8)
  | 0 => pure []
  | n + 1 => do
    let ty ← takeFirst "missing param type"
    let _ ← take 1
    return ty :: (← parseParamTypes n)

/-- `null_bitmap[param_idx / 8] & (1 << (param_idx % 8)) != 0` -/
def isNull (nullBitmap : List UInt8) (paramIdx : ℕ) : Cursor Bool := do
  let byte ← index nullBitmap (paramIdx / 8)
  let shift ← fit 8 (paramIdx % 8)
  return byte.toNat.testBit shift

/-- The parameters from `paramIdx` on. -/
def parseParamsFrom (nullBitmap : List UInt8) (paramIdx : ℕ) : List UInt8 → Cursor (List SqlParam)
  | [] => pure []
  | ty :: types => do
    let param ← if ← isNull nullBitmap paramIdx then pure .null else parseBinaryParam ty
    return param :: (← parseParamsFrom nullBitmap (paramIdx + 1) types)

def parseExecuteParams (paramCount : ℕ) (previousTypes : List UInt8) :
    Cursor (List SqlParam × List UInt8) := do
  if paramCount = 0 then return ([], [])
  let nullBitmap ← take ((paramCount + 7) / 8)
  let newParamsBound ← takeFirst "missing new params bound flag"
  let types ← if newParamsBound = 1 then parseParamTypes paramCount
    else if previousTypes.length = paramCount then pure previousTypes
    else fail "COM_STMT_EXECUTE missing parameter types"
  return (← parseParamsFrom nullBitmap 0 types, types)

/-! ### The handshake response -/

def clientConnectWithDb : ℕ := 0x00000008
def clientProtocol41 : ℕ := 0x00000200
def clientSecureConnection : ℕ := 0x00008000
def clientPluginAuth : ℕ := 0x00080000
def clientConnectAttrs : ℕ := 0x00100000
def clientPluginAuthLenencClientData : ℕ := 0x00200000

abbrev Attrs := List (List Char × List Char)

/-- A later value of a key takes the place of an earlier one. -/
def Attrs.insert (attrs : Attrs) (key value : List Char) : Attrs :=
  (key, value) :: attrs.filter fun x => x.1 ≠ key

structure HandshakeResponse where
  capabilities : ℕ
  username : List Char
  database : Option (List Char)
  authResponse : List UInt8
  authPlugin : Option (List Char)
  attrs : Attrs

def utf8Bytes (error : String) : Cursor (List Char) := do
  match ofUtf8 (← getLenencBytes) with
  | some value => return value
  | none => fail error

def connectAttr : Cursor (List Char × List Char) := do
  let key ← utf8Bytes "invalid connection attr key"
  let value ← utf8Bytes "invalid connection attr value"
  return (key, value)

lemma runFrom_take {len idx j : ℕ} {input bytes : List UInt8}
    (h : (take len).runFrom input idx = .ok (bytes, j)) :
    j = idx + len ∧ j ≤ input.length ∧ bytes.length = len := by
  obtain ⟨_, _, hread, h⟩ := runFrom_bind_eq_ok.1 h
  cases hread
  obtain ⟨_, _, hget, h⟩ := runFrom_bind_eq_ok.1 h
  cases hget
  split_ifs at h with hlen
  · cases h
  · obtain ⟨stop, _, hfit, h⟩ := runFrom_bind_eq_ok.1 h
    obtain ⟨-, rfl, rfl⟩ := runFrom_fit_eq_ok.1 hfit
    obtain ⟨out, _, hslice, h⟩ := runFrom_bind_eq_ok.1 h
    obtain ⟨⟨-, hstop⟩, rfl, rfl⟩ := runFrom_slice_eq_ok.1 hslice
    obtain ⟨stop, _, hfit, h⟩ := runFrom_bind_eq_ok.1 h
    obtain ⟨-, rfl, rfl⟩ := runFrom_fit_eq_ok.1 hfit
    obtain ⟨_, _, hset, h⟩ := runFrom_bind_eq_ok.1 h
    cases hset
    cases h
    refine ⟨rfl, hstop, ?_⟩
    rw [List.length_take, List.length_drop]
    omega

lemma advances_take (len : ℕ) : Advances len (take len) := fun h => (runFrom_take h).1.ge

lemma advances_takeFirst (missing : String) : Advances 1 (takeFirst missing) := by
  unfold takeFirst
  refine advances_bind (n := 0) (advances_take 1) fun bytes => ?_
  rcases bytes with _ | ⟨first, bytes⟩
  · exact advances_fail 0 missing
  · exact advances_pure first

lemma advances_getLe (k : ℕ) : Advances k (getLe k) := by
  intro input idx n j h
  obtain ⟨bytes, j', htake, h⟩ := runFrom_bind_eq_ok.1 h
  obtain ⟨rfl, -, rfl⟩ := runFrom_take htake
  rw [mapM_index, pure_bind] at h
  cases h
  exact le_rfl

lemma advances_getLenencBytes : Advances 1 getLenencBytes := by
  unfold getLenencBytes getLenencInt
  refine advances_bind (n := 0) (advances_bind (n := 0) (advances_takeFirst _) fun first => ?_)
    fun len => advances_bind (m := 0) (advances_fit _ _) fun len =>
      Advances.mono (advances_take len) (Nat.zero_le _)
  refine advances_ite (Advances.mono (advances_getLe 2) (Nat.zero_le _)) ?_
  refine advances_ite (Advances.mono (advances_getLe 3) (Nat.zero_le _)) ?_
  refine advances_ite (Advances.mono (advances_getLe 8) (Nat.zero_le _)) ?_
  exact advances_ite (advances_fail 0 _) (advances_pure _)

lemma advances_utf8Bytes (error : String) : Advances 1 (utf8Bytes error) := by
  refine advances_bind (n := 0) advances_getLenencBytes fun bytes => ?_
  rcases ofUtf8 bytes with _ | value
  · exact advances_fail 0 error
  · exact advances_pure value

lemma advances_connectAttr : Advances 1 connectAttr := by
  refine advances_bind (n := 0) (advances_utf8Bytes _) fun key => ?_
  refine Advances.mono (m := 1 + 0) ?_ (Nat.zero_le _)
  exact advances_bind (advances_utf8Bytes _) fun value => advances_pure (key, value)

/-- The loop of `parse_connect_attrs`. -/
def connectAttrsUntil (input : List UInt8) (stop idx : ℕ) (attrs : Attrs) :
    Except Fault (Attrs × ℕ) :=
  if idx < stop then
    match _h : connectAttr.runFrom input idx with
    | .error e => .error e
    | .ok ((key, value), next) => connectAttrsUntil input stop next (attrs.insert key value)
  else .ok (attrs, idx)
  termination_by stop - idx
  decreasing_by
    have := advances_connectAttr _h
    omega

def parseConnectAttrs : Cursor Attrs := do
  let total ← fit usizeBound (← getLenencInt)
  let input ← read
  let idx ← get
  if usizeBound ≤ idx + total then fail "connection attrs length overflow"
  else if input.length < idx + total then fail "truncated connection attrs"
  else
    let (attrs, next) ← connectAttrsUntil input (idx + total) idx []
    set next
    return attrs

/-- A text at the end of the response, which may be left out or empty. -/
def optionalNullStr (announced : Bool) : Cursor (Option (List Char)) := do
  let input ← read
  let idx ← get
  if announced && idx < input.length then
    let value ← getNullStr
    return if value.isEmpty then none else some value
  else return none

def parseHandshakeResponse : Cursor HandshakeResponse := do
  let capabilities ← getU32Le
  if capabilities &&& clientProtocol41 = 0 then
    fail "MySQL client does not support protocol 4.1"
  let _ ← getU32Le
  let _ ← takeFirst "missing charset"
  let _ ← take 23
  let username ← getNullStr
  let authResponse ← if capabilities &&& clientPluginAuthLenencClientData ≠ 0 then getLenencBytes
    else if capabilities &&& clientSecureConnection ≠ 0 then do
      take (← takeFirst "missing auth response length").toNat
    else fail "MySQL client does not support secure auth response"
  let database ← optionalNullStr (capabilities &&& clientConnectWithDb != 0)
  let authPlugin ← optionalNullStr (capabilities &&& clientPluginAuth != 0)
  let input ← read
  let idx ← get
  let attrs ← if capabilities &&& clientConnectAttrs ≠ 0 ∧ idx < input.length then parseConnectAttrs
    else pure []
  return { capabilities, username, database, authResponse, authPlugin, attrs }

/-! ### Commands -/

/-- What a packet asks for. -/
inductive Request
  | quit
  | ping
  | initDb (database : List Char)
  | query (sql : List Char)
  | prepare (sql : List Char)
  | execute (id : ℕ) (params : List SqlParam) (types : List UInt8)
  | close (id : ℕ)
  | reset (id : ℕ)
  | sendLongData
  | other (command : UInt8)

def wholeText (error : String) : Cursor (List Char) := do
  match ofUtf8 (← read) with
  | some text => return text
  | none => fail error

/-- What a command's payload holds. An open statement is given by the number of its parameters and
the types they had before. -/
def parseRequest (statements : ℕ → Option (ℕ × List UInt8)) (command : UInt8) : Cursor Request := do
  if command = comQuit then return .quit
  else if command = comPing then return .ping
  else if command = comInitDb then return .initDb (← wholeText "invalid database name")
  else if command = comQuery then return .query (← wholeText "invalid COM_QUERY SQL UTF-8")
  else if command = comStmtPrepare then
    return .prepare (← wholeText "invalid COM_STMT_PREPARE SQL UTF-8")
  else if command = comStmtExecute then
    let id ← getU32Le
    let _ ← takeFirst "missing execute flags"
    let _ ← getU32Le
    match statements id with
    | none => fail s!"unknown prepared statement id: {id}"
    | some (paramCount, previousTypes) =>
      let (params, types) ← parseExecuteParams paramCount previousTypes
      return .execute id params types
  else if command = comStmtClose then return .close (← getU32Le)
  else if command = comStmtReset then return .reset (← getU32Le)
  else if command = comStmtSendLongData then return .sendLongData
  else return .other command

/-- A packet without a byte is passed over. -/
def parseCommand (statements : ℕ → Option (ℕ × List UInt8)) :
    List UInt8 → Except Fault (Option Request)
  | [] => .ok none
  | command :: payload =>
    ((parseRequest statements command).runFrom payload 0).map fun x => some x.1

end Checked

end Rsduck.Mysql
