import Mathlib.Logic.Function.Basic
import Rsduck.Mysql.ParamsDecoding

/-!
The response of a client to the handshake.

Its fields end with a null byte or carry their length, and which of them are there is said by the
client's capabilities. The connection attributes stand in a block with a length of its own.
-/

namespace Rsduck.Mysql

open Lib.Text Lib.Wire Lib.Wire.Reader

/-! ### Reading the response -/

def clientConnectWithDb : ℕ := 0x0000_0008
def clientProtocol41 : ℕ := 0x0000_0200
def clientSecureConnection : ℕ := 0x0000_8000
def clientPluginAuth : ℕ := 0x0008_0000
def clientConnectAttrs : ℕ := 0x0010_0000
def clientPluginAuthLenencClientData : ℕ := 0x0020_0000

/-- The connection attributes, each name with its value. -/
abbrev ConnectAttrs := List Char → Option (List Char)

structure HandshakeResponse where
  capabilities : ℕ
  username : List Char
  database : Option (List Char)
  authResponse : List UInt8
  authPlugin : Option (List Char)
  attrs : ConnectAttrs

/-- Up to a null byte, which is passed over. -/
def getNullStr : Reader (List Char) := fun s =>
  match s.dropWhile (· != 0) with
  | [] => .error "missing null terminator"
  | _ :: rest =>
    match ofUtf8 (s.takeWhile (· != 0)) with
    | some text => .ok (text, rest)
    | none => .error "invalid UTF-8 string"

/-- An empty name names nothing. -/
def given (name : List Char) : Option (List Char) := if name = [] then none else some name

/-- A field that a capability announces, where bytes are left for it. -/
def optionalField {α : Type} (announced : Prop) [Decidable announced] (absent : α)
    (r : Reader α) : Reader α := do
  if announced ∧ (← get) ≠ [] then r else return absent

def getText (what : String) : Reader (List Char) := do
  match ofUtf8 (← getLenencBytes) with
  | some text => return text
  | none => throw ("invalid connection attr " ++ what)

/-- The name and the value of an attribute. -/
def getAttr : Reader (List Char × List Char) := do
  let key ← getText "key"
  let value ← getText "value"
  return (key, value)

/-- Attributes as long as more than `stop` bytes are left. -/
def getAttrs (stop : ℕ) : ℕ → ConnectAttrs → Reader ConnectAttrs
  | 0, attrs => pure attrs
  | fuel + 1, attrs => do
    if (← get).length ≤ stop then return attrs
    else
      let (key, value) ← getAttr
      getAttrs stop fuel (Function.update attrs key (some value))

/-- The attribute block of a payload of `size` bytes. -/
def parseConnectAttrs (size : ℕ) : Reader ConnectAttrs := do
  let total ← getLenencInt
  let left := (← get).length
  if 2 ^ 64 ≤ size - left + total then throw "connection attrs length overflow"
  else if left < total then throw "truncated connection attrs"
  else getAttrs (left - total) total fun _ => none

/-- The capabilities and the user name. -/
def getHead : Reader (ℕ × List Char) := do
  let capabilities ← getLe 4
  if capabilities &&& clientProtocol41 = 0 then
    throw "MySQL client does not support protocol 4.1"
  else
    let _ ← getLe 4
    let _ ← takeByte
    let _ ← take 23 truncated
    return (capabilities, ← getNullStr)

def getAuthResponse (capabilities : ℕ) : Reader (List UInt8) :=
  if capabilities &&& clientPluginAuthLenencClientData ≠ 0 then getLenencBytes
  else if capabilities &&& clientSecureConnection ≠ 0 then do
    let len ← takeByte
    take len.toNat truncated
  else throw "MySQL client does not support secure auth response"

/-- The fields before the attributes. -/
def getNames : Reader HandshakeResponse := do
  let (capabilities, username) ← getHead
  let authResponse ← getAuthResponse capabilities
  let database ← optionalField (capabilities &&& clientConnectWithDb ≠ 0) none
    (given <$> getNullStr)
  let authPlugin ← optionalField (capabilities &&& clientPluginAuth ≠ 0) none
    (given <$> getNullStr)
  return { capabilities, username, database, authResponse, authPlugin, attrs := fun _ => none }

def getHandshakeResponse (size : ℕ) : Reader HandshakeResponse := do
  let response ← getNames
  let attrs ← optionalField (response.capabilities &&& clientConnectAttrs ≠ 0) response.attrs
    (parseConnectAttrs size)
  return { response with attrs }

def parseHandshakeResponse (payload : List UInt8) : Except String HandshakeResponse :=
  (·.1) <$> (getHandshakeResponse payload.length).run payload

/-! ### What a client sends -/

/-- The attributes of a list; of two with one name the later counts. -/
def attrsOf (xs : List (List Char × List Char)) (attrs : ConnectAttrs) : ConnectAttrs :=
  xs.foldl (fun attrs x => Function.update attrs x.1 (some x.2)) attrs

def nullStr (text : List Char) : List UInt8 := utf8 text ++ [0]

def attrBytes (x : List Char × List Char) : List UInt8 :=
  putLenencBytes (utf8 x.1) ++ putLenencBytes (utf8 x.2)

structure ClientFields where
  capabilities : ℕ
  maxPacketSize : ℕ
  charset : UInt8
  username : List Char
  database : List Char
  authResponse : List UInt8
  authPlugin : List Char
  attrs : List (List Char × List Char)

namespace ClientFields

variable (c : ClientFields)

def headBytes : List UInt8 :=
  leBytes 4 c.capabilities ++ (leBytes 4 c.maxPacketSize ++ (c.charset ::
    (List.replicate 23 0 ++ nullStr c.username)))

def authBytes : List UInt8 :=
  if c.capabilities &&& clientPluginAuthLenencClientData ≠ 0 then putLenencBytes c.authResponse
  else if c.capabilities &&& clientSecureConnection ≠ 0 then
    UInt8.ofNat c.authResponse.length :: c.authResponse
  else c.authResponse ++ [0]

def databaseBytes : List UInt8 :=
  if c.capabilities &&& clientConnectWithDb ≠ 0 then nullStr c.database else []

def pluginBytes : List UInt8 :=
  if c.capabilities &&& clientPluginAuth ≠ 0 then nullStr c.authPlugin else []

def attrBlock : List UInt8 := c.attrs.flatMap attrBytes

def attrsBytes : List UInt8 :=
  if c.capabilities &&& clientConnectAttrs ≠ 0 then putLenencBytes c.attrBlock else []

/-- The response as the protocol lays it out. -/
def bytes : List UInt8 :=
  c.headBytes ++ (c.authBytes ++ (c.databaseBytes ++ (c.pluginBytes ++ c.attrsBytes)))

/-- The values the client has sent. -/
def value : HandshakeResponse where
  capabilities := c.capabilities
  username := c.username
  database := if c.capabilities &&& clientConnectWithDb ≠ 0 then given c.database else none
  authResponse := c.authResponse
  authPlugin := if c.capabilities &&& clientPluginAuth ≠ 0 then given c.authPlugin else none
  attrs := if c.capabilities &&& clientConnectAttrs ≠ 0 then attrsOf c.attrs fun _ => none
    else fun _ => none

end ClientFields

/-- What can be laid out so: the numbers have 32 bits, the names no null character, the length of
the authentication response fits where it is one byte, and all of it fits into memory. -/
structure ClientHandshake extends ClientFields where
  capabilities_lt : capabilities < 2 ^ 32
  maxPacketSize_lt : maxPacketSize < 2 ^ 32
  username_ok : '\x00' ∉ username
  database_ok : '\x00' ∉ database
  authPlugin_ok : '\x00' ∉ authPlugin
  authResponse_lt : capabilities &&& clientPluginAuthLenencClientData = 0 →
    authResponse.length < 256
  fits : toClientFields.bytes.length < 2 ^ 64

/-! ### Where the fields stand -/

section Layout

variable {α : Type}

/-- An announced field is read from its bytes; one that is not, or for which no bytes are left, has
none. -/
def FieldOf (announced : Prop) [Decidable announced] (absent : α) (r : Reader α)
    (field rest : List UInt8) (a : α) : Prop :=
  if announced ∧ field ++ rest ≠ [] then Takes r field a else field = [] ∧ a = absent

/-- The payload up to the attributes is one field after the other, and each is read from its own
bytes only. -/
def NamesLaid (payload : List UInt8) (v : HandshakeResponse) (rest : List UInt8) : Prop :=
  ∃ head auth database plugin,
    payload = head ++ (auth ++ (database ++ (plugin ++ rest))) ∧
    Takes getHead head (v.capabilities, v.username) ∧
    Takes (getAuthResponse v.capabilities) auth v.authResponse ∧
    FieldOf (v.capabilities &&& clientConnectWithDb ≠ 0) none (given <$> getNullStr) database
      (plugin ++ rest) v.database ∧
    FieldOf (v.capabilities &&& clientPluginAuth ≠ 0) none (given <$> getNullStr) plugin rest
      v.authPlugin

/-- Bytes that are whole attributes, one after the other. -/
inductive Attributes : List UInt8 → List (List Char × List Char) → Prop
  | nil : Attributes [] []
  | cons {field block : List UInt8} {x : List Char × List Char} {xs : List (List Char × List Char)} :
      Takes getAttr field x → Attributes block xs → Attributes (field ++ block) (x :: xs)

/-- The attribute block holds as many bytes as it says, and whole attributes fill it. -/
def AttrsLaid (capabilities : ℕ) (rest : List UInt8) (attrs : ConnectAttrs) : Prop :=
  if capabilities &&& clientConnectAttrs ≠ 0 ∧ rest ≠ [] then
    ∃ header block after xs, rest = header ++ (block ++ after) ∧
      Takes getLenencInt header block.length ∧ Attributes block xs ∧
      attrs = attrsOf xs fun _ => none
  else attrs = fun _ => none

/-- Each value was read from the declared extent of its field, and the attributes fill theirs. -/
def Laid (payload : List UInt8) (v : HandshakeResponse) : Prop :=
  ∃ rest, NamesLaid payload v rest ∧ AttrsLaid v.capabilities rest v.attrs

/-- The lengths of an accepted payload are respected. -/
def RespectsLengths (payload : List UInt8) : Prop :=
  ∀ v, parseHandshakeResponse payload = .ok v → Laid payload v

/-- An attribute that starts inside the attribute block and ends after it, inside the payload. -/
def Overruns (payload : List UInt8) : Prop :=
  ∃ v header whole crossing after total xs x,
    getNames.run payload = .ok (v, header ++ (whole ++ (crossing ++ after))) ∧
    v.capabilities &&& clientConnectAttrs ≠ 0 ∧
    Takes getLenencInt header total ∧ Attributes whole xs ∧ Takes getAttr crossing x ∧
    whole.length < total ∧ total < whole.length + crossing.length ∧
    total ≤ whole.length + crossing.length + after.length ∧
    payload.length - (whole.length + crossing.length + after.length) + total < 2 ^ 64

/-! ### The readers see only their fields -/

lemma exact_takeByte : Exact takeByte :=
  exact_bind (exact_take 1 truncated) fun _ => exact_pure _

lemma exact_getLe (k : ℕ) : Exact (getLe k) := exact_map _ (exact_take k truncated)

lemma exact_getLenencInt : Exact getLenencInt :=
  exact_bind exact_takeByte fun _ => exact_ite (exact_getLe 2) (exact_ite (exact_getLe 3)
    (exact_ite (exact_getLe 8) (exact_ite (exact_throw _) (exact_pure _))))

lemma exact_getLenencBytes : Exact getLenencBytes :=
  exact_bind exact_getLenencInt fun n => exact_take n truncated

lemma exact_getText (what : String) : Exact (getText what) := by
  refine exact_bind exact_getLenencBytes fun bytes => ?_
  split
  · exact exact_pure _
  · exact exact_throw _

lemma exact_getAttr : Exact getAttr :=
  exact_bind (exact_getText "key") fun _ => exact_bind (exact_getText "value") fun _ =>
    exact_pure _

/-- A text without a null byte, and the null byte after it. -/
lemma takes_getNullStr_of_bytes {bytes : List UInt8} {text : List Char} (hzero : 0 ∉ bytes)
    (htext : ofUtf8 bytes = some text) : Takes getNullStr (bytes ++ [0]) text := by
  intro rest
  have hall : ∀ b ∈ bytes, (b != 0) = true := by
    intro b hb
    simp only [bne_iff_ne, ne_eq]
    rintro rfl
    exact hzero hb
  have hdrop : (bytes ++ [0] ++ rest).dropWhile (· != 0) = 0 :: rest := by
    rw [List.append_assoc, List.dropWhile_append_of_pos hall]
    rfl
  have htake : (bytes ++ [0] ++ rest).takeWhile (· != 0) = bytes := by
    rw [List.append_assoc, List.takeWhile_append_of_pos hall]
    simp
  show getNullStr (bytes ++ [0] ++ rest) = _
  unfold getNullStr
  rw [hdrop, htake]
  simp only [htext]

lemma exact_getNullStr : Exact getNullStr := by
  intro s text rest h
  change getNullStr s = _ at h
  unfold getNullStr at h
  split at h
  · cases h
  · next b after hdrop =>
    split at h
    · next text' htext =>
      cases h
      have hb : b = 0 := by
        have hhead := List.head_dropWhile_not (· != (0 : UInt8)) (l := s) (by rw [hdrop]; simp)
        simpa [hdrop] using hhead
      have hzero : 0 ∉ s.takeWhile (· != 0) := by
        intro hmem
        simpa using List.mem_takeWhile_imp hmem
      refine ⟨s.takeWhile (· != 0) ++ [0], ?_, takes_getNullStr_of_bytes hzero htext⟩
      have hs := List.takeWhile_append_dropWhile (p := (· != (0 : UInt8))) (l := s)
      rw [hdrop, hb] at hs
      rw [List.append_assoc]
      exact hs.symm
    · cases h

lemma exact_getHead : Exact getHead :=
  exact_bind (exact_getLe 4) fun _ => exact_ite (exact_throw _)
    (exact_bind (exact_getLe 4) fun _ => exact_bind exact_takeByte fun _ =>
      exact_bind (exact_take 23 truncated) fun _ => exact_bind exact_getNullStr fun _ =>
        exact_pure _)

lemma exact_getAuthResponse (capabilities : ℕ) : Exact (getAuthResponse capabilities) :=
  exact_ite exact_getLenencBytes
    (exact_ite (exact_bind exact_takeByte fun len => exact_take len.toNat truncated)
      (exact_throw _))

/-! ### The fields before the attributes -/

lemma run_optionalField (announced : Prop) [Decidable announced] (absent : α) (r : Reader α)
    (s : List UInt8) : (optionalField announced absent r).run s =
      if announced ∧ s ≠ [] then r.run s else .ok (absent, s) := by
  unfold optionalField
  show (if announced ∧ s ≠ [] then r else pure absent).run s = _
  split_ifs
  · rfl
  · rfl

lemma run_optionalField_eq_ok {announced : Prop} [Decidable announced] {absent : α} {r : Reader α}
    (hr : Exact r) {s rest : List UInt8} {a : α} :
    (optionalField announced absent r).run s = .ok (a, rest) ↔
      ∃ field, s = field ++ rest ∧ FieldOf announced absent r field rest a := by
  rw [run_optionalField]
  unfold FieldOf
  constructor
  · intro h
    split_ifs at h with hpresent
    · obtain ⟨field, rfl, hfield⟩ := hr s a rest h
      exact ⟨field, rfl, by rwa [if_pos hpresent]⟩
    · cases h
      refine ⟨[], rfl, ?_⟩
      rw [List.nil_append, if_neg hpresent]
      exact ⟨rfl, rfl⟩
  · rintro ⟨field, rfl, hfield⟩
    split_ifs at hfield ⊢ with hpresent
    · exact hfield rest
    · obtain ⟨rfl, rfl⟩ := hfield
      rfl

lemma exact_given : Exact (given <$> getNullStr) := exact_map _ exact_getNullStr

/-- **What is read before the attributes**: the fields, one after the other. -/
lemma run_getNames_eq_ok {payload rest : List UInt8} {v : HandshakeResponse} :
    getNames.run payload = .ok (v, rest) ↔
      NamesLaid payload v rest ∧ v.attrs = fun _ => none := by
  unfold getNames
  simp only [run_bind_eq_ok, run_optionalField_eq_ok exact_given]
  constructor
  · rintro ⟨⟨capabilities, username⟩, s, hhead, authResponse, s₁, hauth, database, s₂,
      ⟨fieldD, rfl, hdatabase⟩, authPlugin, s₃, ⟨fieldP, rfl, hplugin⟩, h⟩
    cases h
    obtain ⟨head, rfl, hhead'⟩ := exact_getHead _ _ _ hhead
    obtain ⟨auth, rfl, hauth'⟩ := exact_getAuthResponse _ _ _ _ hauth
    exact ⟨⟨head, auth, fieldD, fieldP, rfl, hhead', hauth', hdatabase, hplugin⟩, rfl⟩
  · rintro ⟨⟨head, auth, fieldD, fieldP, rfl, hhead, hauth, hdatabase, hplugin⟩, hattrs⟩
    refine ⟨_, _, hhead _, _, _, hauth _, _, _, ⟨_, rfl, hdatabase⟩, _, _, ⟨_, rfl, hplugin⟩, ?_⟩
    rw [← hattrs]
    rfl

/-! ### The attribute block -/

lemma Attributes.length_le {block : List UInt8} {xs : List (List Char × List Char)}
    (h : Attributes block xs) : xs.length ≤ block.length := by
  induction h with
  | nil => rfl
  | @cons field block x xs hfield _ ih =>
    have hne : field ≠ [] := by
      rintro rfl
      have hrun := hfield []
      cases hrun
    have hpos := List.length_pos_iff.2 hne
    rw [List.length_cons, List.length_append]
    omega

lemma run_getAttrs_stop {stop fuel : ℕ} {attrs : ConnectAttrs} {s : List UInt8}
    (h : s.length ≤ stop) : (getAttrs stop fuel attrs).run s = .ok (attrs, s) := by
  cases fuel with
  | zero => rfl
  | succ fuel =>
    unfold getAttrs
    show (if s.length ≤ stop then pure attrs else _ : Reader ConnectAttrs).run s = _
    rw [if_pos h]
    rfl

lemma run_getAttrs_succ {stop fuel : ℕ} {attrs : ConnectAttrs} {s : List UInt8}
    (h : stop < s.length) : (getAttrs stop (fuel + 1) attrs).run s =
      (getAttr >>= fun x =>
        getAttrs stop fuel (Function.update attrs x.1 (some x.2))).run s := by
  conv_lhs => unfold getAttrs
  show (if s.length ≤ stop then pure attrs else _ : Reader ConnectAttrs).run s = _
  rw [if_neg (by omega)]

/-- Whole attributes are read one after the other, as long as enough bytes are left. -/
lemma Attributes.run {block : List UInt8} {xs : List (List Char × List Char)}
    (h : Attributes block xs) {stop : ℕ} {rest : List UInt8} (hstop : stop ≤ rest.length)
    (fuel : ℕ) (attrs : ConnectAttrs) :
    (getAttrs stop (xs.length + fuel) attrs).run (block ++ rest) =
      (getAttrs stop fuel (attrsOf xs attrs)).run rest := by
  induction h generalizing attrs with
  | nil => rw [List.length_nil, Nat.zero_add]; rfl
  | @cons field block x xs hfield _ ih =>
    have hne : field ≠ [] := by
      rintro rfl
      have hrun := hfield []
      cases hrun
    have hpos := List.length_pos_iff.2 hne
    have hleft : stop < (field ++ block ++ rest).length := by
      simp only [List.length_append]
      omega
    have hfuel : (x :: xs).length + fuel = xs.length + fuel + 1 := by
      rw [List.length_cons]
      omega
    rw [hfuel, run_getAttrs_succ hleft, List.append_assoc, hfield.run_append, ih]
    rfl

/-- What the loop reads: whole attributes, of which only the last ends at or after the stop. -/
lemma getAttrs_eq_ok {stop fuel : ℕ} {attrs attrs' : ConnectAttrs} {s rest : List UInt8}
    (hfuel : s.length ≤ stop + fuel) (h : (getAttrs stop fuel attrs).run s = .ok (attrs', rest)) :
    ∃ block xs, s = block ++ rest ∧ Attributes block xs ∧ attrs' = attrsOf xs attrs ∧
      rest.length ≤ stop ∧
      (block = [] ∨ ∃ whole crossing ys y, block = whole ++ crossing ∧ Attributes whole ys ∧
        Takes getAttr crossing y ∧ stop < crossing.length + rest.length) := by
  induction fuel generalizing attrs s with
  | zero =>
    cases h
    exact ⟨[], [], rfl, .nil, rfl, hfuel, .inl rfl⟩
  | succ fuel ih =>
    by_cases hstop : s.length ≤ stop
    · rw [run_getAttrs_stop hstop] at h
      cases h
      exact ⟨[], [], rfl, .nil, rfl, hstop, .inl rfl⟩
    · rw [run_getAttrs_succ (by omega)] at h
      obtain ⟨x, t, hx, hnext⟩ := run_bind_eq_ok.1 h
      obtain ⟨field, rfl, hfield⟩ := exact_getAttr _ _ _ hx
      have hne : field ≠ [] := by
        rintro rfl
        have hrun := hfield []
        cases hrun
      have hpos := List.length_pos_iff.2 hne
      rw [List.length_append] at hfuel hstop
      obtain ⟨block, xs, rfl, hblock, rfl, hrest, hlast⟩ := ih (by omega) hnext
      refine ⟨field ++ block, x :: xs, (List.append_assoc _ _ _).symm, .cons hfield hblock, rfl,
        hrest, .inr ?_⟩
      rcases hlast with rfl | ⟨whole, crossing, ys, y, rfl, hwhole, hcrossing, hafter⟩
      · refine ⟨[], field, [], x, by simp, .nil, hfield, ?_⟩
        rw [List.nil_append] at hstop
        omega
      · exact ⟨field ++ whole, crossing, x :: ys, y, (List.append_assoc _ _ _).symm,
          .cons hfield hwhole, hcrossing, hafter⟩

lemma parseHandshakeResponse_eq_ok {payload : List UInt8} {v : HandshakeResponse} :
    parseHandshakeResponse payload = .ok v ↔
      ∃ rest, (getHandshakeResponse payload.length).run payload = .ok (v, rest) := by
  unfold parseHandshakeResponse
  rcases (getHandshakeResponse payload.length).run payload with e | ⟨w, rest⟩
  · constructor
    · intro h
      cases h
    · rintro ⟨rest, h⟩
      cases h
  · constructor
    · intro h
      cases h
      exact ⟨rest, rfl⟩
    · rintro ⟨rest', h⟩
      cases h
      rfl

/-- The response with its attributes. -/
lemma run_getHandshakeResponse_eq_ok {size : ℕ} {payload rest : List UInt8}
    {v : HandshakeResponse} :
    (getHandshakeResponse size).run payload = .ok (v, rest) ↔
      ∃ s, NamesLaid payload v s ∧
        (optionalField (v.capabilities &&& clientConnectAttrs ≠ 0) (fun _ => none)
          (parseConnectAttrs size)).run s = .ok (v.attrs, rest) := by
  unfold getHandshakeResponse
  simp only [run_bind_eq_ok, run_getNames_eq_ok]
  constructor
  · rintro ⟨w, s, ⟨hnames, hnone⟩, attrs, s', hattrs, h⟩
    cases h
    rw [hnone] at hattrs
    exact ⟨s, hnames, hattrs⟩
  · rintro ⟨s, hnames, hattrs⟩
    exact ⟨{ v with attrs := fun _ => none }, s, ⟨hnames, rfl⟩, v.attrs, rest, hattrs, rfl⟩

/-- The attribute block: its length, which lies in the payload, and the loop. -/
lemma run_parseConnectAttrs_eq_ok {size : ℕ} {s rest : List UInt8} {attrs : ConnectAttrs} :
    (parseConnectAttrs size).run s = .ok (attrs, rest) ↔
      ∃ header after total, s = header ++ after ∧ Takes getLenencInt header total ∧
        size - after.length + total < 2 ^ 64 ∧ total ≤ after.length ∧
        (getAttrs (after.length - total) total fun _ => none).run after = .ok (attrs, rest) := by
  have hloop : ∀ (total : ℕ) (after : List UInt8),
      ((do
        let left := (← get).length
        if 2 ^ 64 ≤ size - left + total then throw "connection attrs length overflow"
        else if left < total then throw "truncated connection attrs"
        else getAttrs (left - total) total fun _ => none) : Reader ConnectAttrs).run after =
          if 2 ^ 64 ≤ size - after.length + total then .error "connection attrs length overflow"
          else if after.length < total then .error "truncated connection attrs"
          else (getAttrs (after.length - total) total fun _ => none).run after := by
    intro total after
    show (if 2 ^ 64 ≤ size - after.length + total then _ else if after.length < total then _
      else _ : Reader ConnectAttrs).run after = _
    split_ifs
    · rfl
    · rfl
    · rfl
  unfold parseConnectAttrs
  rw [run_bind_eq_ok]
  simp only [hloop]
  constructor
  · rintro ⟨total, after, htotal, h⟩
    obtain ⟨header, rfl, hheader⟩ := exact_getLenencInt _ _ _ htotal
    split_ifs at h with hover hlong
    exact ⟨header, after, total, rfl, hheader, by omega, by omega, h⟩
  · rintro ⟨header, after, total, rfl, hheader, hover, hlong, h⟩
    refine ⟨total, after, hheader after, ?_⟩
    rw [if_neg (by omega), if_neg (by omega)]
    exact h

/-- A block of whole attributes is used up before an attribute that crosses its end is. -/
lemma Attributes.length_of_crossing {block whole crossing s t : List UInt8}
    {xs ys : List (List Char × List Char)} {y : List Char × List Char}
    (hwhole : Attributes whole ys) (hblock : Attributes block xs) (hcrossing : Takes getAttr crossing y)
    (h : block ++ s = whole ++ (crossing ++ t)) (hlt : whole.length < block.length) :
    whole.length + crossing.length ≤ block.length := by
  induction hwhole generalizing block xs with
  | nil =>
    cases hblock with
    | nil => simp at hlt
    | @cons field block x xs hfield _ =>
      rw [List.append_assoc, List.nil_append] at h
      obtain ⟨rfl, -, -⟩ := hfield.unique hcrossing h
      simp
  | @cons field whole x ys hfield _ ih =>
    cases hblock with
    | nil => simp at hlt
    | @cons field' block x' xs hfield' hblock =>
      simp only [List.append_assoc] at h
      obtain ⟨rfl, -, hrest⟩ := hfield'.unique hfield h
      simp only [List.length_append] at hlt ⊢
      have hle := ih hblock hrest (by omega)
      omega

/-- What was read before the attributes does not depend on them. -/
lemma NamesLaid.run {payload s : List UInt8} {v : HandshakeResponse} (h : NamesLaid payload v s) :
    getNames.run payload = .ok ({ v with attrs := fun _ => none }, s) :=
  run_getNames_eq_ok.2 ⟨h, rfl⟩

/-- A payload with an attribute that crosses the end of its block is accepted all the same. -/
lemma Overruns.accepted {payload : List UInt8} (h : Overruns payload) :
    ∃ v, parseHandshakeResponse payload = .ok v ∧ ¬ Laid payload v := by
  obtain ⟨v, header, whole, crossing, after, total, xs, x, hnames, hflag, hheader, hwhole,
    hcrossing, hlt, hcross, hle, hfits⟩ := h
  obtain ⟨hnames, -⟩ := run_getNames_eq_ok.1 hnames
  have hxs := hwhole.length_le
  have hlen : (whole ++ (crossing ++ after)).length =
      whole.length + crossing.length + after.length := by
    simp only [List.length_append]
    omega
  have hne : header ++ (whole ++ (crossing ++ after)) ≠ [] := by
    intro hnil
    have hzero := congrArg List.length hnil
    rw [List.length_append, hlen, List.length_nil] at hzero
    omega
  have hloop : (getAttrs ((whole ++ (crossing ++ after)).length - total) total fun _ => none).run
      (whole ++ (crossing ++ after)) =
        .ok (Function.update (attrsOf xs fun _ => none) x.1 (some x.2), after) := by
    have hfuel : total = xs.length + (total - xs.length - 1 + 1) := by omega
    rw [hlen]
    conv_lhs => rw [hfuel]
    rw [hwhole.run (by rw [List.length_append]; omega),
      run_getAttrs_succ (by rw [List.length_append]; omega), hcrossing.run_append,
      run_getAttrs_stop (by omega)]
  have hattrs : (optionalField (v.capabilities &&& clientConnectAttrs ≠ 0) (fun _ => none)
      (parseConnectAttrs payload.length)).run (header ++ (whole ++ (crossing ++ after))) =
        .ok (Function.update (attrsOf xs fun _ => none) x.1 (some x.2), after) := by
    rw [run_optionalField, if_pos ⟨hflag, hne⟩, run_parseConnectAttrs_eq_ok]
    exact ⟨header, _, total, rfl, hheader, by rwa [hlen], by rwa [hlen], hloop⟩
  refine ⟨{ v with attrs := Function.update (attrsOf xs fun _ => none) x.1 (some x.2) },
    parseHandshakeResponse_eq_ok.2 ⟨after, run_getHandshakeResponse_eq_ok.2 ⟨_, hnames, hattrs⟩⟩,
    ?_⟩
  rintro ⟨s, hlaid, hblock⟩
  have hsame := hlaid.run
  rw [hnames.run] at hsame
  obtain rfl : header ++ (whole ++ (crossing ++ after)) = s := by
    cases hsame
    rfl
  unfold AttrsLaid at hblock
  rw [if_pos ⟨hflag, hne⟩] at hblock
  obtain ⟨header', block, after', ys, hsplit, hheader', hwhole', -⟩ := hblock
  obtain ⟨rfl, htotal, hrest⟩ := hheader'.unique hheader hsplit.symm
  have hcrosses := hwhole.length_of_crossing hwhole' hcrossing hrest (by omega)
  omega

/-- **When the lengths are respected**: in all payloads but those with an attribute that crosses
the end of its block. -/
lemma respectsLengths_iff (payload : List UInt8) :
    RespectsLengths payload ↔ ¬ Overruns payload := by
  constructor
  · intro hlaid hover
    obtain ⟨v, hv, hnot⟩ := hover.accepted
    exact hnot (hlaid v hv)
  · intro hnot v hv
    obtain ⟨rest, hrun⟩ := parseHandshakeResponse_eq_ok.1 hv
    obtain ⟨s, hnames, hattrs⟩ := run_getHandshakeResponse_eq_ok.1 hrun
    refine ⟨s, hnames, ?_⟩
    rw [run_optionalField] at hattrs
    unfold AttrsLaid
    split_ifs at hattrs ⊢ with hpresent
    · obtain ⟨header, after, total, rfl, hheader, hfits, hle, hloop⟩ :=
        run_parseConnectAttrs_eq_ok.1 hattrs
      obtain ⟨block, xs, rfl, hblock, hxs, hrest, hlast⟩ := getAttrs_eq_ok (by omega) hloop
      rw [List.length_append] at hfits hle hrest hlast
      by_cases hexact : block.length = total
      · exact ⟨header, block, rest, xs, rfl, by rwa [hexact], hblock, hxs⟩
      · -- the last attribute ends after the block
        rcases hlast with rfl | ⟨whole, crossing, ys, y, rfl, hwhole, hcrossing, hstop⟩
        · simp only [List.length_nil] at *
          omega
        · rw [List.length_append] at hfits hle hrest hstop hexact
          rw [List.append_assoc] at hnames
          exact absurd ⟨_, header, whole, crossing, rest, total, ys, y, hnames.run, hpresent.1,
            hheader, hwhole, hcrossing, by omega, by omega, hle, hfits⟩ hnot
    · exact (congrArg Prod.fst (Except.ok.inj hattrs)).symm

/-! ### The response of a client -/

lemma takes_nullStr {text : List Char} (h : '\x00' ∉ text) :
    Takes getNullStr (nullStr text) text :=
  takes_getNullStr_of_bytes (zero_notMem_utf8 h) (ofUtf8_utf8 text)

lemma nullStr_ne_nil (text : List Char) : nullStr text ≠ [] := by
  simp [nullStr]

lemma fieldOf_nullStr (announced : Prop) [Decidable announced] {text : List Char}
    (h : '\x00' ∉ text) (rest : List UInt8) :
    FieldOf announced none (given <$> getNullStr) (if announced then nullStr text else []) rest
      (if announced then given text else none) := by
  unfold FieldOf
  by_cases hannounced : announced
  · have hne : nullStr text ++ rest ≠ [] := fun hnil =>
      nullStr_ne_nil text (List.append_eq_nil_iff.1 hnil).1
    simp only [hannounced, if_true, hne, ne_eq, not_false_eq_true, and_self]
    exact takes_map (takes_nullStr h)
  · simp [hannounced]

lemma takes_getText {what : String} {text : List Char} (h : (utf8 text).length < 2 ^ 64) :
    Takes (getText what) (putLenencBytes (utf8 text)) text := by
  unfold getText
  refine takes_then (takes_getLenencBytes h) ?_
  rw [ofUtf8_utf8]
  exact takes_pure text

lemma takes_getAttr {x : List Char × List Char} (h : (attrBytes x).length < 2 ^ 64) :
    Takes getAttr (attrBytes x) x := by
  have hlen : (utf8 x.1).length < 2 ^ 64 ∧ (utf8 x.2).length < 2 ^ 64 := by
    simp only [attrBytes, putLenencBytes, List.length_append] at h
    omega
  exact takes_bind (takes_getText hlen.1) (takes_then (takes_getText hlen.2) (takes_pure x))

lemma attributes_flatMap {xs : List (List Char × List Char)}
    (h : (xs.flatMap attrBytes).length < 2 ^ 64) : Attributes (xs.flatMap attrBytes) xs := by
  induction xs with
  | nil => exact .nil
  | cons x xs ih =>
    rw [List.flatMap_cons, List.length_append] at h
    exact .cons (takes_getAttr (by omega)) (ih (by omega))

namespace ClientHandshake

variable (c : ClientHandshake)

/-- The capabilities of a client that is let in: the protocol of 4.1, and an authentication
response with a length. -/
def Supported : Prop :=
  c.capabilities &&& clientProtocol41 ≠ 0 ∧
    (c.capabilities &&& clientPluginAuthLenencClientData ≠ 0 ∨
      c.capabilities &&& clientSecureConnection ≠ 0)

lemma takes_getHead (h : c.capabilities &&& clientProtocol41 ≠ 0) :
    Takes getHead c.headBytes (c.capabilities, c.username) := by
  unfold getHead ClientFields.headBytes
  refine takes_bind (takes_getLe c.capabilities_lt) ?_
  rw [if_neg h]
  refine takes_bind (takes_getLe c.maxPacketSize_lt) ?_
  refine takes_byte ?_
  refine takes_bind (takes_take (by simp)) ?_
  exact takes_then (takes_nullStr c.username_ok) (takes_pure _)

lemma takes_getAuthResponse (h : c.Supported) (hlen : c.authResponse.length < 2 ^ 64) :
    Takes (getAuthResponse c.capabilities) c.authBytes c.authResponse := by
  unfold getAuthResponse ClientFields.authBytes
  by_cases hlenenc : c.capabilities &&& clientPluginAuthLenencClientData = 0
  · have hsecure : c.capabilities &&& clientSecureConnection ≠ 0 :=
      h.2.resolve_left fun hne => hne hlenenc
    rw [if_neg (not_not.2 hlenenc), if_neg (not_not.2 hlenenc), if_pos hsecure, if_pos hsecure]
    refine takes_byte ?_
    have hbyte := toNat_ofNat_of_lt (c.authResponse_lt hlenenc)
    rw [hbyte]
    exact takes_take rfl
  · rw [if_pos hlenenc, if_pos hlenenc]
    exact takes_getLenencBytes hlen

/-- The fields before the attributes, whatever follows them. -/
lemma namesLaid (h : c.Supported) (hlen : c.authResponse.length < 2 ^ 64) (rest : List UInt8) :
    NamesLaid (c.headBytes ++ (c.authBytes ++ (c.databaseBytes ++ (c.pluginBytes ++ rest))))
      c.value rest :=
  ⟨c.headBytes, c.authBytes, c.databaseBytes, c.pluginBytes, rfl, c.takes_getHead h.1,
    c.takes_getAuthResponse h hlen, fieldOf_nullStr _ c.database_ok _,
    fieldOf_nullStr _ c.authPlugin_ok _⟩

/-- The attribute block is read to its end, which is the end of the payload. -/
lemma run_attrs : (optionalField (c.capabilities &&& clientConnectAttrs ≠ 0) (fun _ => none)
    (parseConnectAttrs c.bytes.length)).run c.attrsBytes = .ok (c.value.attrs, []) := by
  have hfits := c.fits
  rw [run_optionalField]
  unfold ClientFields.attrsBytes ClientFields.value
  by_cases hflag : c.capabilities &&& clientConnectAttrs = 0
  · simp [hflag]
  · have hbytes : c.attrsBytes = putLenencInt c.attrBlock.length ++ c.attrBlock := by
      unfold ClientFields.attrsBytes
      rw [if_pos hflag]
      rfl
    have hle : c.attrBlock.length ≤ c.bytes.length := by
      unfold ClientFields.bytes
      rw [hbytes]
      simp only [List.length_append]
      omega
    have hblock : Attributes c.attrBlock c.attrs := attributes_flatMap (by
      change c.attrBlock.length < 2 ^ 64
      omega)
    have hcount := hblock.length_le
    have hne : putLenencBytes c.attrBlock ≠ [] := by
      intro hnil
      have hrun : getLenencBytes.run (putLenencBytes c.attrBlock ++ []) = .ok (c.attrBlock, []) :=
        takes_getLenencBytes (by omega) []
      rw [hnil] at hrun
      cases hrun
    simp only [hflag, ne_eq, not_false_eq_true, if_true, hne, and_self]
    rw [run_parseConnectAttrs_eq_ok]
    refine ⟨putLenencInt c.attrBlock.length, c.attrBlock, c.attrBlock.length, rfl,
      takes_getLenencInt (by omega), by omega, le_refl _, ?_⟩
    have hfuel : c.attrBlock.length = c.attrs.length + (c.attrBlock.length - c.attrs.length) := by
      omega
    have hloop := @Attributes.run _ _ hblock 0 [] (Nat.le_refl 0)
      (c.attrBlock.length - c.attrs.length) fun _ => none
    rw [← hfuel, List.append_nil] at hloop
    rw [Nat.sub_self, hloop]
    exact run_getAttrs_stop (Nat.le_refl 0)

/-- **What a supported client sends is what is read.** -/
lemma parse_bytes_iff : parseHandshakeResponse c.bytes = .ok c.value ↔ c.Supported := by
  constructor
  · intro h
    obtain ⟨rest, hrun⟩ := parseHandshakeResponse_eq_ok.1 h
    obtain ⟨s, ⟨head, auth, database, plugin, hbytes, hhead, hauth, -, -⟩, -⟩ :=
      run_getHandshakeResponse_eq_ok.1 hrun
    constructor
    · intro hnone
      have hread := hhead (auth ++ (database ++ (plugin ++ s)))
      have hcapabilities := takes_getLe (k := 4) c.capabilities_lt
      rw [← hbytes, ClientFields.bytes, ClientFields.headBytes, List.append_assoc, getHead,
        hcapabilities.run_append, if_pos hnone] at hread
      cases hread
    · by_contra hnone
      rw [not_or, not_not, not_not] at hnone
      unfold getAuthResponse at hauth
      have hvalue : c.value.capabilities = c.capabilities := rfl
      rw [hvalue, if_neg (not_not.2 hnone.1), if_neg (not_not.2 hnone.2)] at hauth
      cases hauth []
  · intro h
    have hlen : c.authResponse.length < 2 ^ 64 := by
      have hfits := c.fits
      by_cases hlenenc : c.capabilities &&& clientPluginAuthLenencClientData = 0
      · have := c.authResponse_lt hlenenc
        omega
      · unfold ClientFields.bytes ClientFields.authBytes putLenencBytes at hfits
        simp only [List.length_append, if_pos hlenenc] at hfits
        omega
    exact parseHandshakeResponse_eq_ok.2 ⟨[], run_getHandshakeResponse_eq_ok.2
      ⟨c.attrsBytes, c.namesLaid h hlen _, c.run_attrs⟩⟩

end ClientHandshake

/-- **When the response is read as it was sent, and when its lengths are respected.** -/
theorem handshakeResponse_iff (c : ClientHandshake) (payload : List UInt8) :
    (parseHandshakeResponse c.bytes = .ok c.value ↔ c.Supported) ∧
      (RespectsLengths payload ↔ ¬ Overruns payload) :=
  ⟨c.parse_bytes_iff, respectsLengths_iff payload⟩

def shopClient : ClientHandshake where
  capabilities := clientProtocol41 + clientSecureConnection + clientConnectWithDb +
    clientPluginAuth + clientConnectAttrs
  maxPacketSize := 16777216
  charset := 45
  username := "admin".toList
  database := "shop".toList
  authResponse := [1, 2, 3]
  authPlugin := "caching_sha2_password".toList
  attrs := [("_os".toList, "Linux".toList), ("_pid".toList, "7".toList)]
  capabilities_lt := by decide
  maxPacketSize_lt := by decide
  username_ok := by decide
  database_ok := by decide
  authPlugin_ok := by decide
  authResponse_lt := by decide
  fits := by decide

example : (parseHandshakeResponse shopClient.bytes).map
    (fun v => (v.database, v.authPlugin, v.attrs "_os".toList, v.attrs "_pid".toList)) =
      .ok (some "shop".toList, some "caching_sha2_password".toList, some "Linux".toList,
        some "7".toList) := by
  rw [shopClient.parse_bytes_iff.2 ⟨by decide, Or.inr (by decide)⟩]
  decide

/-! ### An attribute longer than its block -/

def attrsClient : ClientHandshake where
  capabilities := clientProtocol41 + clientSecureConnection + clientConnectAttrs
  maxPacketSize := 0
  charset := 45
  username := ['u']
  database := []
  authResponse := []
  authPlugin := []
  attrs := []
  capabilities_lt := by decide
  maxPacketSize_lt := by decide
  username_ok := by decide
  database_ok := by decide
  authPlugin_ok := by decide
  authResponse_lt := by decide
  fits := by decide

/-- Its attribute block has one byte, and the attribute that starts there four. -/
def longAttr : List UInt8 :=
  attrsClient.headBytes ++ (attrsClient.authBytes ++ ([1] ++ attrBytes (['a'], ['b'])))

/-- The attribute is taken from after its block. -/
theorem longAttr_accepted : ¬ RespectsLengths longAttr := by
  have hnames := (attrsClient.namesLaid ⟨by decide, by decide⟩ (by decide)
    ([1] ++ ([] ++ (attrBytes (['a'], ['b']) ++ [])))).run
  have hbytes : attrsClient.headBytes ++ (attrsClient.authBytes ++ (attrsClient.databaseBytes ++
      (attrsClient.pluginBytes ++ ([1] ++ ([] ++ (attrBytes (['a'], ['b']) ++ [])))))) =
        longAttr := by decide
  rw [hbytes] at hnames
  have hover : Overruns longAttr :=
    ⟨_, [1], [], attrBytes (['a'], ['b']), [], 1, [], (['a'], ['b']), hnames, by decide,
      takes_getLenencInt (n := 1) (by decide), .nil, takes_getAttr (by decide), by decide,
      by decide, by decide, by decide⟩
  obtain ⟨v, hv, hnot⟩ := hover.accepted
  exact fun h => hnot (h v hv)

end Layout

end Rsduck.Mysql
