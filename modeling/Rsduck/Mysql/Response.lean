import Rsduck.Mysql.Decoding

/-!
The responses of the protocol, as a client takes them off the packets it is sent.

A client knows from its own command which response to expect. It reads the packets of that
response and no others, so a missing packet or one too many puts every later reply out of step.
This is the protocol's side, stated on its own.
-/

namespace Rsduck.Mysql

open Lib.Wire Lib.Wire.Reader

/-- What a client can expect after a command: no packet, OK or ERR, an ERR, a result set with
rows of one of the two forms, or a prepared statement. An ERR can stand in for each of the last
two. -/
inductive ResponseKind
  | nothing | ack | refusal
  | resultSet (binary : Bool)
  | prepare
  deriving DecidableEq

inductive Response
  | nothing
  | ok (affectedRows : ℕ)
  | err (code : ℕ) (state message : List UInt8)
  | resultSet (columns : List Layout) (rows : List (List UInt8))
  | prepared (id : ℕ) (params columns : List Layout)
  deriving DecidableEq

/-! ### Packets -/

/-- A packet read to its end. -/
def whole {α : Type} (r : Reader α) (payload : List UInt8) : Option α :=
  match r.run payload with
  | .ok (a, []) => some a
  | _ => none

def readHeader (header : UInt8) : Reader Unit := do
  expect (if (← readByte) = header then some () else none)

/-- Header, affected rows, last insert id, status and warnings. -/
def readOk : Reader ℕ := do
  readHeader 0x00
  let affectedRows ← readLenencInt
  let _ ← readLenencInt
  let _ ← readLe 2
  let _ ← readLe 2
  return affectedRows

/-- Header, code, marker, state and the message to the end. -/
def readErr : Reader (ℕ × List UInt8 × List UInt8) := do
  readHeader 0xff
  let code ← readLe 2
  readHeader 0x23
  let state ← take 5 malformed
  let message ← get
  set ([] : List UInt8)
  return (code, state, message)

/-- Header, warnings and status. -/
def readEof : Reader Unit := do
  readHeader 0xfe
  let _ ← readLe 2
  let _ ← readLe 2

/-- Header, statement id, the numbers of columns and of parameters, a filler and warnings. -/
def readPrepareOk : Reader (ℕ × ℕ × ℕ) := do
  readHeader 0x00
  let id ← readLe 4
  let columns ← readLe 2
  let params ← readLe 2
  let _ ← readByte
  let _ ← readLe 2
  return (id, columns, params)

/-- A packet that ends the rows. -/
def endsRows (payload : List UInt8) : Bool := payload.head? == some 0xfe && payload.length < 9

/-- NULL, or bytes with their length. -/
def readCell : Reader (Option (List UInt8)) := fun bytes =>
  if bytes.head? = some 0xfb then .ok (none, bytes.tail) else (some <$> readLenencBytes).run bytes

def readCells : ℕ → Reader (List (Option (List UInt8)))
  | 0 => pure []
  | n + 1 => do
    let cell ← readCell
    return cell :: (← readCells n)

/-- A row of `n` columns: that many cells and nothing more, or a header and the bitmap before
the values. -/
def isRow (binary : Bool) (n : ℕ) (payload : List UInt8) : Bool :=
  if binary then payload.head? == some 0x00 && 1 + (n + 9) / 8 ≤ payload.length
  else (whole (readCells n) payload).isSome

/-! ### Sequences of packets -/

def readEnd : List (List UInt8) → Option (List (List UInt8))
  | [] => none
  | p :: ps => (whole readEof p).map fun _ => ps

def readDefinitions : ℕ → List (List UInt8) → Option (List Layout × List (List UInt8))
  | 0, ps => some ([], ps)
  | _ + 1, [] => none
  | n + 1, p :: ps => do
    let layout ← whole readColumnDefinition p
    let (layouts, ps) ← readDefinitions n ps
    return (layout :: layouts, ps)

/-- Definitions and the packet that ends them; none of either when there are none. -/
def readAnnounced (n : ℕ) (ps : List (List UInt8)) : Option (List Layout × List (List UInt8)) :=
  if n = 0 then some ([], ps)
  else do
    let (layouts, ps) ← readDefinitions n ps
    return (layouts, ← readEnd ps)

/-- Rows up to the packet that ends them. -/
def readRows (binary : Bool) (n : ℕ) :
    List (List UInt8) → Option (List (List UInt8) × List (List UInt8))
  | [] => none
  | p :: ps =>
    if endsRows p then (whole readEof p).map fun _ => ([], ps)
    else if isRow binary n p then (readRows binary n ps).map fun x => (p :: x.1, x.2)
    else none

/-! ### Responses -/

def readResultSet (binary : Bool) (p : List UInt8) (ps : List (List UInt8)) :
    Option (Response × List (List UInt8)) := do
  let n ← whole readLenencInt p
  if n = 0 then none
  else
    let (columns, ps) ← readAnnounced n ps
    let (rows, ps) ← readRows binary n ps
    return (.resultSet columns rows, ps)

def readPrepared (p : List UInt8) (ps : List (List UInt8)) :
    Option (Response × List (List UInt8)) := do
  let (id, n, k) ← whole readPrepareOk p
  let (params, ps) ← readAnnounced k ps
  let (columns, ps) ← readAnnounced n ps
  return (.prepared id params columns, ps)

/-- A response whose first packet is not an ERR. -/
def readReply (kind : ResponseKind) (p : List UInt8) (ps : List (List UInt8)) :
    Option (Response × List (List UInt8)) :=
  match kind with
  | .nothing | .refusal => none
  | .ack => (whole readOk p).map fun n => (.ok n, ps)
  | .resultSet binary =>
    match whole readOk p with
    | some n => some (.ok n, ps)
    | none => readResultSet binary p ps
  | .prepare => readPrepared p ps

/-- The expected response off the front, and the packets after it. -/
def readResponse (kind : ResponseKind) (ps : List (List UInt8)) :
    Option (Response × List (List UInt8)) :=
  if kind = .nothing then some (.nothing, ps)
  else
    match ps with
    | [] => none
    | p :: ps =>
      match whole readErr p with
      | some (code, state, message) => some (.err code state message, ps)
      | none => readReply kind p ps

lemma readResponse_of_err {kind : ResponseKind} (hkind : kind ≠ .nothing) {p : List UInt8}
    {code : ℕ} {state message : List UInt8} (h : whole readErr p = some (code, state, message))
    (ps : List (List UInt8)) :
    readResponse kind (p :: ps) = some (.err code state message, ps) := by
  rw [readResponse, if_neg hkind]
  simp only [h]

lemma readResponse_of_not_err {kind : ResponseKind} (hkind : kind ≠ .nothing) {p : List UInt8}
    (h : whole readErr p = none) (ps : List (List UInt8)) :
    readResponse kind (p :: ps) = readReply kind p ps := by
  rw [readResponse, if_neg hkind]
  simp only [h]

/-- The packets are this response and no more, whatever comes after them. -/
def Answers (kind : ResponseKind) (reply : List (List UInt8)) (response : Response) : Prop :=
  ∀ rest, readResponse kind (reply ++ rest) = some (response, rest)

def readResponses : List ResponseKind → List (List UInt8) →
    Option (List Response × List (List UInt8))
  | [], ps => some ([], ps)
  | kind :: kinds, ps => do
    let (response, ps) ← readResponse kind ps
    let (responses, ps) ← readResponses kinds ps
    return (response :: responses, ps)

/-- **Replies that are responses one by one are read so one after the other.** -/
lemma readResponses_flatten {kinds : List ResponseKind} {replies : List (List (List UInt8))}
    (h : List.Forall₂ (fun kind reply => ∃ response, Answers kind reply response) kinds replies)
    (rest : List (List UInt8)) :
    ∃ responses, readResponses kinds (replies.flatten ++ rest) = some (responses, rest) ∧
      responses.length = kinds.length := by
  induction h with
  | nil => exact ⟨[], rfl, rfl⟩
  | cons hfirst _ ih =>
    obtain ⟨response, hresponse⟩ := hfirst
    obtain ⟨responses, hread, hlen⟩ := ih
    refine ⟨response :: responses, ?_, congrArg (· + 1) hlen⟩
    rw [List.flatten_cons, List.append_assoc, readResponses, hresponse]
    simp only [Option.bind_eq_bind, Option.bind_some, hread]
    rfl

/-! ### Single packets -/

lemma whole_of_takes {α : Type} {r : Reader α} {xs : List UInt8} {a : α} (h : Takes r xs a) :
    whole r xs = some a := by
  have hrun := h []
  rw [List.append_nil] at hrun
  rw [whole, hrun]

/-- A packet with another header is not read. -/
lemma run_readHeader_bind {α : Type} {header b : UInt8} (hb : b ≠ header) (f : Unit → Reader α)
    (s : List UInt8) (x : α × List UInt8) : (readHeader header >>= f).run (b :: s) ≠ .ok x := by
  intro h
  obtain ⟨_, _, hheader, -⟩ := run_bind_eq_ok.1 h
  obtain ⟨b', _, hbyte, hexpect⟩ := run_bind_eq_ok.1 hheader
  have hread := takes_readByte b s
  rw [List.singleton_append] at hread
  rw [hread] at hbyte
  cases hbyte
  rw [if_neg hb] at hexpect
  cases (run_expect_eq_ok.1 hexpect).1

lemma whole_readHeader_bind {α : Type} {header b : UInt8} (hb : b ≠ header)
    (f : Unit → Reader α) (s : List UInt8) : whole (readHeader header >>= f) (b :: s) = none := by
  unfold whole
  rcases hrun : (readHeader header >>= f).run (b :: s) with e | x
  · rfl
  · exact absurd hrun (run_readHeader_bind hb f s x)

lemma takes_readHeader (header : UInt8) : Takes (readHeader header) [header] () :=
  takes_then (takes_readByte header) (takes_expect (if_pos rfl))

end Rsduck.Mysql
