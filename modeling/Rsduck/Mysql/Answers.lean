import Rsduck.Mysql.BinaryRow
import Rsduck.Mysql.CommandLoop
import Rsduck.Mysql.Response

/-!
Every command gets its response.

Each packet the server writes is read as what it stands for, each reply is the one response its
command calls for, and over a whole connection the client's readings stay in step with the
commands.
-/

namespace Rsduck.Mysql

open Lib Lib.Text Lib.Wire Lib.Wire.Reader Db

variable {C : Crates}

/-! ### Single packets -/

lemma length_utf8_le (s : List Char) : (utf8 s).length ≤ 4 * s.length := by
  induction s with
  | nil => exact Nat.le_refl 0
  | cons c s ih =>
    have hc := c.utf8Size_le_four
    have hcons : utf8 (c :: s) = String.utf8EncodeChar c ++ utf8 s := rfl
    rw [hcons, List.length_append, String.length_utf8EncodeChar, List.length_cons]
    omega

lemma whole_readOk {n : ℕ} (h : n < 2 ^ 64) : whole readOk (okPacketWithRows n) = some n := by
  have hbytes : okPacketWithRows n = [0x00] ++ (putLenencInt n ++ (putLenencInt 0 ++
      (leBytes 2 serverStatusAutocommit ++ leBytes 2 0))) := by
    simp only [okPacketWithRows, List.cons_append, List.nil_append, List.append_assoc]
  rw [hbytes]
  apply whole_of_takes
  refine takes_bind (takes_readHeader 0x00) ?_
  refine takes_bind (takes_readLenencInt h) ?_
  refine takes_bind (takes_readLenencInt (by decide)) ?_
  refine takes_bind (takes_readLe (by decide)) ?_
  exact takes_then (takes_readLe (by decide)) (takes_pure n)

lemma whole_readEof : whole readEof eofPacket = some () := by
  apply whole_of_takes
  have hbytes : eofPacket = [0xfe] ++ (leBytes 2 0 ++ leBytes 2 serverStatusAutocommit) := rfl
  rw [hbytes]
  refine takes_bind (takes_readHeader 0xfe) ?_
  refine takes_bind (takes_readLe (by decide)) ?_
  exact takes_then (takes_readLe (by decide)) (takes_pure ())

lemma whole_readPrepareOk {id columns params : ℕ} (hid : id < 2 ^ 32) (hc : columns < 2 ^ 16)
    (hp : params < 2 ^ 16) :
    whole readPrepareOk (prepareOk id columns params) = some (id, columns, params) := by
  have hbytes : prepareOk id columns params = [0x00] ++ (leBytes 4 id ++ (leBytes 2 columns ++
      (leBytes 2 params ++ ([0x00] ++ leBytes 2 0)))) := by
    simp only [prepareOk, List.cons_append, List.nil_append, List.append_assoc]
  rw [hbytes]
  apply whole_of_takes
  refine takes_bind (takes_readHeader 0x00) ?_
  refine takes_bind (takes_readLe (by omega)) ?_
  refine takes_bind (takes_readLe (by omega)) ?_
  refine takes_bind (takes_readLe (by omega)) ?_
  refine takes_bind (takes_readByte 0x00) ?_
  exact takes_then (takes_readLe (by decide)) (takes_pure _)

/-- The state of an ERR packet. -/
def errState (state : String) : List UInt8 :=
  (utf8 state.toList).take 5 ++ (utf8 "HY000".toList).drop ((utf8 state.toList).take 5).length

lemma length_errState (state : String) : (errState state).length = 5 := by
  have hfill : (utf8 "HY000".toList).length = 5 := by decide
  rw [errState, List.length_append, List.length_drop, hfill, List.length_take]
  omega

lemma whole_readErr {code : ℕ} (h : code < 2 ^ 16) (state : String) (message : List Char) :
    whole readErr (errPacket code state message) = some (code, errState state, utf8 message) := by
  have hbytes : errPacket code state message = [0xff] ++ (leBytes 2 code ++ ([0x23] ++
      (errState state ++ utf8 message))) := by
    simp only [errPacket, errState, List.cons_append, List.nil_append, List.append_assoc]
  have hhead := takes_readHeader 0xff
  have hcode := takes_readLe (k := 2) (n := code) (by omega)
  have hmark := takes_readHeader 0x23
  have hstate : Takes (take 5 malformed) (errState state) (errState state) :=
    takes_take (length_errState state)
  have hrun : readErr.run (errPacket code state message) =
      .ok ((code, errState state, utf8 message), []) := by
    rw [hbytes]
    refine run_bind_eq_ok.2 ⟨_, _, hhead _, ?_⟩
    refine run_bind_eq_ok.2 ⟨_, _, hcode _, ?_⟩
    refine run_bind_eq_ok.2 ⟨_, _, hmark _, ?_⟩
    refine run_bind_eq_ok.2 ⟨_, _, hstate _, ?_⟩
    rfl
  rw [whole, hrun]

lemma whole_readColumnDefinition {database : List Char} {column : SqlColumn}
    (hd : (utf8 database).length < 2 ^ 64) (hc : (utf8 column.name).length < 2 ^ 64) :
    whole readColumnDefinition (columnDefinition database column) =
      some (layoutOf column.dataType) :=
  whole_of_takes (takes_readColumnDefinition hd hc)

/-- The first byte of a positive length is no header of another packet. -/
lemma putLenencInt_eq_cons {n : ℕ} (h : n ≠ 0) :
    ∃ b bs, putLenencInt n = b :: bs ∧ b ≠ 0x00 ∧ b ≠ 0xff := by
  unfold putLenencInt
  split_ifs with h1 h2 h3
  · have hn : (UInt8.ofNat n).toNat = n := toNat_ofNat_of_lt (by omega)
    refine ⟨_, _, rfl, ?_, ?_⟩
    · intro h0
      have := congrArg UInt8.toNat h0
      rw [hn] at this
      exact h this
    · intro h0
      have := congrArg UInt8.toNat h0
      rw [hn] at this
      have h255 : (0xff : UInt8).toNat = 255 := rfl
      omega
  · exact ⟨_, _, rfl, by decide, by decide⟩
  · exact ⟨_, _, rfl, by decide, by decide⟩
  · exact ⟨_, _, rfl, by decide, by decide⟩

/-! ### Rows -/

lemma takes_readCell {v : SqlValue C} (h : (utf8 (v.textValue.getD [])).length < 2 ^ 64) :
    ∃ cell, Takes readCell (putTextValue v) cell := by
  unfold putTextValue
  split_ifs
  · exact ⟨none, fun rest => rfl⟩
  · refine ⟨some (utf8 (v.textValue.getD [])), fun rest => ?_⟩
    have hread := takes_map (f := some) (takes_readLenencBytes h) rest
    have hrun : readCell.run (putLenencStr (v.textValue.getD []) ++ rest) =
        (some <$> readLenencBytes).run (putLenencStr (v.textValue.getD []) ++ rest) :=
      if_neg (head?_putLenencStr _ rest)
    rw [hrun]
    exact hread

/-- A text row is read cell by cell. -/
lemma takes_readCells (row : List (SqlValue C))
    (h : ∀ v ∈ row, (utf8 (v.textValue.getD [])).length < 2 ^ 64) :
    ∃ cells, Takes (readCells row.length) (textRow row) cells := by
  induction row with
  | nil => exact ⟨[], takes_pure []⟩
  | cons v row ih =>
    obtain ⟨cell, hcell⟩ := takes_readCell (h v List.mem_cons_self)
    obtain ⟨cells, hcells⟩ := ih fun w hw => h w (List.mem_cons_of_mem v hw)
    have hbytes : textRow (v :: row) = putTextValue v ++ textRow row := rfl
    rw [hbytes]
    exact ⟨cell :: cells, takes_bind hcell (takes_then hcells (takes_pure _))⟩

/-- The first cell of a row is long enough not to pass for the end of the rows. -/
lemma endsRows_putTextValue (v : SqlValue C) (rest : List UInt8) :
    endsRows (putTextValue v ++ rest) = false := by
  unfold endsRows putTextValue putLenencStr putLenencBytes putLenencInt
  rw [Bool.and_eq_false_iff]
  split_ifs with hnull h1 h2 h3
  · exact .inl rfl
  · left
    rw [beq_eq_false_iff_ne]
    intro heq
    have := congrArg UInt8.toNat (Option.some.inj heq)
    rw [toNat_ofNat_of_lt (by omega)] at this
    have h254 : (0xfe : UInt8).toNat = 254 := rfl
    omega
  · exact .inl rfl
  · exact .inl rfl
  · right
    rw [decide_eq_false_iff_not]
    simp only [List.length_append, List.length_cons, length_leBytes]
    omega

lemma length_binaryRow (row : List (SqlValue C)) :
    1 + (row.length + 9) / 8 ≤ (binaryRow row).length := by
  have hlen : (List.replicate ((row.length + 7 + 2) / 8) (0 : UInt8)).length =
      (row.length + 9) / 8 := List.length_replicate
  obtain ⟨-, hbitmap, -⟩ := binaryRowFrom_eq
    (List.replicate ((row.length + 7 + 2) / 8) 0) [] 0 row (by
      rw [hlen]
      omega)
  have hrow : (binaryRow row).length = 1 +
      (binaryRowFrom (List.replicate ((row.length + 7 + 2) / 8) 0) [] 0 row).1.length +
      (binaryRowFrom (List.replicate ((row.length + 7 + 2) / 8) 0) [] 0 row).2.length := by
    unfold binaryRow
    simp only [List.length_append, List.length_cons]
    omega
  omega

/-- The packet of a row. -/
def rowPacket (binary : Bool) (row : List (SqlValue C)) : List UInt8 :=
  if binary then binaryRow row else textRow row

/-- **A row is read as a row, and not as the end of the rows.** -/
lemma isRow_rowPacket (binary : Bool) {n : ℕ} {row : List (SqlValue C)} (hn : n ≠ 0)
    (hlen : row.length = n)
    (htexts : ∀ v ∈ row, (utf8 (v.textValue.getD [])).length < 2 ^ 64) :
    endsRows (rowPacket binary row) = false ∧ isRow binary n (rowPacket binary row) = true := by
  subst hlen
  cases binary with
  | true =>
    have hsize := length_binaryRow row
    refine ⟨rfl, ?_⟩
    have hhead : (binaryRow row).head? = some 0x00 := rfl
    simp only [isRow, rowPacket, if_true, hhead, beq_self_eq_true, Bool.true_and, decide_eq_true_eq]
    exact hsize
  | false =>
    obtain ⟨cells, hcells⟩ := takes_readCells row htexts
    constructor
    · rcases row with _ | ⟨v, row⟩
      · exact absurd rfl hn
      · exact endsRows_putTextValue v (textRow row)
    · have hrow : rowPacket false row = textRow row := rfl
      rw [hrow, isRow, if_neg Bool.false_ne_true, whole_of_takes hcells]
      rfl

/-! ### Sequences of packets -/

lemma readEnd_eofPacket (ps : List (List UInt8)) : readEnd (eofPacket :: ps) = some ps := by
  rw [readEnd, whole_readEof]
  rfl

lemma readDefinitions_map {α : Type} (definition : α → List UInt8) (layout : α → Layout)
    (xs : List α) (h : ∀ x ∈ xs, whole readColumnDefinition (definition x) = some (layout x))
    (ps : List (List UInt8)) :
    readDefinitions xs.length (xs.map definition ++ ps) = some (xs.map layout, ps) := by
  induction xs with
  | nil => rfl
  | cons x xs ih =>
    have hxs := ih fun y hy => h y (List.mem_cons_of_mem x hy)
    rw [List.length_cons, List.map_cons, List.cons_append, readDefinitions,
      h x List.mem_cons_self]
    simp only [Option.bind_eq_bind, Option.bind_some, hxs]
    rfl

/-- Definitions, then the packet that ends them when there are any. -/
lemma readAnnounced_map {α : Type} (definition : α → List UInt8) (layout : α → Layout)
    (xs : List α) (h : ∀ x ∈ xs, whole readColumnDefinition (definition x) = some (layout x))
    (ps : List (List UInt8)) :
    readAnnounced xs.length
      (xs.map definition ++ ((if xs.isEmpty then [] else [eofPacket]) ++ ps)) =
        some (xs.map layout, ps) := by
  unfold readAnnounced
  rcases xs with _ | ⟨x, xs⟩
  · rfl
  · have hread := readDefinitions_map definition layout (x :: xs) h (eofPacket :: ps)
    rw [if_neg (by simp)]
    simp only [List.isEmpty_cons, if_false, Bool.false_eq_true, List.singleton_append, hread,
      Option.bind_eq_bind, Option.bind_some, readEnd_eofPacket]
    rfl

lemma readRows_map (binary : Bool) {n : ℕ} (hn : n ≠ 0) (rows : List (List (SqlValue C)))
    (h : ∀ row ∈ rows, row.length = n ∧
      ∀ v ∈ row, (utf8 (v.textValue.getD [])).length < 2 ^ 64) (ps : List (List UInt8)) :
    readRows binary n (rows.map (rowPacket binary) ++ eofPacket :: ps) =
      some (rows.map (rowPacket binary), ps) := by
  induction rows with
  | nil =>
    have hend : endsRows eofPacket = true := rfl
    rw [List.map_nil, List.nil_append, readRows, if_pos hend, whole_readEof]
    rfl
  | cons row rows ih =>
    have hrow := h row List.mem_cons_self
    obtain ⟨hends, his⟩ := isRow_rowPacket binary hn hrow.1 hrow.2
    have hrest := ih fun r hr => h r (List.mem_cons_of_mem row hr)
    rw [List.map_cons, List.cons_append, readRows, if_neg (by rw [hends]; exact Bool.false_ne_true),
      if_pos his, hrest]
    rfl

/-! ### Responses -/

/-- An ERR answers every command that is answered at all. -/
lemma answers_err {kind : ResponseKind} (hkind : kind ≠ .nothing) {code : ℕ} (h : code < 2 ^ 16)
    (state : String) (message : List Char) :
    Answers kind [errPacket code state message]
      (.err code (errState state) (utf8 message)) := by
  intro rest
  exact readResponse_of_err hkind (whole_readErr h state message) rest

lemma whole_readErr_okPacket (n : ℕ) : whole readErr (okPacketWithRows n) = none :=
  whole_readHeader_bind (by decide) _ _

lemma answers_ack {n : ℕ} (h : n < 2 ^ 64) : Answers .ack [okPacketWithRows n] (.ok n) := by
  intro rest
  rw [List.singleton_append,
    readResponse_of_not_err (by decide) (whole_readErr_okPacket n)]
  simp only [readReply, whole_readOk h]
  rfl

lemma answers_resultSet_ok (binary : Bool) {n : ℕ} (h : n < 2 ^ 64) :
    Answers (.resultSet binary) [okPacketWithRows n] (.ok n) := by
  intro rest
  rw [List.singleton_append,
    readResponse_of_not_err (by intro h; cases h) (whole_readErr_okPacket n)]
  simp only [readReply, whole_readOk h]

/-- **A result of the database is answered by one response.** -/
lemma answers_sendResult (binary : Bool) {result : Except (List Char) (SqlTypedResult C)}
    (h : ∀ r, result = .ok r → r.Sound) :
    ∃ response, Answers (.resultSet binary) (sendResult result binary) response := by
  rcases result with e | ⟨columns, rows⟩ | ⟨command, affectedRows⟩
  · exact ⟨_, answers_err (by intro h; cases h) (by decide) _ _⟩
  · obtain ⟨hcolumns, hcount, hnames, hrows⟩ := h _ rfl
    have hn : columns.length ≠ 0 := by
      rwa [ne_eq, List.length_eq_zero_iff]
    have hmemory : (utf8 "memory".toList).length < 2 ^ 64 := by decide
    obtain ⟨b, bs, hheader, hzero, herr⟩ := putLenencInt_eq_cons hn
    refine ⟨.resultSet (columns.map fun c => layoutOf c.dataType)
      (rows.map (rowPacket binary)), fun rest => ?_⟩
    have hdefinitions := readAnnounced_map (columnDefinition "memory".toList)
      (fun c => layoutOf c.dataType) columns
      (fun c hc => whole_readColumnDefinition hmemory (hnames c hc))
      (rows.map (rowPacket binary) ++ eofPacket :: rest)
    have hempty : columns.isEmpty = false := by
      rwa [List.isEmpty_eq_false_iff]
    rw [hempty, if_neg Bool.false_ne_true, List.singleton_append] at hdefinitions
    have hread := readRows_map binary hn rows hrows rest
    have hpackets : sendResult (.ok (.query columns rows)) binary ++ rest =
        putLenencInt columns.length :: (columns.map (columnDefinition "memory".toList) ++
          eofPacket :: (rows.map (rowPacket binary) ++ eofPacket :: rest)) := by
      have hform : rowPacket (C := C) binary = if binary then binaryRow else textRow := by
        funext row
        cases binary <;> rfl
      simp [sendResult, resultsetHeader, hform]
    have hnoErr : whole readErr (putLenencInt columns.length) = none := by
      rw [hheader]
      exact whole_readHeader_bind herr _ _
    have hnoOk : whole readOk (putLenencInt columns.length) = none := by
      rw [hheader]
      exact whole_readHeader_bind hzero _ _
    have hnumber : whole readLenencInt (putLenencInt columns.length) = some columns.length :=
      whole_of_takes (takes_readLenencInt hcount)
    rw [hpackets, readResponse_of_not_err (by intro h; cases h) hnoErr]
    simp only [readReply, hnoOk, readResultSet, hnumber, Option.bind_eq_bind, Option.bind_some,
      if_neg hn, hdefinitions, hread]
    rfl
  · exact ⟨_, answers_resultSet_ok binary (h _ rfl)⟩

/-- The name of a parameter is short. -/
lemma length_paramName {idx : ℕ} (h : idx < 2 ^ 16) :
    (utf8 ('?' :: Nat.toDigits 10 (idx + 1))).length < 2 ^ 64 := by
  have hdigits : (Nat.toDigits 10 (idx + 1)).length ≤ 5 :=
    (Nat.length_toDigits_le_iff (by decide) (by decide)).2 (by omega)
  have hbytes := length_utf8_le ('?' :: Nat.toDigits 10 (idx + 1))
  rw [List.length_cons] at hbytes
  omega

/-- **A preparation is answered by as many definitions as it announces.** -/
lemma answers_prepareReply {database : List Char} {id paramCount : ℕ} {columns : List SqlColumn}
    (hdatabase : (utf8 database).length < 2 ^ 64) (hid : id < 2 ^ 32)
    (hparams : paramCount < 2 ^ 16) (hcolumns : columns.length < 2 ^ 16)
    (hnames : ∀ c ∈ columns, (utf8 c.name).length < 2 ^ 64) :
    Answers .prepare (prepareReply database id paramCount columns)
      (.prepared id ((List.range paramCount).map fun _ => .text)
        (columns.map fun c => layoutOf c.dataType)) := by
  intro rest
  have hcolumnsRead := readAnnounced_map (columnDefinition database)
    (fun c => layoutOf c.dataType) columns
    (fun c hc => whole_readColumnDefinition hdatabase (hnames c hc)) rest
  have hparamsRead := readAnnounced_map paramColumnDefinition (fun _ => Layout.text)
    (List.range paramCount)
    (fun idx hidx => whole_readColumnDefinition (by decide)
      (length_paramName (lt_trans (List.mem_range.1 hidx) hparams)))
    (columns.map (columnDefinition database) ++
      ((if columns.isEmpty then [] else [eofPacket]) ++ rest))
  rw [List.length_range] at hparamsRead
  have hempty : (if 0 < paramCount then [eofPacket] else []) =
      if (List.range paramCount).isEmpty then [] else [eofPacket] := by
    cases paramCount with
    | zero => rfl
    | succ n => simp [List.range_succ]
  have hpackets : prepareReply database id paramCount columns ++ rest =
      prepareOk id columns.length paramCount ::
        ((List.range paramCount).map paramColumnDefinition ++
          ((if (List.range paramCount).isEmpty then [] else [eofPacket]) ++
            (columns.map (columnDefinition database) ++
              ((if columns.isEmpty then [] else [eofPacket]) ++ rest)))) := by
    simp only [prepareReply, hempty, List.cons_append, List.append_assoc]
  have hnoErr : whole readErr (prepareOk id columns.length paramCount) = none :=
    whole_readHeader_bind (by decide) _ _
  have hhead := whole_readPrepareOk hid hcolumns hparams
  rw [hpackets, readResponse_of_not_err (by decide) hnoErr]
  simp only [readReply, readPrepared, hhead, Option.bind_eq_bind, Option.bind_some, hparamsRead,
    hcolumnsRead]
  rfl

end Rsduck.Mysql
