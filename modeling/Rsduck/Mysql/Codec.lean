import Rsduck.Lib.Wire

/-!
Packets of the MySQL protocol on a byte stream.

A payload goes out as chunks of at most `maxPacketLen` bytes, each after a header with its
length and a sequence number; a chunk below that length is the last one of its payload.
-/

namespace Rsduck.Mysql

open Lib.Wire Lib.Wire.Reader

def maxPacketLen : ℕ := 0xffffff

structure Packet where
  sequence : UInt8
  payload : List UInt8

def packetHeader (len : ℕ) (sequence : UInt8) : List UInt8 := leBytes 3 len ++ [sequence]

/-- The bytes of a payload, and the sequence number after it. -/
def writePacket (sequence : UInt8) (payload : List UInt8) : List UInt8 × UInt8 :=
  let len := min payload.length maxPacketLen
  let out := packetHeader len sequence ++ payload.take len
  if len < maxPacketLen then (out, sequence + 1)
  else
    let rest := writePacket (sequence + 1) (payload.drop len)
    (out ++ rest.1, rest.2)
  termination_by payload.length
  decreasing_by
    have : 0 < maxPacketLen := by decide
    rw [List.length_drop]
    omega

/-- A header and the chunk it announces. -/
def readChunk : Reader (UInt8 × List UInt8) := do
  let header ← take 4 "read MySQL packet header failed: early eof"
  let chunk ← take (ofLeBytes (header.take 3)) "read MySQL packet payload failed: early eof"
  return (header.getD 3 0, chunk)

/-- A chunk read leaves fewer bytes. -/
lemma length_of_readChunk {s rest : List UInt8} {c : UInt8 × List UInt8}
    (h : readChunk.run s = .ok (c, rest)) : rest.length < s.length := by
  obtain ⟨header, t, h4, h⟩ := run_bind_eq_ok.1 h
  obtain ⟨chunk, t', hlen, h⟩ := run_bind_eq_ok.1 h
  obtain ⟨hs, -, rfl⟩ := run_take_eq_ok.1 h4
  obtain ⟨-, -, rfl⟩ := run_take_eq_ok.1 hlen
  rw [StateT.run_pure] at h
  cases h
  rw [List.length_drop, List.length_drop]
  omega

/-- The loop of `read_packet`: the chunks after those already read. -/
def readPacketFrom (payload stream : List UInt8) : Except String (Packet × List UInt8) :=
  match _h : readChunk.run stream with
  | .error e => .error e
  | .ok ((sequence, chunk), rest) =>
    if chunk.length < maxPacketLen then .ok ({ sequence, payload := payload ++ chunk }, rest)
    else readPacketFrom (payload ++ chunk) rest
  termination_by stream.length
  decreasing_by exact length_of_readChunk _h

def readPacket (stream : List UInt8) : Except String (Packet × List UInt8) :=
  readPacketFrom [] stream

/-- Payloads one after the other. -/
def writePackets (sequence : UInt8) : List (List UInt8) → List UInt8 × UInt8
  | [] => ([], sequence)
  | p :: ps =>
    let first := writePacket sequence p
    let rest := writePackets first.2 ps
    (first.1 ++ rest.1, rest.2)

/-- That many calls of `read_packet`. -/
def readPackets : ℕ → List UInt8 → Except String (List Packet × List UInt8)
  | 0, stream => .ok ([], stream)
  | n + 1, stream => do
    let (packet, stream) ← readPacket stream
    let (packets, stream) ← readPackets n stream
    return (packet :: packets, stream)

/-! ### Chunks -/

/-- The chunks of a stream, each with its sequence number. -/
def readChunks (stream : List UInt8) : Except String (List (UInt8 × List UInt8)) :=
  if stream = [] then .ok []
  else
    match _h : readChunk.run stream with
    | .error e => .error e
    | .ok (chunk, rest) => (readChunks rest).map (chunk :: ·)
  termination_by stream.length
  decreasing_by exact length_of_readChunk _h

/-- Chunks with the sequence numbers from `sequence` on. -/
def numbered (sequence : UInt8) : List (List UInt8) → List (UInt8 × List UInt8)
  | [] => []
  | c :: cs => (sequence, c) :: numbered (sequence + 1) cs

def chunkBytes (c : UInt8 × List UInt8) : List UInt8 := packetHeader c.2.length c.1 ++ c.2

@[simp] lemma length_numbered (sequence : UInt8) (cs : List (List UInt8)) :
    (numbered sequence cs).length = cs.length := by
  induction cs generalizing sequence with
  | nil => rfl
  | cons c cs ih => rw [numbered, List.length_cons, List.length_cons, ih]

/-- A chunk's bytes are read back as that chunk. -/
lemma takes_readChunk {c : UInt8 × List UInt8} (h : c.2.length ≤ maxPacketLen) :
    Takes readChunk (chunkBytes c) c := by
  have hlt : c.2.length < 256 ^ 3 := by
    have : maxPacketLen < 256 ^ 3 := by decide
    omega
  have hheader : (packetHeader c.2.length c.1).length = 4 := by
    rw [packetHeader, List.length_append, length_leBytes, List.length_singleton]
  have hlen : ofLeBytes ((packetHeader c.2.length c.1).take 3) = c.2.length := by
    rw [packetHeader, List.take_left' (length_leBytes 3 _), ofLeBytes_leBytes_of_lt hlt]
  have hseq : (packetHeader c.2.length c.1).getD 3 0 = c.1 := rfl
  unfold readChunk chunkBytes
  refine takes_bind (takes_take hheader) ?_
  rw [hlen, hseq]
  exact takes_map (takes_take rfl)

/-- What `write_packet` puts on the stream: the pieces of the payload, numbered. -/
lemma writePacket_eq (sequence : UInt8) (payload : List UInt8) :
    writePacket sequence payload =
      ((numbered sequence (pieces maxPacketLen payload)).flatMap chunkBytes,
        sequence + UInt8.ofNat (pieces maxPacketLen payload).length) := by
  induction sequence, payload using writePacket.induct with
  | case1 sequence payload len hlt =>
    have hp : payload.length < maxPacketLen := by omega
    have hlen : min payload.length maxPacketLen = payload.length := by omega
    rw [writePacket, pieces_of_lt hp, hlen, if_pos hp, List.take_length]
    simp [numbered, chunkBytes]
  | case2 sequence payload len hlt ih =>
    have hp : maxPacketLen ≤ payload.length := by omega
    have hlen : min payload.length maxPacketLen = maxPacketLen := by omega
    rw [show len = maxPacketLen from hlen] at ih
    have htake : (payload.take maxPacketLen).length = maxPacketLen := by
      rw [List.length_take, Nat.min_comm, hlen]
    rw [writePacket, pieces_of_le (by decide) hp, hlen, if_neg (by omega)]
    simp only [ih, numbered, List.flatMap_cons, chunkBytes, htake, List.length_cons, Prod.mk.injEq,
      true_and]
    rw [Nat.add_comm, UInt8.ofNat_add, ← UInt8.add_assoc]
    rfl

/-! ### Reading back -/

lemma readPacketFrom_of_readChunk {payload stream rest chunk : List UInt8} {sequence : UInt8}
    (h : readChunk.run stream = .ok ((sequence, chunk), rest)) :
    readPacketFrom payload stream =
      if chunk.length < maxPacketLen then .ok ({ sequence, payload := payload ++ chunk }, rest)
      else readPacketFrom (payload ++ chunk) rest := by
  rw [readPacketFrom]
  split
  · rename_i h'
    rw [h] at h'
    cases h'
  · rename_i h'
    rw [h] at h'
    cases h'
    rfl

lemma readChunks_of_readChunk {stream rest : List UInt8} {chunk : UInt8 × List UInt8}
    (hne : stream ≠ []) (h : readChunk.run stream = .ok (chunk, rest)) :
    readChunks stream = (readChunks rest).map (chunk :: ·) := by
  rw [readChunks, if_neg hne]
  split
  · rename_i h'
    rw [h] at h'
    cases h'
  · rename_i h'
    rw [h] at h'
    cases h'
    rfl

/-- The loop takes the pieces of one payload and stops after the short one. -/
lemma readPacketFrom_pieces (acc payload rest : List UInt8) (sequence : UInt8) :
    readPacketFrom acc
        ((numbered sequence (pieces maxPacketLen payload)).flatMap chunkBytes ++ rest) =
      .ok ({ sequence := sequence + UInt8.ofNat ((pieces maxPacketLen payload).length - 1)
             payload := acc ++ payload }, rest) := by
  induction payload using pieces.induct maxPacketLen generalizing acc sequence with
  | case1 payload h ih =>
    have htake : (payload.take maxPacketLen).length = maxPacketLen := by
      rw [List.length_take]
      omega
    have hread := takes_readChunk (c := (sequence, payload.take maxPacketLen)) htake.le
    rw [pieces_of_le h.1 h.2, numbered, List.flatMap_cons, List.append_assoc,
      readPacketFrom_of_readChunk (hread _), if_neg (by omega), ih]
    have hpos : 0 < (pieces maxPacketLen (payload.drop maxPacketLen)).length := by
      rw [pieces]
      split_ifs <;> simp
    have hseq : sequence + 1 + UInt8.ofNat
          ((pieces maxPacketLen (payload.drop maxPacketLen)).length - 1) =
        sequence + UInt8.ofNat (pieces maxPacketLen (payload.drop maxPacketLen)).length := by
      obtain ⟨n, hn⟩ := Nat.exists_eq_succ_of_ne_zero hpos.ne'
      rw [hn, Nat.succ_sub_one, Nat.succ_eq_add_one, Nat.add_comm, UInt8.ofNat_add,
        ← UInt8.add_assoc]
      rfl
    rw [hseq, List.append_assoc, List.take_append_drop, List.length_cons, Nat.add_sub_cancel]
  | case2 payload h =>
    have hp : payload.length < maxPacketLen := by
      have : 0 < maxPacketLen := by decide
      omega
    have hread := takes_readChunk (c := (sequence, payload)) hp.le
    rw [pieces_of_lt hp, numbered, numbered, List.flatMap_singleton,
      readPacketFrom_of_readChunk (hread _), if_pos hp]
    simp

lemma readPacket_writePacket (sequence : UInt8) (payload rest : List UInt8) :
    readPacket ((writePacket sequence payload).1 ++ rest) =
      .ok ({ sequence := sequence + UInt8.ofNat ((pieces maxPacketLen payload).length - 1)
             payload }, rest) := by
  rw [readPacket, writePacket_eq, readPacketFrom_pieces, List.nil_append]

lemma length_le_of_mem_pieces {limit : ℕ} {xs c : List UInt8} (h0 : 0 < limit)
    (h : c ∈ pieces limit xs) : c.length ≤ limit := by
  induction xs using pieces.induct limit with
  | case1 xs hl ih =>
    rw [pieces_of_le hl.1 hl.2] at h
    rcases List.mem_cons.1 h with rfl | h
    · rw [List.length_take]
      omega
    · exact ih h
  | case2 xs hl =>
    rw [pieces, if_neg hl, List.mem_singleton] at h
    subst h
    omega

lemma numbered_append (sequence : UInt8) (cs ds : List (List UInt8)) :
    numbered sequence (cs ++ ds) =
      numbered sequence cs ++ numbered (sequence + UInt8.ofNat cs.length) ds := by
  induction cs generalizing sequence with
  | nil => simp [numbered]
  | cons c cs ih =>
    have hseq : sequence + 1 + UInt8.ofNat cs.length = sequence + UInt8.ofNat (cs.length + 1) := by
      rw [Nat.add_comm, UInt8.ofNat_add, ← UInt8.add_assoc]
      rfl
    rw [List.cons_append, numbered, numbered, ih, hseq, List.length_cons, List.cons_append]

/-- The numbers of the chunks go up by one, modulo 256. -/
lemma map_fst_numbered (sequence : UInt8) (cs : List (List UInt8)) :
    (numbered sequence cs).map (·.1) =
      (List.range cs.length).map fun i => sequence + UInt8.ofNat i := by
  induction cs generalizing sequence with
  | nil => rfl
  | cons c cs ih =>
    rw [numbered, List.map_cons, ih, List.length_cons, List.range_succ_eq_map, List.map_cons,
      List.map_map]
    congr 1
    · simp
    · refine List.map_congr_left fun i _ => ?_
      change sequence + 1 + UInt8.ofNat i = sequence + UInt8.ofNat (i + 1)
      rw [Nat.add_comm i, UInt8.ofNat_add, ← UInt8.add_assoc]
      rfl

/-- A stream of several payloads is that of all their pieces, numbered through. -/
lemma writePackets_eq (sequence : UInt8) (payloads : List (List UInt8)) :
    writePackets sequence payloads =
      ((numbered sequence (payloads.flatMap (pieces maxPacketLen))).flatMap chunkBytes,
        sequence + UInt8.ofNat (payloads.flatMap (pieces maxPacketLen)).length) := by
  induction payloads generalizing sequence with
  | nil => simp [writePackets, numbered]
  | cons p ps ih =>
    rw [writePackets, writePacket_eq, ih, List.flatMap_cons, numbered_append, List.flatMap_append,
      List.length_append, UInt8.ofNat_add, ← UInt8.add_assoc]

lemma readChunks_flatMap {cs : List (UInt8 × List UInt8)}
    (h : ∀ c ∈ cs, c.2.length ≤ maxPacketLen) : readChunks (cs.flatMap chunkBytes) = .ok cs := by
  induction cs with
  | nil =>
    rw [List.flatMap_nil, readChunks]
    rfl
  | cons c cs ih =>
    have hne : chunkBytes c ++ cs.flatMap chunkBytes ≠ [] := by simp [chunkBytes, packetHeader]
    rw [List.flatMap_cons, readChunks_of_readChunk hne
      (takes_readChunk (h c List.mem_cons_self) _), ih fun d hd => h d (List.mem_cons_of_mem c hd)]
    rfl

lemma mem_numbered {sequence : UInt8} {cs : List (List UInt8)} {c : UInt8 × List UInt8}
    (h : c ∈ numbered sequence cs) : c.2 ∈ cs := by
  induction cs generalizing sequence with
  | nil => cases h
  | cons d cs ih =>
    rcases List.mem_cons.1 h with rfl | h
    · exact List.mem_cons_self
    · exact List.mem_cons_of_mem d (ih h)

lemma readPackets_append (sequence : UInt8) (payloads : List (List UInt8)) (rest : List UInt8) :
    ∃ packets, readPackets payloads.length ((writePackets sequence payloads).1 ++ rest) =
      .ok (packets, rest) ∧ packets.map (·.payload) = payloads := by
  induction payloads generalizing sequence with
  | nil => exact ⟨[], rfl, rfl⟩
  | cons p ps ih =>
    obtain ⟨packets, hread, hmap⟩ := ih (writePacket sequence p).2
    have hfirst := readPacket_writePacket sequence p
      ((writePackets (writePacket sequence p).2 ps).1 ++ rest)
    refine ⟨{ sequence := sequence + UInt8.ofNat ((pieces maxPacketLen p).length - 1), payload := p }
      :: packets, ?_, congrArg (p :: ·) hmap⟩
    rw [List.length_cons, readPackets, writePackets, List.append_assoc, hfirst]
    simp only [bind, Except.bind]
    rw [hread]
    rfl

/-- **Framing loses nothing**: payloads written one after the other are read back as they
were, the stream is used up, and the chunks on it are numbered consecutively modulo 256. -/
theorem readPackets_writePackets (sequence : UInt8) (payloads : List (List UInt8)) :
    ∃ packets chunks,
      readPackets payloads.length (writePackets sequence payloads).1 = .ok (packets, []) ∧
        packets.map (·.payload) = payloads ∧
        readChunks (writePackets sequence payloads).1 = .ok chunks ∧
        chunks.map (·.1) = (List.range chunks.length).map (fun i => sequence + UInt8.ofNat i) ∧
        (writePackets sequence payloads).2 = sequence + UInt8.ofNat chunks.length := by
  obtain ⟨packets, hread, hmap⟩ := readPackets_append sequence payloads []
  rw [List.append_nil] at hread
  have hlen : ∀ c ∈ numbered sequence (payloads.flatMap (pieces maxPacketLen)),
      c.2.length ≤ maxPacketLen := by
    intro c hc
    obtain ⟨p, -, hp⟩ := List.mem_flatMap.1 (mem_numbered hc)
    exact length_le_of_mem_pieces (by decide) hp
  refine ⟨packets, numbered sequence (payloads.flatMap (pieces maxPacketLen)), hread, hmap, ?_, ?_,
    ?_⟩
  · rw [writePackets_eq]
    exact readChunks_flatMap hlen
  · rw [map_fst_numbered, length_numbered]
  · rw [writePackets_eq, length_numbered]

end Rsduck.Mysql
