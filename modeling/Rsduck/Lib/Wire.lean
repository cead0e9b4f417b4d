import Mathlib.Tactic.Common
import Mathlib.Tactic.Ring

/-!
Byte streams: readers that take bytes off the front, and little-endian numbers.

`Takes` says that a reader takes exactly the given bytes, whatever follows them. Its rules
put the readers of a message's parts together to one of the message.
-/

namespace Rsduck.Lib.Wire

/-- A reader of values off the front of a byte stream. -/
abbrev Reader (α : Type) := StateT (List UInt8) (Except String) α

namespace Reader

variable {α β : Type}

/-- The reader takes exactly these bytes and makes `a` of them. -/
def Takes (r : Reader α) (bytes : List UInt8) (a : α) : Prop :=
  ∀ rest, r.run (bytes ++ rest) = .ok (a, rest)

/-- The next `n` bytes, or the error. -/
def take (n : ℕ) (error : String) : Reader (List UInt8) := fun s =>
  if s.length < n then .error error else .ok (s.take n, s.drop n)

lemma run_bind_eq_ok {r : Reader α} {f : α → Reader β} {s s' : List UInt8} {b : β} :
    (r >>= f).run s = .ok (b, s') ↔
      ∃ a t, r.run s = .ok (a, t) ∧ (f a).run t = .ok (b, s') := by
  rw [StateT.run_bind]
  rcases h : r.run s with e | ⟨a, t⟩
  · simp [bind, Except.bind]
  · constructor
    · intro hf
      exact ⟨a, t, rfl, hf⟩
    · rintro ⟨a', t', hr, hf⟩
      cases hr
      exact hf

lemma run_map_eq_ok {r : Reader α} {f : α → β} {s s' : List UInt8} {b : β} :
    (f <$> r).run s = .ok (b, s') ↔ ∃ a, r.run s = .ok (a, s') ∧ b = f a := by
  rw [← bind_pure_comp, run_bind_eq_ok]
  constructor
  · rintro ⟨a, t, hr, hf⟩
    rw [StateT.run_pure] at hf
    cases hf
    exact ⟨a, hr, rfl⟩
  · rintro ⟨a, hr, rfl⟩
    exact ⟨a, s', hr, rfl⟩

lemma run_take {n : ℕ} {error : String} {s : List UInt8} :
    (take n error).run s =
      if s.length < n then .error error else .ok (s.take n, s.drop n) := rfl

lemma run_take_eq_ok {n : ℕ} {error : String} {s s' xs : List UInt8} :
    (take n error).run s = .ok (xs, s') ↔ n ≤ s.length ∧ xs = s.take n ∧ s' = s.drop n := by
  rw [run_take]
  split_ifs with h
  · constructor
    · intro h'
      cases h'
    · rintro ⟨h', -⟩
      omega
  · constructor
    · intro h'
      cases h'
      exact ⟨by omega, rfl, rfl⟩
    · rintro ⟨-, rfl, rfl⟩
      rfl

lemma takes_pure (a : α) : Takes (pure a) [] a := fun _ => rfl

lemma takes_bind {r : Reader α} {f : α → Reader β} {xs ys : List UInt8} {a : α} {b : β}
    (hr : Takes r xs a) (hf : Takes (f a) ys b) : Takes (r >>= f) (xs ++ ys) b := by
  intro rest
  have h : r.run (xs ++ (ys ++ rest)) = .ok (a, ys ++ rest) := hr (ys ++ rest)
  rw [StateT.run_bind, List.append_assoc, h]
  exact hf rest

lemma takes_map {r : Reader α} {f : α → β} {xs : List UInt8} {a : α} (hr : Takes r xs a) :
    Takes (f <$> r) xs (f a) := by
  intro rest
  rw [StateT.run_map, hr rest]
  rfl

lemma takes_take {n : ℕ} {error : String} {xs : List UInt8} (h : xs.length = n) :
    Takes (take n error) xs xs := by
  intro rest
  have hlen : ¬ (xs ++ rest).length < n := by
    rw [List.length_append]
    omega
  rw [run_take, if_neg hlen, List.take_left' h, List.drop_left' h]

lemma Takes.run_append {r : Reader α} {f : α → Reader β} {xs rest : List UInt8} {a : α}
    (h : Takes r xs a) : (r >>= f).run (xs ++ rest) = (f a).run rest := by
  rw [StateT.run_bind, h rest]
  rfl

/-- What a reader takes off the front of given bytes is determined. -/
lemma Takes.unique {r : Reader α} {xs ys s t : List UInt8} {a b : α} (hx : Takes r xs a)
    (hy : Takes r ys b) (h : xs ++ s = ys ++ t) : xs = ys ∧ a = b ∧ s = t := by
  have hrun := hx s
  rw [h, hy t] at hrun
  cases hrun
  exact ⟨List.append_cancel_right h, rfl, rfl⟩

/-! ### Readers that see only what they take -/

/-- A success takes some bytes off the front, and depends on no others. -/
def Exact (r : Reader α) : Prop :=
  ∀ s a rest, r.run s = .ok (a, rest) → ∃ xs, s = xs ++ rest ∧ Takes r xs a

lemma exact_pure (a : α) : Exact (pure a : Reader α) := by
  intro s b rest h
  cases h
  exact ⟨[], rfl, takes_pure a⟩

lemma exact_throw (e : String) : Exact (throw e : Reader α) := by
  intro s b rest h
  cases h

lemma exact_take (n : ℕ) (error : String) : Exact (take n error) := by
  intro s xs rest h
  obtain ⟨hle, rfl, rfl⟩ := run_take_eq_ok.1 h
  exact ⟨s.take n, (List.take_append_drop n s).symm, takes_take (by simpa using hle)⟩

lemma exact_bind {r : Reader α} {f : α → Reader β} (hr : Exact r) (hf : ∀ a, Exact (f a)) :
    Exact (r >>= f) := by
  intro s b rest h
  obtain ⟨a, t, hrun, hnext⟩ := run_bind_eq_ok.1 h
  obtain ⟨xs, rfl, hxs⟩ := hr s a t hrun
  obtain ⟨ys, rfl, hys⟩ := hf a t b rest hnext
  exact ⟨xs ++ ys, (List.append_assoc xs ys rest).symm, takes_bind hxs hys⟩

lemma exact_map {r : Reader α} (f : α → β) (hr : Exact r) : Exact (f <$> r) := by
  rw [← bind_pure_comp]
  exact exact_bind hr fun a => exact_pure (f a)

lemma exact_ite {p : Prop} [Decidable p] {r r' : Reader α} (hr : Exact r) (hr' : Exact r') :
    Exact (if p then r else r') := by
  split_ifs
  · exact hr
  · exact hr'

/-! ### How many bytes a reader takes -/

/-- Where the bytes begin with a whole value, the reader takes just those of the value; elsewhere it
fails. -/
def Sized (size : List UInt8 → Option ℕ) (r : Reader α) : Prop :=
  ∀ s, (∀ n, size s = some n → n ≤ s.length ∧ ∃ a, r.run s = .ok (a, s.drop n)) ∧
    (size s = none → ∃ e, r.run s = .error e)

/-- A value of `n` bytes. -/
def wholeSize (n : ℕ) (s : List UInt8) : Option ℕ := if n ≤ s.length then some n else none

lemma wholeSize_eq_some {n m : ℕ} {s : List UInt8} :
    wholeSize n s = some m ↔ n ≤ s.length ∧ n = m := by
  simp [wholeSize]

lemma wholeSize_eq_none {n : ℕ} {s : List UInt8} : wholeSize n s = none ↔ s.length < n := by
  simp [wholeSize]

lemma Sized.eq_drop {size : List UInt8 → Option ℕ} {r : Reader α} (h : Sized size r)
    {s rest : List UInt8} {a : α} (hrun : r.run s = .ok (a, rest)) :
    ∃ n, size s = some n ∧ n ≤ s.length ∧ rest = s.drop n := by
  rcases hn : size s with _ | n
  · obtain ⟨e, he⟩ := (h s).2 hn
    rw [he] at hrun
    cases hrun
  · obtain ⟨hle, a', hok⟩ := (h s).1 n hn
    rw [hok] at hrun
    cases hrun
    exact ⟨n, rfl, hle, rfl⟩

lemma sized_pure (a : α) : Sized (wholeSize 0) (pure a) := by
  intro s
  refine ⟨?_, ?_⟩
  · intro n hn
    obtain ⟨-, rfl⟩ := wholeSize_eq_some.1 hn
    exact ⟨Nat.zero_le _, a, rfl⟩
  · intro hn
    have := wholeSize_eq_none.1 hn
    omega

lemma sized_throw (e : String) : Sized (fun _ => none) (throw e : Reader α) := by
  intro s
  refine ⟨?_, fun _ => ⟨e, rfl⟩⟩
  intro n hn
  cases hn

lemma sized_take (n : ℕ) (error : String) : Sized (wholeSize n) (take n error) := by
  intro s
  rw [run_take]
  refine ⟨?_, ?_⟩
  · intro m hm
    obtain ⟨hle, rfl⟩ := wholeSize_eq_some.1 hm
    rw [if_neg (by omega)]
    exact ⟨hle, _, rfl⟩
  · intro hn
    rw [if_pos (wholeSize_eq_none.1 hn)]
    exact ⟨error, rfl⟩

/-- The second value is looked for after the first. -/
lemma sized_bind {size : List UInt8 → Option ℕ} {next : α → List UInt8 → Option ℕ}
    {total : List UInt8 → Option ℕ} {r : Reader α} {f : α → Reader β} (h : Sized size r)
    (hf : ∀ a, Sized (next a) (f a))
    (hnone : ∀ s, size s = none → total s = none)
    (hsome : ∀ s n a, r.run s = .ok (a, s.drop n) → n ≤ s.length → size s = some n →
      total s = (next a (s.drop n)).map (n + ·)) : Sized total (r >>= f) := by
  intro s
  rcases hn : size s with _ | n
  · obtain ⟨e, he⟩ := (h s).2 hn
    rw [StateT.run_bind, he, hnone s hn]
    refine ⟨?_, fun _ => ⟨e, rfl⟩⟩
    intro m hm
    cases hm
  · obtain ⟨hle, a, ha⟩ := (h s).1 n hn
    obtain ⟨hthere, hmissing⟩ := hf a (s.drop n)
    rw [StateT.run_bind, ha, hsome s n a ha hle hn]
    show (∀ m, _ → m ≤ s.length ∧ ∃ b, (f a).run (s.drop n) = _) ∧
      (_ → ∃ e, (f a).run (s.drop n) = _)
    refine ⟨?_, ?_⟩
    · intro m hm
      obtain ⟨k, hk, rfl⟩ := Option.map_eq_some_iff.1 hm
      obtain ⟨hkle, b, hb⟩ := hthere k hk
      rw [List.length_drop] at hkle
      rw [List.drop_drop] at hb
      exact ⟨by omega, b, hb⟩
    · intro hm
      exact hmissing (Option.map_eq_none_iff.1 hm)

lemma sized_whole_bind {m n : ℕ} {r : Reader α} {f : α → Reader β} (h : Sized (wholeSize m) r)
    (hf : ∀ a, Sized (wholeSize n) (f a)) : Sized (wholeSize (m + n)) (r >>= f) := by
  refine sized_bind h hf ?_ ?_
  · intro s hs
    have := wholeSize_eq_none.1 hs
    exact wholeSize_eq_none.2 (by omega)
  · intro s k a _ hle hk
    obtain ⟨-, rfl⟩ := wholeSize_eq_some.1 hk
    unfold wholeSize
    rw [List.length_drop]
    split_ifs
    · rfl
    · omega
    · omega
    · rfl

lemma sized_return {size : List UInt8 → Option ℕ} {r : Reader α} (f : α → β) (h : Sized size r) :
    Sized size (r >>= fun a => pure (f a)) := by
  refine sized_bind h (fun a => sized_pure (f a)) (fun s hs => hs) ?_
  intro s n a _ _ hn
  rw [hn]
  unfold wholeSize
  rw [if_pos (Nat.zero_le _)]
  rfl

lemma sized_map {size : List UInt8 → Option ℕ} {r : Reader α} (f : α → β) (h : Sized size r) :
    Sized size (f <$> r) := by
  rw [← bind_pure_comp]
  exact sized_return f h

lemma sized_ite {p : Prop} [Decidable p] {size size' : List UInt8 → Option ℕ} {r r' : Reader α}
    (h : Sized size r) (h' : Sized size' r') :
    Sized (fun s => if p then size s else size' s) (if p then r else r') := by
  split_ifs
  · exact h
  · exact h'

/-! ### Rows of values -/

section Rows

variable {ι : Type} {reader : ι → Reader β} {bytes : ι → List UInt8} (Ok : ι → β → Prop)
  {Good : ι → Prop}

/-- **A row is read back right exactly when each of its values is**: good values are taken as
they were put, and a bad one is never read right, whatever follows it. -/
lemma mapM_recovers_iff
    (hgood : ∀ i, Good i → ∃ b, Takes (reader i) (bytes i) b ∧ Ok i b)
    (hbad : ∀ i, ¬ Good i → ∀ rest b s, (reader i).run (bytes i ++ rest) = .ok (b, s) → ¬ Ok i b)
    (is : List ι) (rest : List UInt8) :
    (∃ bs, (is.mapM reader).run (is.flatMap bytes ++ rest) = .ok (bs, rest) ∧
      List.Forall₂ Ok is bs) ↔ ∀ i ∈ is, Good i := by
  induction is with
  | nil =>
    constructor
    · intro _ i hi
      cases hi
    · intro _
      exact ⟨[], rfl, List.Forall₂.nil⟩
  | cons i is ih =>
    rw [List.mapM_cons, List.flatMap_cons, List.append_assoc, List.forall_mem_cons]
    constructor
    · rintro ⟨bs, hrun, hok⟩
      obtain ⟨b, s, hfirst, hrun⟩ := run_bind_eq_ok.1 hrun
      obtain ⟨bs', s', hrest, hrun⟩ := run_bind_eq_ok.1 hrun
      rw [StateT.run_pure] at hrun
      cases hrun
      obtain ⟨hb, hbs⟩ := List.forall₂_cons.1 hok
      have hi : Good i := by
        by_contra h
        exact hbad i h _ _ _ hfirst hb
      obtain ⟨b', htakes, -⟩ := hgood i hi
      rw [htakes] at hfirst
      cases hfirst
      exact ⟨hi, ih.1 ⟨bs', hrest, hbs⟩⟩
    · rintro ⟨hi, his⟩
      obtain ⟨b, htakes, hb⟩ := hgood i hi
      obtain ⟨bs, hrest, hbs⟩ := ih.2 his
      refine ⟨b :: bs, ?_, List.Forall₂.cons hb hbs⟩
      rw [run_bind_eq_ok]
      refine ⟨b, _, htakes _, ?_⟩
      rw [run_bind_eq_ok]
      exact ⟨bs, _, hrest, rfl⟩

end Rows

end Reader

/-! ### Little-endian numbers -/

/-- The low `k` bytes of a number, the lowest first. -/
def leBytes : ℕ → ℕ → List UInt8
  | 0, _ => []
  | k + 1, n => UInt8.ofNat n :: leBytes k (n / 256)

def ofLeBytes : List UInt8 → ℕ
  | [] => 0
  | b :: bs => b.toNat + 256 * ofLeBytes bs

@[simp] lemma length_leBytes (k n : ℕ) : (leBytes k n).length = k := by
  induction k generalizing n with
  | zero => rfl
  | succ k ih => rw [leBytes, List.length_cons, ih]

/-- `k` bytes keep a number modulo `256 ^ k`. -/
lemma ofLeBytes_leBytes (k n : ℕ) : ofLeBytes (leBytes k n) = n % 256 ^ k := by
  induction k generalizing n with
  | zero => rw [leBytes, ofLeBytes, pow_zero, Nat.mod_one]
  | succ k ih =>
    have hb : (UInt8.ofNat n).toNat = n % 256 := by simp
    rw [leBytes, ofLeBytes, hb, ih, pow_succ', Nat.mod_mul]

lemma ofLeBytes_leBytes_of_lt {k n : ℕ} (h : n < 256 ^ k) : ofLeBytes (leBytes k n) = n := by
  rw [ofLeBytes_leBytes, Nat.mod_eq_of_lt h]

lemma ofLeBytes_lt (bytes : List UInt8) : ofLeBytes bytes < 256 ^ bytes.length := by
  induction bytes with
  | nil => decide
  | cons b bs ih =>
    have := b.toNat_lt
    rw [ofLeBytes, List.length_cons, Nat.pow_succ]
    omega

lemma leBytes_ofLeBytes (bytes : List UInt8) : leBytes bytes.length (ofLeBytes bytes) = bytes := by
  induction bytes with
  | nil => rfl
  | cons b bs ih =>
    have hb := b.toNat_lt
    have hlow : UInt8.ofNat (b.toNat + 256 * ofLeBytes bs) = b := by
      apply UInt8.toNat_inj.1
      rw [UInt8.toNat_ofNat']
      omega
    have hrest : (b.toNat + 256 * ofLeBytes bs) / 256 = ofLeBytes bs := by omega
    rw [List.length_cons, ofLeBytes, leBytes, hlow, hrest, ih]

/-! ### Text as bytes -/

def utf8 (s : List Char) : List UInt8 := s.flatMap String.utf8EncodeChar

def ofUtf8 (bytes : List UInt8) : Option (List Char) :=
  bytes.toByteArray.utf8Decode?.map Array.toList

lemma ofUtf8_utf8 (s : List Char) : ofUtf8 (utf8 s) = some s := by
  have h : (utf8 s).toByteArray = s.utf8Encode := rfl
  rw [ofUtf8, h, List.utf8Decode?_utf8Encode]
  rfl

lemma ofUtf8_eq_some {bytes : List UInt8} {s : List Char} :
    ofUtf8 bytes = some s ↔ utf8 s = bytes := by
  constructor
  · intro h
    obtain ⟨a, ha, rfl⟩ := Option.map_eq_some_iff.1 h
    have hsome : bytes.toByteArray.utf8Decode?.isSome := by
      rw [ha]
      rfl
    have hencode := ByteArray.utf8Encode_get_utf8Decode? (h := hsome)
    simp only [ha, Option.get_some] at hencode
    have hlist := congrArg (fun b : ByteArray => b.data.toList) hencode
    simpa [List.utf8Encode, utf8] using hlist
  · rintro rfl
    exact ofUtf8_utf8 s

/-- An ASCII character is one byte, its code. -/
lemma utf8EncodeChar_of_ascii {c : Char} (h : c.toNat < 128) :
    String.utf8EncodeChar c = [UInt8.ofNat c.toNat] := by
  unfold String.utf8EncodeChar
  simp only [Char.toNat_val]
  rw [if_pos (by omega)]

/-- Only the null character has a null byte. -/
lemma zero_notMem_utf8 {s : List Char} (h : '\x00' ∉ s) : 0 ∉ utf8 s := by
  intro hmem
  obtain ⟨c, hc, hzero⟩ := List.mem_flatMap.1 hmem
  have hc0 : c ≠ '\x00' := by
    rintro rfl
    exact h hc
  have hval : 0 < c.val.toNat := by
    rcases Nat.eq_zero_or_pos c.val.toNat with hz | hz
    · exact absurd (Char.ext (UInt32.toNat_inj.1 hz)) hc0
    · exact hz
  have hbyte : ∀ n : ℕ, n < 256 → (0 : UInt8) = UInt8.ofNat n → n = 0 := by
    intro n hn heq
    have htoNat := congrArg UInt8.toNat heq
    rw [UInt8.toNat_ofNat', Nat.mod_eq_of_lt hn] at htoNat
    exact htoNat.symm
  have hbig : ∀ n : ℕ, 128 ≤ n → n < 256 → (0 : UInt8) ≠ UInt8.ofNat n := by
    intro n hle hlt heq
    have := hbyte n hlt heq
    omega
  unfold String.utf8EncodeChar at hzero
  simp only at hzero
  split_ifs at hzero with h1 h2 h3
  · have := hbyte _ (by omega) (List.mem_singleton.1 hzero)
    omega
  · simp only [List.mem_cons, List.not_mem_nil, or_false] at hzero
    rcases hzero with hz | hz
    · exact hbig _ (by omega) (by omega) hz
    · exact hbig _ (by omega) (by omega) hz
  · simp only [List.mem_cons, List.not_mem_nil, or_false] at hzero
    rcases hzero with hz | hz | hz
    · exact hbig _ (by omega) (by omega) hz
    · exact hbig _ (by omega) (by omega) hz
    · exact hbig _ (by omega) (by omega) hz
  · simp only [List.mem_cons, List.not_mem_nil, or_false] at hzero
    rcases hzero with hz | hz | hz | hz
    · exact hbig _ (by omega) (by omega) hz
    · exact hbig _ (by omega) (by omega) hz
    · exact hbig _ (by omega) (by omega) hz
    · exact hbig _ (by omega) (by omega) hz

/-! ### Messages in pieces -/

section Pieces

variable {α : Type}

/-- A message cut into pieces of `limit` and a shorter last one, which may be empty. -/
def pieces (limit : ℕ) (xs : List α) : List (List α) :=
  if 0 < limit ∧ limit ≤ xs.length then xs.take limit :: pieces limit (xs.drop limit) else [xs]
  termination_by xs.length
  decreasing_by
    rw [List.length_drop]
    omega

lemma pieces_of_le {limit : ℕ} {xs : List α} (h0 : 0 < limit) (h : limit ≤ xs.length) :
    pieces limit xs = xs.take limit :: pieces limit (xs.drop limit) := by
  rw [pieces, if_pos ⟨h0, h⟩]

lemma pieces_of_lt {limit : ℕ} {xs : List α} (h : xs.length < limit) : pieces limit xs = [xs] := by
  rw [pieces, if_neg (by omega)]

end Pieces

end Rsduck.Lib.Wire
