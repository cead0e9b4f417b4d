import Rsduck.Lib.Wire

/-!
Decoders on a buffer and an index into it, in machine arithmetic.

`FollowsUnless` compares such a decoder with a `Reader`, whose numbers have no bound: from any
index of any buffer, the two make the same of the bytes left, but where the decoder leaves the
range of a type. Its rules put the comparison of a message together from those of its parts.
-/

namespace Rsduck.Lib

open Wire

/-- What ends a decoder: an error it reports, or a sum, product, shift or index out of range. -/
inductive Fault
  | error (text : String)
  | outOfRange
  deriving DecidableEq

/-- A decoder of the buffer, from the index on. -/
abbrev Cursor := ReaderT (List UInt8) (StateT ℕ (Except Fault))

namespace Cursor

variable {α β : Type}

def runFrom (d : Cursor α) (input : List UInt8) (idx : ℕ) : Except Fault (α × ℕ) := (d.run input).run idx

def fail (text : String) : Cursor α := throw (.error text)

/-- The number, if it is one of the type with this many values. -/
def fit (bound n : ℕ) : Cursor ℕ := if n < bound then pure n else throw .outOfRange

/-- `bytes[start..stop]` -/
def slice (bytes : List UInt8) (start stop : ℕ) : Cursor (List UInt8) :=
  if start ≤ stop ∧ stop ≤ bytes.length then pure ((bytes.drop start).take (stop - start))
  else throw .outOfRange

/-- `bytes[i]` -/
def index (bytes : List UInt8) (i : ℕ) : Cursor UInt8 :=
  if i < bytes.length then pure (bytes.getD i 0) else throw .outOfRange

/-- A buffer's length is at most that of the longest one in memory. -/
def Addressable (input : List UInt8) : Prop := input.length < 2 ^ 63

/-- The outcomes of a decoder and of a reader, from an index of the buffer on. -/
inductive Matches (input : List UInt8) (idx : ℕ) :
    Except Fault (α × ℕ) → Except String (α × List UInt8) → Prop
  | error (text : String) : Matches input idx (.error (.error text)) (.error text)
  | ok (a : α) (n : ℕ) (h : idx + n ≤ input.length) :
    Matches input idx (.ok (a, idx + n)) (.ok (a, input.drop (idx + n)))

/-- A number of the type is as it is. -/
lemma fit_of_lt {bound n : ℕ} (h : n < bound) : fit bound n = pure n := if_pos h

lemma fit_of_le {bound n : ℕ} (h : bound ≤ n) : fit bound n = throw .outOfRange :=
  if_neg (by omega)

lemma index_of_lt {bytes : List UInt8} {i : ℕ} (h : i < bytes.length) :
    index bytes i = pure (bytes.getD i 0) := if_pos h

lemma slice_of_le {bytes : List UInt8} {start stop : ℕ} (h : start ≤ stop)
    (h' : stop ≤ bytes.length) :
    slice bytes start stop = pure ((bytes.drop start).take (stop - start)) := if_pos ⟨h, h'⟩

/-- All bytes, one index after the other. -/
lemma mapM_index (bytes : List UInt8) :
    (List.range bytes.length).mapM (index bytes) = pure bytes := by
  have h : ∀ is : List ℕ, (∀ i ∈ is, i < bytes.length) →
      is.mapM (index bytes) = pure (is.map (bytes.getD · 0)) := by
    intro is his
    induction is with
    | nil => rfl
    | cons i is ih =>
      rw [List.mapM_cons, index_of_lt (his i List.mem_cons_self), pure_bind,
        ih fun j hj => his j (List.mem_cons_of_mem i hj), pure_bind]
      rfl
  have hall : (List.range bytes.length).map (bytes.getD · 0) = bytes := by
    apply List.ext_getElem
    · rw [List.length_map, List.length_range]
    · intro i h₁ h₂
      rw [List.getElem_map, List.getElem_range, List.getD_eq_getElem?_getD, List.getElem?_eq_getElem h₂,
        Option.getD_some]
  rw [h _ fun i hi => List.mem_range.1 hi, hall]

lemma runFrom_bind_eq_ok {d : Cursor α} {f : α → Cursor β} {input : List UInt8} {idx k : ℕ} {b : β} :
    (d >>= f).runFrom input idx = .ok (b, k) ↔
      ∃ a j, d.runFrom input idx = .ok (a, j) ∧ (f a).runFrom input j = .ok (b, k) := by
  show (d.runFrom input idx >>= fun x => (f x.1).runFrom input x.2) = _ ↔ _
  rcases d.runFrom input idx with e | ⟨a, j⟩
  · simp [Bind.bind, Except.bind]
  · constructor
    · intro h
      exact ⟨a, j, rfl, h⟩
    · rintro ⟨a', j', ha, h⟩
      cases ha
      exact h

lemma runFrom_fit_eq_ok {bound n m j idx : ℕ} {input : List UInt8} :
    (fit bound n).runFrom input idx = .ok (m, j) ↔ n < bound ∧ m = n ∧ j = idx := by
  unfold fit
  split_ifs with h
  · constructor
    · intro hm
      cases hm
      exact ⟨h, rfl, rfl⟩
    · rintro ⟨-, rfl, rfl⟩
      rfl
  · constructor
    · intro hm
      cases hm
    · rintro ⟨h', -⟩
      exact absurd h' h

lemma runFrom_slice_eq_ok {bytes input out : List UInt8} {start stop j idx : ℕ} :
    (slice bytes start stop).runFrom input idx = .ok (out, j) ↔
      (start ≤ stop ∧ stop ≤ bytes.length) ∧ out = (bytes.drop start).take (stop - start) ∧
        j = idx := by
  unfold slice
  split_ifs with h
  · constructor
    · intro hm
      cases hm
      exact ⟨h, rfl, rfl⟩
    · rintro ⟨-, rfl, rfl⟩
      rfl
  · constructor
    · intro hm
      cases hm
    · rintro ⟨h', -⟩
      exact absurd h' h

/-- The decoder goes on by at least that many bytes. -/
def Advances (n : ℕ) (d : Cursor α) : Prop :=
  ∀ {input idx a j}, d.runFrom input idx = .ok (a, j) → idx + n ≤ j

lemma advances_bind {m n : ℕ} {d : Cursor α} {f : α → Cursor β} (h : Advances m d)
    (hf : ∀ a, Advances n (f a)) : Advances (m + n) (d >>= f) := by
  intro input idx b k hrun
  obtain ⟨a, j, ha, hb⟩ := runFrom_bind_eq_ok.1 hrun
  have hj := h ha
  have hk := hf a hb
  omega

lemma advances_pure (a : α) : Advances 0 (pure a) := by
  intro input idx b j h
  cases h
  exact le_rfl

lemma advances_fail (n : ℕ) (text : String) : Advances n (fail text : Cursor α) := by
  intro input idx b j h
  cases h

lemma advances_fit (bound n : ℕ) : Advances 0 (fit bound n) := by
  intro input idx m j h
  obtain ⟨-, -, rfl⟩ := runFrom_fit_eq_ok.1 h
  exact le_rfl

lemma Advances.mono {m n : ℕ} {d : Cursor α} (h : Advances m d) (hn : n ≤ m) : Advances n d := by
  intro input idx a j hrun
  have := h hrun
  omega

lemma advances_ite {n : ℕ} {p : Prop} [Decidable p] {d d' : Cursor α} (h : Advances n d)
    (h' : Advances n d') : Advances n (if p then d else d') := by
  split_ifs
  · exact h
  · exact h'

/-- `d` makes of the bytes left what `r` makes of them, and leaves the range exactly for those of
which `B` holds. -/
structure FollowsUnless (B : List UInt8 → Prop) (d : Cursor α) (r : Reader α) : Prop where
  outOfRange : ∀ {input idx}, Addressable input → idx ≤ input.length → B (input.drop idx) →
    d.runFrom input idx = .error .outOfRange
  follows : ∀ {input idx}, Addressable input → idx ≤ input.length → ¬ B (input.drop idx) →
    Matches input idx (d.runFrom input idx) (r.run (input.drop idx))

/-- `d` makes of the bytes left what `r` makes of them. -/
abbrev Follows (d : Cursor α) (r : Reader α) : Prop := FollowsUnless (fun _ => False) d r

lemma Matches.mono {input : List UInt8} {idx j : ℕ} {x : Except Fault (α × ℕ)}
    {y : Except String (α × List UInt8)} (h : Matches input j x y) (hj : idx ≤ j) :
    Matches input idx x y := by
  cases h with
  | error text => exact .error text
  | ok a n h =>
    have hn : j + n = idx + (j - idx + n) := by omega
    rw [hn]
    exact .ok a _ (by omega)

lemma follows_of_matches {d : Cursor α} {r : Reader α}
    (h : ∀ {input idx}, Addressable input → idx ≤ input.length →
      Matches input idx (d.runFrom input idx) (r.run (input.drop idx))) : Follows d r where
  outOfRange _ _ h := h.elim
  follows hin hidx _ := h hin hidx

namespace FollowsUnless

variable {B B' : List UInt8 → Prop} {d d' : Cursor α} {r r' : Reader α}

lemma congr (h : FollowsUnless B d r) (hB : ∀ s, B' s ↔ B s) : FollowsUnless B' d r where
  outOfRange hin hidx hb := h.outOfRange hin hidx ((hB _).1 hb)
  follows hin hidx hb := h.follows hin hidx (mt (hB _).2 hb)

lemma ite {p : Prop} [Decidable p] (h : FollowsUnless B d r) (h' : FollowsUnless B' d' r') :
    FollowsUnless (fun s => if p then B s else B' s) (if p then d else d') (if p then r else r') := by
  split_ifs
  · exact h
  · exact h'

/-- Of two steps, the first leaves the range, or the second one on what the first leaves. The
second may count on what is always read first. -/
lemma bindOf (P : α → Prop) {Bf : α → List UInt8 → Prop} {f : α → Cursor β} {g : α → Reader β}
    (h : FollowsUnless B d r) (hP : ∀ {s a rest}, r.run s = .ok (a, rest) → P a)
    (hf : ∀ a, P a → FollowsUnless (Bf a) (f a) (g a)) :
    FollowsUnless (fun s => B s ∨ ∃ a rest, r.run s = .ok (a, rest) ∧ Bf a rest)
      (d >>= f) (r >>= g) where
  outOfRange := by
    intro input idx hin hidx hb
    show (d.runFrom input idx >>= fun x => (f x.1).runFrom input x.2) = _
    by_cases hfirst : B (input.drop idx)
    · rw [h.outOfRange hin hidx hfirst]
      rfl
    · obtain hb | ⟨a, rest, hrun, hb⟩ := hb
      · exact absurd hb hfirst
      have hm := h.follows hin hidx hfirst
      have ha := hP hrun
      rw [hrun] at hm
      generalize d.runFrom input idx = x at hm ⊢
      cases hm with
      | ok a n hn => exact (hf a ha).outOfRange hin hn hb
  follows := by
    intro input idx hin hidx hb
    obtain ⟨hfirst, hb⟩ := not_or.1 hb
    have hm := h.follows hin hidx hfirst
    show Matches input idx (d.runFrom input idx >>= fun x => (f x.1).runFrom input x.2)
      (r.run (input.drop idx) >>= fun x => (g x.1).run x.2)
    generalize hx : d.runFrom input idx = x at hm ⊢
    generalize hy : r.run (input.drop idx) = y at hm hb ⊢
    cases hm with
    | error text => exact .error text
    | ok a n hn =>
      have hrest : ¬ Bf a (input.drop (idx + n)) := fun h => hb ⟨a, _, rfl, h⟩
      exact ((hf a (hP hy)).follows hin hn hrest).mono (by omega)

lemma bind {Bf : α → List UInt8 → Prop} {f : α → Cursor β} {g : α → Reader β}
    (h : FollowsUnless B d r) (hf : ∀ a, FollowsUnless (Bf a) (f a) (g a)) :
    FollowsUnless (fun s => B s ∨ ∃ a rest, r.run s = .ok (a, rest) ∧ Bf a rest)
      (d >>= f) (r >>= g) :=
  h.bindOf (fun _ => True) (fun _ => trivial) fun a _ => hf a

end FollowsUnless

variable {d : Cursor α} {r : Reader α}

lemma follows_bindOf (P : α → Prop) {f : α → Cursor β} {g : α → Reader β} (h : Follows d r)
    (hP : ∀ {s a rest}, r.run s = .ok (a, rest) → P a) (hf : ∀ a, P a → Follows (f a) (g a)) :
    Follows (d >>= f) (r >>= g) :=
  (h.bindOf P hP hf).congr fun s => by simp

lemma follows_bind {f : α → Cursor β} {g : α → Reader β} (h : Follows d r)
    (hf : ∀ a, Follows (f a) (g a)) : Follows (d >>= f) (r >>= g) :=
  (h.bind hf).congr fun s => by simp

lemma follows_ite {p : Prop} [Decidable p] {d' : Cursor α} {r' : Reader α} (h : Follows d r)
    (h' : Follows d' r') : Follows (if p then d else d') (if p then r else r') := by
  split_ifs
  · exact h
  · exact h'

lemma follows_pure (a : α) : Follows (pure a) (pure a) :=
  follows_of_matches fun _ hidx => .ok a 0 hidx

lemma follows_fail (text : String) : Follows (fail text : Cursor α) (throw text) :=
  follows_of_matches fun _ _ => .error text

/-- A check that both make before they go on alike. -/
lemma followsUnless_guard {B : List UInt8 → Prop} {p : Prop} [Decidable p] {f : PUnit → Cursor α}
    {g : PUnit → Reader α} (text : String) (h : FollowsUnless B (f ⟨⟩) (g ⟨⟩)) :
    FollowsUnless (fun s => ¬ p ∧ B s) (if p then fail text >>= f else f ⟨⟩)
      (if p then throw text >>= g else g ⟨⟩) := by
  split_ifs with hp
  · exact (follows_fail text).congr fun s => by simp [hp]
  · exact h.congr fun s => by simp [hp]

lemma follows_guard {p : Prop} [Decidable p] {f : PUnit → Cursor α} {g : PUnit → Reader α}
    (text : String) (h : Follows (f ⟨⟩) (g ⟨⟩)) :
    Follows (if p then fail text >>= f else f ⟨⟩) (if p then throw text >>= g else g ⟨⟩) :=
  (followsUnless_guard text h).congr fun s => by simp

/-- A number that is none of the type ends the decoder there. -/
lemma followsUnless_fit {B : List UInt8 → Prop} {bound n : ℕ} {f : ℕ → Cursor α}
    (h : n < bound → FollowsUnless B (f n) r) :
    FollowsUnless (fun s => bound ≤ n ∨ B s) (fit bound n >>= f) r := by
  by_cases hn : n < bound
  · rw [fit_of_lt hn, pure_bind]
    refine (h hn).congr fun s => ?_
    constructor
    · rintro (h | h)
      · omega
      · exact h
    · exact .inr
  · have hle : bound ≤ n := by omega
    rw [fit_of_le hle]
    exact ⟨fun _ _ _ => rfl, fun _ _ h => absurd (.inl hle) h⟩

/-- The decoder has stayed in the range, and its index, not behind the one it began with, in the
buffer. -/
def Within (input : List UInt8) (idx : ℕ) (x : Except Fault (α × ℕ)) : Prop :=
  x ≠ .error .outOfRange ∧ ∀ a j, x = .ok (a, j) → idx ≤ j ∧ j ≤ input.length

lemma within_error (input : List UInt8) (idx : ℕ) (text : String) :
    Within input idx (.error (.error text) : Except Fault (α × ℕ)) := by
  refine ⟨?_, ?_⟩
  · intro h
    cases h
  · intro a j h
    cases h

lemma within_ok {input : List UInt8} {idx j : ℕ} (a : α) (h : idx ≤ j) (h' : j ≤ input.length) :
    Within input idx (.ok (a, j)) := by
  refine ⟨?_, ?_⟩
  · intro h
    cases h
  · intro a' j' hj
    cases hj
    exact ⟨h, h'⟩

lemma Within.mono {input : List UInt8} {idx j : ℕ} {x : Except Fault (α × ℕ)}
    (h : Within input j x) (hj : idx ≤ j) : Within input idx x := by
  refine ⟨h.1, ?_⟩
  intro a k hk
  obtain ⟨hle, hin⟩ := h.2 a k hk
  exact ⟨by omega, hin⟩

/-- The decoder never leaves the range. -/
structure Safe (d : Cursor α) : Prop where
  within : ∀ {input idx}, Addressable input → idx ≤ input.length →
    Within input idx (d.runFrom input idx)

lemma FollowsUnless.within {B : List UInt8 → Prop} (h : FollowsUnless B d r) {input : List UInt8}
    {idx : ℕ} (hin : Addressable input) (hidx : idx ≤ input.length) (hB : ¬ B (input.drop idx)) :
    Within input idx (d.runFrom input idx) := by
  have hm := h.follows hin hidx hB
  generalize d.runFrom input idx = x at hm ⊢
  generalize r.run (input.drop idx) = y at hm
  cases hm with
  | error text => exact within_error input idx text
  | ok a n hn => exact within_ok a (by omega) hn

lemma Follows.safe (h : Follows d r) : Safe d := ⟨fun hin hidx => h.within hin hidx not_false⟩

lemma Within.bind {input : List UInt8} {idx : ℕ} {f : α → Cursor β}
    (h : Within input idx (d.runFrom input idx))
    (hf : ∀ a j, d.runFrom input idx = .ok (a, j) → Within input j ((f a).runFrom input j)) :
    Within input idx ((d >>= f).runFrom input idx) := by
  show Within input idx (d.runFrom input idx >>= fun x => (f x.1).runFrom input x.2)
  rcases hx : d.runFrom input idx with e | ⟨a, j⟩
  · rw [hx] at h
    cases e with
    | error text => exact within_error input idx text
    | outOfRange => exact absurd rfl h.1
  · exact (hf a j hx).mono (h.2 a j hx).1

lemma safe_bind {f : α → Cursor β} (h : Safe d) (hf : ∀ a, Safe (f a)) : Safe (d >>= f) :=
  ⟨fun hin hidx => (h.within hin hidx).bind fun a j hj =>
    (hf a).within hin ((h.within hin hidx).2 a j hj).2⟩

lemma safe_ite {p : Prop} [Decidable p] {d' : Cursor α} (h : Safe d) (h' : Safe d') :
    Safe (if p then d else d') := by
  split_ifs
  · exact h
  · exact h'

lemma safe_pure (a : α) : Safe (pure a : Cursor α) := (follows_pure a).safe

lemma safe_fail (text : String) : Safe (fail text : Cursor α) := (follows_fail text).safe

lemma safe_guard {p : Prop} [Decidable p] {f : PUnit → Cursor α} (text : String)
    (h : Safe (f ⟨⟩)) : Safe (if p then fail text >>= f else f ⟨⟩) := by
  split_ifs
  · exact safe_fail text
  · exact h

/-- A decoder that asks for the buffer and the index. -/
lemma safe_position {f : List UInt8 → ℕ → Cursor β}
    (h : ∀ {input idx}, Addressable input → idx ≤ input.length →
      Within input idx ((f input idx).runFrom input idx)) :
    Safe (do
      let input ← read
      let idx ← get
      f input idx) := ⟨fun hin hidx => h hin hidx⟩

/-- What is read has the properties of what the reader reads. -/
lemma Follows.property {P : α → Prop} (h : Follows d r)
    (hP : ∀ {s a rest}, r.run s = .ok (a, rest) → P a) {input : List UInt8} {idx j : ℕ} {a : α}
    (hin : Addressable input) (hidx : idx ≤ input.length)
    (hrun : d.runFrom input idx = .ok (a, j)) : P a := by
  have hm := h.follows hin hidx not_false
  rw [hrun] at hm
  generalize hy : r.run (input.drop idx) = y at hm
  cases hm with
  | ok a n hn => exact hP hy

end Cursor

end Rsduck.Lib
