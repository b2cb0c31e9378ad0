import QuicWire.Codec

/-!
# QuicWire.Codec.Delimited

Every decode routine but STREAM and DATAGRAM without a length field is
self-delimiting: when it succeeds, what it returns depends only on the bytes
it consumed. On those bytes followed by anything it returns the same value
and count, and on any proper prefix of them it fails (`Delimited`,
`Delimited.take_ne_ok`). This is what lets a caller read frame after frame
from one buffer: what follows a frame never changes how it is read, and a
frame cut short is never read as a shorter one.

The property is said once for `Reader` programs (`Reader.SelfDelimiting`)
and carried through `>>=`, `pure`, `throw` and the conditionals of a `do`
block by closure lemmas, so that each routine's proof follows its `do`
block. The primitive readers have it; `readRest`, which takes the rest of
the buffer, does not. The ACK decoder, which writes into its frame as it
reads, gets the same property for its own shape
(`decodeAckFrame_selfDelimiting`, `parseAckFrame_take_append`).
-/

namespace QuicWire

/-! ## Self-delimiting readers -/

/-- A decode step that reads a prefix of its input and nothing after it:
when it succeeds it has consumed some bytes `c`, and on `c` followed by
anything it returns the same value and leaves what follows. -/
def Reader.SelfDelimiting {α : Type} (r : Reader α) : Prop :=
  ∀ b a rest, r.run b = .ok (a, rest) → ∃ c, b = c ++ rest ∧ ∀ ext, r.run (c ++ ext) = .ok (a, ext)

namespace Reader.SelfDelimiting

variable {α β : Type}

theorem of_pure (a : α) : SelfDelimiting (pure a : Reader α) := by
  intro b a' rest h
  cases h
  exact ⟨[], rfl, fun _ => rfl⟩

theorem of_throw (e : Error) : SelfDelimiting (throw e : Reader α) := by
  intro b a rest h
  cases h

theorem bind {r : Reader α} {f : α → Reader β} (hr : SelfDelimiting r)
    (hf : ∀ a, SelfDelimiting (f a)) : SelfDelimiting (r >>= f) := by
  intro b x rest h
  rw [StateT.run_bind] at h
  rcases hb : r.run b with e | ⟨a, b₁⟩
  · rw [hb] at h; cases h
  rw [hb] at h
  obtain ⟨c₁, rfl, h₁⟩ := hr b a b₁ hb
  obtain ⟨c₂, rfl, h₂⟩ := hf a b₁ x rest h
  refine ⟨c₁ ++ c₂, (List.append_assoc _ _ _).symm, fun ext => ?_⟩
  rw [StateT.run_bind, List.append_assoc, h₁]
  exact h₂ ext

theorem of_ite {c : Prop} [Decidable c] {r₁ r₂ : Reader α} (h₁ : SelfDelimiting r₁)
    (h₂ : SelfDelimiting r₂) : SelfDelimiting (if c then r₁ else r₂) := by
  split <;> assumption

theorem of_dite {c : Prop} [Decidable c] {r₁ : c → Reader α} {r₂ : ¬c → Reader α}
    (h₁ : ∀ h, SelfDelimiting (r₁ h)) (h₂ : ∀ h, SelfDelimiting (r₂ h)) :
    SelfDelimiting (if h : c then r₁ h else r₂ h) := by
  split
  · exact h₁ _
  · exact h₂ _

/-- The check `if c then throw e` of a `do` block, followed by `k`. -/
theorem of_guard {c : Prop} [Decidable c] {e : Error} {k : PUnit → Reader α}
    (hk : ∀ y, SelfDelimiting (k y)) :
    SelfDelimiting (if c then throw e >>= k else pure PUnit.unit >>= k) :=
  .of_ite (.bind (.of_throw _) hk) (.bind (.of_pure _) hk)

/-- A field read one way or the other, `let x ← if c then r₁ else r₂`,
followed by `k`. -/
theorem of_branch {c : Prop} [Decidable c] {r₁ r₂ : Reader α} {k : α → Reader β}
    (h₁ : SelfDelimiting r₁) (h₂ : SelfDelimiting r₂) (hk : ∀ a, SelfDelimiting (k a)) :
    SelfDelimiting (if c then r₁ >>= k else r₂ >>= k) :=
  .of_ite (.bind h₁ hk) (.bind h₂ hk)

/-- Only the branch taken has to be self-delimiting. -/
theorem of_ite_of_pos {c : Prop} [Decidable c] {r₁ r₂ : Reader α} (hc : c)
    (h₁ : SelfDelimiting r₁) : SelfDelimiting (if c then r₁ else r₂) := by
  rwa [if_pos hc]

end Reader.SelfDelimiting

open Reader (SelfDelimiting)

theorem readVarint_selfDelimiting : SelfDelimiting readVarint := by
  intro b v rest h
  rcases hp : Quicvarint.parse b with e | ⟨v', l⟩
  · simp [StateT.run, readVarint, hp] at h
  have hl := (Quicvarint.parse_ok_length hp).2
  simp only [StateT.run, readVarint, hp, Except.ok.injEq, Prod.mk.injEq] at h
  obtain ⟨rfl, rfl⟩ := h
  refine ⟨b.take l, (List.take_append_drop l b).symm, fun ext => ?_⟩
  simp only [StateT.run, readVarint, Quicvarint.parse_take_append hp ext]
  rw [List.drop_left' (List.length_take_of_le hl)]

theorem readBytes_selfDelimiting (n : Nat) : SelfDelimiting (readBytes n) := by
  intro b l rest h
  simp only [StateT.run, readBytes] at h
  split at h
  · cases h
  · rename_i hn
    cases h
    have ht : (b.take n).length = n := List.length_take_of_le (by omega)
    refine ⟨b.take n, (List.take_append_drop n b).symm, fun ext => ?_⟩
    simp only [StateT.run, readBytes, List.length_append, ht]
    rw [if_neg (by omega), List.take_left' ht, List.drop_left' ht]

theorem readFixedBytes_selfDelimiting (n : Nat) : SelfDelimiting (readFixedBytes n) := by
  intro b x rest h
  simp only [StateT.run, readFixedBytes] at h
  split at h
  · cases h
  · rename_i hn
    cases h
    have ht : (b.take n).length = n := List.length_take_of_le (by omega)
    refine ⟨b.take n, (List.take_append_drop n b).symm, fun ext => ?_⟩
    simp only [StateT.run, readFixedBytes, List.length_append, ht]
    rw [dif_neg (by omega)]
    simp only [List.take_left' ht, List.drop_left' ht]

theorem readByte_selfDelimiting : SelfDelimiting readByte := by
  intro b x rest h
  cases b with
  | nil => cases h
  | cons y ys =>
    cases h
    exact ⟨[_], rfl, fun _ => rfl⟩

/-! ## What a reader returns -/

/-- Every value `r` returns satisfies `P`. -/
def Reader.Returns {α : Type} (r : Reader α) (P : α → Prop) : Prop :=
  ∀ b a rest, r.run b = .ok (a, rest) → P a

namespace Reader.Returns

variable {α β : Type} {P : β → Prop}

theorem of_pure {a : β} (h : P a) : Returns (pure a : Reader β) P := by
  intro b a' rest h'
  cases h'
  exact h

theorem of_throw (e : Error) : Returns (throw e : Reader β) P := by
  intro b a rest h
  cases h

/-- `>>=`, where the continuation may use what the first step returned. -/
theorem bind_of {Q : α → Prop} {r : Reader α} {f : α → Reader β} (hr : Returns r Q)
    (hf : ∀ a, Q a → Returns (f a) P) : Returns (r >>= f) P := by
  intro b x rest h
  rw [StateT.run_bind] at h
  rcases hb : r.run b with e | ⟨a, b₁⟩
  · rw [hb] at h; cases h
  rw [hb] at h
  exact hf a (hr _ _ _ hb) b₁ x rest h

theorem bind {r : Reader α} {f : α → Reader β} (hf : ∀ a, Returns (f a) P) :
    Returns (r >>= f) P :=
  bind_of (fun _ _ _ _ => trivial) fun a _ => hf a

theorem of_pure_bind {a : α} {k : α → Reader β} (h : Returns (k a) P) : Returns (pure a >>= k) P :=
  h

theorem of_throw_bind (e : Error) (k : α → Reader β) : Returns (throw e >>= k) P := by
  intro b x rest h
  cases h

/-- A conditional, where each branch may use its condition. -/
theorem of_ite_of {c : Prop} [Decidable c] {r₁ r₂ : Reader β} (h₁ : c → Returns r₁ P)
    (h₂ : ¬c → Returns r₂ P) : Returns (if c then r₁ else r₂) P := by
  split
  · exact h₁ ‹_›
  · exact h₂ ‹_›

theorem of_ite {c : Prop} [Decidable c] {r₁ r₂ : Reader β} (h₁ : Returns r₁ P)
    (h₂ : Returns r₂ P) : Returns (if c then r₁ else r₂) P :=
  of_ite_of (fun _ => h₁) fun _ => h₂

theorem of_dite {c : Prop} [Decidable c] {r₁ : c → Reader β} {r₂ : ¬c → Reader β}
    (h₁ : ∀ h, Returns (r₁ h) P) (h₂ : ∀ h, Returns (r₂ h) P) :
    Returns (if h : c then r₁ h else r₂ h) P := by
  split
  · exact h₁ _
  · exact h₂ _

/-- The check `if c then throw e` of a `do` block: what follows it may
assume that `c` does not hold. -/
theorem of_guard_of {c : Prop} [Decidable c] {e : Error} {k : PUnit → Reader β}
    (hk : ¬c → ∀ y, Returns (k y) P) :
    Returns (if c then throw e >>= k else pure PUnit.unit >>= k) P :=
  of_ite_of (fun _ => of_throw_bind e k) fun hc => bind (hk hc)

theorem of_guard {c : Prop} [Decidable c] {e : Error} {k : PUnit → Reader β}
    (hk : ∀ y, Returns (k y) P) :
    Returns (if c then throw e >>= k else pure PUnit.unit >>= k) P :=
  of_guard_of fun _ => hk

/-- A field read one way or the other, about which both ways say `Q`. -/
theorem of_branch_of {Q : α → Prop} {c : Prop} [Decidable c] {r₁ r₂ : Reader α}
    {k : α → Reader β} (h₁ : Returns r₁ Q) (h₂ : Returns r₂ Q) (hk : ∀ a, Q a → Returns (k a) P) :
    Returns (if c then r₁ >>= k else r₂ >>= k) P :=
  of_ite (bind_of h₁ hk) (bind_of h₂ hk)

theorem of_branch {c : Prop} [Decidable c] {r₁ r₂ : Reader α} {k : α → Reader β}
    (hk : ∀ a, Returns (k a) P) : Returns (if c then r₁ >>= k else r₂ >>= k) P :=
  of_ite (bind hk) (bind hk)

/-- What a routine run by `decode` returns. -/
theorem decode {r : Reader β} (hr : Returns r P) {b : List UInt8} {a : β} {n : Nat}
    (h : QuicWire.decode b r = .ok (a, n)) : P a := by
  unfold QuicWire.decode at h
  split at h
  · cases h; exact hr _ _ _ ‹_›
  · cases h

end Reader.Returns

/-! ## Readers that take the rest of the buffer -/

/-- A step that reads nothing: when it succeeds it leaves its input whole. -/
def Reader.Keeps {α : Type} (r : Reader α) : Prop :=
  ∀ b a rest, r.run b = .ok (a, rest) → rest = b

/-- A step that, when it succeeds, has read all of its input. -/
def Reader.Drains {α : Type} (r : Reader α) : Prop :=
  ∀ b a rest, r.run b = .ok (a, rest) → rest = []

namespace Reader

variable {α β : Type}

theorem Keeps.of_pure (a : α) : Keeps (pure a : Reader α) := by
  intro b a' rest h
  cases h
  rfl

/-- The check `if c then throw e` of a `do` block, followed by `k`. -/
theorem Keeps.of_guard {c : Prop} [Decidable c] {e : Error} {k : PUnit → Reader α}
    (hk : ∀ y, Keeps (k y)) : Keeps (if c then throw e >>= k else pure PUnit.unit >>= k) := by
  intro b a rest h
  split at h
  · cases h
  · exact hk _ _ _ _ h

/-- `readRest` and then steps that read nothing. -/
theorem Drains.readRest_bind {k : List UInt8 → Reader β} (hk : ∀ a, Keeps (k a)) :
    Drains (readRest >>= k) :=
  fun _ _ _ h => hk _ _ _ _ h

theorem Drains.bind {r : Reader α} {f : α → Reader β} (hf : ∀ a, Drains (f a)) :
    Drains (r >>= f) := by
  intro b x rest h
  rw [StateT.run_bind] at h
  rcases hb : r.run b with e | ⟨a, b₁⟩
  · rw [hb] at h; cases h
  rw [hb] at h
  exact hf a _ _ _ h

/-- A field read one way or the other, followed by `k`. -/
theorem Drains.of_branch {c : Prop} [Decidable c] {r₁ r₂ : Reader α} {k : α → Reader β}
    (hk : ∀ a, Drains (k a)) : Drains (if c then r₁ >>= k else r₂ >>= k) := by
  split <;> exact bind hk

theorem Drains.of_ite_of_neg {c : Prop} [Decidable c] {r₁ r₂ : Reader α} (hc : ¬c)
    (h₂ : Drains r₂) : Drains (if c then r₁ else r₂) := by
  rwa [if_neg hc]

/-- A routine run by `decode` that reads all of its input counts all of it. -/
theorem Drains.decode {r : Reader α} (hr : Drains r) {b : List UInt8} {a : α} {n : Nat}
    (h : QuicWire.decode b r = .ok (a, n)) : n = b.length := by
  unfold QuicWire.decode at h
  split at h
  · rename_i hb
    cases h
    rw [hr _ _ _ hb]
    rfl
  · cases h

end Reader

/-! ## Decoders whose result depends only on what they consumed -/

/-- A decoder whose success depends only on the bytes it consumed: it
consumed no more than its input, and on those bytes followed by anything
it returns the same value and count. -/
def Delimited {α : Type} (g : List UInt8 → Except Error (α × Nat)) : Prop :=
  ∀ b a n, g b = .ok (a, n) → n ≤ b.length ∧ ∀ ext, g (b.take n ++ ext) = .ok (a, n)

namespace Delimited

variable {α β : Type} {g : List UInt8 → Except Error (α × Nat)}

/-- No proper prefix of the bytes a delimited decoder consumed decodes. -/
theorem take_ne_ok (hg : Delimited g) {b : List UInt8} {a : α} {n k : Nat}
    (h : g b = .ok (a, n)) (hk : k < n) (a' : α) (n' : Nat) : g (b.take k) ≠ .ok (a', n') := by
  intro h'
  obtain ⟨hle, hext⟩ := hg _ _ _ h'
  have hle' : n' ≤ k := hle.trans (List.length_take_le _ _)
  have hb := hext (b.drop n')
  rw [List.take_take, Nat.min_eq_left hle', List.take_append_drop, h] at hb
  cases hb
  omega

/-- A decoder that reads nothing. -/
theorem const (a : α) : Delimited fun _ => (.ok (a, 0) : Except Error (α × Nat)) :=
  fun _ _ _ h => by cases h; exact ⟨Nat.zero_le _, fun _ => rfl⟩

/-- A decoder that always fails. -/
theorem never (e : Error) : Delimited fun _ => (.error e : Except Error (α × Nat)) :=
  fun _ _ _ h => by cases h

/-- Relabelling the value keeps a decoder delimited. -/
theorem map (hg : Delimited g) (φ : α → β) :
    Delimited fun b => (fun (x : α × Nat) => (φ x.1, x.2)) <$> g b := by
  intro b a n h
  dsimp only at h ⊢
  rcases hb : g b with e | ⟨a', n'⟩
  · rw [hb] at h; cases h
  rw [hb] at h
  cases h
  obtain ⟨hle, hext⟩ := hg _ _ _ hb
  exact ⟨hle, fun ext => by rw [hext]; rfl⟩

end Delimited

/-- A varint's value and length depend only on its own bytes. -/
theorem Quicvarint.parse_delimited : Delimited Quicvarint.parse :=
  fun _ _ _ h => ⟨(Quicvarint.parse_ok_length h).2, Quicvarint.parse_take_append h⟩

/-- A routine run by `decode` is delimited when its reader is
self-delimiting. -/
theorem Reader.SelfDelimiting.delimited {α : Type} {r : Reader α} (hr : SelfDelimiting r) :
    Delimited fun b => decode b r := by
  intro b a n h
  dsimp only at h ⊢
  unfold decode at h
  split at h
  · rename_i a' rest hb
    cases h
    obtain ⟨c, rfl, hc⟩ := hr _ _ _ hb
    refine ⟨by simp, fun ext => ?_⟩
    rw [List.length_append, Nat.add_sub_cancel, List.take_left' rfl]
    unfold decode
    rw [hc]
    simp
  · cases h

/-! ## The decode routines -/

section
open Reader.SelfDelimiting
variable (v : Version)

theorem parseVarintFrame_delimited (mk : Nat → Frame) : Delimited (parseVarintFrame mk) :=
  delimited (.bind readVarint_selfDelimiting fun _ => .of_pure _)

theorem parseVarintPairFrame_delimited (mk : Nat → Nat → Frame) :
    Delimited (parseVarintPairFrame mk) :=
  delimited (.bind readVarint_selfDelimiting fun _ => .bind readVarint_selfDelimiting fun _ =>
    .of_pure _)

theorem parseStreamCountFrame_delimited (mk : StreamType → Nat → Frame) (bidiType typ : Nat) :
    Delimited fun b => parseStreamCountFrame mk bidiType b typ :=
  delimited (.bind readVarint_selfDelimiting fun _ =>
    .of_ite (.bind (.of_throw _) fun _ => .of_pure _) (.bind (.of_pure _) fun _ => .of_pure _))

theorem parseResetStreamFrame_delimited (isResetStreamAt : Bool) :
    Delimited fun b => parseResetStreamFrame b isResetStreamAt v :=
  delimited (.bind readVarint_selfDelimiting fun _ => .bind readVarint_selfDelimiting fun _ =>
    .bind readVarint_selfDelimiting fun _ =>
      .of_branch readVarint_selfDelimiting (.of_pure _) fun _ => .of_guard fun _ => .of_pure _)

theorem parseCryptoFrame_delimited : Delimited fun b => parseCryptoFrame b v :=
  delimited (.bind readVarint_selfDelimiting fun _ => .bind readVarint_selfDelimiting fun n =>
    .bind (readBytes_selfDelimiting n) fun _ => .of_pure _)

theorem parseNewTokenFrame_delimited : Delimited fun b => parseNewTokenFrame b v :=
  delimited (.bind readVarint_selfDelimiting fun n => .of_guard fun _ =>
    .bind (readBytes_selfDelimiting n) fun _ => .of_pure _)

theorem parseNewConnectionIDFrame_delimited : Delimited fun b => parseNewConnectionIDFrame b v :=
  delimited (.bind readVarint_selfDelimiting fun _ => .bind readVarint_selfDelimiting fun _ =>
    .of_guard fun _ => .bind readByte_selfDelimiting fun _ => .of_guard fun _ =>
      .of_dite (fun _ => .of_throw _) fun _ => .bind (readFixedBytes_selfDelimiting _) fun _ =>
        .bind (readFixedBytes_selfDelimiting _) fun _ => .of_pure _)

theorem parsePathDataFrame_delimited (mk : FixedBytes 8 → Frame) :
    Delimited (parsePathDataFrame mk) :=
  delimited (.bind (readFixedBytes_selfDelimiting _) fun _ => .of_pure _)

theorem parseConnectionCloseFrame_delimited (typ : Nat) :
    Delimited fun b => parseConnectionCloseFrame b typ v :=
  delimited (.bind readVarint_selfDelimiting fun _ =>
    .of_branch readVarint_selfDelimiting (.of_pure _) fun _ => .bind readVarint_selfDelimiting fun n =>
      .bind (readBytes_selfDelimiting n) fun _ => .of_pure _)

/-- STREAM with a length field is self-delimiting; without one its payload
is the rest of the buffer. -/
theorem parseStreamFrame_delimited {typ : Nat} (h : typ &&& 0b10 > 0) :
    Delimited fun b => parseStreamFrame b typ v :=
  delimited (.bind readVarint_selfDelimiting fun _ =>
    .of_branch readVarint_selfDelimiting (.of_pure _) fun _ => .of_ite_of_pos (decide_eq_true h)
      (.bind readVarint_selfDelimiting fun n => .bind (readBytes_selfDelimiting n) fun _ =>
        .of_guard fun _ => .of_pure _))

/-- DATAGRAM with a length field is self-delimiting. -/
theorem parseDatagramFrame_delimited {typ : Nat} (h : typ &&& 0x1 > 0) :
    Delimited fun b => parseDatagramFrame b typ v :=
  delimited (.of_ite_of_pos (decide_eq_true h)
    (.bind readVarint_selfDelimiting fun n => .bind (readBytes_selfDelimiting n) fun _ => .of_pure _))

/-- The length flag of a decoded STREAM frame is the type code's. -/
theorem parseStreamFrame_dataLenPresent {b : List UInt8} {typ : Nat} {f : StreamFrame} {l : Nat}
    (h : parseStreamFrame b typ v = .ok (f, l)) : f.dataLenPresent = decide (typ &&& 0b10 > 0) := by
  refine @Reader.Returns.decode _ (fun f => f.dataLenPresent = decide (typ &&& 0b10 > 0)) _ ?_ _ _ _ h
  exact .bind fun _ => .of_branch fun _ => .of_ite
    (.bind fun _ => .bind fun _ => .of_guard fun _ => .of_pure rfl)
    (.bind fun _ => .of_guard fun _ => .of_pure rfl)

/-- The length flag of a decoded DATAGRAM frame is the type code's. -/
theorem parseDatagramFrame_dataLenPresent {b : List UInt8} {typ : Nat} {f : DatagramFrame}
    {l : Nat} (h : parseDatagramFrame b typ v = .ok (f, l)) :
    f.dataLenPresent = decide (typ &&& 0x1 > 0) := by
  refine @Reader.Returns.decode _ (fun f => f.dataLenPresent = decide (typ &&& 0x1 > 0)) _ ?_ _ _ _ h
  exact .of_ite (.bind fun _ => .bind fun _ => .of_pure rfl) (.bind fun _ => .of_pure rfl)

/-- A STREAM frame without a length field took the rest of the buffer. -/
theorem parseStreamFrame_count_of_not_dataLenPresent {b : List UInt8} {typ : Nat}
    {f : StreamFrame} {l : Nat} (h : parseStreamFrame b typ v = .ok (f, l))
    (hf : f.dataLenPresent = false) : l = b.length := by
  have hc : ¬decide (typ &&& 0b10 > 0) = true := by
    rw [← parseStreamFrame_dataLenPresent v h, hf]; decide
  exact Reader.Drains.decode (.bind fun _ => .of_branch fun _ =>
    .of_ite_of_neg hc (.readRest_bind fun _ => .of_guard fun _ => .of_pure _)) h

/-- A DATAGRAM frame without a length field took the rest of the buffer. -/
theorem parseDatagramFrame_count_of_not_dataLenPresent {b : List UInt8} {typ : Nat}
    {f : DatagramFrame} {l : Nat} (h : parseDatagramFrame b typ v = .ok (f, l))
    (hf : f.dataLenPresent = false) : l = b.length := by
  have hc : ¬decide (typ &&& 0x1 > 0) = true := by
    rw [← parseDatagramFrame_dataLenPresent v h, hf]; decide
  exact Reader.Drains.decode (.of_ite_of_neg hc (.readRest_bind fun _ => .of_pure _)) h

end

/-! ## The ACK decoder

`decodeAckRanges` and `decodeAckFrame` write into the frame they are handed
as they read, and return it with the rest of the buffer or with the error
that stopped them; they get the property in that shape. -/

/-- The ACK ranges after the first read no byte past the ones they consumed. -/
theorem decodeAckRanges_selfDelimiting {n smallest : Nat} {frame a : AckFrame}
    {b rest : List UInt8} (h : decodeAckRanges n smallest frame b = (a, .ok rest)) :
    ∃ c, b = c ++ rest ∧ ∀ ext, decodeAckRanges n smallest frame (c ++ ext) = (a, .ok ext) := by
  induction n generalizing smallest frame b with
  | zero =>
    cases h
    exact ⟨[], rfl, fun _ => rfl⟩
  | succ n ih =>
    simp only [decodeAckRanges] at h
    split at h; · cases h
    rename_i gap b₁ h₁
    split at h; · cases h
    rename_i hgap
    split at h; · cases h
    rename_i ackBlock b₂ h₂
    split at h; · cases h
    rename_i hblock
    obtain ⟨c₁, rfl, hc₁⟩ := readVarint_selfDelimiting _ _ _ h₁
    obtain ⟨c₂, rfl, hc₂⟩ := readVarint_selfDelimiting _ _ _ h₂
    obtain ⟨c₃, rfl, hc₃⟩ := ih h
    refine ⟨c₁ ++ c₂ ++ c₃, by simp, fun ext => ?_⟩
    simp only [decodeAckRanges, List.append_assoc, hc₁, hc₂, if_neg hgap, if_neg hblock, hc₃]

/-- The body of `ParseAckFrame` reads no byte past the ones it consumed,
ECN counts included. -/
theorem decodeAckFrame_selfDelimiting {frame a : AckFrame} {b rest : List UInt8} {typ : Nat}
    {x : UInt8} (h : decodeAckFrame frame b typ x = (a, .ok rest)) :
    ∃ c, b = c ++ rest ∧ ∀ ext, decodeAckFrame frame (c ++ ext) typ x = (a, .ok ext) := by
  unfold decodeAckFrame at h
  split at h; · cases h
  rename_i largestAcked b₁ h₁
  split at h; · cases h
  rename_i delay b₂ h₂
  split at h; · cases h
  rename_i numBlocks b₃ h₃
  split at h; · cases h
  rename_i ackBlock b₄ h₄
  split at h; · cases h
  rename_i hblock
  dsimp only at h
  split at h; · cases h
  rename_i frame₅ b₅ h₅
  obtain ⟨c₁, rfl, hc₁⟩ := readVarint_selfDelimiting _ _ _ h₁
  obtain ⟨c₂, rfl, hc₂⟩ := readVarint_selfDelimiting _ _ _ h₂
  obtain ⟨c₃, rfl, hc₃⟩ := readVarint_selfDelimiting _ _ _ h₃
  obtain ⟨c₄, rfl, hc₄⟩ := readVarint_selfDelimiting _ _ _ h₄
  obtain ⟨c₅, rfl, hc₅⟩ := decodeAckRanges_selfDelimiting h₅
  split at h <;> rename_i hecn
  · cases h
    refine ⟨c₁ ++ c₂ ++ c₃ ++ c₄ ++ c₅, by simp, fun ext => ?_⟩
    simp only [decodeAckFrame, List.append_assoc, hc₁, hc₂, hc₃, hc₄, if_neg hblock, hc₅,
      if_pos hecn]
  split at h; · cases h
  rename_i ect0 b₆ h₆
  split at h; · cases h
  rename_i ect1 b₇ h₇
  split at h; · cases h
  rename_i ecnce b₈ h₈
  cases h
  obtain ⟨c₆, rfl, hc₆⟩ := readVarint_selfDelimiting _ _ _ h₆
  obtain ⟨c₇, rfl, hc₇⟩ := readVarint_selfDelimiting _ _ _ h₇
  obtain ⟨c₈, rfl, hc₈⟩ := readVarint_selfDelimiting _ _ _ h₈
  refine ⟨c₁ ++ c₂ ++ c₃ ++ c₄ ++ c₅ ++ c₆ ++ c₇ ++ c₈, by simp, fun ext => ?_⟩
  simp only [decodeAckFrame, List.append_assoc, hc₁, hc₂, hc₃, hc₄, if_neg hblock, hc₅,
    if_neg hecn, hc₆, hc₇, hc₈]

section
variable {frame a : AckFrame} {b : List UInt8} {typ l : Nat} {x : UInt8} {v : Version}

/-- What `ParseAckFrame` decodes from `l` bytes it decodes again from those
bytes followed by anything. -/
theorem parseAckFrame_take_append (h : parseAckFrame frame b typ x v = (a, l, none))
    (ext : List UInt8) : parseAckFrame frame (b.take l ++ ext) typ x v = (a, l, none) := by
  unfold parseAckFrame at h
  split at h
  · rename_i rest hd
    cases h
    obtain ⟨c, rfl, hc⟩ := decodeAckFrame_selfDelimiting hd
    simp only [List.length_append, Nat.add_sub_cancel, List.take_left' rfl]
    unfold parseAckFrame
    rw [hc]
    simp
  · cases h

/-- No proper prefix of those bytes decodes. -/
theorem parseAckFrame_take_ne (h : parseAckFrame frame b typ x v = (a, l, none)) {k : Nat}
    (hk : k < l) (a' : AckFrame) (l' : Nat) :
    parseAckFrame frame (b.take k) typ x v ≠ (a', l', none) := by
  intro h'
  have hle : l' ≤ k := by
    have := parseAckFrame_count_le frame (b.take k) typ x v
    simp only [h', List.length_take] at this; omega
  have hb := parseAckFrame_take_append h' (b.drop l')
  rw [List.take_take, Nat.min_eq_left hle, List.take_append_drop, h] at hb
  cases hb
  omega

end

end QuicWire
