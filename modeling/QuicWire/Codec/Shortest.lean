import QuicWire.Codec.Roundtrip
import QuicWire.Codec.Sound

/-!
# QuicWire.Codec.Shortest

`Append` writes the shortest body a decoder accepts. Whatever a decode
routine returns, the body `Append` writes for it is no longer than the
bytes the routine consumed: every varint is written in its minimal width
(`Quicvarint.len_le_of_parse`), an optional field that holds its default (a
zero offset, a zero reliable size, ECN counts of zero) is left out, and
every other field is written as long as it was read.

The property is said once for `Reader` programs (`Reader.Spends`: what a
step returns, with the number of bytes it consumed) and carried through
the `do` blocks by closure lemmas, as `Reader.Returns` is in
`QuicWire.Codec.Sound`. The ACK decoder, which is not a `Reader` program,
gets it by induction over its ranges (`decodeAckRanges_spends`), at the
encoder's delay exponent.
-/

namespace QuicWire

/-! ## What a reader returns, and what it consumed -/

/-- Every value `r` returns satisfies `P` together with the number of bytes
it consumed. -/
def Reader.Spends {α : Type} (r : Reader α) (P : α → Nat → Prop) : Prop :=
  ∀ b a rest, r.run b = .ok (a, rest) → ∃ c, b = c ++ rest ∧ P a c.length

namespace Reader.Spends

variable {α β : Type} {P : β → Nat → Prop}

theorem of_pure {a : β} (h : P a 0) : Spends (pure a : Reader β) P := by
  intro b a' rest h'
  cases h'
  exact ⟨[], rfl, h⟩

theorem of_throw (e : Error) : Spends (throw e : Reader β) P := by
  intro b x rest h
  cases h

theorem of_throw_bind (e : Error) (k : α → Reader β) : Spends (throw e >>= k) P := by
  intro b x rest h
  cases h

theorem of_pure_bind {a : α} {k : α → Reader β} (h : Spends (k a) P) : Spends (pure a >>= k) P :=
  h

theorem mono {r : Reader β} {Q : β → Nat → Prop} (hr : Spends r Q) (hQ : ∀ a c, Q a c → P a c) :
    Spends r P := fun b a rest h => (hr b a rest h).imp fun _ ⟨hb, hq⟩ => ⟨hb, hQ _ _ hq⟩

/-- `>>=`: the continuation's bytes are counted after the first step's. -/
theorem bind_of {Q : α → Nat → Prop} {r : Reader α} {f : α → Reader β} (hr : Spends r Q)
    (hf : ∀ a c, Q a c → Spends (f a) fun x c' => P x (c + c')) : Spends (r >>= f) P := by
  intro b x rest h
  rw [StateT.run_bind] at h
  rcases hb : r.run b with e | ⟨a, b₁⟩
  · rw [hb] at h; cases h
  rw [hb] at h
  obtain ⟨c₁, rfl, hq⟩ := hr b a b₁ hb
  obtain ⟨c₂, rfl, hp⟩ := hf a _ hq _ x rest h
  exact ⟨c₁ ++ c₂, (List.append_assoc _ _ _).symm, by rwa [List.length_append]⟩

theorem of_ite_of {c : Prop} [Decidable c] {r₁ r₂ : Reader β} (h₁ : c → Spends r₁ P)
    (h₂ : ¬c → Spends r₂ P) : Spends (if c then r₁ else r₂) P := by
  split
  · exact h₁ ‹_›
  · exact h₂ ‹_›

theorem of_dite {c : Prop} [Decidable c] {r₁ : c → Reader β} {r₂ : ¬c → Reader β}
    (h₁ : ∀ h, Spends (r₁ h) P) (h₂ : ∀ h, Spends (r₂ h) P) :
    Spends (if h : c then r₁ h else r₂ h) P := by
  split
  · exact h₁ _
  · exact h₂ _

/-- The check `if c then throw e` of a `do` block: what follows it may
assume that `c` does not hold. -/
theorem of_guard_of {c : Prop} [Decidable c] {e : Error} {k : PUnit → Reader β}
    (hk : ¬c → Spends (k PUnit.unit) P) :
    Spends (if c then throw e >>= k else pure PUnit.unit >>= k) P :=
  of_ite_of (fun _ => of_throw_bind e k) hk

/-- A field read one way or the other, about which both ways say `Q`. -/
theorem of_branch_of {Q : α → Nat → Prop} {c : Prop} [Decidable c] {r₁ r₂ : Reader α}
    {k : α → Reader β} (h₁ : Spends r₁ Q) (h₂ : Spends r₂ Q)
    (hk : ∀ a c, Q a c → Spends (k a) fun x c' => P x (c + c')) :
    Spends (if c then r₁ >>= k else r₂ >>= k) P :=
  of_ite_of (fun _ => bind_of h₁ hk) fun _ => bind_of h₂ hk

/-- What a routine run by `decode` returns, with the count it reports. -/
theorem decode {r : Reader β} (hr : Spends r P) {b : List UInt8} {a : β} {n : Nat}
    (h : QuicWire.decode b r = .ok (a, n)) : P a n := by
  unfold QuicWire.decode at h
  split at h
  · rename_i hb
    cases h
    obtain ⟨c, rfl, hc⟩ := hr _ _ _ hb
    simpa using hc
  · cases h

end Reader.Spends

open Reader (Spends)

/-! ## The primitive readers -/

theorem readVarint_spends : Spends readVarint fun x c => Quicvarint.len x ≤ c := by
  intro b x rest h
  rcases hp : Quicvarint.parse b with e | ⟨x', l⟩
  · simp [StateT.run, readVarint, hp] at h
  simp only [StateT.run, readVarint, hp, Except.ok.injEq, Prod.mk.injEq] at h
  obtain ⟨rfl, rfl⟩ := h
  refine ⟨b.take l, (List.take_append_drop l b).symm, ?_⟩
  rw [List.length_take_of_le (Quicvarint.parse_ok_length hp).2]
  exact Quicvarint.len_le_of_parse hp

theorem readBytes_spends (n : Nat) :
    Spends (readBytes n) fun d c => c = d.length ∧ d.length = n := by
  intro b d rest h
  simp only [StateT.run, readBytes] at h
  split at h
  · cases h
  · cases h
    exact ⟨b.take n, (List.take_append_drop n b).symm, rfl, List.length_take_of_le (by omega)⟩

theorem readRest_spends : Spends readRest fun d c => c = d.length := by
  intro b d rest h
  cases h
  exact ⟨b, (List.append_nil b).symm, rfl⟩

theorem readByte_spends : Spends readByte fun _ c => c = 1 := by
  intro b x rest h
  cases b with
  | nil => cases h
  | cons y ys =>
    cases h
    exact ⟨[_], rfl, rfl⟩

theorem readFixedBytes_spends (n : Nat) : Spends (readFixedBytes n) fun _ c => c = n := by
  intro b x rest h
  simp only [StateT.run, readFixedBytes] at h
  split at h
  · cases h
  · cases h
    exact ⟨b.take n, (List.take_append_drop n b).symm, List.length_take_of_le (by omega)⟩

/-! ## The decode routines -/

@[simp] theorem length_appendVarints_nil (xs : List Nat) :
    (appendVarints [] xs).length = (xs.map Quicvarint.len).sum := by
  induction xs with
  | nil => rfl
  | cons x xs ih => simp [ih, Quicvarint.length_append_nil]

section
variable {b : List UInt8} {f : Frame} {n : Nat} {v : Version}

theorem parseVarintFrame_spends {mk : Nat → Frame} (h : parseVarintFrame mk b = .ok (f, n)) :
    ∃ x, f = mk x ∧ Quicvarint.len x ≤ n := by
  apply Reader.Spends.decode _ h
  exact .bind_of readVarint_spends fun x c hx => .of_pure ⟨x, rfl, by omega⟩

theorem parseVarintPairFrame_spends {mk : Nat → Nat → Frame}
    (h : parseVarintPairFrame mk b = .ok (f, n)) :
    ∃ x y, f = mk x y ∧ Quicvarint.len x + Quicvarint.len y ≤ n := by
  apply Reader.Spends.decode _ h
  exact .bind_of readVarint_spends fun x c₁ hx => .bind_of readVarint_spends fun y c₂ hy =>
    .of_pure ⟨x, y, rfl, by omega⟩

theorem parseStreamCountFrame_spends {mk : StreamType → Nat → Frame} {bidiType typ : Nat}
    (h : parseStreamCountFrame mk bidiType b typ = .ok (f, n)) :
    ∃ t k, f = mk t k ∧ Quicvarint.len k ≤ n := by
  apply Reader.Spends.decode _ h
  exact .bind_of readVarint_spends fun k c hk => .of_guard_of fun _ => .of_pure ⟨_, k, rfl, by omega⟩

theorem parsePathDataFrame_spends {mk : FixedBytes 8 → Frame}
    (h : parsePathDataFrame mk b = .ok (f, n)) : ∃ d, f = mk d ∧ 8 ≤ n := by
  apply Reader.Spends.decode _ h
  exact .bind_of (readFixedBytes_spends 8) fun d c hc => .of_pure ⟨d, rfl, by omega⟩

/-- RESET_STREAM_AT with a reliable size of zero is written as RESET_STREAM,
without the field. -/
theorem parseResetStreamFrame_spends {isResetStreamAt : Bool}
    (h : parseResetStreamFrame b isResetStreamAt v = .ok (f, n)) : (f.appendBody []).length ≤ n := by
  apply Reader.Spends.decode _ h
  refine .bind_of readVarint_spends fun s c₁ hs => .bind_of readVarint_spends fun ec c₂ hec =>
    .bind_of readVarint_spends fun fs c₃ hfs => .of_branch_of
      (show Spends readVarint fun r c => (if r > 0 then Quicvarint.len r else 0) ≤ c from
        readVarint_spends.mono fun r c h => by split_ifs <;> omega)
      (.of_pure (by simp)) fun r c₄ hr => .of_guard_of fun _ => .of_pure ?_
  simp only [Frame.appendBody]
  split_ifs at hr ⊢ <;> simp [Quicvarint.length_append_nil] <;> omega

theorem parseCryptoFrame_spends (h : parseCryptoFrame b v = .ok (f, n)) :
    (f.appendBody []).length ≤ n := by
  apply Reader.Spends.decode _ h
  refine .bind_of readVarint_spends fun o c₁ ho => .bind_of readVarint_spends fun l c₂ hl =>
    .bind_of (readBytes_spends l) fun d c₃ hd => .of_pure ?_
  simp [Frame.appendBody, Quicvarint.length_append_nil, hd.2]
  omega

theorem parseNewTokenFrame_spends (h : parseNewTokenFrame b v = .ok (f, n)) :
    (f.appendBody []).length ≤ n := by
  apply Reader.Spends.decode _ h
  refine .bind_of readVarint_spends fun l c₁ hl => .of_guard_of fun _ =>
    .bind_of (readBytes_spends l) fun d c₂ hd => .of_pure ?_
  simp [Frame.appendBody, Quicvarint.length_append_nil, hd.2]
  omega

theorem parseNewConnectionIDFrame_spends (h : parseNewConnectionIDFrame b v = .ok (f, n)) :
    (f.appendBody []).length ≤ n := by
  apply Reader.Spends.decode _ h
  refine .bind_of readVarint_spends fun s c₁ hs => .bind_of readVarint_spends fun r c₂ hr =>
    .of_guard_of fun _ => .bind_of readByte_spends fun l c₃ hl => .of_guard_of fun _ =>
      .of_dite (fun _ => .of_throw _) fun _ => .bind_of (readFixedBytes_spends _) fun cid c₄ hcid =>
        .bind_of (readFixedBytes_spends _) fun tok c₅ htok => .of_pure ?_
  simp [Frame.appendBody, Quicvarint.length_append_nil, cid.length_eq, tok.length_eq]
  omega

/-- The application variant is written without the frame type field it
does not read. -/
theorem parseConnectionCloseFrame_spends {typ : Nat}
    (h : parseConnectionCloseFrame b typ v = .ok (f, n)) : (f.appendBody []).length ≤ n := by
  apply Reader.Spends.decode _ h
  refine .bind_of readVarint_spends fun ec c₁ hec => .of_ite_of (fun ha => ?_) fun ha => ?_
  · refine .bind_of readVarint_spends fun ft c₂ hft => .bind_of readVarint_spends fun l c₃ hl =>
      .bind_of (readBytes_spends l) fun r c₄ hr => .of_pure ?_
    simp at ha
    simp [Frame.appendBody, Quicvarint.length_append_nil, hr.2, ha]
    omega
  · refine .of_pure_bind (.bind_of readVarint_spends fun l c₃ hl =>
      .bind_of (readBytes_spends l) fun r c₄ hr => .of_pure ?_)
    simp at ha
    simp [Frame.appendBody, Quicvarint.length_append_nil, hr.2, ha]
    omega

end

/-- STREAM: an offset field of zero is left out. -/
theorem parseStreamFrame_spends {b : List UInt8} {typ : Nat} {v : Version} {f : StreamFrame}
    {n : Nat} (h : parseStreamFrame b typ v = .ok (f, n)) :
    ((Frame.stream f).appendBody []).length ≤ n := by
  apply Reader.Spends.decode _ h
  refine .bind_of readVarint_spends fun s c₁ hs => .of_branch_of
    (show Spends readVarint fun o c => (if o ≠ 0 then Quicvarint.len o else 0) ≤ c from
      readVarint_spends.mono fun o c h => by split_ifs <;> omega)
    (.of_pure (by simp)) fun o c₂ ho => .of_ite_of (fun hl => ?_) fun hl => ?_
  · refine .bind_of readVarint_spends fun l c₃ hl' => .bind_of (readBytes_spends l) fun d c₄ hd =>
      .of_guard_of fun _ => .of_pure ?_
    simp only [Frame.appendBody, decide_eq_true hl, if_true]
    split_ifs at ho ⊢ <;> simp [Quicvarint.length_append_nil, hd.2] <;> omega
  · refine .bind_of readRest_spends fun d c₃ hd => .of_guard_of fun _ => .of_pure ?_
    simp only [Frame.appendBody, decide_eq_false hl, Bool.false_eq_true, if_false]
    split_ifs at ho ⊢ <;> simp [Quicvarint.length_append_nil] <;> omega

theorem parseDatagramFrame_spends {b : List UInt8} {typ : Nat} {v : Version} {f : DatagramFrame}
    {n : Nat} (h : parseDatagramFrame b typ v = .ok (f, n)) :
    ((Frame.datagram f).appendBody []).length ≤ n := by
  apply Reader.Spends.decode _ h
  refine .of_ite_of (fun hl => ?_) fun hl => ?_
  · refine .bind_of readVarint_spends fun l c₁ hl' => .bind_of (readBytes_spends l) fun d c₂ hd =>
      .of_pure ?_
    simp_all [Frame.appendBody, Quicvarint.length_append_nil]
  · refine .bind_of readRest_spends fun d c₁ hd => .of_pure ?_
    simp_all [Frame.appendBody]

/-! ## The ACK decoder -/

/-- The ranges after the first: `n` of them, appended to the frame's, and
the (gap, range length) fields `Append` writes for them are the ones read,
each no longer than it was read. -/
theorem decodeAckRanges_spends {n smallest : Nat} {frame a : AckFrame} {b rest : List UInt8}
    (h : decodeAckRanges n smallest frame b = (a, .ok rest)) :
    ∃ rs c, a = { frame with ackRanges := frame.ackRanges ++ rs } ∧ b = c ++ rest ∧
      rs.length = n ∧ ((ackRangeFields smallest rs).map Quicvarint.len).sum ≤ c.length := by
  induction n generalizing smallest frame b with
  | zero =>
    cases h
    exact ⟨[], [], by simp, rfl, rfl, by simp [ackRangeFields]⟩
  | succ n ih =>
    simp only [decodeAckRanges] at h
    split at h; · cases h
    rename_i gap b₁ h₁
    split at h; · cases h
    rename_i hgap
    split at h; · cases h
    rename_i ackBlock b₂ h₂
    split at h; · cases h
    rename_i hblock
    obtain ⟨c₁, rfl, hc₁⟩ := readVarint_spends _ _ _ h₁
    obtain ⟨c₂, rfl, hc₂⟩ := readVarint_spends _ _ _ h₂
    obtain ⟨rs, c₃, rfl, rfl, hlen, hc₃⟩ := ih h
    refine ⟨⟨smallest - gap - 2 - ackBlock, smallest - gap - 2⟩ :: rs, c₁ ++ c₂ ++ c₃, by simp,
      by simp, by simp [hlen], ?_⟩
    have e₁ : smallest - (smallest - gap - 2) - 2 = gap := by omega
    have e₂ : smallest - gap - 2 - (smallest - gap - 2 - ackBlock) = ackBlock := by omega
    simp only [ackRangeFields, List.map_cons, List.sum_cons, e₁, e₂, List.length_append]
    omega

/-- An ACK frame decoded into the empty frame at the encoder's exponent:
`Append` writes back the values read, the delay among them, and the ECN
counts only when one is set. -/
theorem decodeAckFrame_spends {b rest : List UInt8} {typ : Nat} {a : AckFrame}
    (h : decodeAckFrame {} b typ ackDelayExponent = (a, .ok rest)) :
    ∃ c, b = c ++ rest ∧ ((Frame.ack a).appendBody []).length ≤ c.length := by
  unfold decodeAckFrame at h
  split at h; · cases h
  rename_i la b₁ h₁
  split at h; · cases h
  rename_i delay b₂ h₂
  split at h; · cases h
  rename_i nb b₃ h₃
  split at h; · cases h
  rename_i ab b₄ h₄
  split at h; · cases h
  rename_i hblock
  dsimp only at h
  split at h; · cases h
  rename_i frame₅ b₅ h₅
  obtain ⟨c₁, rfl, hc₁⟩ := readVarint_spends _ _ _ h₁
  obtain ⟨c₂, rfl, hc₂⟩ := readVarint_spends _ _ _ h₂
  obtain ⟨c₃, rfl, hc₃⟩ := readVarint_spends _ _ _ h₃
  obtain ⟨c₄, rfl, hc₄⟩ := readVarint_spends _ _ _ h₄
  obtain ⟨rs, c₅, rfl, rfl, hlen, hc₅⟩ := decodeAckRanges_spends h₅
  have hd : encodeAckDelay (delay * 2 ^ ackDelayExponent.toNat * 1000) = delay := by
    simp only [encodeAckDelay]
    rw [Nat.mul_assoc, Nat.mul_comm (2 ^ _), Nat.mul_div_cancel _ (by decide)]
  have hab : la - (la - ab) = ab := by omega
  split at h
  · cases h
    refine ⟨c₁ ++ c₂ ++ c₃ ++ c₄ ++ c₅, by simp, ?_⟩
    simp [Frame.appendBody, AckFrame.fields, AckFrame.hasECN, Quicvarint.length_append_nil, hd, hab,
      hlen]
    omega
  split at h; · cases h
  rename_i ect0 b₆ h₆
  split at h; · cases h
  rename_i ect1 b₇ h₇
  split at h; · cases h
  rename_i ecnce b₈ h₈
  cases h
  obtain ⟨c₆, rfl, hc₆⟩ := readVarint_spends _ _ _ h₆
  obtain ⟨c₇, rfl, hc₇⟩ := readVarint_spends _ _ _ h₇
  obtain ⟨c₈, rfl, hc₈⟩ := readVarint_spends _ _ _ h₈
  refine ⟨c₁ ++ c₂ ++ c₃ ++ c₄ ++ c₅ ++ c₆ ++ c₇ ++ c₈, by simp, ?_⟩
  simp only [Frame.appendBody, AckFrame.fields, List.nil_append, List.singleton_append]
  split_ifs <;> simp [Quicvarint.length_append_nil, hd, hab, hlen] <;> omega

/-- `ParseAckFrame` into a reset frame at the encoder's exponent. -/
theorem parseAckFrame_spends {b : List UInt8} {typ l : Nat} {v : Version} {a : AckFrame}
    (h : parseAckFrame {} b typ ackDelayExponent v = (a, l, none)) :
    ((Frame.ack a).appendBody []).length ≤ l := by
  unfold parseAckFrame at h
  split at h
  · rename_i rest hd
    cases h
    obtain ⟨c, rfl, hc⟩ := decodeAckFrame_spends hd
    simpa using hc
  · cases h

end QuicWire
