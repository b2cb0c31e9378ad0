import QuicWire.Codec.Append
import QuicWire.Codec.Delimited

/-!
# QuicWire.Codec.Sound

What the decode routines accept. Each routine has one lemma saying what it
returns when it succeeds: which frame, and what its varint reads and the
checks it passed guarantee of the fields (`parseCryptoFrame_ok` and the
others). Those guarantees are what `Frame.WellFormed` asks of a frame whose
encoding reads back (`QuicWire.Codec.Roundtrip`), with two exceptions the
lemmas make visible: a DATAGRAM frame without a length takes the rest of
the buffer, bounded only by it, and an ACK frame's delay is a whole number
of encoder units only when it was decoded at the encoder's exponent.

The routines are `Reader` programs, and each lemma is a `Reader.Returns`
proof that follows the routine's `do` block through the dependent closure
lemmas of `QuicWire.Codec.Delimited`. The ACK decoder is not a `Reader`
program; its ranges are followed by induction (`decodeAckRanges_ok`).
-/

namespace QuicWire

open Reader (Returns)

/-! ## The primitive readers -/

theorem readVarint_lt : Returns readVarint (· < 2 ^ 62) := by
  intro b x rest h
  rcases hp : Quicvarint.parse b with e | ⟨x', l⟩
  · simp [StateT.run, readVarint, hp] at h
  simp only [StateT.run, readVarint, hp, Except.ok.injEq, Prod.mk.injEq] at h
  exact h.1 ▸ Quicvarint.parse_lt hp

theorem readBytes_length (n : Nat) : Returns (readBytes n) (·.length = n) := by
  intro b l rest h
  simp only [StateT.run, readBytes] at h
  split at h
  · cases h
  · cases h
    exact List.length_take_of_le (by omega)

/-! ## The decode routines -/

section
variable {b : List UInt8} {f : Frame} {n : Nat} {v : Version}

theorem parseVarintFrame_ok {mk : Nat → Frame} (h : parseVarintFrame mk b = .ok (f, n)) :
    ∃ x, f = mk x ∧ x < 2 ^ 62 := by
  apply Reader.Returns.decode _ h
  exact .bind_of readVarint_lt fun x hx => .of_pure ⟨x, rfl, hx⟩

theorem parseVarintPairFrame_ok {mk : Nat → Nat → Frame}
    (h : parseVarintPairFrame mk b = .ok (f, n)) : ∃ x y, f = mk x y ∧ x < 2 ^ 62 ∧ y < 2 ^ 62 := by
  apply Reader.Returns.decode _ h
  exact .bind_of readVarint_lt fun x hx => .bind_of readVarint_lt fun y hy =>
    .of_pure ⟨x, y, rfl, hx, hy⟩

/-- MAX_STREAMS and STREAMS_BLOCKED: the direction of the code, a count
within `protocol.MaxStreamCount`. -/
theorem parseStreamCountFrame_ok {mk : StreamType → Nat → Frame} {bidiType typ : Nat}
    (h : parseStreamCountFrame mk bidiType b typ = .ok (f, n)) :
    ∃ k, f = mk (if typ = bidiType then .streamTypeBidi else .streamTypeUni) k ∧
      k ≤ maxStreamCount := by
  apply Reader.Returns.decode _ h
  exact .bind fun k => .of_guard_of fun hk _ => .of_pure ⟨k, rfl, Nat.le_of_not_gt hk⟩

/-- RESET_STREAM and RESET_STREAM_AT: a reliable size within the final
size, and zero for RESET_STREAM. -/
theorem parseResetStreamFrame_ok {isResetStreamAt : Bool}
    (h : parseResetStreamFrame b isResetStreamAt v = .ok (f, n)) :
    ∃ g : ResetStreamFrame, f = .resetStream g ∧ g.streamID < 2 ^ 62 ∧ g.errorCode < 2 ^ 62 ∧
      g.finalSize < 2 ^ 62 ∧ g.reliableSize ≤ g.finalSize ∧
      (isResetStreamAt = false → g.reliableSize = 0) := by
  apply Reader.Returns.decode _ h
  refine .bind_of readVarint_lt fun s hs => .bind_of readVarint_lt fun ec hec =>
    .bind_of readVarint_lt fun fs hfs => .of_ite_of (fun hr => .bind fun rs => ?_) fun hr => ?_
  · exact .of_guard_of fun hle _ =>
      .of_pure ⟨_, rfl, hs, hec, hfs, Nat.le_of_not_gt hle, fun h' => absurd (hr.symm.trans h') (by decide)⟩
  · exact .of_pure_bind (.of_guard_of fun hle _ =>
      .of_pure ⟨_, rfl, hs, hec, hfs, Nat.le_of_not_gt hle, fun _ => rfl⟩)

theorem parseCryptoFrame_ok (h : parseCryptoFrame b v = .ok (f, n)) :
    ∃ offset data, f = .crypto offset data ∧ offset < 2 ^ 62 ∧ data.length < 2 ^ 62 := by
  apply Reader.Returns.decode _ h
  exact .bind_of readVarint_lt fun o ho => .bind_of readVarint_lt fun l hl =>
    .bind_of (readBytes_length l) fun d hd => .of_pure ⟨o, d, rfl, ho, hd ▸ hl⟩

/-- NEW_TOKEN: a token that is not empty. -/
theorem parseNewTokenFrame_ok (h : parseNewTokenFrame b v = .ok (f, n)) :
    ∃ token, f = .newToken token ∧ 0 < token.length ∧ token.length < 2 ^ 62 := by
  apply Reader.Returns.decode _ h
  exact .bind_of readVarint_lt fun l hl => .of_guard_of fun hl0 _ =>
    .bind_of (readBytes_length l) fun t ht => .of_pure ⟨t, rfl, by omega, by omega⟩

/-- NEW_CONNECTION_ID: Retire Prior To within the sequence number, and a
connection ID that is not empty. -/
theorem parseNewConnectionIDFrame_ok (h : parseNewConnectionIDFrame b v = .ok (f, n)) :
    ∃ g : NewConnectionIDFrame, f = .newConnectionID g ∧ g.sequenceNumber < 2 ^ 62 ∧
      g.retirePriorTo ≤ g.sequenceNumber ∧ 0 < g.connectionID.bytes.length := by
  apply Reader.Returns.decode _ h
  exact .bind_of readVarint_lt fun s hs => .bind fun r => .of_guard_of fun hr _ =>
    .bind fun len => .of_guard_of fun h0 _ => .of_dite (fun _ => .of_throw _) fun _ =>
      .bind fun cid => .bind fun _ =>
        .of_pure ⟨_, rfl, hs, Nat.le_of_not_gt hr, by rw [cid.length_eq]; omega⟩

theorem parsePathDataFrame_ok {mk : FixedBytes 8 → Frame} (h : parsePathDataFrame mk b = .ok (f, n)) :
    ∃ data, f = mk data := by
  apply Reader.Returns.decode _ h
  exact .bind fun d => .of_pure ⟨d, rfl⟩

/-- CONNECTION_CLOSE and its application variant, which the code selects
and which carries no frame type. -/
theorem parseConnectionCloseFrame_ok {typ : Nat} (h : parseConnectionCloseFrame b typ v = .ok (f, n)) :
    ∃ g : ConnectionCloseFrame, f = .connectionClose g ∧ g.errorCode < 2 ^ 62 ∧
      g.frameType < 2 ^ 62 ∧ g.reasonPhrase.length < 2 ^ 62 ∧
      g.isApplicationError = decide (typ = applicationCloseFrameType) ∧
      (g.isApplicationError → g.frameType = 0) := by
  apply Reader.Returns.decode _ h
  refine .bind_of readVarint_lt fun ec hec => .of_ite_of (fun ha => ?_) fun ha => ?_
  · exact .bind_of readVarint_lt fun ft hft => .bind_of readVarint_lt fun l hl =>
      .bind_of (readBytes_length l) fun r hr =>
        .of_pure ⟨_, rfl, hec, hft, hr ▸ hl, rfl, fun h' => by simp_all⟩
  · exact .of_pure_bind (.bind_of readVarint_lt fun l hl => .bind_of (readBytes_length l) fun r hr =>
      .of_pure ⟨_, rfl, hec, Nat.two_pow_pos _, hr ▸ hl, rfl, fun _ => rfl⟩)

end

/-- STREAM: a stream ID in the varint range, and data that does not reach
past `protocol.MaxByteCount`. -/
theorem parseStreamFrame_ok {b : List UInt8} {typ : Nat} {v : Version} {f : StreamFrame} {n : Nat}
    (h : parseStreamFrame b typ v = .ok (f, n)) :
    f.streamID < 2 ^ 62 ∧ f.offset + f.data.length ≤ maxByteCount := by
  apply Reader.Returns.decode _ h
  exact .bind_of readVarint_lt fun _ hs => .of_branch fun _ => .of_ite
    (.bind fun _ => .bind fun _ => .of_guard_of fun hg _ => .of_pure ⟨hs, Nat.le_of_not_gt hg⟩)
    (.bind fun _ => .of_guard_of fun hg _ => .of_pure ⟨hs, Nat.le_of_not_gt hg⟩)

/-- DATAGRAM: with a length field the payload is within the varint range;
without one it is the rest of the buffer. -/
theorem parseDatagramFrame_ok {b : List UInt8} {typ : Nat} {v : Version} {f : DatagramFrame}
    {n : Nat} (h : parseDatagramFrame b typ v = .ok (f, n)) : f.data.length < 2 ^ 62 ∨ f.data = b := by
  by_cases hl : typ &&& 0x1 > 0
  · left
    apply Reader.Returns.decode _ h
    exact .of_ite_of (fun _ => .bind_of readVarint_lt fun l hl => .bind_of (readBytes_length l)
      fun d hd => .of_pure (hd ▸ hl)) fun hc => absurd (decide_eq_true hl) hc
  · right
    unfold parseDatagramFrame decode at h
    rw [if_neg (mt of_decide_eq_true hl)] at h
    cases h
    rfl

/-! ## The ACK decoder -/

/-- The ranges after the first: `n` of them, appended to the frame's, each
below the one before and the first below `smallest`; nothing else of the
frame changes. -/
theorem decodeAckRanges_ok {n smallest : Nat} {frame a : AckFrame} {b rest : List UInt8}
    (h : decodeAckRanges n smallest frame b = (a, .ok rest)) :
    ∃ rs, a = { frame with ackRanges := frame.ackRanges ++ rs } ∧ AckRange.Below smallest rs ∧
      rs.length = n := by
  induction n generalizing smallest frame b with
  | zero =>
    cases h
    exact ⟨[], by simp, trivial, rfl⟩
  | succ n ih =>
    simp only [decodeAckRanges] at h
    split at h; · cases h
    rename_i gap _ _
    split at h; · cases h
    rename_i hgap
    split at h; · cases h
    rename_i ackBlock _ _
    split at h; · cases h
    rename_i hblock
    obtain ⟨rs, rfl, hbelow, hlen⟩ := ih h
    exact ⟨⟨smallest - gap - 2 - ackBlock, smallest - gap - 2⟩ :: rs, by simp,
      ⟨Nat.sub_le _ _, by dsimp only; omega, hbelow⟩,
      by simp [hlen]⟩

/-- An ACK frame decoded into the empty frame at the encoder's exponent is
well-formed: its ranges descend with a gap between each two, and its delay
is a whole number of encoder units. -/
theorem decodeAckFrame_wellFormed {b rest : List UInt8} {typ : Nat} {a : AckFrame}
    (h : decodeAckFrame {} b typ ackDelayExponent = (a, .ok rest)) : a.WellFormed := by
  unfold decodeAckFrame at h
  split at h; · cases h
  rename_i la b₁ h₁
  split at h; · cases h
  rename_i delay b₂ h₂
  split at h; · cases h
  rename_i nb b₃ h₃
  split at h; · cases h
  rename_i ab b₄ h₄
  split at h; · cases h
  rename_i hblock
  dsimp only at h
  split at h; · cases h
  rename_i frame₅ b₅ h₅
  obtain ⟨rs, rfl, hbelow, hlen⟩ := decodeAckRanges_ok h₅
  have hla := readVarint_lt _ _ _ h₁
  have hdelay := readVarint_lt _ _ _ h₂
  have hnb := readVarint_lt _ _ _ h₃
  have hx : ackDelayExponent.toNat = 3 := rfl
  split at h
  · cases h
    simp only [AckFrame.WellFormed, List.nil_append, List.singleton_append, encodeAckDelay, hx]
    refine ⟨by omega, hla, hbelow, by omega, by omega, by omega, ?_⟩
    decide
  split at h; · cases h
  rename_i ect0 b₆ h₆
  split at h; · cases h
  rename_i ect1 b₇ h₇
  split at h; · cases h
  rename_i ecnce b₈ h₈
  cases h
  simp only [AckFrame.WellFormed, List.nil_append, List.singleton_append, encodeAckDelay, hx]
  exact ⟨by omega, hla, hbelow, by omega, by omega, by omega, readVarint_lt _ _ _ h₆,
    readVarint_lt _ _ _ h₇, readVarint_lt _ _ _ h₈⟩

/-- `ParseAckFrame` into a reset frame at the encoder's exponent returns a
well-formed frame when it reports no error. -/
theorem parseAckFrame_wellFormed {b : List UInt8} {typ l : Nat} {v : Version} {a : AckFrame}
    (h : parseAckFrame {} b typ ackDelayExponent v = (a, l, none)) : a.WellFormed := by
  unfold parseAckFrame at h
  split at h
  · cases h; exact decodeAckFrame_wellFormed ‹_›
  · cases h

end QuicWire
