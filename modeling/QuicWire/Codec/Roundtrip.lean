import QuicWire.Codec.Append

/-!
# QuicWire.Codec.Roundtrip

Every decode routine reads back what the kind's `Append` wrote after the
type code (spec §8, first property): the frame, field for field, and the
number of bytes written. The forms are prefix-tolerant: whatever follows
the body is left unread, except for a STREAM or DATAGRAM frame without a
length field, whose payload is the rest of the buffer.

The reading lemmas are in the `pure` form the monad laws simplify with, so
that each routine's proof is one `simp` through its `do` block.
-/

namespace QuicWire

/-! ## Reading fields back -/

section
variable (rest : List UInt8)

theorem readVarint_run_append {i : Nat} (hi : i < 2 ^ 62) :
    readVarint.run (Quicvarint.append [] i ++ rest) = pure (i, rest) := by
  simp only [StateT.run, readVarint, Quicvarint.parse_append rest hi,
    List.drop_left' (Quicvarint.length_append_nil i)]
  rfl

theorem readBytes_run_append (l : List UInt8) : (readBytes l.length).run (l ++ rest) = pure (l, rest) := by
  simp [StateT.run, readBytes]; rfl

theorem readFixedBytes_run_append {n : Nat} (l : List UInt8) (h : l.length = n) :
    (readFixedBytes n).run (l ++ rest) = pure (⟨l, h⟩, rest) := by
  subst h
  simp [StateT.run, readFixedBytes]; rfl

theorem readByte_run_cons (x : UInt8) : readByte.run (x :: rest) = pure (x, rest) := rfl

theorem readRest_run : readRest.run rest = pure (rest, []) := rfl

end

/-- A routine that reads exactly `body` reports its length as the count. -/
theorem decode_of_run {α : Type} {r : Reader α} {body rest : List UInt8} {a : α}
    (h : r.run (body ++ rest) = pure (a, rest)) : decode (body ++ rest) r = .ok (a, body.length) := by
  unfold decode
  rw [h]
  show Except.ok (a, (body ++ rest).length - rest.length) = _
  simp

theorem appendVarints_eq (b : List UInt8) (xs : List Nat) :
    appendVarints b xs = b ++ appendVarints [] xs := by
  induction xs generalizing b with
  | nil => simp [appendVarints]
  | cons x xs ih =>
    simp only [appendVarints, List.foldl_cons] at ih ⊢
    rw [ih, ih (Quicvarint.append [] x), Quicvarint.append_eq, List.append_assoc]

@[simp] theorem appendVarints_nil_cons (x : Nat) (xs : List Nat) :
    appendVarints [] (x :: xs) = Quicvarint.append [] x ++ appendVarints [] xs := by
  rw [← appendVarints_eq]; rfl

@[simp] theorem appendVarints_nil_nil : appendVarints [] [] = [] := rfl

/-! ## The integer-field frames -/

section
variable {x y : Nat} (rest : List UInt8)

theorem parseVarintFrame_append (mk : Nat → Frame) (hx : x < 2 ^ 62) :
    parseVarintFrame mk (appendVarints [] [x] ++ rest) = .ok (mk x, (appendVarints [] [x]).length) := by
  apply decode_of_run
  simp [readVarint_run_append _ hx]

theorem parseVarintPairFrame_append (mk : Nat → Nat → Frame) (hx : x < 2 ^ 62) (hy : y < 2 ^ 62) :
    parseVarintPairFrame mk (appendVarints [] [x, y] ++ rest) =
      .ok (mk x y, (appendVarints [] [x, y]).length) := by
  apply decode_of_run
  simp [readVarint_run_append _ hx, readVarint_run_append _ hy]

theorem parseStreamCountFrame_append (mk : StreamType → Nat → Frame) (bidiType typ : Nat)
    (hx : x ≤ maxStreamCount) :
    parseStreamCountFrame mk bidiType (appendVarints [] [x] ++ rest) typ =
      .ok (mk (if typ = bidiType then .streamTypeBidi else .streamTypeUni) x,
        (appendVarints [] [x]).length) := by
  have hx' : x < 2 ^ 62 := by unfold maxStreamCount at hx; omega
  apply decode_of_run
  simp [readVarint_run_append _ hx', Nat.not_lt.2 hx]

end

/-! ## The frames with a payload -/

@[simp] theorem appendVarints_nil_append (xs ys : List Nat) :
    appendVarints [] (xs ++ ys) = appendVarints [] xs ++ appendVarints [] ys := by
  rw [appendVarints, List.foldl_append, ← appendVarints, appendVarints_eq]; rfl

section
variable (rest : List UInt8) (v : Version)

theorem parseResetStreamFrame_append (f : ResetStreamFrame) (hf : (Frame.resetStream f).WellFormed) :
    parseResetStreamFrame ((Frame.resetStream f).appendBody [] ++ rest) (f.reliableSize > 0) v =
      .ok (.resetStream f, ((Frame.resetStream f).appendBody []).length) := by
  obtain ⟨sid, ec, fs, rs⟩ := f
  obtain ⟨hsid, hec, hfs, hrs⟩ : sid < 2 ^ 62 ∧ ec < 2 ^ 62 ∧ fs < 2 ^ 62 ∧ rs ≤ fs := hf
  apply decode_of_run
  by_cases h0 : rs > 0
  · simp [Frame.appendBody, h0, readVarint_run_append _ hsid, readVarint_run_append _ hec,
      readVarint_run_append _ hfs, readVarint_run_append _ (show rs < 2 ^ 62 by omega),
      Nat.not_lt.2 hrs]
  · obtain rfl : rs = 0 := by omega
    simp [Frame.appendBody, readVarint_run_append _ hsid, readVarint_run_append _ hec,
      readVarint_run_append _ hfs]

theorem parseCryptoFrame_append {offset : Nat} {data : List UInt8}
    (hf : (Frame.crypto offset data).WellFormed) :
    parseCryptoFrame ((Frame.crypto offset data).appendBody [] ++ rest) v =
      .ok (.crypto offset data, ((Frame.crypto offset data).appendBody []).length) := by
  apply decode_of_run
  simp [Frame.appendBody, readVarint_run_append _ hf.1, readVarint_run_append _ hf.2,
    readBytes_run_append]

theorem parseNewTokenFrame_append {token : List UInt8} (hf : (Frame.newToken token).WellFormed) :
    parseNewTokenFrame ((Frame.newToken token).appendBody [] ++ rest) v =
      .ok (.newToken token, ((Frame.newToken token).appendBody []).length) := by
  apply decode_of_run
  simp [Frame.appendBody, readVarint_run_append _ hf.2, Nat.pos_iff_ne_zero.1 hf.1,
    readBytes_run_append]

theorem parseNewConnectionIDFrame_append (f : NewConnectionIDFrame)
    (hf : (Frame.newConnectionID f).WellFormed) :
    parseNewConnectionIDFrame ((Frame.newConnectionID f).appendBody [] ++ rest) v =
      .ok (.newConnectionID f, ((Frame.newConnectionID f).appendBody []).length) := by
  obtain ⟨seq, ret, ⟨cid, hcid⟩, token⟩ := f
  obtain ⟨hseq, hret, hpos⟩ : seq < 2 ^ 62 ∧ ret ≤ seq ∧ 0 < cid.length := hf
  have hlen : (UInt8.ofNat cid.length).toNat = cid.length :=
    Nat.mod_eq_of_lt (by unfold maxConnIDLen at hcid; omega)
  apply decode_of_run
  simp [Frame.appendBody, readVarint_run_append _ hseq,
    readVarint_run_append _ (show ret < 2 ^ 62 by omega), Nat.not_lt.2 hret, readByte_run_cons,
    Nat.pos_iff_ne_zero.1 hpos, Nat.not_lt.2 hcid, readFixedBytes_run_append _ _ hlen.symm, hlen,
    readFixedBytes_run_append _ _ token.length_eq]

theorem parsePathDataFrame_append (mk : FixedBytes 8 → Frame) (data : FixedBytes 8) :
    parsePathDataFrame mk (data.bytes ++ rest) = .ok (mk data, data.bytes.length) :=
  decode_of_run (by simp [readFixedBytes_run_append _ _ data.length_eq])

theorem parseConnectionCloseFrame_append (f : ConnectionCloseFrame)
    (hf : (Frame.connectionClose f).WellFormed) :
    parseConnectionCloseFrame ((Frame.connectionClose f).appendBody [] ++ rest)
        (Frame.connectionClose f).wireType v =
      .ok (.connectionClose f, ((Frame.connectionClose f).appendBody []).length) := by
  obtain ⟨isApp, ec, ft, reason⟩ := f
  obtain ⟨hec, hft, hlen, happ⟩ :
    ec < 2 ^ 62 ∧ ft < 2 ^ 62 ∧ reason.length < 2 ^ 62 ∧ (isApp = true → ft = 0) := hf
  apply decode_of_run
  cases isApp
  · simp [Frame.appendBody, Frame.wireType, connectionCloseFrameType, applicationCloseFrameType,
      readVarint_run_append _ hec, readVarint_run_append _ hft, readVarint_run_append _ hlen,
      readBytes_run_append]
  · obtain rfl := happ rfl
    simp [Frame.appendBody, Frame.wireType, applicationCloseFrameType, readVarint_run_append _ hec,
      readVarint_run_append _ hlen, readBytes_run_append]

/-- The flag bits `ParseStreamFrame` reads from the code `Append` wrote. -/
theorem Frame.stream_wireType_flags (f : StreamFrame) :
    decide ((Frame.stream f).wireType &&& 0b100 > 0) = decide (f.offset ≠ 0) ∧
    decide ((Frame.stream f).wireType &&& 0b1 > 0) = f.fin ∧
    decide ((Frame.stream f).wireType &&& 0b10 > 0) = f.dataLenPresent := by
  obtain ⟨_, off, _, fin, dlp⟩ := f
  simp only [Frame.wireType]
  by_cases h : off = 0 <;> cases fin <;> cases dlp <;> simp +decide [h]

theorem parseStreamFrame_append (f : StreamFrame) (hf : (Frame.stream f).WellFormed)
    (hrest : f.dataLenPresent = false → rest = []) :
    parseStreamFrame ((Frame.stream f).appendBody [] ++ rest) (Frame.stream f).wireType v =
      .ok (f, ((Frame.stream f).appendBody []).length) := by
  obtain ⟨h4, h1, h2⟩ := Frame.stream_wireType_flags f
  apply decode_of_run
  simp only [h4, h1, h2]
  obtain ⟨sid, off, data, fin, dlp⟩ := f
  obtain ⟨hsid, hlen, hmax⟩ :
    sid < 2 ^ 62 ∧ data.length < 2 ^ 62 ∧ off + data.length ≤ maxByteCount := hf
  have hoff : off < 2 ^ 62 := by unfold maxByteCount at hmax; omega
  cases dlp
  · obtain rfl := hrest rfl
    by_cases h0 : off = 0
    · subst h0
      rw [Nat.zero_add] at hmax
      simp [Frame.appendBody, readVarint_run_append _ hsid, readRest_run, Nat.not_lt.2 hmax]
    · simp [Frame.appendBody, h0, readVarint_run_append _ hsid,
        readVarint_run_append _ hoff, readRest_run, Nat.not_lt.2 hmax]
  · by_cases h0 : off = 0
    · subst h0
      rw [Nat.zero_add] at hmax
      simp [Frame.appendBody, readVarint_run_append _ hsid,
        readVarint_run_append _ hlen, readBytes_run_append, Nat.not_lt.2 hmax]
    · simp [Frame.appendBody, h0, readVarint_run_append _ hsid,
        readVarint_run_append _ hoff, readVarint_run_append _ hlen, readBytes_run_append,
        Nat.not_lt.2 hmax]

theorem parseDatagramFrame_append (f : DatagramFrame) (hf : (Frame.datagram f).WellFormed)
    (hrest : f.dataLenPresent = false → rest = []) :
    parseDatagramFrame ((Frame.datagram f).appendBody [] ++ rest) (Frame.datagram f).wireType v =
      .ok (f, ((Frame.datagram f).appendBody []).length) := by
  obtain ⟨dlp, data⟩ := f
  apply decode_of_run
  cases dlp
  · obtain rfl := hrest rfl
    simp [Frame.appendBody, Frame.wireType, datagramNoLengthFrameType, readRest_run]
  · simp [Frame.appendBody, Frame.wireType, datagramWithLengthFrameType,
      readVarint_run_append _ (show data.length < 2 ^ 62 from hf), readBytes_run_append]

end

/-! ## ACK -/

theorem decodeAckRanges_append (frame : AckFrame) {smallest : Nat} {rs : List AckRange}
    (hb : AckRange.Below smallest rs) (hs : smallest < 2 ^ 62) (rest : List UInt8) :
    decodeAckRanges rs.length smallest frame (appendVarints [] (ackRangeFields smallest rs) ++ rest) =
      ({ frame with ackRanges := frame.ackRanges ++ rs }, .ok rest) := by
  induction rs generalizing smallest frame with
  | nil => simp [decodeAckRanges, ackRangeFields]
  | cons r rs ih =>
    obtain ⟨lo, hi⟩ := r
    obtain ⟨hr, hgap, hb⟩ : lo ≤ hi ∧ hi + 2 ≤ smallest ∧ AckRange.Below lo rs := hb
    have hlargest : smallest - (smallest - hi - 2) - 2 = hi := by omega
    have hsmallest : hi - (hi - lo) = lo := by omega
    simp [decodeAckRanges, ackRangeFields, readVarint_run_append _ (show smallest - hi - 2 < 2 ^ 62 by omega),
      readVarint_run_append _ (show hi - lo < 2 ^ 62 by omega), pure, Except.pure, hlargest,
      hsmallest, show ¬smallest < smallest - hi - 2 + 2 by omega, ih _ hb (show lo < 2 ^ 62 by omega)]

/-- The delay field scales back to the delay at the encoder's exponent. -/
theorem encodeAckDelay_mul {d : Nat} (h : d % (1000 * 2 ^ ackDelayExponent.toNat) = 0) :
    encodeAckDelay d * 2 ^ ackDelayExponent.toNat * 1000 = d := by
  change d % 8000 = 0 at h
  change d / 8000 * 8 * 1000 = d
  omega

/-- Decoding an ACK frame's encoding at exponent `x` gives the frame back
with its delay field read in units of `2 ^ x` microseconds. -/
theorem decodeAckFrame_append (f : AckFrame) (hf : f.WellFormed) (x : UInt8) (rest : List UInt8) :
    decodeAckFrame {} (appendVarints [] f.fields ++ rest) (Frame.ack f).wireType x =
      ({ f with delayTime := encodeAckDelay f.delayTime * 2 ^ x.toNat * 1000 }, .ok rest) := by
  obtain ⟨_ | ⟨⟨lo, hi⟩, rs⟩, d, e0, e1, ec⟩ := f
  · exact hf.elim
  obtain ⟨hr, hhi, hb, hn, -, hd', h0, h1, h2⟩ : lo ≤ hi ∧ hi < 2 ^ 62 ∧ AckRange.Below lo rs ∧
      rs.length < 2 ^ 62 ∧ d % (1000 * 2 ^ ackDelayExponent.toNat) = 0 ∧ encodeAckDelay d < 2 ^ 62 ∧
      e0 < 2 ^ 62 ∧ e1 < 2 ^ 62 ∧ ec < 2 ^ 62 := hf
  have hsmallest : hi - (hi - lo) = lo := by omega
  by_cases hecn : 0 < e0 ∨ 0 < e1 ∨ 0 < ec
  · simp [decodeAckFrame, AckFrame.fields, AckFrame.hasECN, Frame.wireType, hecn,
      readVarint_run_append _ hhi, readVarint_run_append _ hd', readVarint_run_append _ hn,
      readVarint_run_append _ (show hi - lo < 2 ^ 62 by omega), pure, Except.pure, hsmallest,
      decodeAckRanges_append _ hb (show lo < 2 ^ 62 by omega),
      readVarint_run_append _ h0, readVarint_run_append _ h1, readVarint_run_append _ h2]
  · obtain ⟨rfl, rfl, rfl⟩ : e0 = 0 ∧ e1 = 0 ∧ ec = 0 := by omega
    simp [decodeAckFrame, AckFrame.fields, AckFrame.hasECN, Frame.wireType,
      readVarint_run_append _ hhi, readVarint_run_append _ hd', readVarint_run_append _ hn,
      readVarint_run_append _ (show hi - lo < 2 ^ 62 by omega), pure, Except.pure, hsmallest,
      decodeAckRanges_append _ hb (show lo < 2 ^ 62 by omega),
      Nat.not_lt.2 (Nat.sub_le hi lo), ackFrameType, ackECNFrameType]

/-- `ParseAckFrame` on an ACK frame's encoding at exponent `x`: the frame
with its delay rescaled, the whole body consumed. -/
theorem parseAckFrame_append_scaled (f : AckFrame) (hf : f.WellFormed) (x : UInt8)
    (rest : List UInt8) (v : Version) :
    parseAckFrame {} ((Frame.ack f).appendBody [] ++ rest) (Frame.ack f).wireType x v =
      ({ f with delayTime := encodeAckDelay f.delayTime * 2 ^ x.toNat * 1000 },
        ((Frame.ack f).appendBody []).length, none) := by
  simp only [parseAckFrame, Frame.appendBody, decodeAckFrame_append f hf, List.length_append,
    Nat.add_sub_cancel]

/-- At the encoder's exponent the delay reads back exactly. -/
theorem parseAckFrame_append (f : AckFrame) (hf : f.WellFormed) (rest : List UInt8) (v : Version) :
    parseAckFrame {} ((Frame.ack f).appendBody [] ++ rest) (Frame.ack f).wireType ackDelayExponent v =
      (f, ((Frame.ack f).appendBody []).length, none) := by
  rw [parseAckFrame_append_scaled f hf]
  obtain ⟨_ | ⟨r, rs⟩, d, e0, e1, ec⟩ := f
  · exact hf.elim
  rw [encodeAckDelay_mul hf.2.2.2.2.1]

end QuicWire
