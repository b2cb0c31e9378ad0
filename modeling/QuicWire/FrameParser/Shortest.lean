import QuicWire.Codec.Shortest
import QuicWire.FrameParser.Drain

/-!
# QuicWire.FrameParser.Shortest

`Append` writes the shortest encoding `ParseNext` accepts. Every buffer
`ParseNext` reads a frame from, at the encoder's ACK delay exponent, takes
at least as many bytes as the frame's `Append` encoding
(`ParseNext_append_length_le`): the code `Append` writes is one byte, no
longer than the varint read, and its body is no longer than the one read
(`QuicWire.Codec.Shortest`). With `ParseNext_accepts_readable` this makes
`Append` a shortest encoding of each frame the parser returns.

For the caller's loop it means that re-encoding never grows a buffer: the
frames `drain` reads, written out by `framesToBuffer`, take no more bytes
than the buffer they were read from (`drain_framesToBuffer_length_le`).
-/

namespace QuicWire
namespace FrameParser

variable {p q : FrameParser} {e : EncryptionLevel} {v : Version}

/-- Every code `Append` writes fits in one byte. -/
theorem Frame.len_wireType (f : Frame) : Quicvarint.len f.wireType = 1 := by
  have := (newFrameType_eq_some_iff.1 f.newFrameType_wireType).2
  unfold Quicvarint.len
  rw [if_pos (by omega)]

theorem Frame.length_append_nil (f : Frame) (v : Version) :
    (f.append [] v).length = (f.appendBody []).length + 1 := by
  rw [Frame.append_eq, List.nil_append, List.length_append, Quicvarint.length_append_nil,
    Frame.len_wireType, Nat.add_comm]

/-! ## The switch -/

theorem parseFrameSwitch_spends_of_ack {b : List UInt8} {t n : Nat} {f : Frame}
    (ht : t = ackFrameType ∨ t = ackECNFrameType) (h : p.parseFrameSwitch b t e v = (q, .ok (f, n)))
    (hx : p.ackDelayExponentAt e = QuicWire.ackDelayExponent) : (f.appendBody []).length ≤ n := by
  rcases hA : QuicWire.parseAckFrame p.ackFrame.reset b t (p.ackDelayExponentAt e) v
    with ⟨a, l, _ | err⟩ <;> rw [parseFrameSwitch_of_ack ht hA] at h <;> cases h
  rw [AckFrame.reset_eq, hx] at hA
  exact parseAckFrame_spends hA

/-- The body `Append` writes for what the switch of `ParseFrame` decodes,
at the encoder's ACK delay exponent, is no longer than the bytes it
consumed. -/
theorem parseFrameSwitch_spends {b : List UInt8} {t n : Nat} {f : Frame}
    (h : p.parseFrameSwitch b t e v = (q, .ok (f, n)))
    (hx : p.ackDelayExponentAt e = QuicWire.ackDelayExponent) : (f.appendBody []).length ≤ n := by
  by_cases hm : (UInt8.ofNat t &&& 0xf8) = 0x8
  · rw [parseFrameSwitch_of_mask hm] at h
    obtain ⟨sf, hs, rfl⟩ := exists_of_map_ok (Prod.mk.inj_iff.1 h).2
    exact parseStreamFrame_spends hs
  by_cases hack : t = ackFrameType ∨ t = ackECNFrameType
  · exact parseFrameSwitch_spends_of_ack hack h hx
  obtain ⟨rfl, harm⟩ := parseFrameSwitch_otherArm hm hack h
  cases harm with
  | ping | handshakeDone => exact Nat.le_refl _
  | resetStream hd | resetStreamAt _ hd => exact parseResetStreamFrame_spends hd
  | stopSending hd | maxStreamData hd | streamDataBlocked hd =>
    obtain ⟨x, y, rfl, hxy⟩ := parseVarintPairFrame_spends hd
    simpa [Frame.appendBody, Quicvarint.length_append_nil] using hxy
  | crypto hd => exact parseCryptoFrame_spends hd
  | newToken hd => exact parseNewTokenFrame_spends hd
  | maxData hd | dataBlocked hd | retireConnectionID hd =>
    obtain ⟨x, rfl, hx⟩ := parseVarintFrame_spends hd
    simpa [Frame.appendBody, Quicvarint.length_append_nil] using hx
  | maxStreams _ hd | streamsBlocked _ hd =>
    obtain ⟨s, k, rfl, hk⟩ := parseStreamCountFrame_spends hd
    simpa [Frame.appendBody, Quicvarint.length_append_nil] using hk
  | newConnectionID hd => exact parseNewConnectionIDFrame_spends hd
  | pathChallenge hd | pathResponse hd =>
    obtain ⟨d, rfl, h8⟩ := parsePathDataFrame_spends hd
    simpa [Frame.appendBody, d.length_eq] using h8
  | connectionClose _ hd => exact parseConnectionCloseFrame_spends hd
  | datagram _ _ hd => exact parseDatagramFrame_spends hd

/-! ## ParseFrame and ParseNext -/

theorem parseFrame_spends {b : List UInt8} {t n : Nat} {f : Frame}
    (h : p.parseFrame b t e v = (q, some f, n, none))
    (hx : p.ackDelayExponentAt e = QuicWire.ackDelayExponent) : (f.appendBody []).length ≤ n :=
  parseFrameSwitch_spends (parseFrame_eq_some_iff.1 h).1 hx

/-- The body `Append` writes for a frame `ParseNext` reads, at the encoder's
ACK delay exponent, is shorter than the count: the code took a byte at
least. -/
theorem ParseNext_appendBody_length_lt {b : List UInt8} {n : Nat} {f : Frame}
    (h : p.ParseNext b e v = (q, n, some f, none))
    (hx : p.ackDelayExponentAt e = QuicWire.ackDelayExponent) : (f.appendBody []).length < n := by
  obtain ⟨t, l, l', hp, hpf, rfl⟩ := ParseNext_frame_cases h
  have hl := (Quicvarint.parse_ok_length hp).1
  have hbody := parseFrame_spends hpf hx
  omega

/-- Every buffer `ParseNext` reads a frame from, at the encoder's ACK delay
exponent, is at least as long as the frame's `Append` encoding: PADDING, a
varint wider than needed or an optional field holding its default only
add bytes. -/
theorem ParseNext_append_length_le {b : List UInt8} {n : Nat} {f : Frame}
    (h : p.ParseNext b e v = (q, n, some f, none))
    (hx : p.ackDelayExponentAt e = QuicWire.ackDelayExponent) : (f.append [] v).length ≤ n := by
  rw [Frame.length_append_nil]
  exact ParseNext_appendBody_length_lt h hx

/-- MAX_DATA with its code and its value each written in two bytes: four
bytes read, where `Append` writes two. -/
theorem ParseNext_append_length_le_wide :
    (newFrameParser true true).ParseNext [0x40, 0x10, 0x40, 0x05] .encryption0RTT version1 =
        (newFrameParser true true, 4, some (.maxData 5), none) ∧
      (newFrameParser true true).ackDelayExponentAt .encryption0RTT = QuicWire.ackDelayExponent ∧
      ((Frame.maxData 5).append [] version1).length ≤ 4 :=
  have h : (newFrameParser true true).ParseNext [0x40, 0x10, 0x40, 0x05] .encryption0RTT version1 =
      (newFrameParser true true, 4, some (.maxData 5), none) := by
    rw [ParseNext, parseNext, parseNextLoop_of_type
      (show Quicvarint.parse [0x40, 0x10, 0x40, 0x05] = .ok (16, 2) from rfl) (by decide)]
    rfl
  ⟨h, rfl, ParseNext_append_length_le h rfl⟩

/-! ## The caller's loop -/

theorem framesToBuffer_cons (f : Frame) (fs : List Frame) :
    framesToBuffer v (f :: fs) = f.append [] v ++ framesToBuffer v fs := by
  simp only [framesToBuffer_eq, List.map_cons, paddedBuffer, List.replicate_zero, List.nil_append]

/-- Re-encoding never grows a buffer: the frames the loop reads without an
error, at the encoder's ACK delay exponent, written out by `framesToBuffer`,
take no more bytes than the buffer they were read from. -/
theorem drain_framesToBuffer_length_le :
    ∀ (k : Nat) (p : FrameParser) (b : List UInt8) {q : FrameParser} {fs : List Frame},
      drain e v k p b = some (q, fs, none) →
      p.ackDelayExponentAt e = QuicWire.ackDelayExponent →
      (framesToBuffer v fs).length ≤ b.length
  | k, p, [], _, _, h, _ => by
    rw [drain_nil] at h
    cases h
    exact Nat.le_refl _
  | 0, _, _ :: _, _, _, h, _ => by cases h
  | k + 1, p, x :: xs, q, fs, h, hexp => by
    obtain ⟨q₁, l, frame, fs', hr, hc, hd, rfl⟩ | ⟨_, _, _, -, -, ⟨⟩⟩ :=
      drain_succ_cases (List.cons_ne_nil x xs) h
    have ih := drain_framesToBuffer_length_le k q₁ _ hd ((ackDelayExponentAt_of_config hc e).trans hexp)
    have hle := ParseNext_count_le p (x :: xs) e v
    rw [hr] at hle
    simp only [List.length_drop] at ih hle
    cases frame with
    | none => simp only [Option.toList, List.nil_append]; omega
    | some f =>
      have hf := ParseNext_appendBody_length_lt hr hexp
      rw [Option.toList, List.singleton_append, framesToBuffer_cons, List.length_append,
        Frame.length_append_nil]
      omega

/-- The loop over MAX_DATA written in four bytes reads it in one call;
`framesToBuffer` writes it in two. -/
theorem drain_framesToBuffer_length_le_wide :
    drain .encryption0RTT version1 4 (newFrameParser true true) [0x40, 0x10, 0x40, 0x05] =
        some (newFrameParser true true, [.maxData 5], none) ∧
      (newFrameParser true true).ackDelayExponentAt .encryption0RTT = QuicWire.ackDelayExponent ∧
      (framesToBuffer version1 [.maxData 5]).length ≤ [0x40, 0x10, 0x40, 0x05].length :=
  have h₁ : (newFrameParser true true).ParseNext [0x40, 0x10, 0x40, 0x05] .encryption0RTT version1 =
      (newFrameParser true true, 4, some (.maxData 5), none) := by
    rw [ParseNext, parseNext, parseNextLoop_of_type
      (show Quicvarint.parse [0x40, 0x10, 0x40, 0x05] = .ok (16, 2) from rfl) (by decide)]
    rfl
  have h : drain .encryption0RTT version1 4 (newFrameParser true true) [0x40, 0x10, 0x40, 0x05] =
      some (newFrameParser true true, [.maxData 5], none) := by
    rw [drain_of_ok (by simp) h₁, show List.drop 4 [(0x40 : UInt8), 0x10, 0x40, 0x05] = [] from rfl,
      drain_nil]
    rfl
  ⟨h, rfl, drain_framesToBuffer_length_le 4 _ _ h rfl⟩

end FrameParser
end QuicWire
