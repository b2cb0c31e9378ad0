import QuicWire.Codec.Sound
import QuicWire.FrameParser.Framing

/-!
# QuicWire.FrameParser.Readback

What `ParseNext` accepts reads back. Every frame it returns without an
error is written with a code the configuration enables and the level
allows (`ParseNext_accepted`, from `Accepted`, what each arm of the switch
guarantees). From a buffer within the varint range at the encoder's ACK
delay exponent it is moreover well formed, so the parser reads it back at
the same level (`Readable`): its `Append` encoding, parsed again by the
same parser, gives the same frame and no error
(`ParseNext_accepts_readable`).

Two conditions come from the decoders (`QuicWire.Codec.Sound`): a DATAGRAM
frame without a length takes the rest of the buffer, so the buffer must be
within the varint range, and an ACK frame's delay reads back only at the
encoder's exponent. The frame's code may differ from the one read: an
ACK_ECN frame without ECN counts, a RESET_STREAM_AT frame with a reliable
size of zero and a STREAM frame are written with their own code, which the
configuration and the level accept whenever they accepted the code read
(`isAllowedAtEncLevel_of_mask` for STREAM, whose test looks at the low byte
of the code only).
-/

namespace QuicWire
namespace FrameParser

variable {p q : FrameParser} {e : EncryptionLevel} {v : Version}

/-! ## The codes a frame is written with -/

/-- A STREAM frame is written with a STREAM code. -/
theorem Frame.stream_wireType_mem (f : StreamFrame) :
    8 ≤ (Frame.stream f).wireType ∧ (Frame.stream f).wireType ≤ 15 := by
  simp only [Frame.wireType]; split_ifs <;> omega

/-- A code that passes the STREAM test of `ParseFrame` is allowed at a
level only where every STREAM code is. -/
theorem isAllowedAtEncLevel_of_mask {t w : Nat} (hm : (UInt8.ofNat t &&& 0xf8) = 0x8)
    (hw : 8 ≤ w ∧ w ≤ 15) (ht : FrameType.isAllowedAtEncLevel t e = true) :
    FrameType.isAllowedAtEncLevel w e = true := by
  have hm := (streamMask_iff t).1 hm
  cases e with
  | encryptionInitial | encryptionHandshake =>
    dsimp only [FrameType.isAllowedAtEncLevel] at ht
    split at ht <;> first | omega | cases ht
  | encryption0RTT =>
    dsimp only [FrameType.isAllowedAtEncLevel]
    split <;> first | rfl | omega
  | encryption1RTT => rfl

/-- ACK and ACK_ECN are allowed at the same levels. -/
theorem isAllowedAtEncLevel_ack (e : EncryptionLevel) :
    FrameType.isAllowedAtEncLevel ackECNFrameType e = FrameType.isAllowedAtEncLevel ackFrameType e := by
  cases e <;> rfl

/-- RESET_STREAM is allowed wherever RESET_STREAM_AT is. -/
theorem isAllowedAtEncLevel_resetStream (e : EncryptionLevel) :
    FrameType.isAllowedAtEncLevel resetStreamAtFrameType e = true →
      FrameType.isAllowedAtEncLevel resetStreamFrameType e = true := by
  cases e <;> decide

/-- Every code of the table up to HANDSHAKE_DONE is enabled. -/
theorem isEnabled_of_le {t : Nat} (h₁ : 1 ≤ t) (h₂ : t ≤ 0x1e) : isEnabled p t = true := by
  simp [isEnabled, h₁, h₂]

/-! ## The switch -/

/-- No arm but ACK's decodes an ACK frame. -/
theorem OtherArm.ne_ack {b : List UInt8} {t n : Nat} {f : Frame} (h : OtherArm p b v t f n)
    (a : AckFrame) : f ≠ .ack a := by
  cases h with
  | ping | handshakeDone | datagram => nofun
  | resetStream hd | resetStreamAt _ hd =>
    obtain ⟨g, rfl, -⟩ := parseResetStreamFrame_ok hd; nofun
  | stopSending hd | maxStreamData hd | streamDataBlocked hd =>
    obtain ⟨x, y, rfl, -⟩ := parseVarintPairFrame_ok hd; nofun
  | crypto hd => obtain ⟨o, d, rfl, -⟩ := parseCryptoFrame_ok hd; nofun
  | newToken hd => obtain ⟨tk, rfl, -⟩ := parseNewTokenFrame_ok hd; nofun
  | maxData hd | dataBlocked hd | retireConnectionID hd =>
    obtain ⟨x, rfl, -⟩ := parseVarintFrame_ok hd; nofun
  | maxStreams _ hd | streamsBlocked _ hd => obtain ⟨k, rfl, -⟩ := parseStreamCountFrame_ok hd; nofun
  | newConnectionID hd => obtain ⟨g, rfl, -⟩ := parseNewConnectionIDFrame_ok hd; nofun
  | pathChallenge hd | pathResponse hd => obtain ⟨d, rfl⟩ := parsePathDataFrame_ok hd; nofun
  | connectionClose _ hd => obtain ⟨g, rfl, -⟩ := parseConnectionCloseFrame_ok hd; nofun


/-- What the switch of `ParseFrame` guarantees of a frame `f` it decoded
from `b` under code `t`, consuming `n` bytes: the code `Append` writes for
it is enabled, and allowed at every level that allows `t`; a frame that
runs to the end of the buffer took all of it; and, from a buffer within
the varint range at the encoder's ACK delay exponent, it is well formed. -/
structure Accepted (p : FrameParser) (e : EncryptionLevel) (b : List UInt8) (t : Nat) (f : Frame)
    (n : Nat) : Prop where
  enabled : isEnabled p f.wireType = true
  allowed : FrameType.isAllowedAtEncLevel t e = true → FrameType.isAllowedAtEncLevel f.wireType e = true
  toEnd : f.extendsToEnd = true → n = b.length
  wellFormed : b.length < 2 ^ 62 → p.ackDelayExponentAt e = QuicWire.ackDelayExponent → f.WellFormed

theorem parseFrameSwitch_accepted_of_ack {b : List UInt8} {t n : Nat} {f : Frame}
    (ht : t = ackFrameType ∨ t = ackECNFrameType) (h : p.parseFrameSwitch b t e v = (q, .ok (f, n))) :
    Accepted p e b t f n := by
  rcases hA : QuicWire.parseAckFrame p.ackFrame.reset b t (p.ackDelayExponentAt e) v
    with ⟨a, l, _ | err⟩ <;> rw [parseFrameSwitch_of_ack ht hA] at h <;> cases h
  rw [AckFrame.reset_eq] at hA
  have hw : (Frame.ack a).wireType = ackFrameType ∨ (Frame.ack a).wireType = ackECNFrameType := by
    simp only [Frame.wireType]; split <;> simp
  refine ⟨?_, ?_, nofun, fun _ hx => parseAckFrame_wellFormed (hx ▸ hA)⟩
  · rcases hw with hw | hw <;> rw [hw] <;> rfl
  · rcases hw with hw | hw <;> rcases ht with rfl | rfl <;> simp [hw, isAllowedAtEncLevel_ack]

/-- What the switch of `ParseFrame` decodes it accepts. -/
theorem parseFrameSwitch_accepted {b : List UInt8} {t n : Nat} {f : Frame}
    (h : p.parseFrameSwitch b t e v = (q, .ok (f, n))) : Accepted p e b t f n := by
  by_cases hm : (UInt8.ofNat t &&& 0xf8) = 0x8
  · rw [parseFrameSwitch_of_mask hm] at h
    obtain ⟨sf, hs, rfl⟩ := exists_of_map_ok (Prod.mk.inj_iff.1 h).2
    obtain ⟨hid, hoff⟩ := parseStreamFrame_ok hs
    have hw := Frame.stream_wireType_mem sf
    exact ⟨isEnabled_of_le (by omega) (by omega), isAllowedAtEncLevel_of_mask hm hw,
      fun hx => parseStreamFrame_count_of_not_dataLenPresent v hs (by simpa [Frame.extendsToEnd] using hx),
      fun _ _ => ⟨hid, by simp only [maxByteCount] at hoff; omega, hoff⟩⟩
  by_cases hack : t = ackFrameType ∨ t = ackECNFrameType
  · exact parseFrameSwitch_accepted_of_ack hack h
  obtain ⟨rfl, harm⟩ := parseFrameSwitch_otherArm hm hack h
  cases harm with
  | ping | handshakeDone => exact ⟨rfl, id, nofun, fun _ _ => trivial⟩
  | resetStream hd =>
    obtain ⟨g, rfl, hs, hec, hfs, hrs, h0⟩ := parseResetStreamFrame_ok hd
    have hw : (Frame.resetStream g).wireType = resetStreamFrameType := by simp [Frame.wireType, h0 rfl]
    exact ⟨hw ▸ rfl, hw ▸ id, nofun, fun _ _ => ⟨hs, hec, hfs, hrs⟩⟩
  | stopSending hd | maxStreamData hd | streamDataBlocked hd =>
    obtain ⟨x, y, rfl, hx, hy⟩ := parseVarintPairFrame_ok hd
    exact ⟨rfl, id, nofun, fun _ _ => ⟨hx, hy⟩⟩
  | crypto hd =>
    obtain ⟨o, d, rfl, ho, hl⟩ := parseCryptoFrame_ok hd
    exact ⟨rfl, id, nofun, fun _ _ => ⟨ho, hl⟩⟩
  | newToken hd =>
    obtain ⟨tk, rfl, h0, hl⟩ := parseNewTokenFrame_ok hd
    exact ⟨rfl, id, nofun, fun _ _ => ⟨h0, hl⟩⟩
  | maxData hd | dataBlocked hd | retireConnectionID hd =>
    obtain ⟨x, rfl, hx⟩ := parseVarintFrame_ok hd
    exact ⟨rfl, id, nofun, fun _ _ => hx⟩
  | maxStreams ht hd | streamsBlocked ht hd =>
    obtain ⟨k, rfl, hk⟩ := parseStreamCountFrame_ok hd
    rcases ht with rfl | rfl <;> exact ⟨rfl, id, nofun, fun _ _ => hk⟩
  | newConnectionID hd =>
    obtain ⟨g, rfl, hs, hr, hc⟩ := parseNewConnectionIDFrame_ok hd
    exact ⟨rfl, id, nofun, fun _ _ => ⟨hs, hr, hc⟩⟩
  | pathChallenge hd | pathResponse hd =>
    obtain ⟨d, rfl⟩ := parsePathDataFrame_ok hd
    exact ⟨rfl, id, nofun, fun _ _ => trivial⟩
  | connectionClose ht hd =>
    obtain ⟨g, rfl, hec, hft, hr, hia, happ⟩ := parseConnectionCloseFrame_ok hd
    have hw : (Frame.connectionClose g).wireType = t := by
      rcases ht with rfl | rfl <;>
        simp [Frame.wireType, hia, applicationCloseFrameType, connectionCloseFrameType]
    exact ⟨hw ▸ by rcases ht with rfl | rfl <;> rfl, hw ▸ id, nofun, fun _ _ => ⟨hec, hft, hr, happ⟩⟩
  | @datagram _ df _ ht hs hd =>
    have hw : (Frame.datagram df).wireType = t := by
      rcases ht with rfl | rfl <;> simp [Frame.wireType, parseDatagramFrame_dataLenPresent v hd,
        datagramNoLengthFrameType, datagramWithLengthFrameType]
    exact ⟨hw ▸ by rcases ht with rfl | rfl <;> simp [isEnabled, hs], hw ▸ id,
      fun hx => parseDatagramFrame_count_of_not_dataLenPresent v hd
        (by simpa [Frame.extendsToEnd] using hx),
      fun hb _ => (parseDatagramFrame_ok hd).elim id fun hdb => by simpa [Frame.WellFormed, hdb] using hb⟩
  | resetStreamAt hs hd =>
    obtain ⟨g, rfl, hs', hec, hfs, hrs, -⟩ := parseResetStreamFrame_ok hd
    have hw : (Frame.resetStream g).wireType = resetStreamAtFrameType ∨
        (Frame.resetStream g).wireType = resetStreamFrameType := by
      simp only [Frame.wireType]; split <;> simp
    rcases hw with hw | hw
    · exact ⟨hw ▸ by simp [isEnabled, hs], hw ▸ id, nofun, fun _ _ => ⟨hs', hec, hfs, hrs⟩⟩
    · exact ⟨hw ▸ rfl, hw ▸ isAllowedAtEncLevel_resetStream e, nofun, fun _ _ => ⟨hs', hec, hfs, hrs⟩⟩

/-! ## ParseFrame and ParseNext -/

/-- `ParseFrame` also checked the level of the code it read. -/
theorem parseFrame_accepted {b : List UInt8} {t n : Nat} {f : Frame}
    (h : p.parseFrame b t e v = (q, some f, n, none)) :
    Accepted p e b t f n ∧ FrameType.isAllowedAtEncLevel t e = true :=
  (parseFrame_eq_some_iff.1 h).imp_left parseFrameSwitch_accepted

/-- A frame `ParseNext` returns without an error is one `ParseFrame`
decoded after the PADDING and the type varint; the count adds up the
three. -/
theorem ParseNext_frame_cases {b : List UInt8} {n : Nat} {f : Frame}
    (h : p.ParseNext b e v = (q, n, some f, none)) :
    ∃ t l l', Quicvarint.parse (b.drop (paddingLength b)) = .ok (t, l) ∧
      p.parseFrame ((b.drop (paddingLength b)).drop l) t e v = (q, some f, l', none) ∧
      n = paddingLength b + l + l' := by
  have hn : p.parseNextFrame b e v = some (q, f, n) := by rw [parseNextFrame, h]
  rcases after_padding_cases b with h0 | ⟨hne, err, herr⟩ | ⟨t, l, hp, ht⟩
  · rw [parseNextFrame_of_eof h0] at hn; cases hn
  · rw [parseNextFrame_of_error hne herr] at hn; cases hn
  rw [parseNextFrame_of_type hp ht] at hn
  generalize hpf : p.parseFrame ((b.drop (paddingLength b)).drop l) t e v = r at hn
  rcases r with ⟨q', _ | f', l', _ | err⟩ <;> cases hn
  exact ⟨t, l, l', hp, hpf, rfl⟩

/-- Conversely, a frame `ParseFrame` decodes after the PADDING and the type
varint is what `ParseNext` returns. -/
theorem ParseNext_of_parseFrame {b : List UInt8} {t l l' : Nat} {f : Frame}
    (hp : Quicvarint.parse (b.drop (paddingLength b)) = .ok (t, l))
    (hf : (p.parseFrame ((b.drop (paddingLength b)).drop l) t e v).2 = (some f, l', none)) :
    p.ParseNext b e v =
      ((p.parseFrame ((b.drop (paddingLength b)).drop l) t e v).1, paddingLength b + l + l', some f,
        none) := by
  have ht : t ≠ 0 := by rintro rfl; exact not_padding_drop_paddingLength b l hp
  rw [ParseNext_eq, parseNext_after_padding, parseNextLoop_of_type hp ht]
  generalize p.parseFrame ((b.drop (paddingLength b)).drop l) t e v = r at hf ⊢
  obtain ⟨q, r⟩ := r
  cases hf
  rfl

/-- What `ParseNext` returns without an error is written with a code the
configuration enables and the level allows; a frame that runs to the end of
the buffer took all of it; and, from a buffer within the varint range at
the encoder's ACK delay exponent, the frame is well formed. -/
theorem ParseNext_accepted {b : List UInt8} {n : Nat} {f : Frame}
    (h : p.ParseNext b e v = (q, n, some f, none)) :
    isEnabled p f.wireType = true ∧ FrameType.isAllowedAtEncLevel f.wireType e = true ∧
      (f.extendsToEnd = true → n = b.length) ∧
      (b.length < 2 ^ 62 → p.ackDelayExponentAt e = QuicWire.ackDelayExponent → f.WellFormed) := by
  obtain ⟨t, l, l', hp, hpf, rfl⟩ := ParseNext_frame_cases h
  have hl := (Quicvarint.parse_ok_length hp).2
  have hpad := paddingLength_le_length b
  obtain ⟨ha, hal⟩ := parseFrame_accepted hpf
  refine ⟨ha.enabled, ha.allowed hal, fun he => ?_, fun hb hx => ha.wellFormed ?_ hx⟩
  · have := ha.toEnd he
    simp only [List.length_drop] at this hl
    omega
  · simp only [List.length_drop]; omega

/-- So what `ParseNext` returns without an error, from a buffer within the
varint range and at the encoder's ACK delay exponent, is readable. -/
theorem ParseNext_readable {b : List UInt8} {n : Nat} {f : Frame}
    (h : p.ParseNext b e v = (q, n, some f, none)) (hb : b.length < 2 ^ 62)
    (hx : p.ackDelayExponentAt e = QuicWire.ackDelayExponent) :
    Readable p e f ∧ (f.extendsToEnd = true → n = b.length) :=
  have ⟨hen, hal, hend, hwf⟩ := ParseNext_accepted h
  ⟨⟨hwf hb hx, hen, hal⟩, hend⟩

/-- Every frame `ParseNext` accepts from a buffer within the varint range,
at a level where the parser's ACK delay exponent is the encoder's, reads
back: it is well formed, its code is enabled and allowed at the level, and
its `Append` encoding parsed by the same parser gives the same frame, with
no error and the encoding's length as the count. -/
theorem ParseNext_accepts_readable {b : List UInt8} {n : Nat} {f : Frame}
    (h : p.ParseNext b e v = (q, n, some f, none)) (hb : b.length < 2 ^ 62)
    (hx : p.ackDelayExponentAt e = QuicWire.ackDelayExponent) :
    Readable p e f ∧ (p.ParseNext (f.append [] v) e v).2 = ((f.append [] v).length, some f, none) := by
  have hr := (ParseNext_readable h hb hx).1
  refine ⟨hr, ?_⟩
  simpa using ParseNext_padded_append hr hx 0 [] (fun _ => rfl) v

/-- A STREAM frame read at 0-RTT with an offset field of zero: it is
written back without the offset field, under code `0x0a`, and reads back
the same. -/
theorem ParseNext_accepts_readable_stream :
    (newFrameParser true true).ParseNext [0x0e, 0x00, 0x00, 0x01, 0x41] .encryption0RTT version1 =
        (newFrameParser true true, 5,
          some (.stream { streamID := 0, data := [0x41], dataLenPresent := true }), none) ∧
      [0x0e, 0x00, 0x00, 0x01, 0x41].length < 2 ^ 62 ∧
      (newFrameParser true true).ackDelayExponentAt .encryption0RTT = QuicWire.ackDelayExponent ∧
      Readable (newFrameParser true true) .encryption0RTT
          (.stream { streamID := 0, data := [0x41], dataLenPresent := true }) ∧
        ((newFrameParser true true).ParseNext
            ((Frame.stream { streamID := 0, data := [0x41], dataLenPresent := true }).append [] version1)
            .encryption0RTT version1).2 =
          (((Frame.stream { streamID := 0, data := [0x41], dataLenPresent := true }).append []
              version1).length,
            some (.stream { streamID := 0, data := [0x41], dataLenPresent := true }), none) :=
  have h : (newFrameParser true true).ParseNext [0x0e, 0x00, 0x00, 0x01, 0x41] .encryption0RTT
      version1 = (newFrameParser true true, 5,
        some (.stream { streamID := 0, data := [0x41], dataLenPresent := true }), none) := by
    rw [ParseNext, parseNext,
      parseNextLoop_of_type (show Quicvarint.parse [0x0e, 0x00, 0x00, 0x01, 0x41] = .ok (14, 1) from rfl)
        (by decide)]
    rfl
  ⟨h, by decide, rfl, ParseNext_accepts_readable h (by decide) rfl⟩

end FrameParser
end QuicWire
