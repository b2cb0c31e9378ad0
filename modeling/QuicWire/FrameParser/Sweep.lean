import QuicWire.Codec.Roundtrip
import QuicWire.FrameParser.Runs

/-!
# QuicWire.FrameParser.Sweep

`ParseNext` reads back what `Append` wrote (spec §8), and a caller's loop
over a buffer of frames and PADDING returns the frames in wire order (§5).

One call: on a frame of a kind the configuration enables and the level
allows, well-formed, and decoded at the encoder's ACK delay exponent,
`ParseNext` skips the PADDING before it and returns it with the count of
the PADDING and its encoding (`ParseNext_padded_append`). The exception is
a STREAM or DATAGRAM frame without a length field, which runs to the end of
the buffer: after one, nothing may follow, PADDING included.

A whole loop (`sweep`) is the induction over the frames, with the parser's
configuration kept from call to call (`config_parseNext`).

At another exponent the ACK delay reads back rescaled
(`parseAckFrame_scales_delay`), and a frame the level does not allow is
decoded in full before `ParseNext` rejects it, where `ParseType` stops
after its code (`ParseNext_consumes_disallowed_frame`).
-/

namespace QuicWire

/-! ## The code `Append` writes -/

/-- Every frame is written under a code of the table. -/
theorem Frame.newFrameType_wireType (f : Frame) : newFrameType f.wireType = some f.wireType := by
  cases f <;> simp only [Frame.wireType] <;> (try split_ifs) <;> decide

theorem Frame.appendBody_eq (f : Frame) (b : List UInt8) : f.appendBody b = b ++ f.appendBody [] := by
  cases f <;> simp only [Frame.appendBody] <;> (try rw [appendVarints_eq]) <;> simp

theorem Frame.append_eq (f : Frame) (b : List UInt8) (v : Version) :
    f.append b v = b ++ (Quicvarint.append [] f.wireType ++ f.appendBody []) := by
  rw [Frame.append, Frame.appendBody_eq, Quicvarint.append_eq, List.append_assoc]

namespace FrameParser

/-! ## The ACK delay -/

/-- The parser's `ParseAckFrame` on an ACK frame's encoding decodes it into
its reused ACK frame and hands that out, with the whole body consumed. The
delay field is read in units of `2 ^ x` microseconds, `x` the configured
exponent at 1-RTT; at every other level the protocol default applies, which
is the encoder's, and the delay reads back exactly. -/
theorem parseAckFrame_scales_delay (p : FrameParser) (e : EncryptionLevel) (v : Version)
    (f : AckFrame) (hf : f.WellFormed) (rest : List UInt8) :
    let g : AckFrame := if e = .encryption1RTT then
        { f with delayTime := encodeAckDelay f.delayTime * 2 ^ p.ackDelayExponent.toNat * 1000 }
      else f
    p.parseAckFrame (Frame.ack f).wireType ((Frame.ack f).appendBody [] ++ rest) e v =
      ({ p with ackFrame := g }, g, ((Frame.ack f).appendBody []).length, none) := by
  intro g
  by_cases he : e = .encryption1RTT
  · simp only [g, parseAckFrame, ackDelayExponentAt, he, ne_eq, not_true_eq_false, ↓reduceIte,
      AckFrame.reset_eq, parseAckFrame_append_scaled f hf]
  · simp only [g, parseAckFrame, ackDelayExponentAt, he, ne_eq, not_false_eq_true, ↓reduceIte,
      AckFrame.reset_eq, show defaultAckDelayExponent = QuicWire.ackDelayExponent from rfl,
      parseAckFrame_append f hf]

/-- `testFrameParserAckDelay`: a delay of 1 s, decoded with the exponent
set two above the encoder's, reads 4 s at 1-RTT and 1 s at the Handshake
level. -/
theorem parseAckFrame_scales_delay_one_second :
    (((newFrameParser true true).setAckDelayExponent (QuicWire.ackDelayExponent + 2)).parseAckFrame
        (Frame.ack { ackRanges := [⟨1, 1⟩], delayTime := 1000000000 }).wireType
        ((Frame.ack { ackRanges := [⟨1, 1⟩], delayTime := 1000000000 }).appendBody [] ++ [])
        .encryption1RTT version1).2.1.delayTime = 4000000000 ∧
    (((newFrameParser true true).setAckDelayExponent (QuicWire.ackDelayExponent + 2)).parseAckFrame
        (Frame.ack { ackRanges := [⟨1, 1⟩], delayTime := 1000000000 }).wireType
        ((Frame.ack { ackRanges := [⟨1, 1⟩], delayTime := 1000000000 }).appendBody [] ++ [])
        .encryptionHandshake version1).2.1.delayTime = 1000000000 := by
  have hf : AckFrame.WellFormed { ackRanges := [⟨1, 1⟩], delayTime := 1000000000 } := by
    simp only [AckFrame.WellFormed, AckRange.Below]; decide
  constructor
  · rw [parseAckFrame_scales_delay _ _ _ _ hf]; rfl
  · rw [parseAckFrame_scales_delay _ _ _ _ hf]; rfl

/-! ## One frame -/

/-- A frame a parser reads back at level `e`: well-formed, of a kind the
configuration enables and the level allows. -/
structure Readable (p : FrameParser) (e : EncryptionLevel) (f : Frame) : Prop where
  wellFormed : f.WellFormed
  enabled : isEnabled p f.wireType = true
  allowed : FrameType.isAllowedAtEncLevel f.wireType e = true

/-- The switch of `ParseFrame` reads back the body `Append` wrote. -/
theorem parseFrameSwitch_append {p : FrameParser} {e : EncryptionLevel} {f : Frame}
    (hwf : f.WellFormed) (hen : isEnabled p f.wireType = true)
    (hexp : p.ackDelayExponentAt e = QuicWire.ackDelayExponent) (rest : List UInt8)
    (hrest : f.extendsToEnd = true → rest = []) (v : Version) :
    (p.parseFrameSwitch (f.appendBody [] ++ rest) f.wireType e v).2 =
      .ok (f, (f.appendBody []).length) := by
  cases f with
  | ping | handshakeDone => unfold parseFrameSwitch; rw [if_neg (by decide)]; rfl
  | ack f =>
    have hack := parseAckFrame_append f hwf rest v
    simp only [Frame.wireType] at hack ⊢
    cases h : f.hasECN <;> simp only [h, Bool.false_eq_true, ↓reduceIte] at hack ⊢ <;>
      unfold parseFrameSwitch <;> rw [if_neg (by decide)] <;>
      simp only [AckFrame.reset_eq, hexp, hack]
  | resetStream f =>
    have hrs := parseResetStreamFrame_append rest v f hwf
    simp only [Frame.wireType] at hen ⊢
    by_cases h : f.reliableSize > 0
    · have hsr : p.supportsResetStreamAt = true := by
        simpa [h, isEnabled, resetStreamAtFrameType, datagramNoLengthFrameType,
          datagramWithLengthFrameType] using hen
      simp only [h, decide_True, ↓reduceIte] at hrs ⊢
      unfold parseFrameSwitch
      rw [if_neg (by decide)]
      simpa [hsr] using hrs
    · simp only [h, decide_False, ↓reduceIte] at hrs ⊢
      unfold parseFrameSwitch
      rw [if_neg (by decide)]
      exact hrs
  | stopSending | maxStreamData | streamDataBlocked =>
    simp only [Frame.wireType]; unfold parseFrameSwitch; rw [if_neg (by decide)]
    exact parseVarintPairFrame_append rest _ hwf.1 hwf.2
  | maxData | dataBlocked | retireConnectionID =>
    simp only [Frame.wireType]; unfold parseFrameSwitch; rw [if_neg (by decide)]
    exact parseVarintFrame_append rest _ hwf
  | crypto =>
    simp only [Frame.wireType]; unfold parseFrameSwitch; rw [if_neg (by decide)]
    exact parseCryptoFrame_append rest v hwf
  | newToken =>
    simp only [Frame.wireType]; unfold parseFrameSwitch; rw [if_neg (by decide)]
    exact parseNewTokenFrame_append rest v hwf
  | newConnectionID f =>
    simp only [Frame.wireType]; unfold parseFrameSwitch; rw [if_neg (by decide)]
    exact parseNewConnectionIDFrame_append rest v f hwf
  | pathChallenge | pathResponse =>
    simp only [Frame.wireType]; unfold parseFrameSwitch; rw [if_neg (by decide)]
    exact parsePathDataFrame_append rest _ _
  | maxStreams type n | streamsBlocked type n =>
    simp only [Frame.wireType]
    cases type <;> simp only [reduceCtorEq, ↓reduceIte] <;> unfold parseFrameSwitch <;>
      rw [if_neg (by decide)] <;> exact parseStreamCountFrame_append rest _ _ _ hwf
  | connectionClose f =>
    have hcc := parseConnectionCloseFrame_append rest v f hwf
    simp only [Frame.wireType] at hcc ⊢
    cases h : f.isApplicationError <;> simp only [h, Bool.false_eq_true, ↓reduceIte] at hcc ⊢ <;>
      unfold parseFrameSwitch <;> rw [if_neg (by decide)] <;> exact hcc
  | stream f =>
    have hs := QuicWire.parseStreamFrame_append rest v f hwf fun h =>
      hrest (by simp [Frame.extendsToEnd, h])
    have hm : (UInt8.ofNat (Frame.stream f).wireType &&& 0xf8) = 0x8 := by
      simp only [Frame.wireType]; split_ifs <;> decide
    unfold parseFrameSwitch
    rw [if_pos hm, hs]
    rfl
  | datagram f =>
    have hd := QuicWire.parseDatagramFrame_append rest v f hwf fun h =>
      hrest (by simp [Frame.extendsToEnd, h])
    have hsd : p.supportsDatagrams = true := by
      simp only [Frame.wireType] at hen
      split_ifs at hen <;> simpa [isEnabled, resetStreamAtFrameType, datagramNoLengthFrameType,
        datagramWithLengthFrameType] using hen
    simp only [Frame.wireType] at hd ⊢
    cases h : f.dataLenPresent <;> simp only [h, Bool.false_eq_true, ↓reduceIte] at hd ⊢ <;>
      unfold parseFrameSwitch <;> rw [if_neg (by decide)] <;> simp [hsd, hd]

theorem parseFrame_append {p : FrameParser} {e : EncryptionLevel} {f : Frame}
    (hf : Readable p e f) (hexp : p.ackDelayExponentAt e = QuicWire.ackDelayExponent)
    (rest : List UInt8) (hrest : f.extendsToEnd = true → rest = []) (v : Version) :
    (p.parseFrame (f.appendBody [] ++ rest) f.wireType e v).2 =
      (some f, (f.appendBody []).length, none) := by
  have hs := parseFrameSwitch_append hf.wellFormed hf.enabled hexp rest hrest v
  unfold parseFrame
  generalize p.parseFrameSwitch (f.appendBody [] ++ rest) f.wireType e v = x at hs ⊢
  obtain ⟨q, r⟩ := x
  cases hs
  simp [hf.allowed]

/-- `ParseNext` skips the PADDING before a frame and reads the frame back,
counting the PADDING and the frame's encoding. -/
theorem ParseNext_padded_append {p : FrameParser} {e : EncryptionLevel} {f : Frame}
    (hf : Readable p e f) (hexp : p.ackDelayExponentAt e = QuicWire.ackDelayExponent) (k : Nat)
    (rest : List UInt8) (hrest : f.extendsToEnd = true → rest = []) (v : Version) :
    (p.ParseNext (List.replicate k 0 ++ (f.append [] v ++ rest)) e v).2 =
      (k + (f.append [] v).length, some f, none) := by
  have ht := newFrameType_eq_some_iff.1 f.newFrameType_wireType
  have hpf := parseFrame_append hf hexp rest hrest v
  rw [ParseNext_eq, parseNext, parseNextLoop_replicate, parseNextLoop_parsed, Nat.zero_add,
    ← parseNext, Frame.append_eq, List.nil_append, List.append_assoc,
    parseNext_append_type p e v _ (by omega) (by omega)]
  generalize p.parseFrame (f.appendBody [] ++ rest) f.wireType e v = x at hpf ⊢
  obtain ⟨q, r⟩ := x
  cases hpf
  simp [Quicvarint.length_append_nil, Nat.add_assoc]

/-- A frame the configuration enables but the level does not allow is
decoded before it is rejected: `ParseNext` consumes its whole encoding and
returns no frame and an error naming the frame's Go type and the level,
with the frame's code as `FrameType`. `ParseType` rejects the same buffer
after the code alone, with a message naming the code and `FrameType` 0. -/
theorem ParseNext_consumes_disallowed_frame {p : FrameParser} {e : EncryptionLevel} {f : Frame}
    (hwf : f.WellFormed) (hen : isEnabled p f.wireType = true)
    (hna : FrameType.isAllowedAtEncLevel f.wireType e = false) (rest : List UInt8)
    (hrest : f.extendsToEnd = true → rest = []) (v : Version) :
    let name := f.typeName
    let t := f.wireType
    (p.ParseNext (f.append [] v ++ rest) e v).2 =
      ((f.append [] v).length, none, some
        { frameType := t, errorCode := frameEncodingError,
          errorMessage := s!"{name} not allowed at encryption level {e}" }) ∧
    (p.parseType (f.append [] v ++ rest) e).2 =
      (Quicvarint.len t, some (.transport
        { errorCode := frameEncodingError,
          errorMessage := s!"{t} not allowed at encryption level {e}" })) := by
  intro name t
  have ht := (newFrameType_eq_some_iff.1 f.newFrameType_wireType).2
  have he : e ≠ .encryption1RTT := by rintro rfl; cases hna
  have hs := parseFrameSwitch_append hwf hen (ackDelayExponentAt_of_ne p he) rest hrest v
  rw [Frame.append_eq, List.nil_append, List.append_assoc]
  constructor
  · rw [ParseNext_eq, parseNext_append_type p e v _ (by omega) (by omega)]
    unfold parseFrame
    generalize p.parseFrameSwitch (f.appendBody [] ++ rest) f.wireType e v = x at hs ⊢
    obtain ⟨q, r⟩ := x
    cases hs
    simp [hna, Quicvarint.length_append_nil, name, t, Error.error]
  · rw [parseType, parseTypeLoop_of_type (Quicvarint.parse_append _ (by omega)) (by omega),
      f.newFrameType_wireType]
    simp [hna, t]

/-- MAX_DATA at the Initial level, where only PING, ACK, CRYPTO and
CONNECTION_CLOSE may appear. -/
theorem ParseNext_consumes_disallowed_frame_maxData :
    ((newFrameParser true true).ParseNext ((Frame.maxData 5).append [] version1 ++ [])
        .encryptionInitial version1).2 =
      (2, none, some
        { frameType := 0x10, errorCode := frameEncodingError,
          errorMessage := "MaxDataFrame not allowed at encryption level Initial" }) ∧
    ((newFrameParser true true).parseType ((Frame.maxData 5).append [] version1 ++ [])
        .encryptionInitial).2 =
      (1, some (.transport
        { errorCode := frameEncodingError,
          errorMessage := "16 not allowed at encryption level Initial" })) :=
  @ParseNext_consumes_disallowed_frame (newFrameParser true true) .encryptionInitial (.maxData 5)
    (show (5 : Nat) < 2 ^ 62 by decide) rfl rfl [] (fun _ => rfl) version1

/-! ## The caller's loop -/

/-- Frames, each after its run of PADDING bytes, and `m` PADDING bytes after
the last one. -/
def paddedBuffer (v : Version) : List (Nat × Frame) → Nat → List UInt8
  | [], m => List.replicate m 0
  | (k, f) :: fs, m => List.replicate k 0 ++ (f.append [] v ++ paddedBuffer v fs m)

/-- `framesToBuffer` of the tests: each frame's `Append` in turn. -/
def framesToBuffer (v : Version) (frames : List Frame) : List UInt8 :=
  frames.foldl (fun buf frame => frame.append buf v) []

/-- The tests' buffers are padded buffers without PADDING. -/
theorem framesToBuffer_eq (v : Version) (frames : List Frame) :
    framesToBuffer v frames = paddedBuffer v (frames.map fun f => (0, f)) 0 := by
  suffices ∀ b, frames.foldl (fun buf frame => frame.append buf v) b =
      b ++ paddedBuffer v (frames.map fun f => (0, f)) 0 from this []
  induction frames with
  | nil => simp [paddedBuffer]
  | cons f fs ih =>
    intro b
    rw [List.foldl_cons, ih, Frame.append_eq]
    simp [paddedBuffer, Frame.append_eq]

/-- A caller's loop over `ParseNext`, as `evaluateFrames` of the tests runs
it: `n` calls, each on the data the one before left, advanced by its count.
It returns the results of the calls in order, and the parser and the data
after them. -/
def sweep (encLevel : EncryptionLevel) (v : Version) : Nat → FrameParser → List UInt8 →
    List (Nat × Option Frame × Option TransportError) × FrameParser × List UInt8
  | 0, p, data => ([], p, data)
  | n + 1, p, data =>
    let (p, l, frame, err) := p.ParseNext data encLevel v
    let (results, p, rest) := sweep encLevel v n p (data.drop l)
    ((l, frame, err) :: results, p, rest)

/-- Only the last frame may run to the end of the buffer, a STREAM or
DATAGRAM frame without a length, and then no PADDING follows it. -/
def EndsCleanly : List (Nat × Frame) → Nat → Prop
  | [], _ => True
  | (_, f) :: fs, m => (f.extendsToEnd = true → fs = [] ∧ m = 0) ∧ EndsCleanly fs m

theorem isEnabled_of_config {p q : FrameParser} (h : q.config = p.config) (t : Nat) :
    isEnabled q t = isEnabled p t := by
  simp only [config, Prod.mk.injEq] at h
  simp only [isEnabled, h.2.1, h.2.2]

theorem ackDelayExponentAt_of_config {p q : FrameParser} (h : q.config = p.config)
    (e : EncryptionLevel) : q.ackDelayExponentAt e = p.ackDelayExponentAt e := by
  simp only [config, Prod.mk.injEq] at h
  simp only [ackDelayExponentAt, h.1]

end FrameParser

end QuicWire
