import QuicWire.Codec

/-!
# QuicWire.FrameParser

`frame_parser.go`: the `FrameParser` and its methods, translated statement
by statement. Go's multiple results are tuples in the same order, with the
parser first where a method writes to it; a `nil` frame or error is `none`.

The parser's only state besides its configuration is the ACK frame it
decodes every ACK into (spec §3): `ParseFrame` and `ParseAckFrame` reset it,
decode into it and hand it out, and return the parser with it.

The two padding loops (`ParseType`, `parseNext`) run while the buffer is
non-empty and drop what each varint consumed; they terminate because a
successful `quicvarint.Parse` consumes at least one byte
(`Quicvarint.parse_ok_length`).
-/

namespace QuicWire

/-- `FrameParser`. `ackFrame` is the ACK frame the parser reuses. -/
structure FrameParser where
  ackDelayExponent : UInt8
  supportsDatagrams : Bool
  supportsResetStreamAt : Bool
  ackFrame : AckFrame
deriving DecidableEq, Repr

/-- `errUnknownFrameType`. -/
def errUnknownFrameType : Error := .new "unknown frame type"

/-- `NewFrameParser`. -/
def newFrameParser (supportsDatagrams supportsResetStreamAt : Bool) : FrameParser :=
  { ackDelayExponent := 0, supportsDatagrams, supportsResetStreamAt, ackFrame := {} }

/-- The `(frame, l, err)` a decoder's result assigns: no frame and a count of
zero when it fails. -/
def results {α : Type} : Except Error (α × Nat) → Option α × Nat × Option Error
  | .ok (frame, l) => (some frame, l, none)
  | .error err => (none, 0, some err)

namespace FrameParser

/-! ## ParseType -/

/-- The loop of `ParseType`: skip PADDING, then classify the first other
type code and check it against `encLevel`. `parsed` counts the bytes read
so far. -/
def parseTypeLoop (encLevel : EncryptionLevel) (b : List UInt8) (parsed : Nat) :
    Nat × Nat × Option TypeError :=
  if b.length = 0 then (0, parsed, some .eof) else
  match h : Quicvarint.parse b with
  | .error err =>
    (0, parsed, some (.transport { errorCode := frameEncodingError, errorMessage := err.error }))
  | .ok (typ, l) =>
    if typ = 0 then parseTypeLoop encLevel (b.drop l) (parsed + l) else
    match newFrameType typ with
    | none =>
      (0, parsed + l, some (.transport
        { errorCode := frameEncodingError, errorMessage := s!"unknown frame type: {typ}" }))
    | some frameType =>
      if !FrameType.isAllowedAtEncLevel frameType encLevel then
        (0, parsed + l, some (.transport
          { errorCode := frameEncodingError,
            errorMessage := s!"{frameType} not allowed at encryption level {encLevel}" }))
      else (typ, parsed + l, none)
termination_by b.length
decreasing_by
  have := (Quicvarint.parse_ok_length h).1
  simp only [List.length_drop]; omega

/-- A buffer a varint can be read from is not empty. -/
theorem length_ne_zero_of_parse_ok {b : List UInt8} {typ l : Nat}
    (h : Quicvarint.parse b = .ok (typ, l)) : b.length ≠ 0 := by
  have := Quicvarint.parse_ok_length h; omega

theorem parseTypeLoop_nil (encLevel : EncryptionLevel) (parsed : Nat) :
    parseTypeLoop encLevel [] parsed = (0, parsed, some .eof) := by
  rw [parseTypeLoop]; rfl

theorem parseTypeLoop_of_error {encLevel : EncryptionLevel} {b : List UInt8} {parsed : Nat}
    {err : Error} (hb : b.length ≠ 0) (h : Quicvarint.parse b = .error err) :
    parseTypeLoop encLevel b parsed =
      (0, parsed, some (.transport { errorCode := frameEncodingError, errorMessage := err.error })) := by
  rw [parseTypeLoop, if_neg hb]; split <;> simp_all

theorem parseTypeLoop_of_padding {encLevel : EncryptionLevel} {b : List UInt8} {parsed l : Nat}
    (h : Quicvarint.parse b = .ok (0, l)) :
    parseTypeLoop encLevel b parsed = parseTypeLoop encLevel (b.drop l) (parsed + l) := by
  rw [parseTypeLoop, if_neg (length_ne_zero_of_parse_ok h)]; split <;> simp_all

theorem parseTypeLoop_of_type {encLevel : EncryptionLevel} {b : List UInt8} {parsed typ l : Nat}
    (h : Quicvarint.parse b = .ok (typ, l)) (ht : typ ≠ 0) :
    parseTypeLoop encLevel b parsed =
      match newFrameType typ with
      | none =>
        (0, parsed + l, some (.transport
          { errorCode := frameEncodingError, errorMessage := s!"unknown frame type: {typ}" }))
      | some frameType =>
        if !FrameType.isAllowedAtEncLevel frameType encLevel then
          (0, parsed + l, some (.transport
            { errorCode := frameEncodingError,
              errorMessage := s!"{frameType} not allowed at encryption level {encLevel}" }))
        else (typ, parsed + l, none) := by
  rw [parseTypeLoop, if_neg (length_ne_zero_of_parse_ok h)]; split <;> simp_all

/-- `ParseType`. It reads nothing of the parser. -/
def parseType (_ : FrameParser) (b : List UInt8) (encLevel : EncryptionLevel) :
    Nat × Nat × Option TypeError :=
  parseTypeLoop encLevel b 0

/-! ## ParseLessCommonFrame -/

/-- `ParseLessCommonFrame`: every kind but STREAM, ACK and DATAGRAM. -/
def parseLessCommonFrame (p : FrameParser) (frameType : Nat) (data : List UInt8)
    (v : Version) : Option Frame × Nat × Option Error :=
  results <| match frameType with
    | pingFrameType => .ok (.ping, 0)
    | resetStreamFrameType => parseResetStreamFrame data false v
    | stopSendingFrameType => parseStopSendingFrame data v
    | cryptoFrameType => parseCryptoFrame data v
    | newTokenFrameType => parseNewTokenFrame data v
    | maxDataFrameType => parseMaxDataFrame data v
    | maxStreamDataFrameType => parseMaxStreamDataFrame data v
    | bidiMaxStreamsFrameType | uniMaxStreamsFrameType => parseMaxStreamsFrame data frameType v
    | dataBlockedFrameType => parseDataBlockedFrame data v
    | streamDataBlockedFrameType => parseStreamDataBlockedFrame data v
    | bidiStreamBlockedFrameType | uniStreamBlockedFrameType =>
      parseStreamsBlockedFrame data frameType v
    | newConnectionIDFrameType => parseNewConnectionIDFrame data v
    | retireConnectionIDFrameType => parseRetireConnectionIDFrame data v
    | pathChallengeFrameType => parsePathChallengeFrame data v
    | pathResponseFrameType => parsePathResponseFrame data v
    | connectionCloseFrameType | applicationCloseFrameType =>
      parseConnectionCloseFrame data frameType v
    | handshakeDoneFrameType => .ok (.handshakeDone, 0)
    | resetStreamAtFrameType =>
      if !p.supportsResetStreamAt then .error errUnknownFrameType
      else parseResetStreamFrame data true v
    | _ => .error errUnknownFrameType

/-! ## ParseFrame and ParseNext -/

/-- The ACK delay exponent `ParseFrame` and `ParseAckFrame` decode with: the
configured one at 1-RTT, the protocol default at every other level. -/
def ackDelayExponentAt (p : FrameParser) (encLevel : EncryptionLevel) : UInt8 :=
  if encLevel ≠ .encryption1RTT then defaultAckDelayExponent else p.ackDelayExponent

/-- Below 1-RTT the parser decodes ACK delays at the encoder's exponent. -/
theorem ackDelayExponentAt_of_ne (p : FrameParser) {e : EncryptionLevel} (he : e ≠ .encryption1RTT) :
    p.ackDelayExponentAt e = QuicWire.ackDelayExponent := by
  rw [ackDelayExponentAt, if_pos he]; rfl

/-- The `if`/`switch` statement of `ParseFrame`: STREAM by the mask test on
the low byte of the code, then every other kind by its code. The early
`return nil, 0, errUnknownFrameType` of a disabled extension is the failed
decode it amounts to. -/
def parseFrameSwitch (p : FrameParser) (b : List UInt8) (frameTyp : Nat)
    (encLevel : EncryptionLevel) (v : Version) : FrameParser × Except Error (Frame × Nat) :=
  if (UInt8.ofNat frameTyp &&& 0xf8) = 0x8 then
    (p, (fun (f, l) => (Frame.stream f, l)) <$> parseStreamFrame b frameTyp v)
  else
    match frameTyp with
    | pingFrameType => (p, .ok (.ping, 0))
    | ackFrameType | ackECNFrameType =>
      let (ackFrame, l, err) :=
        parseAckFrame p.ackFrame.reset b frameTyp (p.ackDelayExponentAt encLevel) v
      ({ p with ackFrame }, match err with
        | some err => .error err
        | none => .ok (.ack ackFrame, l))
    | resetStreamFrameType => (p, parseResetStreamFrame b false v)
    | stopSendingFrameType => (p, parseStopSendingFrame b v)
    | cryptoFrameType => (p, parseCryptoFrame b v)
    | newTokenFrameType => (p, parseNewTokenFrame b v)
    | maxDataFrameType => (p, parseMaxDataFrame b v)
    | maxStreamDataFrameType => (p, parseMaxStreamDataFrame b v)
    | bidiMaxStreamsFrameType | uniMaxStreamsFrameType => (p, parseMaxStreamsFrame b frameTyp v)
    | dataBlockedFrameType => (p, parseDataBlockedFrame b v)
    | streamDataBlockedFrameType => (p, parseStreamDataBlockedFrame b v)
    | bidiStreamBlockedFrameType | uniStreamBlockedFrameType =>
      (p, parseStreamsBlockedFrame b frameTyp v)
    | newConnectionIDFrameType => (p, parseNewConnectionIDFrame b v)
    | retireConnectionIDFrameType => (p, parseRetireConnectionIDFrame b v)
    | pathChallengeFrameType => (p, parsePathChallengeFrame b v)
    | pathResponseFrameType => (p, parsePathResponseFrame b v)
    | connectionCloseFrameType | applicationCloseFrameType =>
      (p, parseConnectionCloseFrame b frameTyp v)
    | handshakeDoneFrameType => (p, .ok (.handshakeDone, 0))
    | datagramNoLengthFrameType | datagramWithLengthFrameType =>
      if !p.supportsDatagrams then (p, .error errUnknownFrameType)
      else (p, (fun (f, l) => (Frame.datagram f, l)) <$> parseDatagramFrame b frameTyp v)
    | resetStreamAtFrameType =>
      if !p.supportsResetStreamAt then (p, .error errUnknownFrameType)
      else (p, parseResetStreamFrame b true v)
    | _ => (p, .error errUnknownFrameType)

/-- `ParseFrame`: decode the body, then check the type against `encLevel`. A
frame that is not allowed is still consumed: its count is returned with the
error. -/
def parseFrame (p : FrameParser) (b : List UInt8) (frameTyp : Nat)
    (encLevel : EncryptionLevel) (v : Version) : FrameParser × Option Frame × Nat × Option Error :=
  match p.parseFrameSwitch b frameTyp encLevel v with
  | (p, .error err) => (p, none, 0, some err)
  | (p, .ok (frame, l)) =>
    if !FrameType.isAllowedAtEncLevel frameTyp encLevel then
      let name := frame.typeName
      (p, none, l, some (.new s!"{name} not allowed at encryption level {encLevel}"))
    else (p, some frame, l, none)

/-- The switch of `ParseFrame` consumes no more than its buffer. -/
theorem parseFrameSwitch_count_le {p : FrameParser} {b : List UInt8} {t : Nat}
    {e : EncryptionLevel} {v : Version} {f : Frame} {l : Nat}
    (h : (p.parseFrameSwitch b t e v).2 = .ok (f, l)) : l ≤ b.length := by
  unfold parseFrameSwitch at h
  split at h
  · exact map_decode_count_le h
  · split at h <;> simp only [parseMaxDataFrame, parseDataBlockedFrame, parseRetireConnectionIDFrame,
      parseStopSendingFrame, parseMaxStreamDataFrame, parseStreamDataBlockedFrame,
      parseMaxStreamsFrame, parseStreamsBlockedFrame, parseVarintFrame, parseVarintPairFrame,
      parseStreamCountFrame, parseResetStreamFrame, parseCryptoFrame, parseNewTokenFrame,
      parseNewConnectionIDFrame, parsePathChallengeFrame, parsePathResponseFrame,
      parsePathDataFrame, parseConnectionCloseFrame] at h
    all_goals first
      | exact decode_count_le h
      | (cases h; exact Nat.zero_le _)
      | (split at h <;> cases h; exact parseAckFrame_count_le ..)
      | (split at h <;> first | exact map_decode_count_le h | exact decode_count_le h | simp at h)
      | simp at h

/-- `ParseFrame` consumes no more than its buffer, whatever the outcome. -/
theorem parseFrame_count_le (p : FrameParser) (b : List UInt8) (t : Nat)
    (e : EncryptionLevel) (v : Version) : (p.parseFrame b t e v).2.2.1 ≤ b.length := by
  unfold parseFrame
  rcases h : p.parseFrameSwitch b t e v with ⟨q, _ | ⟨f, l⟩⟩
  · exact Nat.zero_le _
  · have hl := parseFrameSwitch_count_le (show (p.parseFrameSwitch b t e v).2 = .ok (f, l) by rw [h])
    dsimp only; split <;> exact hl

/-- The loop of `parseNext`: skip PADDING, then parse the frame of the first
other type code. `parsed` counts the bytes read so far. -/
def parseNextLoop (p : FrameParser) (encLevel : EncryptionLevel) (v : Version)
    (b : List UInt8) (parsed : Nat) : FrameParser × Option Frame × Nat × Option TransportError :=
  if b.length = 0 then (p, none, parsed, none) else
  match h : Quicvarint.parse b with
  | .error err => (p, none, parsed, some { errorCode := frameEncodingError, errorMessage := err.error })
  | .ok (typ, l) =>
    if typ = 0 then parseNextLoop p encLevel v (b.drop l) (parsed + l) else
    match p.parseFrame (b.drop l) typ encLevel v with
    | (p, _, l', some err) =>
      (p, none, parsed + l + l',
        some { frameType := typ, errorCode := frameEncodingError, errorMessage := err.error })
    | (p, f, l', none) => (p, f, parsed + l + l', none)
termination_by b.length
decreasing_by
  have := (Quicvarint.parse_ok_length h).1
  simp only [List.length_drop]; omega

theorem parseNextLoop_nil (p : FrameParser) (encLevel : EncryptionLevel) (v : Version)
    (parsed : Nat) : p.parseNextLoop encLevel v [] parsed = (p, none, parsed, none) := by
  rw [parseNextLoop]; rfl

theorem parseNextLoop_of_error {p : FrameParser} {encLevel : EncryptionLevel} {v : Version}
    {b : List UInt8} {parsed : Nat} {err : Error} (hb : b.length ≠ 0)
    (h : Quicvarint.parse b = .error err) :
    p.parseNextLoop encLevel v b parsed =
      (p, none, parsed, some { errorCode := frameEncodingError, errorMessage := err.error }) := by
  rw [parseNextLoop, if_neg hb]; split <;> simp_all

theorem parseNextLoop_of_padding {p : FrameParser} {encLevel : EncryptionLevel} {v : Version}
    {b : List UInt8} {parsed l : Nat} (h : Quicvarint.parse b = .ok (0, l)) :
    p.parseNextLoop encLevel v b parsed = p.parseNextLoop encLevel v (b.drop l) (parsed + l) := by
  rw [parseNextLoop, if_neg (length_ne_zero_of_parse_ok h)]; split <;> simp_all

theorem parseNextLoop_of_type {p : FrameParser} {encLevel : EncryptionLevel} {v : Version}
    {b : List UInt8} {parsed typ l : Nat} (h : Quicvarint.parse b = .ok (typ, l)) (ht : typ ≠ 0) :
    p.parseNextLoop encLevel v b parsed =
      match p.parseFrame (b.drop l) typ encLevel v with
      | (p, _, l', some err) =>
        (p, none, parsed + l + l',
          some { frameType := typ, errorCode := frameEncodingError, errorMessage := err.error })
      | (p, f, l', none) => (p, f, parsed + l + l', none) := by
  rw [parseNextLoop, if_neg (length_ne_zero_of_parse_ok h)]; split <;> simp_all

/-- `parseNext`. -/
def parseNext (p : FrameParser) (b : List UInt8) (encLevel : EncryptionLevel) (v : Version) :
    FrameParser × Option Frame × Nat × Option TransportError :=
  p.parseNextLoop encLevel v b 0

/-- `ParseNext`: `parseNext` with the count first. -/
def ParseNext (p : FrameParser) (data : List UInt8) (encLevel : EncryptionLevel) (v : Version) :
    FrameParser × Nat × Option Frame × Option TransportError :=
  let (p, frame, l, err) := p.parseNext data encLevel v
  (p, l, frame, err)

/-! ## ParseAckFrame, ParseDatagramFrame, SetAckDelayExponent -/

/-- `FrameParser.ParseAckFrame`: decode into the reset ACK frame of the
parser, and return it whatever the outcome. -/
def parseAckFrame (p : FrameParser) (frameType : Nat) (data : List UInt8)
    (encLevel : EncryptionLevel) (v : Version) : FrameParser × AckFrame × Nat × Option Error :=
  let (ackFrame, l, err) :=
    QuicWire.parseAckFrame p.ackFrame.reset data frameType (p.ackDelayExponentAt encLevel) v
  ({ p with ackFrame }, ackFrame, l, err)

/-- `FrameParser.ParseDatagramFrame`: `ParseDatagramFrame` behind the
datagram toggle. -/
def parseDatagramFrame (p : FrameParser) (frameType : Nat) (data : List UInt8)
    (v : Version) : Option DatagramFrame × Nat × Option Error :=
  if !p.supportsDatagrams then (none, 0, some errUnknownFrameType)
  else results (QuicWire.parseDatagramFrame data frameType v)

/-- `SetAckDelayExponent`. -/
def setAckDelayExponent (p : FrameParser) (exp : UInt8) : FrameParser :=
  { p with ackDelayExponent := exp }

end FrameParser

end QuicWire
