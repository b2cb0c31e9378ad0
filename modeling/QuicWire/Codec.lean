import QuicWire.Frames
import QuicWire.Quicvarint

/-!
# QuicWire.Codec

The frame variant family (spec §4.3): one decode routine per frame kind,
which `ParseLessCommonFrame` and `ParseFrame` dispatch to, and the `Append`
encoders the tests of `frame_parser.go` build their buffers with.

None of these routines is in the source; they are modelled from the spec,
which fixes what each one reads (§4.3) and how it fails (§7): a field that
runs past the end of the buffer is `io.EOF`, a field that breaks its
kind's rule is an error naming the rule. The layouts are the protocol's.

A decoder is a `Reader` program over the rest of the buffer, the Go
`b = b[l:]` idiom, and `decode` runs it and reports the bytes consumed as
the routines do, `startLen - len(b)`.
-/

namespace QuicWire

/-! ## Reading fields -/

/-- A decode routine in progress: the bytes not yet read are its state. -/
abbrev Reader := StateT (List UInt8) (Except Error)

/-- `quicvarint.Parse(b)` followed by `b = b[l:]`, as every decoder writes
it: a truncated field is `io.EOF` (`replaceUnexpectedEOF`). -/
def readVarint : Reader Nat := fun b =>
  match Quicvarint.parse b with
  | .ok (v, l) => .ok (v, b.drop l)
  | .error e => .error (replaceUnexpectedEOF e)

/-- The next `n` bytes; `io.EOF` when fewer remain. -/
def readBytes (n : Nat) : Reader (List UInt8) := fun b =>
  if b.length < n then .error .eof else .ok (b.take n, b.drop n)

/-- The next `n` bytes as a Go `[n]byte`. -/
def readFixedBytes (n : Nat) : Reader (FixedBytes n) := fun b =>
  if h : b.length < n then .error .eof else .ok (⟨b.take n, by simp; omega⟩, b.drop n)

/-- The next byte. -/
def readByte : Reader UInt8 := fun b =>
  match b with
  | [] => .error .eof
  | x :: rest => .ok (x, rest)

/-- The rest of the buffer: the payload of a frame without a length field. -/
def readRest : Reader (List UInt8) := fun b => .ok (b, [])

/-- Runs a decode routine on `b`, returning its value and the number of
bytes it consumed. -/
def decode {α : Type} (b : List UInt8) (r : Reader α) : Except Error (α × Nat) :=
  match r.run b with
  | .ok (a, rest) => .ok (a, b.length - rest.length)
  | .error e => .error e

/-! ## The integer-field frames -/

/-- The decoders of the frames whose body is one varint field. -/
def parseVarintFrame (mk : Nat → Frame) (b : List UInt8) : Except Error (Frame × Nat) :=
  decode b do
    let x ← readVarint
    return mk x

/-- The decoders of the frames whose body is two varint fields. -/
def parseVarintPairFrame (mk : Nat → Nat → Frame) (b : List UInt8) :
    Except Error (Frame × Nat) :=
  decode b do
    let x ← readVarint
    let y ← readVarint
    return mk x y

/-- The decoders of MAX_STREAMS and STREAMS_BLOCKED: the direction is the
type code's (`bidiType` or the one after it), and the count may not exceed
`protocol.MaxStreamCount`. -/
def parseStreamCountFrame (mk : StreamType → Nat → Frame) (bidiType : Nat)
    (b : List UInt8) (typ : Nat) : Except Error (Frame × Nat) :=
  decode b do
    let n ← readVarint
    if n > maxStreamCount then throw (.new s!"{n} exceeds the maximum stream count")
    return mk (if typ = bidiType then .streamTypeBidi else .streamTypeUni) n

/-- Modelled from the spec: `parseMaxDataFrame`. -/
def parseMaxDataFrame (b : List UInt8) (_ : Version) := parseVarintFrame .maxData b

/-- Modelled from the spec: `parseDataBlockedFrame`. -/
def parseDataBlockedFrame (b : List UInt8) (_ : Version) := parseVarintFrame .dataBlocked b

/-- Modelled from the spec: `parseRetireConnectionIDFrame`. -/
def parseRetireConnectionIDFrame (b : List UInt8) (_ : Version) :=
  parseVarintFrame .retireConnectionID b

/-- Modelled from the spec: `parseStopSendingFrame`. -/
def parseStopSendingFrame (b : List UInt8) (_ : Version) := parseVarintPairFrame .stopSending b

/-- Modelled from the spec: `parseMaxStreamDataFrame`. -/
def parseMaxStreamDataFrame (b : List UInt8) (_ : Version) :=
  parseVarintPairFrame .maxStreamData b

/-- Modelled from the spec: `parseStreamDataBlockedFrame`. -/
def parseStreamDataBlockedFrame (b : List UInt8) (_ : Version) :=
  parseVarintPairFrame .streamDataBlocked b

/-- Modelled from the spec: `parseMaxStreamsFrame`. -/
def parseMaxStreamsFrame (b : List UInt8) (typ : Nat) (_ : Version) :=
  parseStreamCountFrame .maxStreams bidiMaxStreamsFrameType b typ

/-- Modelled from the spec: `parseStreamsBlockedFrame`. -/
def parseStreamsBlockedFrame (b : List UInt8) (typ : Nat) (_ : Version) :=
  parseStreamCountFrame .streamsBlocked bidiStreamBlockedFrameType b typ

/-- Modelled from the spec: `parseResetStreamFrame`, for RESET_STREAM and,
with `isResetStreamAt`, RESET_STREAM_AT, which adds the reliable size; that
may not exceed the final size. -/
def parseResetStreamFrame (b : List UInt8) (isResetStreamAt : Bool) (_ : Version) :
    Except Error (Frame × Nat) :=
  decode b do
    let streamID ← readVarint
    let errorCode ← readVarint
    let finalSize ← readVarint
    let reliableSize ← if isResetStreamAt then readVarint else pure 0
    if reliableSize > finalSize then
      throw (.new "RESET_STREAM_AT: reliable size can't be larger than final size")
    return .resetStream { streamID, errorCode, finalSize, reliableSize }

/-! ## The frames with a payload -/

/-- Modelled from the spec: `parseCryptoFrame`. -/
def parseCryptoFrame (b : List UInt8) (_ : Version) : Except Error (Frame × Nat) :=
  decode b do
    let offset ← readVarint
    let dataLen ← readVarint
    let data ← readBytes dataLen
    return .crypto offset data

/-- Modelled from the spec: `parseNewTokenFrame`; the token may not be
empty. -/
def parseNewTokenFrame (b : List UInt8) (_ : Version) : Except Error (Frame × Nat) :=
  decode b do
    let tokenLen ← readVarint
    if tokenLen = 0 then throw (.new "token must not be empty")
    let token ← readBytes tokenLen
    return .newToken token

/-- Modelled from the spec: `parseNewConnectionIDFrame`. Retire Prior To may
not exceed the sequence number, and the connection ID, whose length is a
single byte, is 1 to `protocol.MaxConnIDLen` bytes long. -/
def parseNewConnectionIDFrame (b : List UInt8) (_ : Version) : Except Error (Frame × Nat) :=
  decode b do
    let seq ← readVarint
    let ret ← readVarint
    if ret > seq then
      throw (.new s!"Retire Prior To value ({ret}) larger than Sequence Number ({seq})")
    let connIDLen ← readByte
    if connIDLen.toNat = 0 then throw (.new "invalid zero-length connection ID")
    if h : connIDLen.toNat > maxConnIDLen then throw (.new "invalid Connection ID length") else
    let connID ← readFixedBytes connIDLen.toNat
    let token ← readFixedBytes 16
    return .newConnectionID
      { sequenceNumber := seq
        retirePriorTo := ret
        connectionID := ⟨connID.bytes, by rw [connID.length_eq]; omega⟩
        statelessResetToken := token }

/-- The decoders of PATH_CHALLENGE and PATH_RESPONSE: eight bytes. -/
def parsePathDataFrame (mk : FixedBytes 8 → Frame) (b : List UInt8) :
    Except Error (Frame × Nat) :=
  decode b do
    let data ← readFixedBytes 8
    return mk data

/-- Modelled from the spec: `parsePathChallengeFrame`. -/
def parsePathChallengeFrame (b : List UInt8) (_ : Version) := parsePathDataFrame .pathChallenge b

/-- Modelled from the spec: `parsePathResponseFrame`. -/
def parsePathResponseFrame (b : List UInt8) (_ : Version) := parsePathDataFrame .pathResponse b

/-- Modelled from the spec: `parseConnectionCloseFrame`. The application
variant has no frame type field (§4.3). -/
def parseConnectionCloseFrame (b : List UInt8) (typ : Nat) (_ : Version) :
    Except Error (Frame × Nat) :=
  decode b do
    let isApplicationError := decide (typ = applicationCloseFrameType)
    let errorCode ← readVarint
    let frameType ← if !isApplicationError then readVarint else pure 0
    let reasonPhraseLen ← readVarint
    let reasonPhrase ← readBytes reasonPhraseLen
    return .connectionClose { isApplicationError, errorCode, frameType, reasonPhrase }

/-- Modelled from the spec: `ParseStreamFrame` (§4.3). The low three bits of
the type code say whether an offset and a length are present and whether
FIN is set; without a length the payload is the rest of the buffer. The data
may not reach past `protocol.MaxByteCount`. -/
def parseStreamFrame (b : List UInt8) (typ : Nat) (_ : Version) :
    Except Error (StreamFrame × Nat) :=
  decode b do
    let hasOffset := decide (typ &&& 0b100 > 0)
    let fin := decide (typ &&& 0b1 > 0)
    let hasDataLen := decide (typ &&& 0b10 > 0)
    let streamID ← readVarint
    let offset ← if hasOffset then readVarint else pure 0
    let data ← if hasDataLen then do readBytes (← readVarint) else readRest
    if offset + data.length > maxByteCount then
      throw (.new "stream data overflows maximum offset")
    return { streamID, offset, data, fin, dataLenPresent := hasDataLen }

/-- Modelled from the spec: `ParseDatagramFrame` (§4.3): the low bit of the
type code says whether a length is present, as for STREAM. -/
def parseDatagramFrame (b : List UInt8) (typ : Nat) (_ : Version) :
    Except Error (DatagramFrame × Nat) :=
  decode b do
    let dataLenPresent := decide (typ &&& 0x1 > 0)
    let data ← if dataLenPresent then do readBytes (← readVarint) else readRest
    return { dataLenPresent, data }

/-! ## ACK -/

/-- `errInvalidAckRanges`. -/
def errInvalidAckRanges : Error := .new "AckFrame: ACK frame contains invalid ACK ranges"

/-- The ACK ranges after the first (§4.3): `n` (gap, range length) pairs,
each range below the previous one, whose bottom is `smallest`. Each range
is appended to `frame` as it is read, so a failure leaves the ranges read
so far in place, as in the Go routine, which writes into the parser's ACK
frame. -/
def decodeAckRanges : Nat → Nat → AckFrame → List UInt8 → AckFrame × Except Error (List UInt8)
  | 0, _, frame, b => (frame, .ok b)
  | n + 1, smallest, frame, b =>
    match readVarint.run b with
    | .error e => (frame, .error e)
    | .ok (gap, b) =>
      if smallest < gap + 2 then (frame, .error errInvalidAckRanges) else
      let largest := smallest - gap - 2
      match readVarint.run b with
      | .error e => (frame, .error e)
      | .ok (ackBlock, b) =>
        if ackBlock > largest then (frame, .error errInvalidAckRanges) else
        let smallest := largest - ackBlock
        decodeAckRanges n smallest
          { frame with ackRanges := frame.ackRanges ++ [⟨smallest, largest⟩] } b

/-- The body of `ParseAckFrame`: largest acknowledged, the delay scaled by
`2 ^ ackDelayExponent` microseconds, the range count, the first range, the
other ranges, and the ECN counts for ACK_ECN (§4.3). It writes into `frame`
field by field and returns it with what remains of `b`, or with the error
that stopped it. -/
def decodeAckFrame (frame : AckFrame) (b : List UInt8) (typ : Nat)
    (ackDelayExponent : UInt8) : AckFrame × Except Error (List UInt8) :=
  let ecn := decide (typ = ackECNFrameType)
  match readVarint.run b with
  | .error e => (frame, .error e)
  | .ok (largestAcked, b) =>
  match readVarint.run b with
  | .error e => (frame, .error e)
  | .ok (delay, b) =>
  let frame := { frame with delayTime := delay * 2 ^ ackDelayExponent.toNat * 1000 }
  match readVarint.run b with
  | .error e => (frame, .error e)
  | .ok (numBlocks, b) =>
  match readVarint.run b with
  | .error e => (frame, .error e)
  | .ok (ackBlock, b) =>
  if ackBlock > largestAcked then (frame, .error (.new "invalid first ACK range")) else
  let smallest := largestAcked - ackBlock
  let frame := { frame with ackRanges := frame.ackRanges ++ [⟨smallest, largestAcked⟩] }
  match decodeAckRanges numBlocks smallest frame b with
  | (frame, .error e) => (frame, .error e)
  | (frame, .ok b) =>
  if !ecn then (frame, .ok b) else
  match readVarint.run b with
  | .error e => (frame, .error e)
  | .ok (ect0, b) =>
  let frame := { frame with ect0 }
  match readVarint.run b with
  | .error e => (frame, .error e)
  | .ok (ect1, b) =>
  let frame := { frame with ect1 }
  match readVarint.run b with
  | .error e => (frame, .error e)
  | .ok (ecnce, b) => ({ frame with ecnce }, .ok b)

/-- Modelled from the spec: `ParseAckFrame`, which decodes into the frame it
is handed and returns the bytes consumed. -/
def parseAckFrame (frame : AckFrame) (b : List UInt8) (typ : Nat)
    (ackDelayExponent : UInt8) (_ : Version) : AckFrame × Nat × Option Error :=
  match decodeAckFrame frame b typ ackDelayExponent with
  | (frame, .ok rest) => (frame, b.length - rest.length, none)
  | (frame, .error e) => (frame, 0, some e)

/-! ## The decoders' counts -/

/-- A decode routine consumes no more than its buffer. -/
theorem decode_count_le {α : Type} {b : List UInt8} {r : Reader α} {a : α} {n : Nat}
    (h : decode b r = .ok (a, n)) : n ≤ b.length := by
  unfold decode at h; split at h <;> cases h; omega

/-- The same for a decode routine whose value is wrapped as a `Frame`. -/
theorem map_decode_count_le {α : Type} {g : α → Frame} {b : List UInt8} {r : Reader α}
    {f : Frame} {l : Nat} (h : (fun x => (g x.1, x.2)) <$> decode b r = .ok (f, l)) :
    l ≤ b.length := by
  simp only [Functor.map, Except.map] at h
  split at h <;> cases h
  exact decode_count_le ‹_›

theorem parseAckFrame_count_le (frame : AckFrame) (b : List UInt8) (typ : Nat)
    (ackDelayExponent : UInt8) (v : Version) :
    (parseAckFrame frame b typ ackDelayExponent v).2.1 ≤ b.length := by
  unfold parseAckFrame; split <;> simp

end QuicWire
