import QuicWire.Codec

/-!
# QuicWire.Codec.Append

The `Append` encoders of the frame variant family (spec §4.3), with which
the tests of `frame_parser.go` build their buffers, and `Frame.WellFormed`,
the frames whose encoding reads back to themselves (`Codec.Roundtrip`).

Modelled from the spec: every encoder writes the frame's type code and then
its fields in the order the decoders read them. Which code a frame value
gets is a function of its fields (`Frame.wireType`): a STREAM code carries
the offset, length and FIN flags, an ACK frame with an ECN count is
ACK_ECN, a RESET_STREAM frame with a reliable size is RESET_STREAM_AT, and
the two-code kinds read their flag off the value.
-/

namespace QuicWire

/-- The varints `xs`, appended in order. -/
def appendVarints (b : List UInt8) (xs : List Nat) : List UInt8 := xs.foldl Quicvarint.append b

/-! ## The ACK fields -/

/-- Modelled from the spec: `encodeAckDelay`, the delay in units of
`2 ^ protocol.AckDelayExponent` microseconds. -/
def encodeAckDelay (delay : Nat) : Nat := delay / (1000 * 2 ^ ackDelayExponent.toNat)

/-- The (gap, range length) fields of the ranges after the first; `smallest`
is the bottom of the range before. -/
def ackRangeFields : Nat → List AckRange → List Nat
  | _, [] => []
  | smallest, r :: rs =>
    (smallest - r.largest - 2) :: (r.largest - r.smallest) :: ackRangeFields r.smallest rs

/-- An ACK frame carries ECN counts when one of them is set. -/
def AckFrame.hasECN (f : AckFrame) : Bool := f.ect0 > 0 ∨ f.ect1 > 0 ∨ f.ecnce > 0

/-- The fields of an ACK frame after its type code. A frame without ranges
has none: Go's `LargestAcked` would index past the end. -/
def AckFrame.fields (f : AckFrame) : List Nat :=
  match f.ackRanges with
  | [] => []
  | r :: rs =>
    [r.largest, encodeAckDelay f.delayTime, rs.length, r.largest - r.smallest] ++
      ackRangeFields r.smallest rs ++ (if f.hasECN then [f.ect0, f.ect1, f.ecnce] else [])

/-! ## The encoders -/

/-- The type code `Append` writes for a frame value. -/
def Frame.wireType : Frame → Nat
  | .ping => pingFrameType
  | .ack f => if f.hasECN then ackECNFrameType else ackFrameType
  | .resetStream f => if f.reliableSize > 0 then resetStreamAtFrameType else resetStreamFrameType
  | .stopSending .. => stopSendingFrameType
  | .crypto .. => cryptoFrameType
  | .newToken _ => newTokenFrameType
  | .stream f =>
    0x8 + (if f.fin then 0b1 else 0) + (if f.dataLenPresent then 0b10 else 0) +
      (if f.offset ≠ 0 then 0b100 else 0)
  | .maxData _ => maxDataFrameType
  | .maxStreamData .. => maxStreamDataFrameType
  | .maxStreams type _ =>
    if type = .streamTypeBidi then bidiMaxStreamsFrameType else uniMaxStreamsFrameType
  | .dataBlocked _ => dataBlockedFrameType
  | .streamDataBlocked .. => streamDataBlockedFrameType
  | .streamsBlocked type _ =>
    if type = .streamTypeBidi then bidiStreamBlockedFrameType else uniStreamBlockedFrameType
  | .newConnectionID _ => newConnectionIDFrameType
  | .retireConnectionID _ => retireConnectionIDFrameType
  | .pathChallenge _ => pathChallengeFrameType
  | .pathResponse _ => pathResponseFrameType
  | .connectionClose f =>
    if f.isApplicationError then applicationCloseFrameType else connectionCloseFrameType
  | .handshakeDone => handshakeDoneFrameType
  | .datagram f => if f.dataLenPresent then datagramWithLengthFrameType else datagramNoLengthFrameType

/-- What `Append` writes after the type code. -/
def Frame.appendBody (b : List UInt8) : Frame → List UInt8
  | .ping | .handshakeDone => b
  | .ack f => appendVarints b f.fields
  | .resetStream f =>
    appendVarints b ([f.streamID, f.errorCode, f.finalSize] ++
      if f.reliableSize > 0 then [f.reliableSize] else [])
  | .stopSending streamID errorCode => appendVarints b [streamID, errorCode]
  | .crypto offset data => appendVarints b [offset, data.length] ++ data
  | .newToken token => appendVarints b [token.length] ++ token
  | .stream f =>
    appendVarints b ([f.streamID] ++ (if f.offset ≠ 0 then [f.offset] else []) ++
      if f.dataLenPresent then [f.data.length] else []) ++ f.data
  | .maxData x | .dataBlocked x | .retireConnectionID x => appendVarints b [x]
  | .maxStreamData x y | .streamDataBlocked x y => appendVarints b [x, y]
  | .maxStreams _ n | .streamsBlocked _ n => appendVarints b [n]
  | .newConnectionID f =>
    appendVarints b [f.sequenceNumber, f.retirePriorTo] ++
      UInt8.ofNat f.connectionID.bytes.length :: f.connectionID.bytes ++ f.statelessResetToken.bytes
  | .pathChallenge data | .pathResponse data => b ++ data.bytes
  | .connectionClose f =>
    appendVarints b ([f.errorCode] ++ (if !f.isApplicationError then [f.frameType] else []) ++
      [f.reasonPhrase.length]) ++ f.reasonPhrase
  | .datagram f => appendVarints b (if f.dataLenPresent then [f.data.length] else []) ++ f.data

/-- Modelled from the spec: the frames' `Append(b, v)`, which appends the
type code and then the fields to `b`. -/
def Frame.append (f : Frame) (b : List UInt8) (_ : Version) : List UInt8 :=
  f.appendBody (Quicvarint.append b f.wireType)

/-! ## Well-formed frames -/

/-- The ranges after the first: each non-empty and at least one packet
number below the previous one, whose bottom is `smallest`. -/
def AckRange.Below : Nat → List AckRange → Prop
  | _, [] => True
  | smallest, r :: rs => r.smallest ≤ r.largest ∧ r.largest + 2 ≤ smallest ∧ Below r.smallest rs

/-- An ACK frame that reads back: at least one range, the ranges strictly
descending with a gap between each two, the largest in the varint range,
and the delay a whole number of encoder units. -/
def AckFrame.WellFormed (f : AckFrame) : Prop :=
  match f.ackRanges with
  | [] => False
  | r :: rs =>
    r.smallest ≤ r.largest ∧ r.largest < 2 ^ 62 ∧ AckRange.Below r.smallest rs ∧
      rs.length < 2 ^ 62 ∧ f.delayTime % (1000 * 2 ^ ackDelayExponent.toNat) = 0 ∧
      encodeAckDelay f.delayTime < 2 ^ 62 ∧ f.ect0 < 2 ^ 62 ∧ f.ect1 < 2 ^ 62 ∧ f.ecnce < 2 ^ 62

/-- The frames whose encoding reads back: integer fields in the varint
range, and each kind's rule the decoders check. -/
def Frame.WellFormed : Frame → Prop
  | .ping | .handshakeDone | .pathChallenge _ | .pathResponse _ => True
  | .ack f => f.WellFormed
  | .resetStream f =>
    f.streamID < 2 ^ 62 ∧ f.errorCode < 2 ^ 62 ∧ f.finalSize < 2 ^ 62 ∧ f.reliableSize ≤ f.finalSize
  | .stopSending x y | .maxStreamData x y | .streamDataBlocked x y => x < 2 ^ 62 ∧ y < 2 ^ 62
  | .crypto offset data => offset < 2 ^ 62 ∧ data.length < 2 ^ 62
  | .newToken token => 0 < token.length ∧ token.length < 2 ^ 62
  | .stream f =>
    f.streamID < 2 ^ 62 ∧ f.data.length < 2 ^ 62 ∧ f.offset + f.data.length ≤ maxByteCount
  | .maxData x | .dataBlocked x | .retireConnectionID x => x < 2 ^ 62
  | .maxStreams _ n | .streamsBlocked _ n => n ≤ maxStreamCount
  | .newConnectionID f =>
    f.sequenceNumber < 2 ^ 62 ∧ f.retirePriorTo ≤ f.sequenceNumber ∧
      0 < f.connectionID.bytes.length
  | .connectionClose f =>
    f.errorCode < 2 ^ 62 ∧ f.frameType < 2 ^ 62 ∧ f.reasonPhrase.length < 2 ^ 62 ∧
      (f.isApplicationError → f.frameType = 0)
  | .datagram f => f.data.length < 2 ^ 62

/-- STREAM and DATAGRAM frames without a length field run to the end of the
buffer: such a frame can only be the last one. -/
def Frame.extendsToEnd : Frame → Bool
  | .stream f => !f.dataLenPresent
  | .datagram f => !f.dataLenPresent
  | _ => false

end QuicWire
