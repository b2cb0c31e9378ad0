import QuicWire.FrameType

/-!
# QuicWire.Frames

The frame values (spec §3, "Frame value"): one Go struct per frame kind, and
`Frame`, the tagged union the parser returns in place of Go's `Frame`
interface. The structs live outside the source; their fields are the ones
the spec and the tests of `frame_parser.go` name.

Go's `[n]byte` arrays are `FixedBytes n`, whose length is part of the value,
and a connection ID carries its bound, so neither can be built ill-sized.
A Go `string` (the reason phrase of CONNECTION_CLOSE) is its bytes.
-/

namespace QuicWire

/-- Go's `[n]byte`. -/
structure FixedBytes (n : Nat) where
  bytes : List UInt8
  length_eq : bytes.length = n
deriving DecidableEq, Repr

/-- Modelled from the spec: `protocol.ConnectionID`, at most
`protocol.MaxConnIDLen` bytes. -/
structure ConnectionID where
  bytes : List UInt8
  length_le : bytes.length ≤ maxConnIDLen
deriving DecidableEq, Repr

/-- Modelled from the spec: `protocol.StreamType`; the direction MAX_STREAMS
and STREAMS_BLOCKED carry in their type code (§4.3). -/
inductive StreamType where
  | streamTypeUni
  | streamTypeBidi
deriving DecidableEq, Repr

/-! ## The frame structs -/

/-- Modelled from the spec: `wire.AckRange`, an inclusive range of packet
numbers (§3). -/
structure AckRange where
  smallest : Nat
  largest : Nat
deriving DecidableEq, Repr

/-- Modelled from the spec: `wire.AckFrame`. `delayTime` is a
`time.Duration`, in nanoseconds. -/
structure AckFrame where
  ackRanges : List AckRange := []
  delayTime : Nat := 0
  ect0 : Nat := 0
  ect1 : Nat := 0
  ecnce : Nat := 0
deriving DecidableEq, Repr

/-- Modelled from the spec: `AckFrame.Reset`, which clears every field of the
parser's reused ACK frame before it decodes into it (§3). -/
def AckFrame.reset (f : AckFrame) : AckFrame :=
  { f with ackRanges := [], delayTime := 0, ect0 := 0, ect1 := 0, ecnce := 0 }

/-- Whatever it held, a reset ACK frame is the empty one. -/
@[simp] theorem AckFrame.reset_eq (f : AckFrame) : f.reset = {} := rfl

/-- Modelled from the spec: `AckFrame.LargestAcked`, the top of the first
range. -/
def AckFrame.largestAcked (f : AckFrame) : Nat :=
  match f.ackRanges with
  | r :: _ => r.largest
  | [] => 0

/-- Modelled from the spec: `wire.ResetStreamFrame`, shared by RESET_STREAM
and RESET_STREAM_AT; the latter's reliable size is nonzero. -/
structure ResetStreamFrame where
  streamID : Nat
  errorCode : Nat
  finalSize : Nat
  reliableSize : Nat := 0
deriving DecidableEq, Repr

/-- Modelled from the spec: `wire.StreamFrame` (§4.3). -/
structure StreamFrame where
  streamID : Nat
  offset : Nat := 0
  data : List UInt8
  fin : Bool := false
  dataLenPresent : Bool := false
deriving DecidableEq, Repr

/-- Modelled from the spec: `wire.DatagramFrame` (§4.3). -/
structure DatagramFrame where
  dataLenPresent : Bool := false
  data : List UInt8
deriving DecidableEq, Repr

/-- Modelled from the spec: `wire.NewConnectionIDFrame`. -/
structure NewConnectionIDFrame where
  sequenceNumber : Nat
  retirePriorTo : Nat := 0
  connectionID : ConnectionID
  statelessResetToken : FixedBytes 16
deriving DecidableEq, Repr

/-- Modelled from the spec: `wire.ConnectionCloseFrame`; which of its two
type codes was read decides `isApplicationError` (§4.3). -/
structure ConnectionCloseFrame where
  isApplicationError : Bool
  errorCode : Nat := 0
  frameType : Nat := 0
  reasonPhrase : List UInt8
deriving DecidableEq, Repr

/-! ## The tagged union -/

/-- The frame values, one constructor per Go frame struct. The structs
with one or two integer fields are inlined as the constructor's
arguments, under their Go field names. -/
inductive Frame where
  | ping
  | ack (f : AckFrame)
  | resetStream (f : ResetStreamFrame)
  | stopSending (streamID errorCode : Nat)
  | crypto (offset : Nat) (data : List UInt8)
  | newToken (token : List UInt8)
  | stream (f : StreamFrame)
  | maxData (maximumData : Nat)
  | maxStreamData (streamID maximumStreamData : Nat)
  | maxStreams (type : StreamType) (maxStreamNum : Nat)
  | dataBlocked (maximumData : Nat)
  | streamDataBlocked (streamID maximumStreamData : Nat)
  | streamsBlocked (type : StreamType) (streamLimit : Nat)
  | newConnectionID (f : NewConnectionIDFrame)
  | retireConnectionID (sequenceNumber : Nat)
  | pathChallenge (data : FixedBytes 8)
  | pathResponse (data : FixedBytes 8)
  | connectionClose (f : ConnectionCloseFrame)
  | handshakeDone
  | datagram (f : DatagramFrame)
deriving DecidableEq, Repr

/-- `reflect.TypeOf(frame).Elem().Name()`: the name of the frame's Go struct,
which `ParseFrame` prints when a frame is not allowed at a level. -/
def Frame.typeName : Frame → String
  | .ping => "PingFrame"
  | .ack _ => "AckFrame"
  | .resetStream _ => "ResetStreamFrame"
  | .stopSending .. => "StopSendingFrame"
  | .crypto .. => "CryptoFrame"
  | .newToken _ => "NewTokenFrame"
  | .stream _ => "StreamFrame"
  | .maxData _ => "MaxDataFrame"
  | .maxStreamData .. => "MaxStreamDataFrame"
  | .maxStreams .. => "MaxStreamsFrame"
  | .dataBlocked _ => "DataBlockedFrame"
  | .streamDataBlocked .. => "StreamDataBlockedFrame"
  | .streamsBlocked .. => "StreamsBlockedFrame"
  | .newConnectionID _ => "NewConnectionIDFrame"
  | .retireConnectionID _ => "RetireConnectionIDFrame"
  | .pathChallenge _ => "PathChallengeFrame"
  | .pathResponse _ => "PathResponseFrame"
  | .connectionClose _ => "ConnectionCloseFrame"
  | .handshakeDone => "HandshakeDoneFrame"
  | .datagram _ => "DatagramFrame"

end QuicWire
