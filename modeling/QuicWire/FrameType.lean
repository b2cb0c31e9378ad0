import QuicWire.Protocol

/-!
# QuicWire.FrameType

The frame-type table (spec §4.2): the type codes, `NewFrameType`, which
classifies a code, `IsStreamFrameType`, and `isAllowedAtEncLevel`, which says
at which encryption levels a frame type may appear.

`frame_type.go` is not part of the source, so all of it is modelled from the
spec. The codes are the ones the spec's kind list and its tests name
(§3, §6, §8); the admissibility table is the protocol's, which the spec
sketches in §4.2: the Initial and Handshake levels carry only PING, ACK,
CRYPTO and CONNECTION_CLOSE, the 0-RTT level everything but the frames a
client may not send before the handshake (ACK, CRYPTO, NEW_TOKEN,
RETIRE_CONNECTION_ID, PATH_RESPONSE, HANDSHAKE_DONE), and the 1-RTT level
everything.
-/

namespace QuicWire

/-! ## Type codes -/

@[match_pattern] def pingFrameType : Nat := 0x1
@[match_pattern] def ackFrameType : Nat := 0x2
@[match_pattern] def ackECNFrameType : Nat := 0x3
@[match_pattern] def resetStreamFrameType : Nat := 0x4
@[match_pattern] def stopSendingFrameType : Nat := 0x5
@[match_pattern] def cryptoFrameType : Nat := 0x6
@[match_pattern] def newTokenFrameType : Nat := 0x7
@[match_pattern] def maxDataFrameType : Nat := 0x10
@[match_pattern] def maxStreamDataFrameType : Nat := 0x11
@[match_pattern] def bidiMaxStreamsFrameType : Nat := 0x12
@[match_pattern] def uniMaxStreamsFrameType : Nat := 0x13
@[match_pattern] def dataBlockedFrameType : Nat := 0x14
@[match_pattern] def streamDataBlockedFrameType : Nat := 0x15
@[match_pattern] def bidiStreamBlockedFrameType : Nat := 0x16
@[match_pattern] def uniStreamBlockedFrameType : Nat := 0x17
@[match_pattern] def newConnectionIDFrameType : Nat := 0x18
@[match_pattern] def retireConnectionIDFrameType : Nat := 0x19
@[match_pattern] def pathChallengeFrameType : Nat := 0x1a
@[match_pattern] def pathResponseFrameType : Nat := 0x1b
@[match_pattern] def connectionCloseFrameType : Nat := 0x1c
@[match_pattern] def applicationCloseFrameType : Nat := 0x1d
@[match_pattern] def handshakeDoneFrameType : Nat := 0x1e
@[match_pattern] def resetStreamAtFrameType : Nat := 0x24
@[match_pattern] def datagramNoLengthFrameType : Nat := 0x30
@[match_pattern] def datagramWithLengthFrameType : Nat := 0x31

/-! ## Classification -/

/-- Modelled from the spec: `NewFrameType`, the static lookup `classify` of
§4.2. It knows every code of the protocol's table, PING to HANDSHAKE_DONE
(`0x01`–`0x1e`, the STREAM codes `0x08`–`0x0f` among them), RESET_STREAM_AT
and the two DATAGRAM codes, and takes no parser configuration. -/
def newFrameType (typ : Nat) : Option Nat :=
  if (1 ≤ typ ∧ typ ≤ 0x1e) ∨ typ = 0x24 ∨ typ = 0x30 ∨ typ = 0x31 then some typ else none

/-- Modelled from the spec: `FrameType.IsStreamFrameType`, the contiguous
range of STREAM codes whose low three bits are flags (§4.2, §6). -/
def FrameType.isStreamFrameType (t : Nat) : Bool := 0x8 ≤ t ∧ t ≤ 0xf

/-- Modelled from the spec: `FrameType.isAllowedAtEncLevel` (§4.2). -/
def FrameType.isAllowedAtEncLevel (t : Nat) : EncryptionLevel → Bool
  | .encryptionInitial | .encryptionHandshake =>
    match t with
    | pingFrameType | ackFrameType | ackECNFrameType | cryptoFrameType
    | connectionCloseFrameType => true
    | _ => false
  | .encryption0RTT =>
    match t with
    | ackFrameType | ackECNFrameType | cryptoFrameType | newTokenFrameType
    | retireConnectionIDFrameType | pathResponseFrameType | handshakeDoneFrameType => false
    | _ => true
  | .encryption1RTT => true

@[simp] theorem newFrameType_eq_some_iff {typ : Nat} {t : Nat} :
    newFrameType typ = some t ↔
      t = typ ∧ ((1 ≤ typ ∧ typ ≤ 0x1e) ∨ typ = 0x24 ∨ typ = 0x30 ∨ typ = 0x31) := by
  unfold newFrameType
  split
  · simp_all [eq_comm]
  · simp only [reduceCtorEq, false_iff, not_and]; rintro rfl; assumption

@[simp] theorem newFrameType_eq_none_iff {typ : Nat} :
    newFrameType typ = none ↔ ¬((1 ≤ typ ∧ typ ≤ 0x1e) ∨ typ = 0x24 ∨ typ = 0x30 ∨ typ = 0x31) := by
  unfold newFrameType; split <;> simp_all

/-- Every code is legal at the 1-RTT level. -/
@[simp] theorem isAllowedAtEncLevel_encryption1RTT (t : Nat) :
    FrameType.isAllowedAtEncLevel t .encryption1RTT = true := rfl

end QuicWire
