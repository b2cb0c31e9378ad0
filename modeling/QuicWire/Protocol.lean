import Mathlib.Tactic.Ring
/-!
# QuicWire.Protocol

The vocabulary `frame_parser.go` shares with the rest of quic-go: encryption
levels, versions, the protocol constants the frame codec reads, Go `error`
values, `qerr.TransportError`, and `replaceUnexpectedEOF`, the one helper of
`frame_parser.go` that only the frame decoders call.

Everything here but `replaceUnexpectedEOF` lives in packages outside the
source, so it is modelled from the spec: the names are the ones the source
uses, the values the ones the spec (§3, §4.3, §6) describes.
-/

namespace QuicWire

/-! ## Encryption levels and versions -/

/-- Modelled from the spec: `protocol.EncryptionLevel`, the phase of the
connection a packet was sent at (§3: initial, handshake, zero-round-trip,
one-round-trip). -/
inductive EncryptionLevel where
  | encryptionInitial
  | encryptionHandshake
  | encryption0RTT
  | encryption1RTT
deriving DecidableEq, Repr

/-- Modelled from the spec: `EncryptionLevel.String`, which the `%s` verbs of
the parser's error messages print. -/
def EncryptionLevel.string : EncryptionLevel → String
  | .encryptionInitial => "Initial"
  | .encryptionHandshake => "Handshake"
  | .encryption0RTT => "0-RTT"
  | .encryption1RTT => "1-RTT"

instance : ToString EncryptionLevel := ⟨EncryptionLevel.string⟩

/-- `protocol.Version`. Every decoder takes it and none reads it. -/
abbrev Version := UInt32

/-- `protocol.Version1`. -/
def version1 : Version := 0x1

/-! ## Protocol constants -/

/-- Modelled from the spec: `protocol.DefaultAckDelayExponent`, the exponent
that scales ACK delays at every level but 1-RTT (§4.3). -/
def defaultAckDelayExponent : UInt8 := 3

/-- Modelled from the spec: `protocol.AckDelayExponent`, the exponent the ACK
encoder scales its own delays by; the spec's "default" (§8). -/
def ackDelayExponent : UInt8 := 3

/-- Modelled from the spec: `protocol.MaxByteCount`, the largest stream or
crypto offset a frame may reach: the varint range. -/
def maxByteCount : Nat := 2 ^ 62 - 1

/-- Modelled from the spec: `protocol.MaxStreamCount`, the largest stream count
MAX_STREAMS and STREAMS_BLOCKED may carry. -/
def maxStreamCount : Nat := 2 ^ 60

/-- Modelled from the spec: `protocol.MaxConnIDLen`. -/
def maxConnIDLen : Nat := 20

/-! ## Errors -/

/-- The Go `error` values below the parser's entry points: the sentinels
`io.EOF` and `io.ErrUnexpectedEOF`, and the errors `errors.New` and
`fmt.Errorf` build, which carry nothing but their text. -/
inductive Error where
  | eof
  | unexpectedEOF
  | new (text : String)
deriving DecidableEq, Repr

/-- `err.Error()`. -/
def Error.error : Error → String
  | .eof => "EOF"
  | .unexpectedEOF => "unexpected EOF"
  | .new text => text

/-- `replaceUnexpectedEOF` (`frame_parser.go`): the frame decoders report a
truncated field as `io.EOF`. -/
def replaceUnexpectedEOF (e : Error) : Error :=
  if e = .unexpectedEOF then .eof else e

/-- Modelled from the spec: `qerr.TransportErrorCode`, a numeric code (§6). -/
abbrev TransportErrorCode := Nat

/-- Modelled from the spec: `qerr.FrameEncodingError`. -/
def frameEncodingError : TransportErrorCode := 0x7

/-- Modelled from the spec: `qerr.TransportError`, with the fields the parser
fills in. A field a Go composite literal leaves out is zero, as the defaults
here. -/
structure TransportError where
  frameType : Nat := 0
  errorCode : TransportErrorCode
  errorMessage : String := ""
deriving DecidableEq, Repr

/-- The non-nil `error` values of `ParseType`: `io.EOF` or a
`*qerr.TransportError`. -/
inductive TypeError where
  | eof
  | transport (e : TransportError)
deriving DecidableEq, Repr

end QuicWire
