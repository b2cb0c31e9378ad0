import QuicWire.Protocol
import QuicWire.Quicvarint
import QuicWire.FrameType
import QuicWire.Frames
import QuicWire.Codec
import QuicWire.Codec.Append
import QuicWire.Codec.Roundtrip
import QuicWire.Codec.Delimited
import QuicWire.Codec.Sound
import QuicWire.Codec.Shortest
import QuicWire.FrameParser
import QuicWire.FrameParser.Padding
import QuicWire.FrameParser.Split
import QuicWire.FrameParser.Runs
import QuicWire.FrameParser.Sweep
import QuicWire.FrameParser.Framing
import QuicWire.FrameParser.Readback
import QuicWire.FrameParser.Drain
import QuicWire.FrameParser.Monotone
import QuicWire.FrameParser.Shortest
import QuicWire.FrameParser.Reuse
import QuicWire.FrameParser.Boundary
import QuicWire.FrameParser.SplitPath
