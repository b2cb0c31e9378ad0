import QuicWire.FrameParser.Drain

/-!
# QuicWire.FrameParser.Reuse

The parser keeps one ACK frame and decodes every ACK into it: "To avoid
allocating when parsing, keep a single ACK frame struct. It is used over
and over again." `ParseFrame` and `ParseAckFrame` hand out that frame
itself, so an ACK frame a caller holds changes with the next ACK the
parser decodes.

A call without an error changes nothing of the parser but that frame, and
only when it returns an ACK frame, which the parser then holds
(`ParseNext_afterFrame`). Over the caller's loop: after a run without an
error the parser is the one it started with, holding the last ACK frame the
run returned, if it returned one (`drain_ackFrame`). Every ACK frame
returned earlier in the run, which the caller holds by pointer, then reads
as that last one.

No call reads that frame before it resets it, so it never shows in what a
call returns: two parsers with the same configuration return the same over
every run of calls, whatever ACK frames they hold (`outputs_eq_of_config`).
-/

namespace QuicWire

/-- The ACK frame a frame is, if it is one. -/
def Frame.ack? : Frame → Option AckFrame
  | .ack a => some a
  | _ => none

namespace FrameParser

/-- The parser after a call that returned `f`: it holds an ACK frame it
returned, and every other frame leaves it as it was. -/
def afterFrame (p : FrameParser) (f : Frame) : FrameParser :=
  match f.ack? with
  | some a => { p with ackFrame := a }
  | none => p

/-- The last ACK frame among `fs`. -/
def lastAck (fs : List Frame) : Option AckFrame :=
  (fs.filterMap Frame.ack?).getLast?

variable {p q : FrameParser} {e : EncryptionLevel} {v : Version}

/-! ## One call -/

theorem parseFrameSwitch_afterFrame {b : List UInt8} {t n : Nat} {f : Frame}
    (h : p.parseFrameSwitch b t e v = (q, .ok (f, n))) : q = p.afterFrame f := by
  by_cases hm : (UInt8.ofNat t &&& 0xf8) = 0x8
  · rw [parseFrameSwitch_of_mask hm] at h
    obtain ⟨sf, -, rfl⟩ := exists_of_map_ok (Prod.mk.inj_iff.1 h).2
    exact (Prod.mk.inj_iff.1 h).1.symm
  by_cases hack : t = ackFrameType ∨ t = ackECNFrameType
  · rcases hA : QuicWire.parseAckFrame p.ackFrame.reset b t (p.ackDelayExponentAt e) v
      with ⟨a, l, _ | err⟩ <;> rw [parseFrameSwitch_of_ack hack hA] at h <;> cases h
    rfl
  obtain ⟨rfl, harm⟩ := parseFrameSwitch_otherArm hm hack h
  cases f <;> first | rfl | exact absurd rfl (harm.ne_ack _)

theorem parseFrame_afterFrame {b : List UInt8} {t n : Nat} {f : Frame}
    (h : p.parseFrame b t e v = (q, some f, n, none)) : q = p.afterFrame f :=
  parseFrameSwitch_afterFrame (parseFrame_eq_some_iff.1 h).1

/-- A call without an error changes the parser only when it returns an ACK
frame, which the parser then holds. -/
theorem ParseNext_afterFrame {b : List UInt8} {n : Nat} {frame : Option Frame}
    (h : p.ParseNext b e v = (q, n, frame, none)) : q = frame.elim p p.afterFrame := by
  rw [ParseNext_eq] at h
  generalize hr : p.parseNext b e v = r at h
  obtain ⟨q', frame', n', err'⟩ := r
  cases h
  rw [parseNext_after_padding] at hr
  rcases after_padding_cases b with h0 | ⟨hne, err, herr⟩ | ⟨t, l, hp, ht⟩
  · rw [List.length_eq_zero.1 h0, parseNextLoop_nil] at hr; cases hr; rfl
  · rw [parseNextLoop_of_error hne herr] at hr; cases hr
  rw [parseNextLoop_of_type hp ht] at hr
  generalize hpf : p.parseFrame ((b.drop (paddingLength b)).drop l) t e v = r at hr
  rcases r with ⟨q'', _ | f', l', _ | err⟩ <;> cases hr
  · have := parseFrame_isSome_of_ok (show (p.parseFrame _ t e v).2.2.2 = none by rw [hpf])
    rw [hpf] at this
    cases this
  · exact parseFrame_afterFrame hpf

/-! ## The caller's loop -/

/-- After a run without an error the parser is the one it started with,
taken through the frames the run returned. -/
theorem drain_afterFrame :
    ∀ (k : Nat) (p : FrameParser) (b : List UInt8) {q : FrameParser} {fs : List Frame},
      drain e v k p b = some (q, fs, none) → q = fs.foldl afterFrame p
  | k, p, [], _, _, h => by
    rw [drain_nil] at h
    cases h
    rfl
  | 0, _, _ :: _, _, _, h => by cases h
  | k + 1, p, x :: xs, q, fs, h => by
    obtain ⟨q₁, l, frame, fs', hr, -, hd, rfl⟩ | ⟨_, _, _, -, -, ⟨⟩⟩ :=
      drain_succ_cases (List.cons_ne_nil x xs) h
    rw [drain_afterFrame k q₁ _ hd, ParseNext_afterFrame hr]
    cases frame <;> rfl

/-- Taking a parser through frames replaces its ACK frame by the last ACK
frame among them. -/
theorem foldl_afterFrame (fs : List Frame) (p : FrameParser) :
    fs.foldl afterFrame p = { p with ackFrame := (lastAck fs).getD p.ackFrame } := by
  induction fs generalizing p with
  | nil => rfl
  | cons f fs ih =>
    rw [List.foldl_cons, ih]
    cases hf : f.ack? with
    | none => simp [afterFrame, lastAck, hf]
    | some a => simp [afterFrame, lastAck, hf, List.getLast?_cons]

/-- After the caller's loop reads a buffer without an error, the parser is
the one it started with, holding the last ACK frame the loop returned in
place of its own, if the loop returned one. -/
theorem drain_ackFrame {k : Nat} {b : List UInt8} {fs : List Frame}
    (h : drain e v k p b = some (q, fs, none)) :
    q = { p with ackFrame := (lastAck fs).getD p.ackFrame } := by
  rw [drain_afterFrame k p b h, foldl_afterFrame]

/-- ACK then PING at the Initial level: the parser ends holding the ACK
frame. -/
theorem drain_ackFrame_ack_ping :
    drain .encryptionInitial version1 6 (newFrameParser false false)
        [0x02, 0x05, 0x01, 0x00, 0x00, 0x01] =
      some ({ newFrameParser false false with ackFrame := { ackRanges := [⟨5, 5⟩], delayTime := 8000 } },
        [.ack { ackRanges := [⟨5, 5⟩], delayTime := 8000 }, .ping], none) ∧
    { newFrameParser false false with ackFrame := { ackRanges := [⟨5, 5⟩], delayTime := 8000 } } =
      { newFrameParser false false with
        ackFrame := (lastAck [.ack { ackRanges := [⟨5, 5⟩], delayTime := 8000 }, .ping]).getD
          (newFrameParser false false).ackFrame } :=
  have h₁ : (newFrameParser false false).ParseNext [0x02, 0x05, 0x01, 0x00, 0x00, 0x01]
      .encryptionInitial version1 =
      ({ newFrameParser false false with ackFrame := { ackRanges := [⟨5, 5⟩], delayTime := 8000 } }, 5,
        some (.ack { ackRanges := [⟨5, 5⟩], delayTime := 8000 }), none) := by
    rw [ParseNext, parseNext, parseNextLoop_of_type
      (show Quicvarint.parse [0x02, 0x05, 0x01, 0x00, 0x00, 0x01] = .ok (2, 1) from rfl) (by decide)]
    rfl
  have h₂ : ({ newFrameParser false false with
      ackFrame := { ackRanges := [⟨5, 5⟩], delayTime := 8000 } } : FrameParser).ParseNext [0x01]
      .encryptionInitial version1 =
      ({ newFrameParser false false with ackFrame := { ackRanges := [⟨5, 5⟩], delayTime := 8000 } }, 1,
        some .ping, none) := by
    rw [ParseNext, parseNext, parseNextLoop_of_type
      (show Quicvarint.parse [0x01] = .ok (1, 1) from rfl) (by decide)]
    rfl
  have h : drain .encryptionInitial version1 6 (newFrameParser false false)
      [0x02, 0x05, 0x01, 0x00, 0x00, 0x01] =
      some ({ newFrameParser false false with ackFrame := { ackRanges := [⟨5, 5⟩], delayTime := 8000 } },
        [.ack { ackRanges := [⟨5, 5⟩], delayTime := 8000 }, .ping], none) := by
    rw [drain_of_ok (by simp) h₁,
      show List.drop 5 [(0x02 : UInt8), 0x05, 0x01, 0x00, 0x00, 0x01] = [0x01] from rfl,
      drain_of_ok (by simp) h₂, show List.drop 1 [(0x01 : UInt8)] = [] from rfl, drain_nil]
    rfl
  ⟨h, drain_ackFrame h⟩

/-! ## What a run of calls returns -/

/-- What a call returns, method by method: everything but the parser. -/
inductive Output
  | setAckDelayExponent
  | parseNext (r : Nat × Option Frame × Option TransportError)
  | parseFrame (r : Option Frame × Nat × Option Error)
  | parseType (r : Nat × Nat × Option TypeError)
  | parseLessCommonFrame (r : Option Frame × Nat × Option Error)
  | parseAckFrame (r : AckFrame × Nat × Option Error)
  | parseDatagramFrame (r : Option DatagramFrame × Nat × Option Error)
deriving DecidableEq, Repr

/-- What call `c` returns on parser `p`. -/
def Call.output (p : FrameParser) : Call → Output
  | .setAckDelayExponent _ => .setAckDelayExponent
  | .parseNext b encLevel v => .parseNext (p.ParseNext b encLevel v).2
  | .parseFrame b frameTyp encLevel v => .parseFrame (p.parseFrame b frameTyp encLevel v).2
  | .parseType b encLevel => .parseType (p.parseType b encLevel)
  | .parseLessCommonFrame frameType data v =>
    .parseLessCommonFrame (p.parseLessCommonFrame frameType data v)
  | .parseAckFrame frameType data encLevel v =>
    .parseAckFrame (p.parseAckFrame frameType data encLevel v).2
  | .parseDatagramFrame frameType data v =>
    .parseDatagramFrame (p.parseDatagramFrame frameType data v)

/-- What the calls of a run return, in order. -/
def outputs (p : FrameParser) : List Call → List Output
  | [] => []
  | c :: calls => c.output p :: outputs (c.apply p) calls

/-- Parsers with the same configuration agree at every level. -/
theorem Agree.of_config {q : FrameParser} (h : p.config = q.config) (e : EncryptionLevel) :
    Agree p q e := by
  have he := ackDelayExponentAt_of_config h e
  simp only [config, Prod.mk.injEq] at h
  exact ⟨h.2.1, h.2.2, he⟩

/-- One call returns the same on parsers with the same configuration. -/
theorem Call.output_eq_of_config {q : FrameParser} (h : p.config = q.config) (c : Call) :
    c.output p = c.output q := by
  have ha := Agree.of_config h
  simp only [config, Prod.mk.injEq] at h
  cases c with
  | setAckDelayExponent | parseType => rfl
  | parseNext b e v => exact congrArg Output.parseNext (ParseNext_agree (ha e) b)
  | parseFrame b t e v => exact congrArg Output.parseFrame (parseFrame_agree (ha e) b t)
  | parseAckFrame t b e v => exact congrArg Output.parseAckFrame (parseAckFrame_agree (ha e) t b)
  | parseLessCommonFrame t d v =>
    show Output.parseLessCommonFrame _ = Output.parseLessCommonFrame _
    unfold FrameParser.parseLessCommonFrame
    rw [h.2.2]
  | parseDatagramFrame t d v =>
    show Output.parseDatagramFrame _ = Output.parseDatagramFrame _
    unfold FrameParser.parseDatagramFrame
    rw [h.2.1]

/-- The parser's observable state is its configuration. From two parsers
with the same configuration, whatever ACK frames they hold, every run of
calls returns the same, call by call: the ACK frame the parser keeps is
scratch that every decode resets before use. -/
theorem outputs_eq_of_config :
    ∀ {p q : FrameParser} (calls : List Call), p.config = q.config → p.outputs calls = q.outputs calls
  | _, _, [], _ => rfl
  | p, q, c :: calls, h => by
    have hc : (c.apply p).config = (c.apply q).config := by
      rw [config_apply, config_apply]
      simp only [config, Prod.mk.injEq] at h
      rw [h.1, h.2.1, h.2.2]
    rw [outputs, outputs, Call.output_eq_of_config h c, outputs_eq_of_config calls hc]

/-- A parser still holding an ACK frame from an earlier packet returns what
a new one returns, for an ACK and then a `ParseAckFrame` call. -/
theorem outputs_eq_of_config_stale_ack :
    (newFrameParser true true).config =
        ({ newFrameParser true true with
          ackFrame := { ackRanges := [⟨1, 7⟩], delayTime := 5 } } : FrameParser).config ∧
      (newFrameParser true true).outputs
          [.parseNext [0x02, 0x05, 0x01, 0x00, 0x00] .encryption1RTT version1,
            .parseAckFrame ackFrameType [0x05, 0x01, 0x00, 0x00] .encryptionInitial version1] =
        ({ newFrameParser true true with
          ackFrame := { ackRanges := [⟨1, 7⟩], delayTime := 5 } } : FrameParser).outputs
          [.parseNext [0x02, 0x05, 0x01, 0x00, 0x00] .encryption1RTT version1,
            .parseAckFrame ackFrameType [0x05, 0x01, 0x00, 0x00] .encryptionInitial version1] :=
  ⟨rfl, outputs_eq_of_config _ rfl⟩

end FrameParser
end QuicWire
