import QuicWire.FrameParser.Drain

/-!
# QuicWire.FrameParser.Monotone

The extension toggles and the encryption level only widen what `ParseNext`
accepts. A parser that enables every extension another enables, at a level
that allows every code the other's level allows, with the same ACK delay
exponent in force, reads every buffer the other reads with a frame to the
same count and the same frame (`ParseNext_extends`). Supporting DATAGRAM or
RESET_STREAM_AT, or reaching 1-RTT, changes how no other buffer is read.

What a call reads of the parser is its toggles and the exponent at its
level: the ACK frame it reuses is reset before every ACK is decoded into it.
`Extends` names those, one field each, and each layer of the code carries it.
No call changes them, so the caller's loop carries `Extends` from call to
call: a run of `p` without an error is a run of `p'`, with the same frames
(`drain_extends`).
-/

namespace QuicWire
namespace FrameParser

/-- Parser `p'` at level `e'` accepts at least what `p` accepts at `e`: it
enables every extension `p` enables, its level allows every code `e`
allows, and it decodes ACK delays with the same exponent. -/
structure Extends (p p' : FrameParser) (e e' : EncryptionLevel) : Prop where
  supportsDatagrams : p.supportsDatagrams = true → p'.supportsDatagrams = true
  supportsResetStreamAt : p.supportsResetStreamAt = true → p'.supportsResetStreamAt = true
  ackDelayExponentAt : p'.ackDelayExponentAt e' = p.ackDelayExponentAt e
  allowed : ∀ t, FrameType.isAllowedAtEncLevel t e = true → FrameType.isAllowedAtEncLevel t e' = true

variable {p p' : FrameParser} {e e' : EncryptionLevel} {v : Version}

/-- An arm `p` takes, a parser that enables at least `p`'s extensions takes
too. -/
theorem OtherArm.mono (h : Extends p p' e e') {b : List UInt8} {t n : Nat} {f : Frame}
    (harm : OtherArm p b v t f n) : OtherArm p' b v t f n := by
  cases harm with
  | ping => exact .ping
  | handshakeDone => exact .handshakeDone
  | resetStream hd => exact .resetStream hd
  | stopSending hd => exact .stopSending hd
  | crypto hd => exact .crypto hd
  | newToken hd => exact .newToken hd
  | maxData hd => exact .maxData hd
  | maxStreamData hd => exact .maxStreamData hd
  | maxStreams ht hd => exact .maxStreams ht hd
  | dataBlocked hd => exact .dataBlocked hd
  | streamDataBlocked hd => exact .streamDataBlocked hd
  | streamsBlocked ht hd => exact .streamsBlocked ht hd
  | newConnectionID hd => exact .newConnectionID hd
  | retireConnectionID hd => exact .retireConnectionID hd
  | pathChallenge hd => exact .pathChallenge hd
  | pathResponse hd => exact .pathResponse hd
  | connectionClose ht hd => exact .connectionClose ht hd
  | datagram ht hs hd => exact .datagram ht (h.supportsDatagrams hs) hd
  | resetStreamAt hs hd => exact .resetStreamAt (h.supportsResetStreamAt hs) hd

/-- The switch of `ParseFrame` decodes for `p'` everything it decodes for
`p`, the same. -/
theorem parseFrameSwitch_extends (h : Extends p p' e e') {b : List UInt8} {t : Nat}
    {x : Frame × Nat} (hs : (p.parseFrameSwitch b t e v).2 = .ok x) :
    (p'.parseFrameSwitch b t e' v).2 = .ok x := by
  by_cases hm : (UInt8.ofNat t &&& 0xf8) = 0x8
  · rw [parseFrameSwitch_of_mask hm] at hs ⊢
    exact hs
  by_cases hack : t = ackFrameType ∨ t = ackECNFrameType
  · rcases hA : QuicWire.parseAckFrame p.ackFrame.reset b t (p.ackDelayExponentAt e) v
      with ⟨a, l, err⟩
    have hA' : QuicWire.parseAckFrame p'.ackFrame.reset b t (p'.ackDelayExponentAt e') v =
        (a, l, err) := by
      rw [AckFrame.reset_eq, h.ackDelayExponentAt, ← hA, AckFrame.reset_eq]
    rw [parseFrameSwitch_of_ack hack hA] at hs
    rw [parseFrameSwitch_of_ack hack hA']
    exact hs
  obtain ⟨f, n⟩ := x
  rcases hsw : p.parseFrameSwitch b t e v with ⟨q, r⟩
  rw [hsw] at hs
  cases hs
  obtain ⟨-, harm⟩ := parseFrameSwitch_otherArm hm hack hsw
  rw [(harm.mono h).parseFrameSwitch_eq]

/-- `ParseFrame` adds the level check, which `e'` passes wherever `e` does. -/
theorem parseFrame_extends (h : Extends p p' e e') {b : List UInt8} {t n : Nat} {f : Frame}
    (hf : (p.parseFrame b t e v).2 = (some f, n, none)) :
    (p'.parseFrame b t e' v).2 = (some f, n, none) := by
  obtain ⟨hs, ha⟩ := parseFrame_eq_some_iff.1 (Prod.ext rfl hf)
  have hs' := parseFrameSwitch_extends h (congrArg Prod.snd hs)
  exact congrArg Prod.snd (parseFrame_eq_some_iff.2 ⟨Prod.ext rfl hs', h.allowed t ha⟩)

/-- A parser that enables every extension `p` enables, at a level that
allows every code `e` allows, with the same ACK delay exponent in force,
reads every buffer `p` reads with a frame and no error to the same count
and the same frame. -/
theorem ParseNext_extends (h : Extends p p' e e') {b : List UInt8} {n : Nat} {f : Frame}
    (hn : (p.ParseNext b e v).2 = (n, some f, none)) :
    (p'.ParseNext b e' v).2 = (n, some f, none) := by
  simp only [ParseNext, parseNext_after_padding] at hn ⊢
  rcases after_padding_cases b with h0 | ⟨hne, err, herr⟩ | ⟨t, l, hp, ht⟩
  · rw [List.length_eq_zero.1 h0, parseNextLoop_nil] at hn; cases hn
  · rw [parseNextLoop_of_error hne herr] at hn; cases hn
  rw [parseNextLoop_of_type hp ht] at hn ⊢
  generalize hpf : p.parseFrame ((b.drop (paddingLength b)).drop l) t e v = r at hn
  rcases r with ⟨q, f', l', _ | err⟩ <;> cases hn
  have hf := parseFrame_extends h (congrArg Prod.snd hpf)
  generalize p'.parseFrame ((b.drop (paddingLength b)).drop l) t e' v = r' at hf ⊢
  obtain ⟨q', r'⟩ := r'
  cases hf
  rfl

/-! ## The caller's loop -/

/-- `Extends` depends on the configuration only. -/
theorem Extends.of_config {q q' : FrameParser} (h : Extends p p' e e') (hq : q.config = p.config)
    (hq' : q'.config = p'.config) : Extends q q' e e' := by
  have he := (ackDelayExponentAt_of_config hq' e').trans
    (h.ackDelayExponentAt.trans (ackDelayExponentAt_of_config hq e).symm)
  simp only [config, Prod.mk.injEq] at hq hq'
  exact ⟨by simpa [hq.2.1, hq'.2.1] using h.supportsDatagrams,
    by simpa [hq.2.2, hq'.2.2] using h.supportsResetStreamAt, he, h.allowed⟩

/-- One call of the loop: a call of `p` at `e` without an error, PADDING
alone included, is one of `p'` at `e'` with the same count and frame. -/
theorem ParseNext_extends_step (h : Extends p p' e e') {b : List UInt8} {q : FrameParser} {n : Nat}
    {frame : Option Frame} (hn : p.ParseNext b e v = (q, n, frame, none)) :
    ∃ q', p'.ParseNext b e' v = (q', n, frame, none) := by
  cases frame with
  | none =>
    obtain ⟨-, hpad, rfl⟩ := ParseNext_padding_only hn
    exact ⟨p', ParseNext_of_padding_only hpad⟩
  | some f =>
    obtain ⟨t, l, l', hp, hpf, rfl⟩ := ParseNext_frame_cases hn
    exact ⟨_, ParseNext_of_parseFrame hp (parseFrame_extends h (congrArg Prod.snd hpf))⟩

/-- A run of the caller's loop without an error, from `p` at `e`, is a run
from any parser that extends `p`, at a level that allows at least what `e`
allows: the same frames, with no error. -/
theorem drain_extends :
    ∀ (k : Nat) (p p' : FrameParser) (b : List UInt8), Extends p p' e e' →
      ∀ {q : FrameParser} {fs : List Frame}, drain e v k p b = some (q, fs, none) →
      ∃ q', drain e' v k p' b = some (q', fs, none)
  | k, p, p', [], _, _, _, h => by
    rw [drain_nil] at h
    cases h
    exact ⟨p', drain_nil k p'⟩
  | 0, _, _, _ :: _, _, _, _, h => by cases h
  | k + 1, p, p', x :: xs, hx, q, fs, h => by
    obtain ⟨q₁, l, frame, fs', hr, hc, hd, rfl⟩ | ⟨_, _, _, -, -, ⟨⟩⟩ :=
      drain_succ_cases (List.cons_ne_nil x xs) h
    obtain ⟨q₁', hr'⟩ := ParseNext_extends_step hx hr
    have hc' := config_parseNext p' (x :: xs) e' v
    rw [hr'] at hc'
    obtain ⟨q', hd'⟩ := drain_extends k q₁ q₁' _ (hx.of_config hc hc') hd
    exact ⟨q', by rw [drain_of_ok (List.cons_ne_nil x xs) hr', hd']; rfl⟩

/-- An ACK frame read at the Initial level by a parser without extensions
is read the same at 1-RTT by one with both extensions and the exponent set
to the encoder's. -/
theorem ParseNext_extends_ack :
    Extends (newFrameParser false false) ((newFrameParser true true).setAckDelayExponent 3)
        .encryptionInitial .encryption1RTT ∧
      ((newFrameParser false false).ParseNext [0x02, 0x05, 0x01, 0x00, 0x00] .encryptionInitial
          version1).2 = (5, some (.ack { ackRanges := [⟨5, 5⟩], delayTime := 8000 }), none) ∧
      (((newFrameParser true true).setAckDelayExponent 3).ParseNext [0x02, 0x05, 0x01, 0x00, 0x00]
          .encryption1RTT version1).2 = (5, some (.ack { ackRanges := [⟨5, 5⟩], delayTime := 8000 }), none) :=
  have h : Extends (newFrameParser false false) ((newFrameParser true true).setAckDelayExponent 3)
      .encryptionInitial .encryption1RTT := ⟨fun _ => rfl, fun _ => rfl, rfl, fun _ _ => rfl⟩
  have hn : ((newFrameParser false false).ParseNext [0x02, 0x05, 0x01, 0x00, 0x00]
      .encryptionInitial version1).2 = (5, some (.ack { ackRanges := [⟨5, 5⟩], delayTime := 8000 }), none) := by
    rw [ParseNext, parseNext, parseNextLoop_of_type
      (show Quicvarint.parse [0x02, 0x05, 0x01, 0x00, 0x00] = .ok (2, 1) from rfl) (by decide)]
    rfl
  ⟨h, hn, ParseNext_extends h hn⟩

/-- ACK and PING read at the Initial level by a parser without extensions
are read the same at 1-RTT by one with both extensions and the exponent set
to the encoder's. -/
theorem drain_extends_ack_ping :
    Extends (newFrameParser false false) ((newFrameParser true true).setAckDelayExponent 3)
        .encryptionInitial .encryption1RTT ∧
      drain .encryptionInitial version1 6 (newFrameParser false false)
          [0x02, 0x05, 0x01, 0x00, 0x00, 0x01] =
        some ({ newFrameParser false false with ackFrame := { ackRanges := [⟨5, 5⟩], delayTime := 8000 } },
          [.ack { ackRanges := [⟨5, 5⟩], delayTime := 8000 }, .ping], none) ∧
      ∃ q', drain .encryption1RTT version1 6 ((newFrameParser true true).setAckDelayExponent 3)
          [0x02, 0x05, 0x01, 0x00, 0x00, 0x01] =
        some (q', [.ack { ackRanges := [⟨5, 5⟩], delayTime := 8000 }, .ping], none) :=
  have hx : Extends (newFrameParser false false) ((newFrameParser true true).setAckDelayExponent 3)
      .encryptionInitial .encryption1RTT := ⟨fun _ => rfl, fun _ => rfl, rfl, fun _ _ => rfl⟩
  have h₁ : (newFrameParser false false).ParseNext [0x02, 0x05, 0x01, 0x00, 0x00, 0x01]
      .encryptionInitial version1 =
      ({ newFrameParser false false with ackFrame := { ackRanges := [⟨5, 5⟩], delayTime := 8000 } }, 5,
        some (.ack { ackRanges := [⟨5, 5⟩], delayTime := 8000 }), none) := by
    rw [ParseNext, parseNext, parseNextLoop_of_type
      (show Quicvarint.parse [0x02, 0x05, 0x01, 0x00, 0x00, 0x01] = .ok (2, 1) from rfl) (by decide)]
    rfl
  have h₂ : ({ newFrameParser false false with
      ackFrame := { ackRanges := [⟨5, 5⟩], delayTime := 8000 } } : FrameParser).ParseNext [0x01]
      .encryptionInitial version1 =
      ({ newFrameParser false false with ackFrame := { ackRanges := [⟨5, 5⟩], delayTime := 8000 } }, 1,
        some .ping, none) := by
    rw [ParseNext, parseNext, parseNextLoop_of_type
      (show Quicvarint.parse [0x01] = .ok (1, 1) from rfl) (by decide)]
    rfl
  have h : drain .encryptionInitial version1 6 (newFrameParser false false)
      [0x02, 0x05, 0x01, 0x00, 0x00, 0x01] =
      some ({ newFrameParser false false with ackFrame := { ackRanges := [⟨5, 5⟩], delayTime := 8000 } },
        [.ack { ackRanges := [⟨5, 5⟩], delayTime := 8000 }, .ping], none) := by
    rw [drain_of_ok (by simp) h₁,
      show List.drop 5 [(0x02 : UInt8), 0x05, 0x01, 0x00, 0x00, 0x01] = [0x01] from rfl,
      drain_of_ok (by simp) h₂, show List.drop 1 [(0x01 : UInt8)] = [] from rfl, drain_nil]
    rfl
  ⟨hx, h, drain_extends 6 _ _ _ hx h⟩

end FrameParser
end QuicWire
