import QuicWire.FrameParser.Padding

/-!
# QuicWire.FrameParser.Split

The two ways to parse a frame (spec §4.4): the composed `ParseNext`, and the
split path a caller takes to branch on the kind first, `ParseType` and then
the kind's own decoder (`decodeByKind`).

The two differ where `ParseFrame` recognizes STREAM: its test
`byte(frameTyp)&0xf8 == 0x8` looks at the low byte of the code only, so a
code outside the frame-type table whose low byte is a STREAM code, such as
`0x108`, is decoded as a STREAM frame by `ParseNext` and rejected by
`ParseType` (`ParseNext_accepts_unknown_type`). Everywhere else the two
agree (`parseSplit_eq_of_not_masked`).

`ParseType` classifies a code by the static table alone: it never reads the
extension toggles, which only the decoders apply (`parseType_classifies`).
-/

namespace QuicWire
namespace FrameParser

/-! ## The STREAM test of ParseFrame -/

set_option maxRecDepth 4000 in
private theorem land_248_eq_8_iff : ∀ x, x < 256 → (x &&& 248 = 8 ↔ 8 ≤ x ∧ x < 16) := by
  decide

/-- The STREAM test of `ParseFrame` holds exactly for the codes whose low
byte is a STREAM code. -/
theorem streamMask_iff (t : Nat) : (UInt8.ofNat t &&& 0xf8) = 0x8 ↔ 8 ≤ t % 256 ∧ t % 256 < 16 := by
  rw [← land_248_eq_8_iff (t % 256) (Nat.mod_lt _ (by decide))]
  exact ⟨fun h => by simpa using congrArg UInt8.toNat h, fun h => UInt8.toNat.inj (by simpa using h)⟩

/-- On the codes of the table the test is `IsStreamFrameType`. -/
theorem streamMask_iff_of_table {t : Nat} (ht : t ≤ 0x31) :
    (UInt8.ofNat t &&& 0xf8) = 0x8 ↔ FrameType.isStreamFrameType t = true := by
  rw [streamMask_iff, Nat.mod_eq_of_lt (by omega)]
  simp only [FrameType.isStreamFrameType, decide_eq_true_eq]
  constructor <;> intro h <;> omega

/-- For a code that is neither STREAM, ACK nor DATAGRAM the switch of
`ParseFrame` runs what `ParseLessCommonFrame` runs, and leaves the parser as
it is. -/
theorem parseFrameSwitch_of_lessCommon {p : FrameParser} {data : List UInt8} {t : Nat}
    {e : EncryptionLevel} {v : Version} (hm : ¬(UInt8.ofNat t &&& 0xf8) = 0x8)
    (hack : ¬(t = ackFrameType ∨ t = ackECNFrameType))
    (hdg : ¬(t = datagramNoLengthFrameType ∨ t = datagramWithLengthFrameType)) :
    ∃ r, p.parseFrameSwitch data t e v = (p, r) ∧ p.parseLessCommonFrame t data v = results r := by
  simp only [not_or] at hack hdg
  unfold parseFrameSwitch parseLessCommonFrame
  rw [if_neg hm]
  split
  all_goals first
    | exact ⟨_, rfl, rfl⟩
    | exact absurd rfl hack.1 | exact absurd rfl hack.2 | exact absurd rfl hdg.1
    | exact absurd rfl hdg.2
    | (cases p.supportsResetStreamAt <;> exact ⟨_, rfl, rfl⟩)
    | (refine ⟨_, rfl, ?_⟩; split <;> first | rfl | contradiction)

/-- `ParseLessCommonFrame` fails on every code outside the table. -/
theorem parseLessCommonFrame_of_unknown {p : FrameParser} {t : Nat} (data : List UInt8)
    (v : Version) (hn : newFrameType t = none) :
    p.parseLessCommonFrame t data v = (none, 0, some errUnknownFrameType) := by
  simp only [newFrameType_eq_none_iff] at hn
  unfold parseLessCommonFrame
  split <;> first | rfl | omega

/-- Outside the table only the codes that are not STREAM codes reach the
`default` case of the switch of `ParseFrame`. -/
theorem parseFrameSwitch_of_unknown {p : FrameParser} {data : List UInt8} {t : Nat}
    {e : EncryptionLevel} {v : Version} (ht : newFrameType t = none)
    (hm : ¬(UInt8.ofNat t &&& 0xf8) = 0x8) :
    p.parseFrameSwitch data t e v = (p, .error errUnknownFrameType) := by
  have hn := newFrameType_eq_none_iff.1 ht
  obtain ⟨r, hsw, hlc⟩ := @parseFrameSwitch_of_lessCommon p data t e v hm
    (by simp only [ackFrameType, ackECNFrameType]; omega)
    (by simp only [datagramNoLengthFrameType, datagramWithLengthFrameType]; omega)
  rw [parseLessCommonFrame_of_unknown data v ht] at hlc
  rcases r with err | ⟨f, l⟩ <;> simp only [results, Prod.mk.injEq, Option.some.injEq] at hlc
  · rw [hsw, hlc.2.2]
  · cases hlc.1

/-! ## The table the spec describes -/

/-- Modelled from the spec: the codes of the protocol's frame-type table
that the parser's configuration enables (§6): PING to HANDSHAKE_DONE,
RESET_STREAM_AT when it is supported, the DATAGRAM codes when datagrams
are. -/
def isEnabled (p : FrameParser) (t : Nat) : Bool :=
  (1 ≤ t ∧ t ≤ 0x1e) ∨ (t = resetStreamAtFrameType ∧ p.supportsResetStreamAt) ∨
    ((t = datagramNoLengthFrameType ∨ t = datagramWithLengthFrameType) ∧ p.supportsDatagrams)

/-- The switch of `ParseFrame` decodes a frame only for an enabled code or
one that passes its STREAM test. -/
theorem enabled_of_parseFrameSwitch_ok {p : FrameParser} {data : List UInt8} {t : Nat}
    {e : EncryptionLevel} {v : Version} {x : Frame × Nat}
    (h : (p.parseFrameSwitch data t e v).2 = .ok x) :
    isEnabled p t = true ∨ (UInt8.ofNat t &&& 0xf8) = 0x8 := by
  by_cases hm : (UInt8.ofNat t &&& 0xf8) = 0x8
  · exact .inr hm
  cases hn : newFrameType t with
  | none => rw [parseFrameSwitch_of_unknown hn hm] at h; cases h
  | some t' =>
    obtain ⟨rfl, hr⟩ := newFrameType_eq_some_iff.1 hn
    left
    rcases hr with hr | rfl | rfl | rfl
    · simp [isEnabled, hr]
    all_goals
      unfold parseFrameSwitch at h
      rw [if_neg hm] at h
      cases hs : p.supportsResetStreamAt <;> cases hd : p.supportsDatagrams <;>
        simp_all [isEnabled, resetStreamAtFrameType, datagramNoLengthFrameType,
          datagramWithLengthFrameType]

/-- `ParseLessCommonFrame` owns neither STREAM, ACK nor DATAGRAM (§4.4): for
their codes, and for every code outside the table, it fails with
`errUnknownFrameType` and consumes nothing. -/
theorem parseLessCommonFrame_rejects_hot_kinds (p : FrameParser) {t : Nat} (data : List UInt8)
    (v : Version)
    (ht : FrameType.isStreamFrameType t = true ∨ t = ackFrameType ∨ t = ackECNFrameType ∨
      t = datagramNoLengthFrameType ∨ t = datagramWithLengthFrameType ∨ newFrameType t = none) :
    p.parseLessCommonFrame t data v = (none, 0, some errUnknownFrameType) := by
  rcases ht with hs | rfl | rfl | rfl | rfl | hn
  · simp only [FrameType.isStreamFrameType, decide_eq_true_eq] at hs
    unfold parseLessCommonFrame
    split <;> first | rfl | omega
  · rfl
  · rfl
  · rfl
  · rfl
  · exact parseLessCommonFrame_of_unknown data v hn

/-! ## The two paths -/

/-- A decode that succeeded: the parser after it, the frame and the count. -/
def decoded : FrameParser × Option Frame × Nat × Option Error → Option (FrameParser × Frame × Nat)
  | (q, some f, l, none) => some (q, f, l)
  | _ => none

/-- Modelled from the spec: the decoder a caller of the split path applies
to what follows the type code `t` that `ParseType` returned (§4.4):
`ParseStreamFrame` for a STREAM code, the `ParseAckFrame` method for ACK and
ACK_ECN, the `ParseDatagramFrame` method for DATAGRAM, and
`ParseLessCommonFrame` for every other code. -/
def decodeByKind (p : FrameParser) (t : Nat) (data : List UInt8) (encLevel : EncryptionLevel)
    (v : Version) : FrameParser × Option Frame × Nat × Option Error :=
  if FrameType.isStreamFrameType t then
    (p, results ((fun (f, l) => (Frame.stream f, l)) <$> QuicWire.parseStreamFrame data t v))
  else if t = ackFrameType ∨ t = ackECNFrameType then
    let (p, f, l, err) := p.parseAckFrame t data encLevel v
    (p, some (.ack f), l, err)
  else if t = datagramNoLengthFrameType ∨ t = datagramWithLengthFrameType then
    let (f, l, err) := p.parseDatagramFrame t data v
    (p, f.map .datagram, l, err)
  else (p, p.parseLessCommonFrame t data v)

/-- Modelled from the spec: the split path (§4.4), `ParseType` and then the
kind's decoder on the bytes after the type code. -/
def parseSplit (p : FrameParser) (b : List UInt8) (encLevel : EncryptionLevel) (v : Version) :
    Option (FrameParser × Frame × Nat) :=
  match p.parseType b encLevel with
  | (t, n, none) =>
    (decoded (p.decodeByKind t (b.drop n) encLevel v)).map fun (q, f, l) => (q, f, n + l)
  | _ => none

/-- The frame `ParseNext` returns with no error, the parser after it and the
count. -/
def parseNextFrame (p : FrameParser) (b : List UInt8) (encLevel : EncryptionLevel) (v : Version) :
    Option (FrameParser × Frame × Nat) :=
  match p.ParseNext b encLevel v with
  | (q, l, some f, none) => some (q, f, l)
  | _ => none

/-! ## One frame kind at a time -/

/-- On a code of the table the kind's decoder succeeds exactly when the
switch of `ParseFrame` does, with the same frame, count and parser. -/
theorem decodeByKind_agrees {p : FrameParser} {data : List UInt8} {t : Nat}
    {e : EncryptionLevel} {v : Version} (ht : newFrameType t = some t) :
    decoded (p.decodeByKind t data e v) =
      decoded ((p.parseFrameSwitch data t e v).1, results (p.parseFrameSwitch data t e v).2) := by
  have hle : t ≤ 0x31 := by simp only [newFrameType_eq_some_iff] at ht; omega
  by_cases hs : FrameType.isStreamFrameType t
  · unfold parseFrameSwitch
    rw [decodeByKind, if_pos hs, if_pos ((streamMask_iff_of_table hle).2 hs)]
  have hm := mt (streamMask_iff_of_table hle).1 hs
  by_cases hack : t = ackFrameType ∨ t = ackECNFrameType
  · rcases hack with rfl | rfl <;> unfold decodeByKind FrameParser.parseAckFrame parseFrameSwitch <;>
      rcases QuicWire.parseAckFrame p.ackFrame.reset data _ (p.ackDelayExponentAt e) v
        with ⟨f, l, _ | err⟩ <;> rfl
  by_cases hdg : t = datagramNoLengthFrameType ∨ t = datagramWithLengthFrameType
  · rcases hdg with rfl | rfl <;> unfold decodeByKind FrameParser.parseDatagramFrame parseFrameSwitch <;>
      cases p.supportsDatagrams <;> rcases QuicWire.parseDatagramFrame data _ v with _ | ⟨f, l⟩ <;> rfl
  obtain ⟨r, hsw, hlc⟩ := @parseFrameSwitch_of_lessCommon p data t e v hm hack hdg
  rw [decodeByKind, if_neg hs, if_neg hack, if_neg hdg, hsw, hlc]

/-- `ParseFrame` succeeds when its switch does and the code is allowed at
the level. -/
theorem decoded_parseFrame (p : FrameParser) (data : List UInt8) (t : Nat) (e : EncryptionLevel)
    (v : Version) :
    decoded (p.parseFrame data t e v) =
      if FrameType.isAllowedAtEncLevel t e then
        decoded ((p.parseFrameSwitch data t e v).1, results (p.parseFrameSwitch data t e v).2)
      else none := by
  unfold parseFrame
  rcases p.parseFrameSwitch data t e v with ⟨q, err | ⟨f, l⟩⟩ <;>
    cases FrameType.isAllowedAtEncLevel t e <;> rfl

/-- `ParseFrame` reports no error only with a frame. -/
theorem parseFrame_isSome_of_ok {p : FrameParser} {data : List UInt8} {t : Nat}
    {e : EncryptionLevel} {v : Version} (h : (p.parseFrame data t e v).2.2.2 = none) :
    (p.parseFrame data t e v).2.1.isSome := by
  revert h
  unfold parseFrame
  rcases p.parseFrameSwitch data t e v with ⟨q, err | ⟨f, l⟩⟩
  · simp
  · cases FrameType.isAllowedAtEncLevel t e <;> simp

/-! ## Both paths after the PADDING -/

/-- A buffer whose first varint is a nonzero code has no PADDING. -/
theorem paddingLength_of_type {b : List UInt8} {t l : Nat} (h : Quicvarint.parse b = .ok (t, l))
    (ht : t ≠ 0) : paddingLength b = 0 :=
  paddingLength_of_not_padding fun l' h' => ht (by rw [h] at h'; cases h'; rfl)

section
variable (p : FrameParser) (b : List UInt8) (e : EncryptionLevel) (v : Version)

theorem parseType_after_padding :
    p.parseType b e = parseTypeLoop e (b.drop (paddingLength b)) (paddingLength b) := by
  rw [parseType, parseTypeLoop_skip, Nat.zero_add]

theorem parseNext_after_padding :
    p.parseNext b e v = p.parseNextLoop e v (b.drop (paddingLength b)) (paddingLength b) := by
  rw [parseNext, parseNextLoop_skip, Nat.zero_add]

variable {p b e v}

theorem parseSplit_of_eof (h : (b.drop (paddingLength b)).length = 0) :
    p.parseSplit b e v = none := by
  rw [parseSplit, parseType_after_padding, List.length_eq_zero.1 h, parseTypeLoop_nil]

theorem parseNextFrame_of_eof (h : (b.drop (paddingLength b)).length = 0) :
    p.parseNextFrame b e v = none := by
  rw [parseNextFrame, ParseNext, parseNext_after_padding, List.length_eq_zero.1 h,
    parseNextLoop_nil]

theorem parseSplit_of_error {err : Error} (hne : (b.drop (paddingLength b)).length ≠ 0)
    (h : Quicvarint.parse (b.drop (paddingLength b)) = .error err) :
    p.parseSplit b e v = none := by
  rw [parseSplit, parseType_after_padding, parseTypeLoop_of_error hne h]

theorem parseNextFrame_of_error {err : Error} (hne : (b.drop (paddingLength b)).length ≠ 0)
    (h : Quicvarint.parse (b.drop (paddingLength b)) = .error err) :
    p.parseNextFrame b e v = none := by
  rw [parseNextFrame, ParseNext, parseNext_after_padding, parseNextLoop_of_error hne h]

theorem parseSplit_of_type {t l : Nat} (h : Quicvarint.parse (b.drop (paddingLength b)) = .ok (t, l))
    (ht : t ≠ 0) :
    p.parseSplit b e v =
      if (newFrameType t).isSome ∧ FrameType.isAllowedAtEncLevel t e then
        (decoded (p.decodeByKind t (b.drop (paddingLength b + l)) e v)).map
          fun (q, f, l') => (q, f, paddingLength b + l + l')
      else none := by
  rw [parseSplit, parseType_after_padding, parseTypeLoop_of_type h ht]
  cases hn : newFrameType t with
  | none => rfl
  | some t' =>
    obtain ⟨rfl, -⟩ := newFrameType_eq_some_iff.1 hn
    cases ha : FrameType.isAllowedAtEncLevel t' e <;> simp [ha]

theorem parseNextFrame_of_type {t l : Nat}
    (h : Quicvarint.parse (b.drop (paddingLength b)) = .ok (t, l)) (ht : t ≠ 0) :
    p.parseNextFrame b e v =
      (decoded (p.parseFrame ((b.drop (paddingLength b)).drop l) t e v)).map
        fun (q, f, l') => (q, f, paddingLength b + l + l') := by
  rw [parseNextFrame, ParseNext, parseNext_after_padding, parseNextLoop_of_type h ht]
  rcases p.parseFrame ((b.drop (paddingLength b)).drop l) t e v with ⟨q, _ | f, l', _ | err⟩ <;> rfl

end

/-! ## Agreement -/

/-- The split path and `ParseNext` agree on every buffer whose first
non-PADDING code is not an unmapped code that passes the STREAM test: one
succeeds exactly when the other does, with the same frame, the same parser
after it and the same count. -/
theorem parseSplit_eq_of_not_masked (p : FrameParser) (b : List UInt8) (e : EncryptionLevel)
    (v : Version)
    (h : ∀ t l, Quicvarint.parse (b.drop (paddingLength b)) = .ok (t, l) →
      newFrameType t = none → ¬(UInt8.ofNat t &&& 0xf8) = 0x8) :
    p.parseSplit b e v = p.parseNextFrame b e v := by
  rcases after_padding_cases b with h0 | ⟨hne, err, herr⟩ | ⟨t, l, hp, ht⟩
  · rw [parseSplit_of_eof h0, parseNextFrame_of_eof h0]
  · rw [parseSplit_of_error hne herr, parseNextFrame_of_error hne herr]
  rw [parseSplit_of_type hp ht, parseNextFrame_of_type hp ht, decoded_parseFrame, List.drop_drop]
  cases hn : newFrameType t with
  | none => simp [parseFrameSwitch_of_unknown hn (h t l hp hn), results, decoded]
  | some t' =>
    obtain ⟨rfl, -⟩ := newFrameType_eq_some_iff.1 hn
    rw [decodeByKind_agrees hn]
    cases FrameType.isAllowedAtEncLevel t' e <;> rfl

/-- PING, the first frame of the tests' buffers. -/
theorem parseSplit_eq_of_not_masked_ping :
    (∀ t l, Quicvarint.parse ([0x01].drop (paddingLength [0x01])) = .ok (t, l) →
      newFrameType t = none → ¬(UInt8.ofNat t &&& 0xf8) = 0x8) ∧
    (newFrameParser true true).parseSplit [0x01] .encryption1RTT version1 =
      (newFrameParser true true).parseNextFrame [0x01] .encryption1RTT version1 := by
  have h : ∀ t l, Quicvarint.parse ([0x01].drop (paddingLength [0x01])) = .ok (t, l) →
      newFrameType t = none → ¬(UInt8.ofNat t &&& 0xf8) = 0x8 := by
    intro t l hp hn
    rw [paddingLength_of_type (show Quicvarint.parse [0x01] = .ok (1, 1) from rfl) (by decide)] at hp
    cases hp
    exact absurd hn (by decide)
  exact ⟨h, parseSplit_eq_of_not_masked _ _ _ _ h⟩

/-- The code `0x108`, encoded `0x41 0x08`, is not in the table but its low
byte `0x08` passes the STREAM test of `ParseFrame`: `ParseType` rejects it,
so the split path fails, and `ParseNext` decodes a STREAM frame. -/
theorem ParseNext_accepts_unknown_type (p : FrameParser) (v : Version) :
    p.parseType [0x41, 0x08, 0x00] .encryption1RTT =
      (0, 2, some (.transport
        { errorCode := frameEncodingError, errorMessage := "unknown frame type: 264" })) ∧
    p.parseSplit [0x41, 0x08, 0x00] .encryption1RTT v = none ∧
    p.parseNextFrame [0x41, 0x08, 0x00] .encryption1RTT v =
      some (p, .stream { streamID := 0, data := [] }, 3) := by
  have hp : Quicvarint.parse [0x41, 0x08, 0x00] = .ok (264, 2) := rfl
  have hty : p.parseType [0x41, 0x08, 0x00] .encryption1RTT = (0, 2, some (.transport
      { errorCode := frameEncodingError, errorMessage := "unknown frame type: 264" })) := by
    rw [parseType, parseTypeLoop_of_type hp (by decide)]; rfl
  refine ⟨hty, by rw [parseSplit, hty], ?_⟩
  rw [parseNextFrame, ParseNext, parseNext, parseNextLoop_of_type hp (by decide)]; rfl

/-- `ParseType` reports `io.EOF` exactly when `ParseNext` returns neither a
frame nor an error: when the buffer holds nothing but PADDING. -/
theorem parseType_eof_iff (p : FrameParser) (b : List UInt8) (e : EncryptionLevel) (v : Version) :
    (p.parseType b e).2.2 = some .eof ↔ (p.ParseNext b e v).2.2 = (none, none) := by
  rw [parseType_after_padding, ParseNext_eq, parseNext_after_padding]
  rcases after_padding_cases b with h0 | ⟨hne, err, herr⟩ | ⟨t, l, hp, ht⟩
  · rw [List.length_eq_zero.1 h0, parseTypeLoop_nil, parseNextLoop_nil]; simp
  · rw [parseTypeLoop_of_error hne herr, parseNextLoop_of_error hne herr]; simp
  rw [parseTypeLoop_of_type hp ht, parseNextLoop_of_type hp ht]
  constructor
  · intro h
    cases hn : newFrameType t with
    | none => simp [hn] at h
    | some t' => simp only [hn] at h; split at h <;> simp at h
  · intro h
    have hf := @parseFrame_isSome_of_ok p ((b.drop (paddingLength b)).drop l) t e v
    rcases hpf : p.parseFrame ((b.drop (paddingLength b)).drop l) t e v with
      ⟨q, _ | f, l', _ | err⟩ <;> rw [hpf] at hf h <;> simp at hf h

/-! ## ParseNext on one type code -/

/-- `ParseNext` on the encoding of a nonzero code `t` followed by `d` is
`ParseFrame` on `d`, its error tagged with `t`. -/
theorem parseNext_append_type (p : FrameParser) (e : EncryptionLevel) (v : Version) {t : Nat}
    (d : List UInt8) (h0 : t ≠ 0) (hlt : t < 2 ^ 62) :
    p.parseNext (Quicvarint.append [] t ++ d) e v =
      match p.parseFrame d t e v with
      | (p, _, l', some err) =>
        (p, none, Quicvarint.len t + l',
          some { frameType := t, errorCode := frameEncodingError, errorMessage := err.error })
      | (p, f, l', none) => (p, f, Quicvarint.len t + l', none) := by
  rw [parseNext]
  simpa only [Nat.zero_add, List.drop_left' (Quicvarint.length_append_nil t)] using
    @parseNextLoop_of_type p e v _ 0 t _ (Quicvarint.parse_append d hlt) h0

/-- `ParseFrame` fails on a code that is neither enabled nor passes the
STREAM test, and on a code not allowed at the level. -/
theorem parseFrame_error_of_gate {p : FrameParser} {d : List UInt8} {t : Nat}
    {e : EncryptionLevel} {v : Version}
    (h : ¬((isEnabled p t = true ∨ (UInt8.ofNat t &&& 0xf8) = 0x8) ∧
      FrameType.isAllowedAtEncLevel t e = true)) :
    ∃ err, (p.parseFrame d t e v).2.2.2 = some err := by
  unfold parseFrame
  rcases hs : p.parseFrameSwitch d t e v with ⟨q, err | ⟨f, l⟩⟩
  · exact ⟨err, rfl⟩
  · have hen := enabled_of_parseFrameSwitch_ok (show (p.parseFrameSwitch d t e v).2 = .ok (f, l) by
      rw [hs])
    cases ha : FrameType.isAllowedAtEncLevel t e
    · exact ⟨_, rfl⟩
    · exact absurd ⟨hen, ha⟩ h

/-- `ParseNext` on the encoding of a nonzero code `t` returns no frame, and a
`FRAME_ENCODING_ERROR` tagged with `t`, when `t` is neither enabled nor passes
the STREAM test of `ParseFrame`, or is not allowed at the level, whatever
follows it. -/
theorem ParseNext_rejects_gated_type (p : FrameParser) (e : EncryptionLevel) (v : Version)
    {t : Nat} (d : List UInt8) (h0 : t ≠ 0) (hlt : t < 2 ^ 62)
    (h : ¬((isEnabled p t = true ∨ (UInt8.ofNat t &&& 0xf8) = 0x8) ∧
      FrameType.isAllowedAtEncLevel t e = true)) :
    (p.ParseNext (Quicvarint.append [] t ++ d) e v).2.2.1 = none ∧
    ∃ msg, (p.ParseNext (Quicvarint.append [] t ++ d) e v).2.2.2 =
      some { frameType := t, errorCode := frameEncodingError, errorMessage := msg } := by
  obtain ⟨err, herr⟩ := @parseFrame_error_of_gate p d t e v h
  rw [ParseNext_eq, parseNext_append_type p e v d h0 hlt]
  rcases hf : p.parseFrame d t e v with ⟨q, f, l', _ | err'⟩
  · rw [hf] at herr; cases herr
  · exact ⟨rfl, _, rfl⟩

/-- The unmapped code `0x42` of the tests, with nothing after it. -/
theorem ParseNext_rejects_gated_type_unmapped :
    ¬((isEnabled (newFrameParser true true) 0x42 = true ∨ (UInt8.ofNat 0x42 &&& 0xf8) = 0x8) ∧
      FrameType.isAllowedAtEncLevel 0x42 .encryption1RTT = true) ∧
    ((newFrameParser true true).ParseNext (Quicvarint.append [] 0x42 ++ []) .encryption1RTT
      version1).2.2.1 = none ∧
    ∃ msg, ((newFrameParser true true).ParseNext (Quicvarint.append [] 0x42 ++ [])
      .encryption1RTT version1).2.2.2 =
      some { frameType := 0x42, errorCode := frameEncodingError, errorMessage := msg } :=
  have h : ¬((isEnabled (newFrameParser true true) 0x42 = true ∨
      (UInt8.ofNat 0x42 &&& 0xf8) = 0x8) ∧
      FrameType.isAllowedAtEncLevel 0x42 .encryption1RTT = true) := by decide
  ⟨h, ParseNext_rejects_gated_type _ _ _ [] (by decide) (by decide) h⟩

/-- `0x108` is not enabled under any configuration, yet `ParseNext` decodes
its encoding followed by a zero byte as a STREAM frame. -/
theorem ParseNext_decodes_disabled_code (p : FrameParser) (v : Version) :
    isEnabled p 0x108 = false ∧
    p.ParseNext (Quicvarint.append [] 0x108 ++ [0x00]) .encryption1RTT v =
      (p, 3, some (.stream { streamID := 0, data := [] }), none) := by
  refine ⟨by simp [isEnabled, resetStreamAtFrameType, datagramNoLengthFrameType,
    datagramWithLengthFrameType], ?_⟩
  rw [ParseNext_eq, parseNext_append_type p _ v _ (by decide) (by decide)]; rfl

/-! ## ParseType classifies by the table alone -/

/-- On a buffer whose first non-PADDING varint decodes to `t`, `ParseType`
returns `t` exactly when `t` is a code of the table, the extension codes
included whatever the parser's toggles, and is allowed at the level;
otherwise it returns the code 0 and a `FRAME_ENCODING_ERROR`. The count is
the PADDING and the code in either case. -/
theorem parseType_classifies (p : FrameParser) (b : List UInt8) (e : EncryptionLevel) {t l : Nat}
    (h : Quicvarint.parse (b.drop (paddingLength b)) = .ok (t, l)) :
    (p.parseType b e = (t, paddingLength b + l, none) ↔
      (newFrameType t).isSome ∧ FrameType.isAllowedAtEncLevel t e) ∧
    (¬((newFrameType t).isSome ∧ FrameType.isAllowedAtEncLevel t e) →
      ∃ err : TransportError, p.parseType b e = (0, paddingLength b + l, some (.transport err)) ∧
        err.errorCode = frameEncodingError) := by
  have ht : t ≠ 0 := by rintro rfl; exact not_padding_drop_paddingLength b l h
  rw [parseType_after_padding, parseTypeLoop_of_type h ht]
  cases hn : newFrameType t with
  | none => simp [Ne.symm ht]
  | some t' =>
    obtain ⟨rfl, -⟩ := newFrameType_eq_some_iff.1 hn
    cases ha : FrameType.isAllowedAtEncLevel t' e <;> simp [ha, Ne.symm ht]

/-- DATAGRAM without a length, at 1-RTT, on a parser with datagrams
disabled. -/
theorem parseType_classifies_datagram :
    Quicvarint.parse ([0x30].drop (paddingLength [0x30])) = .ok (0x30, 1) ∧
    (((newFrameParser false false).parseType [0x30] .encryption1RTT =
        (0x30, paddingLength [0x30] + 1, none) ↔
      (newFrameType 0x30).isSome ∧ FrameType.isAllowedAtEncLevel 0x30 .encryption1RTT) ∧
    (¬((newFrameType 0x30).isSome ∧ FrameType.isAllowedAtEncLevel 0x30 .encryption1RTT) →
      ∃ err : TransportError, (newFrameParser false false).parseType [0x30] .encryption1RTT =
        (0, paddingLength [0x30] + 1, some (.transport err)) ∧
        err.errorCode = frameEncodingError)) := by
  have hp : Quicvarint.parse ([0x30].drop (paddingLength [0x30])) = .ok (0x30, 1) := by
    rw [paddingLength_of_type (show Quicvarint.parse [0x30] = .ok (0x30, 1) from rfl) (by decide)]
    rfl
  exact ⟨hp, parseType_classifies _ _ _ hp⟩

/-- With datagrams disabled, `ParseType` still accepts the DATAGRAM code,
which `ParseNext` rejects as unknown. -/
theorem parseType_accepts_disabled_datagram :
    isEnabled (newFrameParser false false) datagramNoLengthFrameType = false ∧
    (newFrameParser false false).parseType [0x30] .encryption1RTT =
      (datagramNoLengthFrameType, 1, none) ∧
    (newFrameParser false false).ParseNext [0x30] .encryption1RTT version1 =
      (newFrameParser false false, 1, none, some
        { frameType := datagramNoLengthFrameType, errorCode := frameEncodingError,
          errorMessage := "unknown frame type" }) := by
  have hp : Quicvarint.parse [0x30] = .ok (0x30, 1) := rfl
  refine ⟨rfl, ?_, ?_⟩
  · rw [parseType, parseTypeLoop_of_type hp (by decide)]; rfl
  · rw [ParseNext_eq, parseNext, parseNextLoop_of_type hp (by decide)]; rfl

end FrameParser
end QuicWire
