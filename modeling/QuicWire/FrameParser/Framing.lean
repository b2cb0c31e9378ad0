import QuicWire.Codec.Append
import QuicWire.Codec.Delimited
import QuicWire.FrameParser.Sweep

/-!
# QuicWire.FrameParser.Framing

A caller reads a packet by calling `ParseNext`, dropping the bytes it
reports as consumed and calling again. That reads the packet frame by frame
only if what `ParseNext` returns is decided by the bytes it consumed: the
same bytes followed by other frames must give the same frame, and a packet
cut short inside a frame must not give a shorter one.

`ParseNext_local` proves it for every frame but STREAM and
DATAGRAM without a length field, which run to the end of the packet
(`Frame.extendsToEnd`). It is built in the layers of the code:

* each arm of the switch of `ParseFrame` decodes with a delimited routine
  (`QuicWire.Codec.Delimited`) and leaves the parser as it is, or decodes an
  ACK frame into the parser (`parseFrameSwitch_local`);
* `ParseFrame` adds the level check, which reads no byte (`parseFrame_local`);
* the loop of `parseNext` skips PADDING varint by varint, and a varint too is
  decided by its own bytes (`parseNextLoop_local`).
-/

namespace QuicWire
namespace FrameParser

variable {p q : FrameParser} {e : EncryptionLevel} {v : Version}

/-! ## The arms of the switch -/

section
variable {g : List UInt8 → Except Error (Frame × Nat)} {f : Frame} {n : Nat}

/-- An arm that keeps the parser and decodes with a delimited routine. -/
theorem arm_local (b : List UInt8) (hg : Delimited g) (h : (p, g b) = (q, .ok (f, n))) :
    (∀ ext, (p, g (b.take n ++ ext)) = (q, .ok (f, n))) ∧ ∀ k < n, ∀ x, g (b.take k) ≠ .ok x := by
  obtain ⟨rfl, hb⟩ := Prod.mk.inj_iff.1 h
  exact ⟨fun ext => by rw [(hg _ _ _ hb).2 ext], fun k hk x => hg.take_ne_ok hb hk x.1 x.2⟩

/-- The same behind an extension toggle: the arm fails when `c` holds. -/
theorem toggle_arm_local {c : Prop} [Decidable c] {err : Error} (b : List UInt8)
    (hg : Delimited g) (h : (if c then (p, .error err) else (p, g b)) = (q, .ok (f, n))) :
    (∀ ext, (if c then (p, .error err) else (p, g (b.take n ++ ext))) = (q, .ok (f, n))) ∧
      ∀ k < n, ∀ x, (if c then (p, .error err) else (p, g (b.take k))).2 ≠ .ok x := by
  by_cases hc : c
  · rw [if_pos hc] at h; cases h
  · simp only [if_neg hc] at h ⊢
    exact arm_local b hg h

/-- A decoded value relabelled as a frame. -/
theorem exists_of_map_ok {α : Type} {φ : α → Frame} {r : Except Error (α × Nat)}
    (h : (fun (x : α × Nat) => (φ x.1, x.2)) <$> r = .ok (f, n)) : ∃ a, r = .ok (a, n) ∧ f = φ a := by
  rcases r with _ | ⟨a, l⟩ <;> cases h
  exact ⟨a, rfl, rfl⟩

end

/-- The STREAM arm of the switch. -/
theorem parseFrameSwitch_of_mask {b : List UInt8} {t : Nat} (hm : (UInt8.ofNat t &&& 0xf8) = 0x8) :
    p.parseFrameSwitch b t e v =
      (p, (fun (f, l) => (Frame.stream f, l)) <$> parseStreamFrame b t v) := by
  unfold parseFrameSwitch; rw [if_pos hm]

/-- The ACK arms of the switch: the parser keeps the frame decoded into it. -/
theorem parseFrameSwitch_of_ack {b : List UInt8} {t : Nat}
    (ht : t = ackFrameType ∨ t = ackECNFrameType) {a : AckFrame} {l : Nat} {err : Option Error}
    (hA : QuicWire.parseAckFrame p.ackFrame.reset b t (p.ackDelayExponentAt e) v = (a, l, err)) :
    p.parseFrameSwitch b t e v = ({ p with ackFrame := a }, err.elim (.ok (.ack a, l)) .error) := by
  rcases ht with rfl | rfl <;> unfold parseFrameSwitch <;> rw [if_neg (by decide), hA] <;> cases err <;> rfl

/-- The arms of the switch of `ParseFrame` other than STREAM and ACK, each
with the decoder it calls: `OtherArm p b v t f n` says that the arm of code
`t` decodes `f` from `b`, consuming `n` bytes. DATAGRAM and RESET_STREAM_AT
need their extension enabled. -/
inductive OtherArm (p : FrameParser) (b : List UInt8) (v : Version) : Nat → Frame → Nat → Prop
  | ping : OtherArm p b v pingFrameType .ping 0
  | resetStream {f n} : parseResetStreamFrame b false v = .ok (f, n) →
      OtherArm p b v resetStreamFrameType f n
  | stopSending {f n} : parseStopSendingFrame b v = .ok (f, n) → OtherArm p b v stopSendingFrameType f n
  | crypto {f n} : parseCryptoFrame b v = .ok (f, n) → OtherArm p b v cryptoFrameType f n
  | newToken {f n} : parseNewTokenFrame b v = .ok (f, n) → OtherArm p b v newTokenFrameType f n
  | maxData {f n} : parseMaxDataFrame b v = .ok (f, n) → OtherArm p b v maxDataFrameType f n
  | maxStreamData {f n} : parseMaxStreamDataFrame b v = .ok (f, n) →
      OtherArm p b v maxStreamDataFrameType f n
  | maxStreams {t f n} : t = bidiMaxStreamsFrameType ∨ t = uniMaxStreamsFrameType →
      parseMaxStreamsFrame b t v = .ok (f, n) → OtherArm p b v t f n
  | dataBlocked {f n} : parseDataBlockedFrame b v = .ok (f, n) → OtherArm p b v dataBlockedFrameType f n
  | streamDataBlocked {f n} : parseStreamDataBlockedFrame b v = .ok (f, n) →
      OtherArm p b v streamDataBlockedFrameType f n
  | streamsBlocked {t f n} : t = bidiStreamBlockedFrameType ∨ t = uniStreamBlockedFrameType →
      parseStreamsBlockedFrame b t v = .ok (f, n) → OtherArm p b v t f n
  | newConnectionID {f n} : parseNewConnectionIDFrame b v = .ok (f, n) →
      OtherArm p b v newConnectionIDFrameType f n
  | retireConnectionID {f n} : parseRetireConnectionIDFrame b v = .ok (f, n) →
      OtherArm p b v retireConnectionIDFrameType f n
  | pathChallenge {f n} : parsePathChallengeFrame b v = .ok (f, n) →
      OtherArm p b v pathChallengeFrameType f n
  | pathResponse {f n} : parsePathResponseFrame b v = .ok (f, n) →
      OtherArm p b v pathResponseFrameType f n
  | connectionClose {t f n} : t = connectionCloseFrameType ∨ t = applicationCloseFrameType →
      parseConnectionCloseFrame b t v = .ok (f, n) → OtherArm p b v t f n
  | handshakeDone : OtherArm p b v handshakeDoneFrameType .handshakeDone 0
  | datagram {t df n} : t = datagramNoLengthFrameType ∨ t = datagramWithLengthFrameType →
      p.supportsDatagrams = true → QuicWire.parseDatagramFrame b t v = .ok (df, n) →
      OtherArm p b v t (.datagram df) n
  | resetStreamAt {f n} : p.supportsResetStreamAt = true → parseResetStreamFrame b true v = .ok (f, n) →
      OtherArm p b v resetStreamAtFrameType f n

/-- The switch decodes a frame under a code that is neither STREAM nor ACK
only through that code's arm, and leaves the parser as it is. -/
theorem parseFrameSwitch_otherArm {b : List UInt8} {t n : Nat} {f : Frame}
    (hm : ¬(UInt8.ofNat t &&& 0xf8) = 0x8) (hack : ¬(t = ackFrameType ∨ t = ackECNFrameType))
    (h : p.parseFrameSwitch b t e v = (q, .ok (f, n))) : q = p ∧ OtherArm p b v t f n := by
  unfold parseFrameSwitch at h
  rw [if_neg hm] at h
  split at h
  · cases h; exact ⟨rfl, .ping⟩
  · exact absurd (.inl rfl) hack
  · exact absurd (.inr rfl) hack
  · exact ⟨(Prod.mk.inj_iff.1 h).1.symm, .resetStream (Prod.mk.inj_iff.1 h).2⟩
  · exact ⟨(Prod.mk.inj_iff.1 h).1.symm, .stopSending (Prod.mk.inj_iff.1 h).2⟩
  · exact ⟨(Prod.mk.inj_iff.1 h).1.symm, .crypto (Prod.mk.inj_iff.1 h).2⟩
  · exact ⟨(Prod.mk.inj_iff.1 h).1.symm, .newToken (Prod.mk.inj_iff.1 h).2⟩
  · exact ⟨(Prod.mk.inj_iff.1 h).1.symm, .maxData (Prod.mk.inj_iff.1 h).2⟩
  · exact ⟨(Prod.mk.inj_iff.1 h).1.symm, .maxStreamData (Prod.mk.inj_iff.1 h).2⟩
  · exact ⟨(Prod.mk.inj_iff.1 h).1.symm, .maxStreams (.inl rfl) (Prod.mk.inj_iff.1 h).2⟩
  · exact ⟨(Prod.mk.inj_iff.1 h).1.symm, .maxStreams (.inr rfl) (Prod.mk.inj_iff.1 h).2⟩
  · exact ⟨(Prod.mk.inj_iff.1 h).1.symm, .dataBlocked (Prod.mk.inj_iff.1 h).2⟩
  · exact ⟨(Prod.mk.inj_iff.1 h).1.symm, .streamDataBlocked (Prod.mk.inj_iff.1 h).2⟩
  · exact ⟨(Prod.mk.inj_iff.1 h).1.symm, .streamsBlocked (.inl rfl) (Prod.mk.inj_iff.1 h).2⟩
  · exact ⟨(Prod.mk.inj_iff.1 h).1.symm, .streamsBlocked (.inr rfl) (Prod.mk.inj_iff.1 h).2⟩
  · exact ⟨(Prod.mk.inj_iff.1 h).1.symm, .newConnectionID (Prod.mk.inj_iff.1 h).2⟩
  · exact ⟨(Prod.mk.inj_iff.1 h).1.symm, .retireConnectionID (Prod.mk.inj_iff.1 h).2⟩
  · exact ⟨(Prod.mk.inj_iff.1 h).1.symm, .pathChallenge (Prod.mk.inj_iff.1 h).2⟩
  · exact ⟨(Prod.mk.inj_iff.1 h).1.symm, .pathResponse (Prod.mk.inj_iff.1 h).2⟩
  · exact ⟨(Prod.mk.inj_iff.1 h).1.symm, .connectionClose (.inl rfl) (Prod.mk.inj_iff.1 h).2⟩
  · exact ⟨(Prod.mk.inj_iff.1 h).1.symm, .connectionClose (.inr rfl) (Prod.mk.inj_iff.1 h).2⟩
  · cases h; exact ⟨rfl, .handshakeDone⟩
  iterate 2
    split at h
    · cases h
    rename_i hc
    obtain ⟨df, hd, rfl⟩ := exists_of_map_ok (Prod.mk.inj_iff.1 h).2
    exact ⟨(Prod.mk.inj_iff.1 h).1.symm, .datagram (by decide) (by simpa using hc) hd⟩
  · split at h
    · cases h
    rename_i hc
    exact ⟨(Prod.mk.inj_iff.1 h).1.symm, .resetStreamAt (by simpa using hc) (Prod.mk.inj_iff.1 h).2⟩
  · cases h

/-- Each arm is one the switch takes: on its code the switch returns what
the arm decodes, and the parser as it is. -/
theorem OtherArm.parseFrameSwitch_eq {b : List UInt8} {t n : Nat} {f : Frame}
    (h : OtherArm p b v t f n) : p.parseFrameSwitch b t e v = (p, .ok (f, n)) := by
  cases h with
  | ping | handshakeDone => rfl
  | resetStream hd | stopSending hd | crypto hd | newToken hd | maxData hd | maxStreamData hd
    | dataBlocked hd | streamDataBlocked hd | newConnectionID hd | retireConnectionID hd
    | pathChallenge hd | pathResponse hd =>
    unfold parseFrameSwitch; rw [if_neg (by decide)]; exact congrArg _ hd
  | maxStreams ht hd | streamsBlocked ht hd | connectionClose ht hd =>
    rcases ht with rfl | rfl <;> unfold parseFrameSwitch <;> rw [if_neg (by decide)] <;>
      exact congrArg _ hd
  | datagram ht hs hd =>
    rcases ht with rfl | rfl <;> unfold parseFrameSwitch <;> rw [if_neg (by decide)] <;> simp [hs, hd]
  | resetStreamAt hs hd => unfold parseFrameSwitch; rw [if_neg (by decide)]; simp [hs, hd]

theorem parseFrameSwitch_local_of_ack {b : List UInt8} {t n : Nat} {f : Frame}
    (ht : t = ackFrameType ∨ t = ackECNFrameType) (h : p.parseFrameSwitch b t e v = (q, .ok (f, n))) :
    (∀ ext, p.parseFrameSwitch (b.take n ++ ext) t e v = (q, .ok (f, n))) ∧
      ∀ k < n, ∀ x, (p.parseFrameSwitch (b.take k) t e v).2 ≠ .ok x := by
  rcases hA : QuicWire.parseAckFrame p.ackFrame.reset b t (p.ackDelayExponentAt e) v
    with ⟨a, l, _ | err⟩ <;> rw [parseFrameSwitch_of_ack ht hA] at h <;> cases h
  refine ⟨fun ext => parseFrameSwitch_of_ack ht (parseAckFrame_take_append hA ext), fun k hk x hx => ?_⟩
  rcases hB : QuicWire.parseAckFrame p.ackFrame.reset (b.take k) t (p.ackDelayExponentAt e) v
    with ⟨a', l', _ | err'⟩
  · exact parseAckFrame_take_ne hA hk a' l' hB
  · rw [parseFrameSwitch_of_ack ht hB] at hx; cases hx

/-- What the switch of `ParseFrame` decodes from `n` bytes, other than a
frame that runs to the end of the buffer, it decodes again from those bytes
followed by anything, with the same parser; from fewer it decodes nothing. -/
theorem parseFrameSwitch_local {b : List UInt8} {t n : Nat} {f : Frame}
    (h : p.parseFrameSwitch b t e v = (q, .ok (f, n))) (hf : f.extendsToEnd = false) :
    (∀ ext, p.parseFrameSwitch (b.take n ++ ext) t e v = (q, .ok (f, n))) ∧
      ∀ k < n, ∀ x, (p.parseFrameSwitch (b.take k) t e v).2 ≠ .ok x := by
  by_cases hm : (UInt8.ofNat t &&& 0xf8) = 0x8
  · simp only [parseFrameSwitch_of_mask hm] at h ⊢
    by_cases hl : t &&& 0b10 > 0
    · exact arm_local b ((parseStreamFrame_delimited v hl).map Frame.stream) h
    · obtain ⟨sf, hs, rfl⟩ := exists_of_map_ok (Prod.mk.inj_iff.1 h).2
      have := parseStreamFrame_dataLenPresent v hs
      simp [Frame.extendsToEnd, this, hl] at hf
  have hsw := h
  unfold parseFrameSwitch at h
  rw [if_neg hm] at h
  split at h
  · exact arm_local b (.const _) h
  · exact parseFrameSwitch_local_of_ack (.inl rfl) hsw
  · exact parseFrameSwitch_local_of_ack (.inr rfl) hsw
  · exact arm_local b (parseResetStreamFrame_delimited v false) h
  · exact arm_local b (parseVarintPairFrame_delimited _) h
  · exact arm_local b (parseCryptoFrame_delimited v) h
  · exact arm_local b (parseNewTokenFrame_delimited v) h
  · exact arm_local b (parseVarintFrame_delimited _) h
  · exact arm_local b (parseVarintPairFrame_delimited _) h
  · exact arm_local b (parseStreamCountFrame_delimited _ _ _) h
  · exact arm_local b (parseStreamCountFrame_delimited _ _ _) h
  · exact arm_local b (parseVarintFrame_delimited _) h
  · exact arm_local b (parseVarintPairFrame_delimited _) h
  · exact arm_local b (parseStreamCountFrame_delimited _ _ _) h
  · exact arm_local b (parseStreamCountFrame_delimited _ _ _) h
  · exact arm_local b (parseNewConnectionIDFrame_delimited v) h
  · exact arm_local b (parseVarintFrame_delimited _) h
  · exact arm_local b (parsePathDataFrame_delimited _) h
  · exact arm_local b (parsePathDataFrame_delimited _) h
  · exact arm_local b (parseConnectionCloseFrame_delimited v _) h
  · exact arm_local b (parseConnectionCloseFrame_delimited v _) h
  · exact arm_local b (.const _) h
  · split at h
    · cases h
    · obtain ⟨df, hd, rfl⟩ := exists_of_map_ok (Prod.mk.inj_iff.1 h).2
      have := parseDatagramFrame_dataLenPresent v hd
      simp [Frame.extendsToEnd, this] at hf
  · exact toggle_arm_local b ((parseDatagramFrame_delimited v (by decide)).map Frame.datagram) h
  · exact toggle_arm_local b (parseResetStreamFrame_delimited v true) h
  · cases h

/-! ## ParseFrame -/

/-- `ParseFrame` returns a frame without an error exactly when its switch
decoded it and the level allows the code read. -/
theorem parseFrame_eq_some_iff {b : List UInt8} {t n : Nat} {f : Frame} :
    p.parseFrame b t e v = (q, some f, n, none) ↔
      p.parseFrameSwitch b t e v = (q, .ok (f, n)) ∧ FrameType.isAllowedAtEncLevel t e = true := by
  unfold parseFrame
  rcases p.parseFrameSwitch b t e v with ⟨q', _ | ⟨f', n'⟩⟩
  · simp
  · by_cases ha : FrameType.isAllowedAtEncLevel t e = true <;> simp [ha]

/-- The level check of `ParseFrame` reads no byte: the switch's property
carries over. -/
theorem parseFrame_local {b : List UInt8} {t n : Nat} {f : Frame}
    (h : p.parseFrame b t e v = (q, some f, n, none)) (hf : f.extendsToEnd = false) :
    (∀ ext, p.parseFrame (b.take n ++ ext) t e v = (q, some f, n, none)) ∧
      ∀ k < n, (p.parseFrame (b.take k) t e v).2.1 = none := by
  obtain ⟨hs, ha⟩ := parseFrame_eq_some_iff.1 h
  obtain ⟨hext, htrunc⟩ := parseFrameSwitch_local hs hf
  refine ⟨fun ext => parseFrame_eq_some_iff.2 ⟨hext ext, ha⟩, fun k hk => ?_⟩
  unfold parseFrame
  rcases hk' : p.parseFrameSwitch (b.take k) t e v with ⟨q'', _ | x⟩
  · rfl
  · exact absurd (congrArg Prod.snd hk') (htrunc k hk x)

/-! ## The loop of parseNext -/

/-- The varint at the head of `b`, and what follows it, are the same in
`b.take (l + m) ++ ext`. -/
theorem parse_take_add_append {b : List UInt8} {x l : Nat} (h : Quicvarint.parse b = .ok (x, l))
    (m : Nat) (ext : List UInt8) :
    Quicvarint.parse (b.take (l + m) ++ ext) = .ok (x, l) ∧
      (b.take (l + m) ++ ext).drop l = (b.drop l).take m ++ ext := by
  have hl : (b.take l).length = l := List.length_take_of_le (Quicvarint.parse_ok_length h).2
  rw [List.take_add, List.append_assoc]
  exact ⟨Quicvarint.parse_take_append h _, List.drop_left' hl⟩

/-- A buffer cut inside its first varint gives no frame. -/
theorem parseNextLoop_take_of_lt {b : List UInt8} {x l k parsed : Nat}
    (h : Quicvarint.parse b = .ok (x, l)) (hk : k < l) :
    (p.parseNextLoop e v (b.take k) parsed).2.1 = none := by
  rcases Nat.eq_zero_or_pos k with rfl | hk0
  · rw [List.take_zero, parseNextLoop_nil]
  have hlen : (b.take k).length ≠ 0 := by
    have := (Quicvarint.parse_ok_length h).2
    rw [List.length_take]; omega
  rcases hp : Quicvarint.parse (b.take k) with err | ⟨x', l'⟩
  · rw [parseNextLoop_of_error hlen hp]
  · exact absurd hp (Quicvarint.parse_delimited.take_ne_ok h hk x' l')

/-- The loop of `parseNext` from a zero count: what it returns with a frame
is decided by the bytes it consumed. -/
theorem parseNextLoop_local {b : List UInt8} {n : Nat} {f : Frame}
    (h : p.parseNextLoop e v b 0 = (q, some f, n, none)) (hf : f.extendsToEnd = false) :
    (∀ ext, p.parseNextLoop e v (b.take n ++ ext) 0 = (q, some f, n, none)) ∧
      ∀ k < n, (p.parseNextLoop e v (b.take k) 0).2.1 = none := by
  induction b using paddingLength.induct generalizing n with
  | case1 b l hpad ih =>
    rw [parseNextLoop_of_padding hpad, parseNextLoop_parsed] at h
    rcases hr : p.parseNextLoop e v (b.drop l) 0 with ⟨q', f', n', err'⟩
    rw [hr] at h
    obtain ⟨rfl, rfl, rfl, rfl⟩ : q' = q ∧ f' = some f ∧ l + n' = n ∧ err' = none := by
      simpa using h
    obtain ⟨hext, htrunc⟩ := ih hr
    refine ⟨fun ext => ?_, fun k hk => ?_⟩
    · obtain ⟨hp, hd⟩ := parse_take_add_append hpad n' ext
      rw [parseNextLoop_of_padding hp, hd, parseNextLoop_parsed, hext ext]
      simp
    · rcases Nat.lt_or_ge k l with hkl | hkl
      · exact parseNextLoop_take_of_lt hpad hkl
      obtain ⟨hp, hd⟩ := parse_take_add_append hpad (k - l) []
      simp only [List.append_nil, Nat.add_sub_cancel' hkl] at hp hd
      rw [parseNextLoop_of_padding hp, hd, parseNextLoop_parsed]
      exact htrunc (k - l) (by omega)
  | case2 b hnp =>
    by_cases hb : b.length = 0
    · rw [List.length_eq_zero.1 hb, parseNextLoop_nil] at h; cases h
    rcases hp : Quicvarint.parse b with err | ⟨t, l⟩
    · rw [parseNextLoop_of_error hb hp] at h; cases h
    have ht : t ≠ 0 := by rintro rfl; exact hnp l hp
    rw [parseNextLoop_of_type hp ht] at h
    generalize hpf : p.parseFrame (b.drop l) t e v = r at h
    rcases r with ⟨q', f', n', _ | err⟩
    · obtain ⟨rfl, rfl, rfl⟩ : q' = q ∧ f' = some f ∧ l + n' = n := by simpa using h
      obtain ⟨hext, htrunc⟩ := parseFrame_local hpf hf
      refine ⟨fun ext => ?_, fun k hk => ?_⟩
      · obtain ⟨hp', hd⟩ := parse_take_add_append hp n' ext
        rw [parseNextLoop_of_type hp' ht, hd, hext ext]
        simp
      · rcases Nat.lt_or_ge k l with hkl | hkl
        · exact parseNextLoop_take_of_lt hp hkl
        obtain ⟨hp', hd⟩ := parse_take_add_append hp (k - l) []
        simp only [List.append_nil, Nat.add_sub_cancel' hkl] at hp' hd
        rw [parseNextLoop_of_type hp' ht, hd]
        have := htrunc (k - l) (by omega)
        generalize p.parseFrame ((b.drop l).take (k - l)) t e v = r at this ⊢
        rcases r with ⟨_, _, _, _ | _⟩
        exacts [this, rfl]
    · cases h

/-! ## ParseNext -/

section
variable {b : List UInt8} {n : Nat} {f : Frame}

/-- `ParseNext` is the loop of `parseNext` from a zero count. -/
theorem parseNextLoop_of_ParseNext (h : p.ParseNext b e v = (q, n, some f, none)) :
    p.parseNextLoop e v b 0 = (q, some f, n, none) := by
  unfold ParseNext parseNext at h
  generalize p.parseNextLoop e v b 0 = r at h
  rcases r with ⟨q', f', n', err'⟩
  cases h
  rfl

/-- The bytes a call consumed for a frame that delimits itself, followed by
anything, read the same. -/
theorem ParseNext_take_append (h : p.ParseNext b e v = (q, n, some f, none))
    (hf : f.extendsToEnd = false) (ext : List UInt8) :
    p.ParseNext (b.take n ++ ext) e v = (q, n, some f, none) := by
  unfold ParseNext parseNext
  rw [(parseNextLoop_local (parseNextLoop_of_ParseNext h) hf).1 ext]

/-- No proper prefix of the bytes a call consumed for a frame that delimits
itself gives a frame. -/
theorem ParseNext_take_no_frame (h : p.ParseNext b e v = (q, n, some f, none))
    (hf : f.extendsToEnd = false) {k : Nat} (hk : k < n) :
    (p.ParseNext (b.take k) e v).2.2.1 = none :=
  (parseNextLoop_local (parseNextLoop_of_ParseNext h) hf).2 k hk

/-- `ParseNext` reads frames that delimit themselves. When it returns a
frame, other than a STREAM or DATAGRAM frame without a length field, the
bytes it consumed decide the result: followed by anything else they give the
same parser, count and frame, and no proper prefix of them gives a frame. -/
theorem ParseNext_local (h : p.ParseNext b e v = (q, n, some f, none))
    (hf : f.extendsToEnd = false) :
    (∀ ext, p.ParseNext (b.take n ++ ext) e v = (q, n, some f, none)) ∧
      ∀ k < n, (p.ParseNext (b.take k) e v).2.2.1 = none :=
  ⟨ParseNext_take_append h hf, fun _ hk => ParseNext_take_no_frame h hf hk⟩

end

/-- MAX_DATA at 1-RTT after one byte of PADDING, with a stray byte after it. -/
theorem ParseNext_local_maxData :
    (newFrameParser true true).ParseNext [0x00, 0x10, 0x05, 0xff] .encryption1RTT version1 =
        (newFrameParser true true, 3, some (.maxData 5), none) ∧
      (Frame.maxData 5).extendsToEnd = false ∧
      (∀ ext, (newFrameParser true true).ParseNext ([0x00, 0x10, 0x05, 0xff].take 3 ++ ext)
          .encryption1RTT version1 = (newFrameParser true true, 3, some (.maxData 5), none)) ∧
      ∀ k < 3, ((newFrameParser true true).ParseNext ([0x00, 0x10, 0x05, 0xff].take k)
          .encryption1RTT version1).2.2.1 = none :=
  have h : (newFrameParser true true).ParseNext [0x00, 0x10, 0x05, 0xff] .encryption1RTT
      version1 = (newFrameParser true true, 3, some (.maxData 5), none) := by
    rw [ParseNext, parseNext, parseNextLoop_of_padding (show Quicvarint.parse [0x00, 0x10, 0x05, 0xff] = .ok (0, 1) from rfl),
      parseNextLoop_of_type (show Quicvarint.parse ([0x00, 0x10, 0x05, 0xff].drop 1) = .ok (0x10, 1) from rfl) (by decide)]
    rfl
  ⟨h, rfl, ParseNext_local h rfl⟩

/-! ## The caller's loop -/

/-- A run of the caller's loop in which every call returns a frame that
delimits itself, and no error, reads the same from the buffer followed by
anything: the same results and parser, and what was left followed by what
was appended. -/
theorem sweep_append (e : EncryptionLevel) (v : Version) :
    ∀ (j : Nat) (p : FrameParser) (b ext : List UInt8),
      (∀ r ∈ (sweep e v j p b).1, ∃ f, r.2 = (some f, none) ∧ f.extendsToEnd = false) →
      sweep e v j p (b ++ ext) =
        ((sweep e v j p b).1, (sweep e v j p b).2.1, (sweep e v j p b).2.2 ++ ext)
  | 0, _, _, _, _ => rfl
  | j + 1, p, b, ext, hrun => by
    simp only [sweep] at hrun ⊢
    generalize hr : p.ParseNext b e v = r at hrun ⊢
    obtain ⟨q, l, fr, err⟩ := r
    generalize hs : sweep e v j q (b.drop l) = s at hrun ⊢
    obtain ⟨rs, q', rest⟩ := s
    obtain ⟨⟨f, hfe, hf⟩, hrs⟩ := List.forall_mem_cons.1 hrun
    obtain ⟨rfl, rfl⟩ := Prod.mk.inj_iff.1 hfe
    have hl := ParseNext_count_le p b e v
    rw [hr] at hl
    have hb : b ++ ext = b.take l ++ (b.drop l ++ ext) := by rw [← List.append_assoc, List.take_append_drop]
    rw [hb, ParseNext_take_append hr hf, List.drop_left' (List.length_take_of_le hl),
      sweep_append e v j q (b.drop l) ext (by rw [hs]; exact hrs), hs]

/-- PING and MAX_DATA, followed by the start of a STREAM frame. -/
theorem sweep_append_ping_maxData :
    (∀ r ∈ (sweep .encryption1RTT version1 2 (newFrameParser true true) [0x01, 0x10, 0x05]).1,
      ∃ f, r.2 = (some f, none) ∧ f.extendsToEnd = false) ∧
    sweep .encryption1RTT version1 2 (newFrameParser true true) ([0x01, 0x10, 0x05] ++ [0x08]) =
      ((sweep .encryption1RTT version1 2 (newFrameParser true true) [0x01, 0x10, 0x05]).1,
        (sweep .encryption1RTT version1 2 (newFrameParser true true) [0x01, 0x10, 0x05]).2.1,
        (sweep .encryption1RTT version1 2 (newFrameParser true true) [0x01, 0x10, 0x05]).2.2 ++
          [0x08]) :=
  have h₁ : (newFrameParser true true).ParseNext [0x01, 0x10, 0x05] .encryption1RTT version1 =
      (newFrameParser true true, 1, some .ping, none) := by
    rw [ParseNext, parseNext,
      parseNextLoop_of_type (show Quicvarint.parse [0x01, 0x10, 0x05] = .ok (1, 1) from rfl) (by decide)]
    rfl
  have h₂ : (newFrameParser true true).ParseNext [0x10, 0x05] .encryption1RTT version1 =
      (newFrameParser true true, 2, some (.maxData 5), none) := by
    rw [ParseNext, parseNext,
      parseNextLoop_of_type (show Quicvarint.parse [0x10, 0x05] = .ok (16, 1) from rfl) (by decide)]
    rfl
  have hrun : ∀ r ∈ (sweep .encryption1RTT version1 2 (newFrameParser true true)
      [0x01, 0x10, 0x05]).1, ∃ f, r.2 = (some f, none) ∧ f.extendsToEnd = false := by
    simp only [sweep, h₁, List.drop_succ_cons, List.drop_zero, h₂]
    simp [Frame.extendsToEnd]
  ⟨hrun, sweep_append _ _ 2 _ _ _ hrun⟩

end FrameParser
end QuicWire
