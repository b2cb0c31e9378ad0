import QuicWire.FrameParser.Readback

/-!
# QuicWire.FrameParser.Drain

The caller's loop run to the end of a buffer: `drain` calls `ParseNext`,
advances by the count, and stops when the buffer is empty or a call fails.

* `drain_paddedBuffer` (completeness): on frames the parser reads back,
  each after its PADDING, the loop returns exactly those frames and no
  error, within as many calls as the buffer has bytes.
* `drain_readable` (soundness): whatever the loop reads without an error,
  from a buffer within the varint range and at the encoder's ACK delay
  exponent, is a list of frames the parser reads back, of which only the
  last may run to the end of the buffer.
* `drain_allowed` (safety): every frame the loop returns, before an error
  or without one, is written with a code the configuration enables and the
  level allows, although `ParseNext` reads codes outside the table.

Corollary: `drain_framesToBuffer`, decoding is stable under re-encoding.
The frames the loop reads, written out again by `Append` as
`framesToBuffer` does, read back to the same frames. What the writer does
not reproduce (PADDING, varints longer than needed, an offset field of
zero, ACK_ECN without counts, RESET_STREAM_AT with a reliable size of zero)
never changes a frame.
-/

namespace QuicWire
namespace FrameParser

variable {e : EncryptionLevel} {v : Version}

/-! ## The loop one call at a time -/

theorem drain_nil (k : Nat) (p : FrameParser) : drain e v k p [] = some (p, [], none) := by
  cases k <;> rfl

/-- A call without an error: the loop goes on after its count. -/
theorem drain_of_ok {k l : Nat} {p q : FrameParser} {b : List UInt8} {frame : Option Frame}
    (hb : b ≠ []) (h : p.ParseNext b e v = (q, l, frame, none)) :
    drain e v (k + 1) p b =
      (drain e v k q (b.drop l)).map fun (q, fs, err) => (q, frame.toList ++ fs, err) := by
  obtain ⟨x, xs, rfl⟩ := List.exists_cons_of_ne_nil hb
  rw [drain, h]

/-- A call with an error stops the loop. -/
theorem drain_of_error {k l : Nat} {p q : FrameParser} {b : List UInt8} {frame : Option Frame}
    {err : TransportError} (hb : b ≠ []) (h : p.ParseNext b e v = (q, l, frame, some err)) :
    drain e v (k + 1) p b = some (q, [], some err) := by
  obtain ⟨x, xs, rfl⟩ := List.exists_cons_of_ne_nil hb
  rw [drain, h]

/-- A run from a non-empty buffer, one call at a time: a call without an
error, which keeps the configuration, and the rest of the run from where
it stopped; or a call with an error, which ends the run with no frame. -/
theorem drain_succ_cases {k : Nat} {p q : FrameParser} {b : List UInt8} {fs : List Frame}
    {err : Option TransportError} (hb : b ≠ []) (h : drain e v (k + 1) p b = some (q, fs, err)) :
    (∃ q₁ l frame fs', p.ParseNext b e v = (q₁, l, frame, none) ∧ q₁.config = p.config ∧
        drain e v k q₁ (b.drop l) = some (q, fs', err) ∧ fs = frame.toList ++ fs') ∨
      ∃ l frame err', p.ParseNext b e v = (q, l, frame, some err') ∧ fs = [] ∧ err = some err' := by
  have hc := config_parseNext p b e v
  rcases hr : p.ParseNext b e v with ⟨q₁, l, frame, _ | err'⟩ <;> rw [hr] at hc
  · rw [drain_of_ok hb hr] at h
    obtain ⟨⟨q', fs', err''⟩, hd, he⟩ := Option.map_eq_some'.1 h
    cases he
    exact .inl ⟨q₁, l, frame, fs', rfl, hc, hd, rfl⟩
  · rw [drain_of_error hb hr] at h
    cases h
    exact .inr ⟨l, frame, err', rfl, rfl, rfl⟩

/-- A call that returns neither a frame nor an error read nothing but
PADDING, all of the buffer, and leaves the parser as it was. -/
theorem ParseNext_padding_only {p q : FrameParser} {b : List UInt8} {l : Nat}
    (h : p.ParseNext b e v = (q, l, none, none)) :
    q = p ∧ paddingLength b = b.length ∧ l = b.length := by
  rw [ParseNext_eq, parseNext_after_padding] at h
  have hpad := paddingLength_le_length b
  rcases after_padding_cases b with h0 | ⟨hne, err, herr⟩ | ⟨t, l', hp, ht⟩
  · rw [List.length_eq_zero.1 h0, parseNextLoop_nil] at h
    simp only [List.length_drop] at h0
    obtain ⟨rfl, rfl, -⟩ := Prod.mk.inj_iff.1 h
    exact ⟨rfl, by omega, by simp only at *; omega⟩
  · rw [parseNextLoop_of_error hne herr] at h
    cases h
  · rw [parseNextLoop_of_type hp ht] at h
    have hs := @parseFrame_isSome_of_ok p ((b.drop (paddingLength b)).drop l') t e v
    generalize p.parseFrame ((b.drop (paddingLength b)).drop l') t e v = r at h hs
    rcases r with ⟨q', _ | f, l'', _ | err⟩
    · exact absurd (hs rfl) Bool.false_ne_true
    all_goals cases h

/-- A buffer of nothing but PADDING is consumed whole by one call, which
returns neither a frame nor an error. -/
theorem ParseNext_of_padding_only {p : FrameParser} {b : List UInt8}
    (hb : paddingLength b = b.length) : p.ParseNext b e v = (p, b.length, none, none) := by
  rw [ParseNext_eq, parseNext_after_padding, hb, List.drop_length, parseNextLoop_nil]

/-- Only the configuration decides what a parser reads back. -/
theorem Readable.of_config {p q : FrameParser} {f : Frame} (h : q.config = p.config)
    (hf : Readable p e f) : Readable q e f :=
  ⟨hf.wellFormed, (isEnabled_of_config h _).trans hf.enabled, hf.allowed⟩

theorem Frame.length_append_pos (f : Frame) (v : Version) : 0 < (f.append [] v).length := by
  rw [Frame.append_eq, List.nil_append, List.length_append, Quicvarint.length_append_nil]
  unfold Quicvarint.len
  split_ifs <;> omega

/-! ## Completeness -/

/-- The loop over a padded buffer of frames the parser reads back returns
those frames and no error, the trailing PADDING consumed, within as many
calls as the buffer has bytes. -/
theorem drain_paddedBuffer (m : Nat) :
    ∀ (fs : List (Nat × Frame)) (p : FrameParser) (k : Nat),
      p.ackDelayExponentAt e = QuicWire.ackDelayExponent → (∀ kf ∈ fs, Readable p e kf.2) →
      EndsCleanly fs m → (paddedBuffer v fs m).length ≤ k →
      ∃ q, drain e v k p (paddedBuffer v fs m) = some (q, fs.map Prod.snd, none)
  | [], p, k, _, _, _, hk => by
    cases m with
    | zero => exact ⟨p, drain_nil k p⟩
    | succ m =>
      simp only [paddedBuffer, List.length_replicate] at hk ⊢
      obtain ⟨k, rfl⟩ : ∃ k', k = k' + 1 := ⟨k - 1, by omega⟩
      have h : p.ParseNext (List.replicate (m + 1) 0) e v = (p, m + 1, none, none) := by
        rw [ParseNext_eq, parseNext, ← List.append_nil (List.replicate (m + 1) 0),
          parseNextLoop_replicate, parseNextLoop_nil]
        simp
      refine ⟨p, ?_⟩
      rw [drain_of_ok (by simp) h, List.drop_of_length_le (by simp), drain_nil]
      rfl
  | (k₀, f) :: fs, p, k, hexp, hfs, ⟨hlast, hend⟩, hk => by
    obtain ⟨hf, hfs⟩ := List.forall_mem_cons.1 hfs
    have hrest : f.extendsToEnd = true → paddedBuffer v fs m = [] := fun h => by
      obtain ⟨rfl, rfl⟩ := hlast h; rfl
    have h1 := ParseNext_padded_append hf hexp k₀ (paddedBuffer v fs m) hrest v
    have hc := config_parseNext p (List.replicate k₀ 0 ++ (f.append [] v ++ paddedBuffer v fs m)) e v
    have hpos := Frame.length_append_pos f v
    have hdrop : (List.replicate k₀ 0 ++ (f.append [] v ++ paddedBuffer v fs m)).drop
        (k₀ + (f.append [] v).length) = paddedBuffer v fs m := by
      rw [← List.append_assoc, List.drop_left' (by simp)]
    simp only [paddedBuffer, List.length_append, List.length_replicate] at hk ⊢
    obtain ⟨k, rfl⟩ : ∃ k', k = k' + 1 := ⟨k - 1, by omega⟩
    generalize hr : p.ParseNext (List.replicate k₀ 0 ++ (f.append [] v ++ paddedBuffer v fs m)) e v = r
      at h1 hc
    obtain ⟨q, l, fr, err⟩ := r
    cases h1
    obtain ⟨q', ih⟩ := drain_paddedBuffer m fs q k ((ackDelayExponentAt_of_config hc e).trans hexp)
      (fun kf hkf => (hfs kf hkf).of_config hc) hend (by omega)
    refine ⟨q', ?_⟩
    rw [drain_of_ok (List.ne_nil_of_length_pos (by simp; omega)) hr, hdrop, ih]
    rfl

/-! ## Soundness -/

/-- Whatever the loop reads without an error, from a buffer within the
varint range and at the encoder's ACK delay exponent, is frames the parser
reads back, and a frame that runs to the end of the buffer is the last. -/
theorem drain_readable :
    ∀ (k : Nat) (p : FrameParser) (b : List UInt8) {q : FrameParser} {fs : List Frame},
      drain e v k p b = some (q, fs, none) → b.length < 2 ^ 62 →
      p.ackDelayExponentAt e = QuicWire.ackDelayExponent →
      (∀ f ∈ fs, Readable p e f) ∧ EndsCleanly (fs.map fun f => (0, f)) 0
  | k, p, [], _, _, h, _, _ => by
    rw [drain_nil] at h
    cases h
    exact ⟨nofun, trivial⟩
  | 0, _, _ :: _, _, _, h, _, _ => by cases h
  | k + 1, p, x :: xs, q, fs, h, hb, hexp => by
    obtain ⟨q₁, l, frame, fs', hr, hc, hd, rfl⟩ | ⟨_, _, _, -, -, ⟨⟩⟩ :=
      drain_succ_cases (List.cons_ne_nil x xs) h
    obtain ⟨ih₁, ih₂⟩ := drain_readable k q₁ _ hd (by simp only [List.length_drop]; omega)
      ((ackDelayExponentAt_of_config hc e).trans hexp)
    have ih₁ : ∀ f ∈ fs', Readable p e f := fun f hf => (ih₁ f hf).of_config hc.symm
    cases frame with
    | none => exact ⟨ih₁, ih₂⟩
    | some f =>
      obtain ⟨hrd, hend⟩ := ParseNext_readable hr hb hexp
      refine ⟨List.forall_mem_cons.2 ⟨hrd, ih₁⟩, fun he => ?_, ih₂⟩
      rw [hend he, List.drop_length, drain_nil] at hd
      cases hd
      exact ⟨rfl, rfl⟩

/-! ## Safety -/

/-- Every frame the loop returns, before an error or without one, is
written with a code the configuration enables and the level allows. -/
theorem drain_allowed :
    ∀ (k : Nat) (p : FrameParser) (b : List UInt8) {q : FrameParser} {fs : List Frame}
      {err : Option TransportError}, drain e v k p b = some (q, fs, err) →
      ∀ f ∈ fs, isEnabled p f.wireType = true ∧ FrameType.isAllowedAtEncLevel f.wireType e = true
  | k, p, [], _, _, _, h => by
    rw [drain_nil] at h
    cases h
    nofun
  | 0, _, _ :: _, _, _, _, h => by cases h
  | k + 1, p, x :: xs, q, fs, err, h => by
    obtain ⟨q₁, l, frame, fs', hr, hc, hd, rfl⟩ | ⟨_, _, _, -, rfl, -⟩ :=
      drain_succ_cases (List.cons_ne_nil x xs) h
    · intro f hf
      rcases List.mem_append.1 hf with hf | hf
      · cases frame with
        | none => cases hf
        | some f' =>
          obtain rfl : f = f' := by simpa using hf
          exact ⟨(ParseNext_accepted hr).1, (ParseNext_accepted hr).2.1⟩
      · obtain ⟨hen, hal⟩ := drain_allowed k q₁ _ hd f hf
        exact ⟨(isEnabled_of_config hc _).symm.trans hen, hal⟩
    · nofun

/-- The code `0x108`, which `ParseNext` reads as STREAM: the frame it
returns is written with the STREAM code `0x08`, which 1-RTT allows. -/
theorem drain_allowed_masked_code :
    drain .encryption1RTT version1 3 (newFrameParser true true) [0x41, 0x08, 0x00] =
        some (newFrameParser true true, [.stream { streamID := 0, data := [] }], none) ∧
      ∀ f ∈ [Frame.stream { streamID := 0, data := [] }],
        isEnabled (newFrameParser true true) f.wireType = true ∧
          FrameType.isAllowedAtEncLevel f.wireType .encryption1RTT = true :=
  have h₁ : (newFrameParser true true).ParseNext [0x41, 0x08, 0x00] .encryption1RTT version1 =
      (newFrameParser true true, 3, some (.stream { streamID := 0, data := [] }), none) := by
    rw [ParseNext, parseNext, parseNextLoop_of_type
      (show Quicvarint.parse [0x41, 0x08, 0x00] = .ok (264, 2) from rfl) (by decide)]
    rfl
  have h : drain .encryption1RTT version1 3 (newFrameParser true true) [0x41, 0x08, 0x00] =
      some (newFrameParser true true, [.stream { streamID := 0, data := [] }], none) := by
    rw [drain_of_ok (by simp) h₁, show List.drop 3 [(0x41 : UInt8), 0x08, 0x00] = [] from rfl, drain_nil]
    rfl
  ⟨h, drain_allowed 3 _ _ h⟩

/-! ## Re-encoding -/

/-- The frames the loop reads without an error, from a buffer within the
varint range and at the encoder's ACK delay exponent, written out by
`Append` one after the other as `framesToBuffer` does, read back to the
same frames, with no error. -/
theorem drain_framesToBuffer {k : Nat} {p q : FrameParser} {b : List UInt8} {fs : List Frame}
    (h : drain e v k p b = some (q, fs, none)) (hb : b.length < 2 ^ 62)
    (hexp : p.ackDelayExponentAt e = QuicWire.ackDelayExponent) :
    ∃ q', drain e v (framesToBuffer v fs).length p (framesToBuffer v fs) = some (q', fs, none) := by
  obtain ⟨hr, hend⟩ := drain_readable k p b h hb hexp
  rw [framesToBuffer_eq]
  obtain ⟨q', h'⟩ := drain_paddedBuffer 0 _ p _ hexp (by simpa using hr) hend le_rfl
  exact ⟨q', by simpa using h'⟩

/-- PADDING, PING with its code written in two bytes, MAX_DATA and a last
PADDING byte, read at 0-RTT: written out again, the two frames take three
bytes and read back the same. -/
theorem drain_framesToBuffer_ping_maxData :
    drain .encryption0RTT version1 6 (newFrameParser true true) [0x00, 0x40, 0x01, 0x10, 0x05, 0x00] =
        some (newFrameParser true true, [.ping, .maxData 5], none) ∧
      [0x00, 0x40, 0x01, 0x10, 0x05, 0x00].length < 2 ^ 62 ∧
      (newFrameParser true true).ackDelayExponentAt .encryption0RTT = QuicWire.ackDelayExponent ∧
      ∃ q', drain .encryption0RTT version1 (framesToBuffer version1 [.ping, .maxData 5]).length
        (newFrameParser true true) (framesToBuffer version1 [.ping, .maxData 5]) =
          some (q', [.ping, .maxData 5], none) :=
  have h1 : (newFrameParser true true).ParseNext [0x00, 0x40, 0x01, 0x10, 0x05, 0x00] .encryption0RTT
      version1 = (newFrameParser true true, 3, some .ping, none) := by
    rw [ParseNext, parseNext, parseNextLoop_of_padding
        (show Quicvarint.parse [0x00, 0x40, 0x01, 0x10, 0x05, 0x00] = .ok (0, 1) from rfl),
      parseNextLoop_of_type
        (show Quicvarint.parse (List.drop 1 [0x00, 0x40, 0x01, 0x10, 0x05, 0x00]) = .ok (1, 2) from rfl)
        (by decide)]
    rfl
  have h2 : (newFrameParser true true).ParseNext [0x10, 0x05, 0x00] .encryption0RTT version1 =
      (newFrameParser true true, 2, some (.maxData 5), none) := by
    rw [ParseNext, parseNext, parseNextLoop_of_type
      (show Quicvarint.parse [0x10, 0x05, 0x00] = .ok (16, 1) from rfl) (by decide)]
    rfl
  have h3 : (newFrameParser true true).ParseNext [0x00] .encryption0RTT version1 =
      (newFrameParser true true, 1, none, none) := by
    rw [ParseNext, parseNext, parseNextLoop_of_padding (show Quicvarint.parse [0x00] = .ok (0, 1) from rfl),
      show List.drop 1 [(0 : UInt8)] = [] from rfl, parseNextLoop_nil]
  have h : drain .encryption0RTT version1 6 (newFrameParser true true)
      [0x00, 0x40, 0x01, 0x10, 0x05, 0x00] = some (newFrameParser true true, [.ping, .maxData 5], none) := by
    rw [drain_of_ok (by simp) h1]
    rw [show List.drop 3 [(0x00 : UInt8), 0x40, 0x01, 0x10, 0x05, 0x00] = [0x10, 0x05, 0x00] from rfl,
      drain_of_ok (by simp) h2, show List.drop 2 [(0x10 : UInt8), 0x05, 0x00] = [0x00] from rfl,
      drain_of_ok (by simp) h3, show List.drop 1 [(0x00 : UInt8)] = [] from rfl, drain_nil]
    rfl
  ⟨h, by decide, rfl, drain_framesToBuffer h (by decide) rfl⟩

end FrameParser
end QuicWire
