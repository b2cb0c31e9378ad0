import QuicWire.FrameParser.Drain

/-!
# QuicWire.FrameParser.SplitPath

The caller of the split path (spec §4.4), who peeks at each frame's kind
with `ParseType` before committing to a decode, against the caller of
`ParseNext`.

One call of the split path that succeeds is one of `ParseNext`, with the
same frame, count and parser (`parseNextFrame_of_parseSplit`): a code
`ParseType` accepts is in the frame-type table, where the STREAM test of
`ParseFrame` is `IsStreamFrameType`. Over whole runs, then, the split path
refines the composed one: whatever its caller reads without a failure, the
caller's loop over `ParseNext` reads too, the same frames with no error and
the same parser at the end (`drainSplit_refines_drain`). The converse fails
on the codes outside the table whose low byte passes the STREAM test, such
as `0x108`, which `ParseNext` decodes as STREAM and `ParseType` rejects.
-/

namespace QuicWire
namespace FrameParser

variable {p : FrameParser} {e : EncryptionLevel} {v : Version}

/-! ## One call -/

/-- A decode reported as results has a frame unless it has an error. -/
theorem results_isSome_of_ok {α : Type} {r : Except Error (α × Nat)} (h : (results r).2.2 = none) :
    (results r).1.isSome := by
  rcases r with _ | ⟨a, l⟩
  · cases h
  · rfl

/-- The kind's decoder reports no error only with a frame. -/
theorem decodeByKind_isSome_of_ok {t : Nat} {d : List UInt8}
    (h : (p.decodeByKind t d e v).2.2.2 = none) : (p.decodeByKind t d e v).2.1.isSome := by
  revert h
  unfold decodeByKind
  split_ifs
  · exact results_isSome_of_ok
  · rcases p.parseAckFrame t d e v with ⟨q, f, l, err⟩
    exact fun _ => rfl
  · unfold FrameParser.parseDatagramFrame
    split_ifs
    · nofun
    · rcases hr : results (QuicWire.parseDatagramFrame d t v) with ⟨f, l, err⟩
      intro h
      have := results_isSome_of_ok (r := QuicWire.parseDatagramFrame d t v) (by rw [hr]; exact h)
      rw [hr] at this
      simpa using this
  · exact results_isSome_of_ok

/-- `ParseType` reports `io.EOF` only on a buffer of nothing but PADDING. -/
theorem paddingLength_of_parseType_eof {b : List UInt8} (h : (p.parseType b e).2.2 = some .eof) :
    paddingLength b = b.length := by
  rw [parseType_after_padding] at h
  have hpad := paddingLength_le_length b
  rcases after_padding_cases b with h0 | ⟨hne, err, herr⟩ | ⟨t, l, hp, ht⟩
  · simp only [List.length_drop] at h0
    omega
  · rw [parseTypeLoop_of_error hne herr] at h
    cases h
  · rw [parseTypeLoop_of_type hp ht] at h
    cases hn : newFrameType t with
    | none => simp [hn] at h
    | some t' => simp only [hn] at h; split at h <;> simp at h

/-- A call of the split path that succeeds is a call of `ParseNext`, with
the same frame, count and parser. -/
theorem parseNextFrame_of_parseSplit {b : List UInt8} {x : FrameParser × Frame × Nat}
    (h : p.parseSplit b e v = some x) : p.parseNextFrame b e v = some x := by
  rcases after_padding_cases b with h0 | ⟨hne, err, herr⟩ | ⟨t, l, hp, ht⟩
  · rw [parseSplit_of_eof h0] at h; cases h
  · rw [parseSplit_of_error hne herr] at h; cases h
  rw [parseSplit_of_type hp ht] at h
  rw [parseNextFrame_of_type hp ht, decoded_parseFrame, List.drop_drop]
  cases hn : newFrameType t with
  | none => simp [hn] at h
  | some t' =>
    obtain ⟨rfl, -⟩ := newFrameType_eq_some_iff.1 hn
    rw [decodeByKind_agrees hn] at h
    split_ifs at h with ha
    rw [if_pos ha.2]
    exact h

/-! ## The caller's loop -/

/-- Modelled from the spec: a caller of the split path (§4.4). Each round
peeks at the next kind with `ParseType`, decodes the frame with the kind's
own decoder and advances by both counts. The caller stops when `ParseType`
reports the end of the buffer or a call fails, within `n` rounds (`none`
if they run out first). It returns the parser, the frames read and the
failure that stopped it, from `ParseType` or from the decoder. -/
def drainSplit (encLevel : EncryptionLevel) (v : Version) :
    Nat → FrameParser → List UInt8 →
      Option (FrameParser × List Frame × Option (TransportError ⊕ Error))
  | 0, _, _ => none
  | n + 1, p, data =>
    match p.parseType data encLevel with
    | (_, _, some .eof) => some (p, [], none)
    | (_, _, some (.transport err)) => some (p, [], some (.inl err))
    | (t, l, none) =>
      match p.decodeByKind t (data.drop l) encLevel v with
      | (q, _, _, some err) => some (q, [], some (.inr err))
      | (q, frame, l', none) =>
        (drainSplit encLevel v n q ((data.drop l).drop l')).map fun (q, fs, err) =>
          (q, frame.toList ++ fs, err)

/-- The split path refines `ParseNext` over whole runs: what a caller of
the split path reads without a failure, the caller's loop over `ParseNext`
reads too, within as many calls, with the same frames, no error and the
same parser at the end. -/
theorem drainSplit_refines_drain :
    ∀ (n : Nat) (p : FrameParser) (b : List UInt8) {q : FrameParser} {fs : List Frame},
      drainSplit e v n p b = some (q, fs, none) → drain e v n p b = some (q, fs, none)
  | 0, _, _, _, _, h => by cases h
  | n + 1, p, b, q, fs, h => by
    unfold drainSplit at h
    rcases ht : p.parseType b e with ⟨t, l, _ | _ | err⟩ <;> rw [ht] at h <;> dsimp only at h
    · rcases hd : p.decodeByKind t (b.drop l) e v with ⟨q₁, frame, l', _ | err⟩ <;> rw [hd] at h
      · obtain ⟨⟨q', fs', err'⟩, hrest, he⟩ := Option.map_eq_some'.1 h
        cases he
        have hf := decodeByKind_isSome_of_ok (show (p.decodeByKind t (b.drop l) e v).2.2.2 = none by rw [hd])
        rw [hd] at hf
        obtain ⟨f, rfl⟩ := Option.isSome_iff_exists.1 hf
        have hs : p.parseSplit b e v = some (q₁, f, l + l') := by
          rw [parseSplit, ht]
          dsimp only
          rw [hd]
          rfl
        have hn : p.ParseNext b e v = (q₁, l + l', some f, none) := by
          have := parseNextFrame_of_parseSplit hs
          unfold parseNextFrame at this
          split at this
          · cases this; assumption
          · cases this
        have hb : b ≠ [] := by
          rintro rfl
          rw [parseType, parseTypeLoop_nil] at ht
          cases ht
        rw [List.drop_drop] at hrest
        rw [drain_of_ok hb hn, drainSplit_refines_drain n q₁ _ hrest]
        rfl
      · cases h
    · cases h
      have hpad := paddingLength_of_parseType_eof (show (p.parseType b e).2.2 = some .eof by rw [ht])
      cases b with
      | nil => exact drain_nil _ _
      | cons x xs =>
        rw [drain_of_ok (List.cons_ne_nil x xs) (ParseNext_of_padding_only hpad), List.drop_length,
          drain_nil]
        rfl
    · cases h

/-- PADDING, PING and MAX_DATA at 1-RTT: three rounds of the split path,
the last one `ParseType`'s end of the buffer; two calls of `ParseNext`. -/
theorem drainSplit_refines_drain_ping_maxData :
    drainSplit .encryption1RTT version1 3 (newFrameParser true true) [0x00, 0x01, 0x10, 0x05] =
        some (newFrameParser true true, [.ping, .maxData 5], none) ∧
      drain .encryption1RTT version1 3 (newFrameParser true true) [0x00, 0x01, 0x10, 0x05] =
        some (newFrameParser true true, [.ping, .maxData 5], none) :=
  have ht₁ : (newFrameParser true true).parseType [0x00, 0x01, 0x10, 0x05] .encryption1RTT =
      (1, 2, none) := by
    rw [parseType,
      parseTypeLoop_of_padding (show Quicvarint.parse [0x00, 0x01, 0x10, 0x05] = .ok (0, 1) from rfl),
      parseTypeLoop_of_type
        (show Quicvarint.parse (List.drop 1 [0x00, 0x01, 0x10, 0x05]) = .ok (1, 1) from rfl) (by decide)]
    rfl
  have ht₂ : (newFrameParser true true).parseType [0x10, 0x05] .encryption1RTT = (16, 1, none) := by
    rw [parseType, parseTypeLoop_of_type (show Quicvarint.parse [0x10, 0x05] = .ok (16, 1) from rfl)
      (by decide)]
    rfl
  have ht₃ : (newFrameParser true true).parseType [] .encryption1RTT = (0, 0, some .eof) := by
    rw [parseType, parseTypeLoop_nil]
  have hd₁ : (newFrameParser true true).decodeByKind 1 [0x10, 0x05] .encryption1RTT version1 =
      (newFrameParser true true, some .ping, 0, none) := rfl
  have hd₂ : (newFrameParser true true).decodeByKind 16 [0x05] .encryption1RTT version1 =
      (newFrameParser true true, some (.maxData 5), 1, none) := rfl
  have h : drainSplit .encryption1RTT version1 3 (newFrameParser true true) [0x00, 0x01, 0x10, 0x05] =
      some (newFrameParser true true, [.ping, .maxData 5], none) := by
    rw [drainSplit, ht₁]
    dsimp only
    rw [show List.drop 2 [(0x00 : UInt8), 0x01, 0x10, 0x05] = [0x10, 0x05] from rfl, hd₁]
    dsimp only
    rw [show List.drop 0 [(0x10 : UInt8), 0x05] = [0x10, 0x05] from rfl, drainSplit, ht₂]
    dsimp only
    rw [show List.drop 1 [(0x10 : UInt8), 0x05] = [0x05] from rfl, hd₂]
    dsimp only
    rw [show List.drop 1 [(0x05 : UInt8)] = [] from rfl, drainSplit, ht₃]
    rfl
  ⟨h, drainSplit_refines_drain 3 _ _ h⟩

end FrameParser
end QuicWire
