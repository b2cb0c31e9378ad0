import QuicWire.FrameParser

/-!
# QuicWire.FrameParser.Padding

The padding loops of `ParseType` and `parseNext`, said once: both skip the
PADDING at the head of the buffer (`paddingLength`) and then take one
non-recursive step on what follows (`parseTypeLoop_skip`,
`parseNextLoop_skip`). From that:

* the counter `parsed` only offsets the count (`parseTypeLoop_parsed`,
  `parseNextLoop_parsed`), so PADDING in front of a buffer changes nothing
  but the count (`parse_padding_prefix`);
* every count is within the buffer, a successful `ParseNext` on a non-empty
  buffer consumes a byte, and a caller that advances by the counts empties
  any buffer in at most as many calls as it has bytes
  (`parse_counts_bounded`);
* every error of `ParseNext` is a `FrameEncodingError` whose `FrameType` is
  the code after the PADDING, or 0 when that code does not decode
  (`ParseNext_error_shape`).
-/

namespace QuicWire
namespace FrameParser

/-! ## The PADDING at the head of a buffer -/

/-- The bytes of PADDING at the head of `b`: the varints of value zero the
loops of `ParseType` and `parseNext` skip. -/
def paddingLength (b : List UInt8) : Nat :=
  match h : Quicvarint.parse b with
  | .ok (0, l) => l + paddingLength (b.drop l)
  | _ => 0
termination_by b.length
decreasing_by
  have := Quicvarint.parse_ok_length h
  simp only [List.length_drop]; omega

theorem paddingLength_of_padding {b : List UInt8} {l : Nat}
    (h : Quicvarint.parse b = .ok (0, l)) : paddingLength b = l + paddingLength (b.drop l) := by
  rw [paddingLength]; split <;> simp_all

theorem paddingLength_of_not_padding {b : List UInt8}
    (h : ∀ l, Quicvarint.parse b ≠ .ok (0, l)) : paddingLength b = 0 := by
  rw [paddingLength]; split <;> simp_all

/-- After its PADDING a buffer does not start with PADDING. -/
theorem not_padding_drop_paddingLength (b : List UInt8) :
    ∀ l, Quicvarint.parse (b.drop (paddingLength b)) ≠ .ok (0, l) := by
  induction b using paddingLength.induct with
  | case1 b l h ih =>
    rw [paddingLength_of_padding h, ← List.drop_drop]; exact ih
  | case2 b h => rw [paddingLength_of_not_padding h]; exact h

theorem paddingLength_le_length (b : List UInt8) : paddingLength b ≤ b.length := by
  induction b using paddingLength.induct with
  | case1 b l h ih =>
    have := Quicvarint.parse_ok_length h
    rw [paddingLength_of_padding h]; simp only [List.length_drop] at ih; omega
  | case2 b h => rw [paddingLength_of_not_padding h]; omega

/-- `ParseType` skips the PADDING at the head of the buffer. -/
theorem parseTypeLoop_skip (encLevel : EncryptionLevel) (b : List UInt8) (parsed : Nat) :
    parseTypeLoop encLevel b parsed =
      parseTypeLoop encLevel (b.drop (paddingLength b)) (parsed + paddingLength b) := by
  induction b using paddingLength.induct generalizing parsed with
  | case1 b l h ih =>
    rw [parseTypeLoop_of_padding h, ih, paddingLength_of_padding h, List.drop_drop, Nat.add_assoc]
  | case2 b h => rw [paddingLength_of_not_padding h]; rfl

/-- `parseNext` skips the PADDING at the head of the buffer. -/
theorem parseNextLoop_skip (p : FrameParser) (encLevel : EncryptionLevel) (v : Version)
    (b : List UInt8) (parsed : Nat) :
    p.parseNextLoop encLevel v b parsed =
      p.parseNextLoop encLevel v (b.drop (paddingLength b)) (parsed + paddingLength b) := by
  induction b using paddingLength.induct generalizing parsed with
  | case1 b l h ih =>
    rw [parseNextLoop_of_padding h, ih, paddingLength_of_padding h, List.drop_drop, Nat.add_assoc]
  | case2 b h => rw [paddingLength_of_not_padding h]; rfl

/-- What can follow the PADDING: the end of the buffer, a varint that does
not decode, or a non-zero type code. -/
theorem after_padding_cases (b : List UInt8) :
    (b.drop (paddingLength b)).length = 0 ∨
      ((b.drop (paddingLength b)).length ≠ 0 ∧
        ∃ err, Quicvarint.parse (b.drop (paddingLength b)) = .error err) ∨
      ∃ typ l, Quicvarint.parse (b.drop (paddingLength b)) = .ok (typ, l) ∧ typ ≠ 0 := by
  by_cases hb : (b.drop (paddingLength b)).length = 0
  · exact .inl hb
  rcases h : Quicvarint.parse (b.drop (paddingLength b)) with err | ⟨typ, l⟩
  · exact .inr (.inl ⟨hb, err, rfl⟩)
  · refine .inr (.inr ⟨typ, l, rfl, ?_⟩)
    rintro rfl; exact not_padding_drop_paddingLength b l h

/-! ## The counter only offsets the count -/

theorem parseTypeLoop_parsed (encLevel : EncryptionLevel) (b : List UInt8) (parsed : Nat) :
    parseTypeLoop encLevel b parsed =
      let r := parseTypeLoop encLevel b 0
      (r.1, parsed + r.2.1, r.2.2) := by
  rw [parseTypeLoop_skip, parseTypeLoop_skip encLevel b 0]
  rcases after_padding_cases b with hb | ⟨hb, err, h⟩ | ⟨typ, l, h, ht⟩
  · rw [List.length_eq_zero.mp hb, parseTypeLoop_nil, parseTypeLoop_nil]; simp
  · rw [parseTypeLoop_of_error hb h, parseTypeLoop_of_error hb h]; simp
  · rw [parseTypeLoop_of_type h ht, parseTypeLoop_of_type h ht]
    rcases newFrameType typ with _ | t
    · simp [Nat.add_assoc]
    · by_cases ha : FrameType.isAllowedAtEncLevel t encLevel <;> simp [ha, Nat.add_assoc]

theorem parseNextLoop_parsed (p : FrameParser) (encLevel : EncryptionLevel) (v : Version)
    (b : List UInt8) (parsed : Nat) :
    p.parseNextLoop encLevel v b parsed =
      let r := p.parseNextLoop encLevel v b 0
      (r.1, r.2.1, parsed + r.2.2.1, r.2.2.2) := by
  rw [parseNextLoop_skip, parseNextLoop_skip p encLevel v b 0]
  rcases after_padding_cases b with hb | ⟨hb, err, h⟩ | ⟨typ, l, h, ht⟩
  · rw [List.length_eq_zero.mp hb, parseNextLoop_nil, parseNextLoop_nil]; simp
  · rw [parseNextLoop_of_error hb h, parseNextLoop_of_error hb h]; simp
  · rw [parseNextLoop_of_type h ht, parseNextLoop_of_type h ht]
    rcases p.parseFrame ((b.drop (paddingLength b)).drop l) typ encLevel v with ⟨q, f, l', _ | err⟩
    <;> simp [Nat.add_assoc]

/-! ## PADDING in front of a buffer -/

theorem parseTypeLoop_replicate (encLevel : EncryptionLevel) (k : Nat) (b : List UInt8)
    (parsed : Nat) :
    parseTypeLoop encLevel (List.replicate k 0 ++ b) parsed = parseTypeLoop encLevel b (parsed + k) := by
  induction k generalizing parsed with
  | zero => rfl
  | succ k ih =>
    rw [List.replicate_succ, List.cons_append, parseTypeLoop_of_padding (Quicvarint.parse_zero_cons _),
      List.drop_one, List.tail_cons, ih, Nat.add_assoc, Nat.add_comm 1 k]

theorem parseNextLoop_replicate (p : FrameParser) (encLevel : EncryptionLevel) (v : Version)
    (k : Nat) (b : List UInt8) (parsed : Nat) :
    p.parseNextLoop encLevel v (List.replicate k 0 ++ b) parsed =
      p.parseNextLoop encLevel v b (parsed + k) := by
  induction k generalizing parsed with
  | zero => rfl
  | succ k ih =>
    rw [List.replicate_succ, List.cons_append, parseNextLoop_of_padding (Quicvarint.parse_zero_cons _),
      List.drop_one, List.tail_cons, ih, Nat.add_assoc, Nat.add_comm 1 k]

/-- PADDING in front of a buffer changes neither the frame, nor the error,
nor the parser `ParseNext` returns, nor the type and error of `ParseType`;
it adds its length to their counts. A buffer of nothing but PADDING is
consumed whole, with no frame and no error from `ParseNext` and with
`io.EOF` from `ParseType`. -/
theorem parse_padding_prefix (p : FrameParser) (k : Nat) (b : List UInt8)
    (encLevel : EncryptionLevel) (v : Version) :
    (let r := p.ParseNext b encLevel v
     p.ParseNext (List.replicate k 0 ++ b) encLevel v = (r.1, r.2.1 + k, r.2.2)) ∧
    (let r := p.parseType b encLevel
     p.parseType (List.replicate k 0 ++ b) encLevel = (r.1, r.2.1 + k, r.2.2)) ∧
    p.ParseNext (List.replicate k 0) encLevel v = (p, k, none, none) ∧
    p.parseType (List.replicate k 0) encLevel = (0, k, some .eof) := by
  refine ⟨?_, ?_, ?_, ?_⟩
  · simp only [ParseNext, parseNext]
    rw [parseNextLoop_replicate, parseNextLoop_parsed, Nat.zero_add, Nat.add_comm]
  · simp only [parseType]
    rw [parseTypeLoop_replicate, parseTypeLoop_parsed, Nat.zero_add, Nat.add_comm]
  · simp only [ParseNext, parseNext]
    rw [← List.append_nil (List.replicate k 0), parseNextLoop_replicate, parseNextLoop_nil]
    simp
  · simp only [parseType]
    rw [← List.append_nil (List.replicate k 0), parseTypeLoop_replicate, parseTypeLoop_nil]
    simp

/-! ## Counts -/

theorem ParseNext_eq (p : FrameParser) (data : List UInt8) (encLevel : EncryptionLevel)
    (v : Version) :
    p.ParseNext data encLevel v =
      ((p.parseNext data encLevel v).1, (p.parseNext data encLevel v).2.2.1,
        (p.parseNext data encLevel v).2.1, (p.parseNext data encLevel v).2.2.2) := rfl

/-- The count of `ParseType` is within its buffer. -/
theorem parseType_count_le (p : FrameParser) (b : List UInt8) (encLevel : EncryptionLevel) :
    (p.parseType b encLevel).2.1 ≤ b.length := by
  simp only [parseType]
  rw [parseTypeLoop_skip, parseTypeLoop_parsed]
  have hk := paddingLength_le_length b
  suffices (parseTypeLoop encLevel (b.drop (paddingLength b)) 0).2.1 ≤
      (b.drop (paddingLength b)).length by
    simp only [List.length_drop] at this ⊢; omega
  rcases after_padding_cases b with hb | ⟨hb, err, h⟩ | ⟨typ, l, h, ht⟩
  · rw [List.length_eq_zero.mp hb, parseTypeLoop_nil]; exact Nat.zero_le _
  · rw [parseTypeLoop_of_error hb h]; exact Nat.zero_le _
  · have := (Quicvarint.parse_ok_length h).2
    rw [parseTypeLoop_of_type h ht]
    rcases newFrameType typ with _ | t
    · simpa
    · by_cases ha : FrameType.isAllowedAtEncLevel t encLevel <;> simpa [ha]

/-- The count of `parseNext`, split at the PADDING. -/
theorem parseNext_count (p : FrameParser) (b : List UInt8) (encLevel : EncryptionLevel)
    (v : Version) :
    (p.parseNext b encLevel v).2.2.1 =
      paddingLength b + (p.parseNextLoop encLevel v (b.drop (paddingLength b)) 0).2.2.1 := by
  simp only [parseNext]; rw [parseNextLoop_skip, parseNextLoop_parsed]; simp

/-- The count of `ParseNext` is within its buffer, whatever the outcome. -/
theorem ParseNext_count_le (p : FrameParser) (b : List UInt8) (encLevel : EncryptionLevel)
    (v : Version) : (p.ParseNext b encLevel v).2.1 ≤ b.length := by
  rw [ParseNext_eq, parseNext_count]
  have hk := paddingLength_le_length b
  suffices (p.parseNextLoop encLevel v (b.drop (paddingLength b)) 0).2.2.1 ≤
      (b.drop (paddingLength b)).length by
    simp only [List.length_drop] at this ⊢; omega
  rcases after_padding_cases b with hb | ⟨hb, err, h⟩ | ⟨typ, l, h, ht⟩
  · rw [List.length_eq_zero.mp hb, parseNextLoop_nil]; exact Nat.zero_le _
  · rw [parseNextLoop_of_error hb h]; exact Nat.zero_le _
  · have := (Quicvarint.parse_ok_length h).2
    have hf := parseFrame_count_le p ((b.drop (paddingLength b)).drop l) typ encLevel v
    rw [parseNextLoop_of_type h ht]
    generalize p.parseFrame ((b.drop (paddingLength b)).drop l) typ encLevel v = r at hf ⊢
    obtain ⟨q, f, l', _ | err⟩ := r <;> simp only [List.length_drop] at this hf ⊢ <;> omega

/-- A `ParseNext` without error on a non-empty buffer consumes a byte. -/
theorem ParseNext_count_pos {p : FrameParser} {b : List UInt8} {encLevel : EncryptionLevel}
    {v : Version} (hb : b ≠ []) (h : (p.ParseNext b encLevel v).2.2.2 = none) :
    1 ≤ (p.ParseNext b encLevel v).2.1 := by
  rw [ParseNext_eq] at h ⊢
  rw [parseNext_count]
  rcases after_padding_cases b with hb' | ⟨hb', err, he⟩ | ⟨typ, l, he, ht⟩
  · have := paddingLength_le_length b
    have := List.length_pos.mpr hb
    simp only [List.length_drop] at hb'; omega
  · simp only [parseNext] at h
    rw [parseNextLoop_skip, parseNextLoop_of_error hb' he] at h; cases h
  · have := (Quicvarint.parse_ok_length he).1
    rw [parseNextLoop_of_type he ht]
    rcases p.parseFrame ((b.drop (paddingLength b)).drop l) typ encLevel v
      with ⟨q, f, l', _ | err⟩ <;> simp only <;> omega

/-! ## Errors -/

/-- Every error `ParseNext` returns comes with no frame and is a
`FrameEncodingError`. Its `FrameType` is the first type code after the
PADDING; when that varint does not decode it is left 0 and the count is the
PADDING alone. -/
theorem ParseNext_error_shape (p : FrameParser) (b : List UInt8) (encLevel : EncryptionLevel)
    (v : Version) {err : TransportError} (h : (p.ParseNext b encLevel v).2.2.2 = some err) :
    (p.ParseNext b encLevel v).2.2.1 = none ∧ err.errorCode = frameEncodingError ∧
      ((∃ e, Quicvarint.parse (b.drop (paddingLength b)) = .error e ∧ err.frameType = 0 ∧
          (p.ParseNext b encLevel v).2.1 = paddingLength b) ∨
        ∃ l, Quicvarint.parse (b.drop (paddingLength b)) = .ok (err.frameType, l) ∧
          err.frameType ≠ 0) := by
  simp only [ParseNext_eq, parseNext] at h ⊢
  rw [parseNextLoop_skip, Nat.zero_add] at h ⊢
  rcases after_padding_cases b with hb | ⟨hb, e, he⟩ | ⟨typ, l, he, ht⟩
  · rw [List.length_eq_zero.mp hb, parseNextLoop_nil] at h; cases h
  · rw [parseNextLoop_of_error hb he] at h ⊢
    cases h
    exact ⟨rfl, rfl, .inl ⟨e, he, rfl, rfl⟩⟩
  · rw [parseNextLoop_of_type he ht] at h ⊢
    generalize p.parseFrame ((b.drop (paddingLength b)).drop l) typ encLevel v = r at h ⊢
    obtain ⟨q, f, l', _ | e⟩ := r
    · cases h
    · cases h; exact ⟨rfl, rfl, .inr ⟨l, he, ht⟩⟩

/-- A type varint cut short after one byte of PADDING: the error leaves
`FrameType` 0 and the count covers the PADDING. -/
theorem ParseNext_error_shape_truncated :
    let p := newFrameParser false false
    let err : TransportError := { errorCode := frameEncodingError, errorMessage := "unexpected EOF" }
    (p.ParseNext [0x00, 0x40] .encryption1RTT version1).2.2.2 = some err ∧
      (p.ParseNext [0x00, 0x40] .encryption1RTT version1).2.2.1 = none ∧
      err.errorCode = frameEncodingError ∧
      ((∃ e, Quicvarint.parse ([0x00, 0x40].drop (paddingLength [0x00, 0x40])) = .error e ∧
          err.frameType = 0 ∧
          (p.ParseNext [0x00, 0x40] .encryption1RTT version1).2.1 = paddingLength [0x00, 0x40]) ∨
        ∃ l, Quicvarint.parse ([0x00, 0x40].drop (paddingLength [0x00, 0x40])) =
          .ok (err.frameType, l) ∧ err.frameType ≠ 0) := by
  intro p err
  have hp : Quicvarint.parse [0x40] = .error .unexpectedEOF := rfl
  have h : (p.ParseNext [0x00, 0x40] .encryption1RTT version1).2.2.2 = some err := by
    simp only [ParseNext_eq, parseNext]
    rw [parseNextLoop_of_padding (Quicvarint.parse_zero_cons _), List.drop_one, List.tail_cons,
      parseNextLoop_of_error (by decide) hp]
    rfl
  exact ⟨h, ParseNext_error_shape p _ _ _ h⟩

/-! ## The caller's loop -/

/-- A caller of `ParseNext` (spec §2): parse a frame, advance the buffer by
the count, and repeat until it is empty or a call fails, making at most `n`
calls; `none` if they run out first. It returns the parser, the frames read
and the error that stopped it. -/
def drain (encLevel : EncryptionLevel) (v : Version) :
    Nat → FrameParser → List UInt8 → Option (FrameParser × List Frame × Option TransportError)
  | _, p, [] => some (p, [], none)
  | 0, _, _ :: _ => none
  | n + 1, p, data@(_ :: _) =>
    match p.ParseNext data encLevel v with
    | (p, _, _, some err) => some (p, [], some err)
    | (p, l, frame, none) =>
      (drain encLevel v n p (data.drop l)).map fun (p, frames, err) =>
        (p, frame.toList ++ frames, err)

/-- As many calls as the buffer has bytes are enough. -/
theorem drain_isSome (encLevel : EncryptionLevel) (v : Version) :
    ∀ (n : Nat) (p : FrameParser) (b : List UInt8), b.length ≤ n →
      (drain encLevel v n p b).isSome
  | n, _, [], _ => by cases n <;> rfl
  | 0, _, _ :: _, h => absurd h (by simp)
  | n + 1, p, x :: xs, h => by
    rw [drain]
    rcases hr : p.ParseNext (x :: xs) encLevel v with ⟨q, l, frame, _ | err⟩
    · have hle := ParseNext_count_le p (x :: xs) encLevel v
      have hpos := ParseNext_count_pos (List.cons_ne_nil x xs)
        (show (p.ParseNext (x :: xs) encLevel v).2.2.2 = none by rw [hr])
      rw [hr] at hle hpos
      simp only [Option.isSome_map']
      exact drain_isSome encLevel v n q _ (by simp only [List.length_drop] at *; omega)
    · rfl

/-- The counts of `ParseType` and `ParseNext` lie within the buffer, error
outcomes included; a `ParseNext` without error on a non-empty buffer consumes
at least a byte; so a caller that advances by the counts until the buffer is
empty never slices out of range and stops within as many calls as the buffer
has bytes. -/
theorem parse_counts_bounded (p : FrameParser) (b : List UInt8) (encLevel : EncryptionLevel)
    (v : Version) :
    (p.parseType b encLevel).2.1 ≤ b.length ∧
    (p.ParseNext b encLevel v).2.1 ≤ b.length ∧
    (b ≠ [] → (p.ParseNext b encLevel v).2.2.2 = none → 1 ≤ (p.ParseNext b encLevel v).2.1) ∧
    (drain encLevel v b.length p b).isSome :=
  ⟨parseType_count_le p b encLevel, ParseNext_count_le p b encLevel v,
    fun hb h => ParseNext_count_pos hb h, drain_isSome encLevel v _ p b le_rfl⟩

end FrameParser
end QuicWire
