import QuicWire.FrameParser.Drain

/-!
# QuicWire.FrameParser.Boundary

The caller's loop at the edges of a buffer. A buffer the loop reads to its
end, with no error and no frame that runs to the end of the buffer (a
STREAM or DATAGRAM frame without a length), is read the same whatever
follows it and whatever cuts it:

* `drain_append` (composition): followed by another buffer, it is read as
  the two in turn, the parser passed from the first run to the second.
  PADDING on both sides of the boundary is skipped by one call of
  `parseNext` instead of two, which changes the counts only
  (`drain_padding_append`).
* `drain_take` (truncation): a prefix of it yields a prefix of its frames,
  perhaps then an error, and never a frame the whole does not. A cut inside
  PADDING, which a zero varint may take several bytes to write, gives no
  frame either (`parseNextLoop_take_of_padding`). A cut at a frame boundary
  reads the frames before it with no error, and the rest of the run goes on
  from there (`drain_frame_boundary`).

A run that fails is, by the same token, a clean run over the bytes before
the failing call and then that call (`drain_error_split`): the frames
returned before an error are those the bytes before it give on their own.

All three rest on `ParseNext_take_append` and `ParseNext_take_no_frame`:
what a call reads is decided by the bytes it consumed.
-/

namespace QuicWire
namespace FrameParser

variable {e : EncryptionLevel} {v : Version}

/-! ## Splitting a buffer at a frame boundary -/

/-- More calls than a run needs change nothing. -/
theorem drain_add :
    ∀ (k : Nat) (p : FrameParser) (b : List UInt8)
      {r : FrameParser × List Frame × Option TransportError},
      drain e v k p b = some r → ∀ j, drain e v (k + j) p b = some r
  | k, p, [], _, h, j => by rw [drain_nil] at h ⊢; exact h
  | 0, _, _ :: _, _, h, _ => by cases h
  | k + 1, p, x :: xs, r, h, j => by
    rw [Nat.add_right_comm]
    rcases hr : p.ParseNext (x :: xs) e v with ⟨q, l, frame, _ | err⟩
    · rw [drain_of_ok (List.cons_ne_nil x xs) hr] at h ⊢
      obtain ⟨r', hd, rfl⟩ := Option.map_eq_some'.1 h
      rw [drain_add k q _ hd j]
      rfl
    · rw [drain_of_error (List.cons_ne_nil x xs) hr] at h ⊢
      exact h

/-- A varint read from `b` is read the same from `b` followed by anything. -/
theorem parse_append_of_ok {b : List UInt8} {x l : Nat} (h : Quicvarint.parse b = .ok (x, l))
    (ext : List UInt8) :
    Quicvarint.parse (b ++ ext) = .ok (x, l) ∧ (b ++ ext).drop l = b.drop l ++ ext := by
  have hl := (Quicvarint.parse_ok_length h).2
  refine ⟨?_, List.drop_append_of_le_length hl⟩
  have := Quicvarint.parse_take_append h (b.drop l ++ ext)
  rwa [← List.append_assoc, List.take_append_drop] at this

/-- PADDING in front of a buffer only adds to the count of the loop of
`parseNext`. -/
theorem parseNextLoop_padding_append {p : FrameParser} {b : List UInt8}
    (hb : paddingLength b = b.length) (ext : List UInt8) (parsed : Nat) :
    p.parseNextLoop e v (b ++ ext) parsed = p.parseNextLoop e v ext (parsed + b.length) := by
  induction b using paddingLength.induct generalizing parsed with
  | case1 b l h ih =>
    obtain ⟨hp, hd⟩ := parse_append_of_ok h ext
    have hl := (Quicvarint.parse_ok_length h).2
    rw [paddingLength_of_padding h] at hb
    rw [parseNextLoop_of_padding hp, hd, ih (by simp only [List.length_drop]; omega),
      List.length_drop, Nat.add_assoc, Nat.add_sub_cancel' hl]
  | case2 b h =>
    rw [paddingLength_of_not_padding h] at hb
    rw [List.length_eq_zero.1 hb.symm]
    rfl

/-- PADDING in front of a buffer leaves the caller's loop as it was: its
first call takes the PADDING with it. -/
theorem drain_padding_append {b₁ : List UInt8} (hb : paddingLength b₁ = b₁.length) (k : Nat)
    (p : FrameParser) (b₂ : List UInt8) :
    drain e v (k + 1) p (b₁ ++ b₂) = drain e v (k + 1) p b₂ := by
  cases b₁ with
  | nil => rfl
  | cons x xs =>
    have hc : p.ParseNext (x :: xs ++ b₂) e v =
        ((p.ParseNext b₂ e v).1, (x :: xs).length + (p.ParseNext b₂ e v).2.1,
          (p.ParseNext b₂ e v).2.2) := by
      simp only [ParseNext, parseNext]
      rw [parseNextLoop_padding_append hb, parseNextLoop_parsed, Nat.zero_add]
    have hnil : p.ParseNext [] e v = (p, 0, none, none) := by
      rw [ParseNext, parseNext, parseNextLoop_nil]
    rcases hr : p.ParseNext b₂ e v with ⟨q, l, frame, _ | err⟩ <;> rw [hr] at hc <;> dsimp only at hc
    · rw [drain_of_ok (by simp) hc, List.drop_append]
      cases b₂ with
      | nil =>
        rw [hnil] at hr
        cases hr
        rw [List.drop_zero, drain_nil]
        rfl
      | cons y ys => rw [drain_of_ok (List.cons_ne_nil y ys) hr]
    · rw [drain_of_error (by simp) hc]
      cases b₂ with
      | nil => rw [hnil] at hr; cases hr
      | cons y ys => rw [drain_of_error (List.cons_ne_nil y ys) hr]

/-- Frames at the head of a buffer are read as they would be alone. A run
that reads `b₁` to its end with no error, none of whose frames runs to the
end of the buffer, followed by a run over `b₂` from the parser it left,
is a run over `b₁ ++ b₂`: the frames of both, in order, and the second's
parser and error. PADDING at the end of `b₁` and at the head of `b₂` is
skipped by one call instead of two. -/
theorem drain_append :
    ∀ (k : Nat) (p : FrameParser) (b₁ : List UInt8) {q₁ : FrameParser} {fs₁ : List Frame},
      drain e v k p b₁ = some (q₁, fs₁, none) → (∀ f ∈ fs₁, f.extendsToEnd = false) →
      ∀ {k₂ : Nat} {b₂ : List UInt8} {q₂ : FrameParser} {fs₂ : List Frame}
        {err : Option TransportError}, drain e v k₂ q₁ b₂ = some (q₂, fs₂, err) →
      drain e v (k + k₂) p (b₁ ++ b₂) = some (q₂, fs₁ ++ fs₂, err)
  | k, p, [], _, _, h, _, k₂, b₂, _, _, _, h₂ => by
    rw [drain_nil] at h
    cases h
    rw [Nat.add_comm]
    exact drain_add k₂ p b₂ h₂ k
  | 0, _, _ :: _, _, _, h, _, _, _, _, _, _, _ => by cases h
  | k + 1, p, x :: xs, q₁, fs₁, h, hfs, k₂, b₂, q₂, fs₂, err, h₂ => by
    obtain ⟨q, l, frame, fs', hr, -, hd, rfl⟩ | ⟨_, _, _, -, -, ⟨⟩⟩ :=
      drain_succ_cases (List.cons_ne_nil x xs) h
    rw [Nat.add_right_comm]
    cases frame with
    | none =>
      obtain ⟨rfl, hpad, rfl⟩ := ParseNext_padding_only hr
      rw [List.drop_length, drain_nil] at hd
      cases hd
      rw [drain_padding_append hpad]
      have := drain_add k₂ _ b₂ h₂ (k + 1)
      rwa [show k₂ + (k + 1) = k + k₂ + 1 by omega] at this
    | some f =>
      have hl := ParseNext_count_le p (x :: xs) e v
      rw [hr] at hl
      have hr' : p.ParseNext (x :: xs ++ b₂) e v = (q, l, some f, none) := by
        rw [← List.take_append_drop l (x :: xs), List.append_assoc,
          ParseNext_take_append hr (hfs f (List.mem_cons_self f _))]
      rw [drain_of_ok (by simp) hr', List.drop_append_of_le_length hl,
        drain_append k q _ hd (fun f' hf' => hfs f' (List.mem_cons_of_mem f hf')) h₂]
      rfl

/-- PING and a PADDING byte, then a PADDING byte and MAX_DATA: alone, the
two PADDING bytes are skipped by two calls, together by one. -/
theorem drain_append_ping_maxData :
    drain .encryption1RTT version1 2 (newFrameParser true true) [0x01, 0x00] =
        some (newFrameParser true true, [.ping], none) ∧
      (∀ f ∈ [Frame.ping], f.extendsToEnd = false) ∧
      drain .encryption1RTT version1 1 (newFrameParser true true) [0x00, 0x10, 0x05] =
        some (newFrameParser true true, [.maxData 5], none) ∧
      drain .encryption1RTT version1 (2 + 1) (newFrameParser true true)
          ([0x01, 0x00] ++ [0x00, 0x10, 0x05]) =
        some (newFrameParser true true, [.ping] ++ [.maxData 5], none) :=
  have hping : (newFrameParser true true).ParseNext [0x01, 0x00] .encryption1RTT version1 =
      (newFrameParser true true, 1, some .ping, none) := by
    rw [ParseNext, parseNext, parseNextLoop_of_type
      (show Quicvarint.parse [0x01, 0x00] = .ok (1, 1) from rfl) (by decide)]
    rfl
  have hpad : (newFrameParser true true).ParseNext [0x00] .encryption1RTT version1 =
      (newFrameParser true true, 1, none, none) := by
    rw [ParseNext, parseNext, parseNextLoop_of_padding (show Quicvarint.parse [0x00] = .ok (0, 1) from rfl),
      show List.drop 1 [(0 : UInt8)] = [] from rfl, parseNextLoop_nil]
  have hmax : (newFrameParser true true).ParseNext [0x00, 0x10, 0x05] .encryption1RTT version1 =
      (newFrameParser true true, 3, some (.maxData 5), none) := by
    rw [ParseNext, parseNext,
      parseNextLoop_of_padding (show Quicvarint.parse [0x00, 0x10, 0x05] = .ok (0, 1) from rfl),
      parseNextLoop_of_type
        (show Quicvarint.parse (List.drop 1 [0x00, 0x10, 0x05]) = .ok (0x10, 1) from rfl) (by decide)]
    rfl
  have h₁ : drain .encryption1RTT version1 2 (newFrameParser true true) [0x01, 0x00] =
      some (newFrameParser true true, [.ping], none) := by
    rw [drain_of_ok (by simp) hping, show List.drop 1 [(0x01 : UInt8), 0x00] = [0x00] from rfl,
      drain_of_ok (by simp) hpad, show List.drop 1 [(0x00 : UInt8)] = [] from rfl, drain_nil]
    rfl
  have h₂ : drain .encryption1RTT version1 1 (newFrameParser true true) [0x00, 0x10, 0x05] =
      some (newFrameParser true true, [.maxData 5], none) := by
    rw [drain_of_ok (by simp) hmax, show List.drop 3 [(0x00 : UInt8), 0x10, 0x05] = [] from rfl,
      drain_nil]
    rfl
  have hf : ∀ f ∈ [Frame.ping], f.extendsToEnd = false := fun f hf => by
    rw [List.mem_singleton.1 hf]; rfl
  ⟨h₁, hf, h₂, drain_append 2 _ _ h₁ hf h₂⟩

/-! ## Reading a prefix of a buffer -/

/-- A prefix of a buffer of nothing but PADDING gives no frame: it is
PADDING, then at most a varint cut short. -/
theorem parseNextLoop_take_of_padding {p : FrameParser} {b : List UInt8}
    (hb : paddingLength b = b.length) (m parsed : Nat) :
    (p.parseNextLoop e v (b.take m) parsed).2.1 = none := by
  induction b using paddingLength.induct generalizing m parsed with
  | case1 b l h ih =>
    have hl := (Quicvarint.parse_ok_length h).2
    rw [paddingLength_of_padding h] at hb
    rcases Nat.lt_or_ge m l with hm | hm
    · exact parseNextLoop_take_of_lt h hm
    obtain ⟨hp, hd⟩ := parse_take_add_append h (m - l) []
    simp only [List.append_nil, Nat.add_sub_cancel' hm] at hp hd
    rw [parseNextLoop_of_padding hp, hd]
    exact ih (by simp only [List.length_drop]; omega) _ _
  | case2 b h =>
    rw [paddingLength_of_not_padding h] at hb
    rw [List.length_eq_zero.1 hb.symm, List.take_nil, parseNextLoop_nil]

/-- A proper prefix of what a call without an error consumed gives no
frame, unless the frame runs to the end of the buffer. -/
theorem ParseNext_take_of_lt {p q : FrameParser} {b : List UInt8} {l m : Nat}
    {frame : Option Frame} (h : p.ParseNext b e v = (q, l, frame, none))
    (hf : ∀ f ∈ frame, f.extendsToEnd = false) (hm : m < l) :
    (p.ParseNext (b.take m) e v).2.2.1 = none := by
  cases frame with
  | none =>
    obtain ⟨-, hpad, -⟩ := ParseNext_padding_only h
    exact parseNextLoop_take_of_padding hpad m 0
  | some f => exact ParseNext_take_no_frame h (hf f rfl) hm

/-- A first call that gives no frame ends the run without one. -/
theorem drain_of_no_frame (k : Nat) {p : FrameParser} {b : List UInt8}
    (h : (p.ParseNext b e v).2.2.1 = none) : ∃ q err, drain e v (k + 1) p b = some (q, [], err) := by
  cases b with
  | nil => exact ⟨p, none, drain_nil _ p⟩
  | cons x xs =>
    rcases hr : p.ParseNext (x :: xs) e v with ⟨q, l, frame, _ | err⟩ <;> rw [hr] at h <;> subst h
    · obtain ⟨-, -, rfl⟩ := ParseNext_padding_only hr
      rw [drain_of_ok (List.cons_ne_nil x xs) hr, List.drop_length, drain_nil]
      exact ⟨q, none, rfl⟩
    · exact ⟨q, some err, drain_of_error (List.cons_ne_nil x xs) hr⟩

/-- A cut buffer yields no frame the whole does not. When a run reads `b`
to its end with no error, and none of its frames runs to the end of the
buffer, the loop over any prefix of `b` returns a prefix of those frames;
a cut inside a frame may end it with an error instead. -/
theorem drain_take :
    ∀ (k : Nat) (p : FrameParser) (b : List UInt8) {q : FrameParser} {fs : List Frame},
      drain e v k p b = some (q, fs, none) → (∀ f ∈ fs, f.extendsToEnd = false) →
      ∀ m, ∃ q' fs' err, drain e v k p (b.take m) = some (q', fs', err) ∧ fs' <+: fs
  | k, p, [], _, _, h, _, m => by
    rw [drain_nil] at h
    cases h
    exact ⟨p, [], none, by rw [List.take_nil, drain_nil], List.nil_prefix⟩
  | 0, _, _ :: _, _, _, h, _, _ => by cases h
  | k + 1, p, x :: xs, q, fs, h, hfs, m => by
    obtain ⟨q₁, l, frame, fs'', hr, -, hd, rfl⟩ | ⟨_, _, _, -, -, ⟨⟩⟩ :=
      drain_succ_cases (List.cons_ne_nil x xs) h
    rcases Nat.lt_or_ge m l with hm | hm
    · obtain ⟨q', err, hq⟩ := drain_of_no_frame k (ParseNext_take_of_lt hr
        (fun f hf => hfs f (List.mem_append_left _ (Option.mem_toList.2 hf))) hm)
      exact ⟨q', [], err, hq, List.nil_prefix⟩
    have hl := ParseNext_count_le p (x :: xs) e v
    rw [hr] at hl
    cases frame with
    | none =>
      obtain ⟨-, -, rfl⟩ := ParseNext_padding_only hr
      exact ⟨q, fs'', none, by rwa [List.take_of_length_le hm], List.prefix_refl _⟩
    | some f =>
      obtain ⟨q', fs', err, hd', hpre⟩ :=
        drain_take k q₁ _ hd (fun f' hf' => hfs f' (List.mem_cons_of_mem f hf')) (m - l)
      have htake : (x :: xs).take m = (x :: xs).take l ++ ((x :: xs).drop l).take (m - l) := by
        rw [← List.take_add, Nat.add_sub_cancel' hm]
      have hr' : p.ParseNext ((x :: xs).take m) e v = (q₁, l, some f, none) := by
        rw [htake]
        exact ParseNext_take_append hr (hfs f (List.mem_cons_self f _)) _
      have hpos : 1 ≤ l := by
        have := ParseNext_count_pos (List.cons_ne_nil x xs)
          (show (p.ParseNext (x :: xs) e v).2.2.2 = none by rw [hr])
        rwa [hr] at this
      refine ⟨q', f :: fs', err, ?_, List.cons_prefix_cons.2 ⟨rfl, hpre⟩⟩
      rw [drain_of_ok (List.ne_nil_of_length_pos (by simp; omega)) hr', htake,
        List.drop_left' (List.length_take_of_le hl), hd']
      rfl

/-- PING and MAX_DATA at 1-RTT: two calls read them. -/
theorem drain_ping_maxData :
    drain .encryption1RTT version1 2 (newFrameParser true true) [0x01, 0x10, 0x05] =
      some (newFrameParser true true, [.ping, .maxData 5], none) := by
  have hping : (newFrameParser true true).ParseNext [0x01, 0x10, 0x05] .encryption1RTT version1 =
      (newFrameParser true true, 1, some .ping, none) := by
    rw [ParseNext, parseNext, parseNextLoop_of_type
      (show Quicvarint.parse [0x01, 0x10, 0x05] = .ok (1, 1) from rfl) (by decide)]
    rfl
  have hmax : (newFrameParser true true).ParseNext [0x10, 0x05] .encryption1RTT version1 =
      (newFrameParser true true, 2, some (.maxData 5), none) := by
    rw [ParseNext, parseNext, parseNextLoop_of_type
      (show Quicvarint.parse [0x10, 0x05] = .ok (0x10, 1) from rfl) (by decide)]
    rfl
  rw [drain_of_ok (by simp) hping, show List.drop 1 [(0x01 : UInt8), 0x10, 0x05] = [0x10, 0x05] from rfl,
    drain_of_ok (by simp) hmax, show List.drop 2 [(0x10 : UInt8), 0x05] = [] from rfl, drain_nil]
  rfl

/-- PING and MAX_DATA, cut inside MAX_DATA's value. -/
theorem drain_take_ping_maxData :
    drain .encryption1RTT version1 2 (newFrameParser true true) [0x01, 0x10, 0x05] =
        some (newFrameParser true true, [.ping, .maxData 5], none) ∧
      (∀ f ∈ [Frame.ping, .maxData 5], f.extendsToEnd = false) ∧
      ∃ q' fs' err, drain .encryption1RTT version1 2 (newFrameParser true true)
          ([0x01, 0x10, 0x05].take 2) = some (q', fs', err) ∧ fs' <+: [.ping, .maxData 5] :=
  have hf : ∀ f ∈ [Frame.ping, .maxData 5], f.extendsToEnd = false := by decide
  ⟨drain_ping_maxData, hf, drain_take 2 _ _ drain_ping_maxData hf 2⟩

/-- A run splits at every frame boundary. When it reads `b` to its end with
no error, and none of its frames runs to the end of the buffer, then for
every `j` some prefix of `b` reads the first `j` frames with no error, and
the parser it leaves reads the other frames from the rest of `b`, ending as
the whole run does. -/
theorem drain_frame_boundary :
    ∀ (k : Nat) (p : FrameParser) (b : List UInt8) {q : FrameParser} {fs : List Frame},
      drain e v k p b = some (q, fs, none) → (∀ f ∈ fs, f.extendsToEnd = false) →
      ∀ j, ∃ m q', drain e v k p (b.take m) = some (q', fs.take j, none) ∧
        drain e v k q' (b.drop m) = some (q, fs.drop j, none)
  | k, p, _, _, _, h, _, 0 => ⟨0, p, by rw [List.take_zero, drain_nil]; rfl, by rwa [List.drop_zero]⟩
  | k, p, [], _, _, h, _, _ + 1 => by
    rw [drain_nil] at h
    cases h
    exact ⟨0, p, drain_nil k p, drain_nil k p⟩
  | 0, _, _ :: _, _, _, h, _, _ + 1 => by cases h
  | k + 1, p, x :: xs, q, fs, h, hfs, j + 1 => by
    obtain ⟨q₁, l, frame, fs', hr, -, hd, rfl⟩ | ⟨_, _, _, -, -, ⟨⟩⟩ :=
      drain_succ_cases (List.cons_ne_nil x xs) h
    cases frame with
    | none =>
      -- a call that read only PADDING read the whole buffer
      obtain ⟨-, -, rfl⟩ := ParseNext_padding_only hr
      rw [List.drop_length, drain_nil] at hd
      cases hd
      exact ⟨0, p, by rw [List.take_zero, drain_nil]; rfl, by rwa [List.drop_zero]⟩
    | some f =>
      obtain ⟨m', q', hd₁, hd₂⟩ :=
        drain_frame_boundary k q₁ _ hd (fun f' hf' => hfs f' (List.mem_cons_of_mem f hf')) j
      have hl := ParseNext_count_le p (x :: xs) e v
      have hpos := ParseNext_count_pos (List.cons_ne_nil x xs)
        (show (p.ParseNext (x :: xs) e v).2.2.2 = none by rw [hr])
      rw [hr] at hl hpos
      dsimp only at hl hpos
      have htake : (x :: xs).take (l + m') = (x :: xs).take l ++ ((x :: xs).drop l).take m' :=
        List.take_add _ _ _
      have hr' : p.ParseNext ((x :: xs).take (l + m')) e v = (q₁, l, some f, none) := by
        rw [htake]
        exact ParseNext_take_append hr (hfs f (List.mem_cons_self f _)) _
      refine ⟨l + m', q', ?_, ?_⟩
      · rw [drain_of_ok (List.ne_nil_of_length_pos (by simp; omega)) hr', htake,
          List.drop_left' (List.length_take_of_le hl), hd₁]
        rfl
      · rw [← List.drop_drop]
        exact drain_add k q' _ hd₂ 1

/-- PING and MAX_DATA, split after PING. -/
theorem drain_frame_boundary_ping_maxData :
    drain .encryption1RTT version1 2 (newFrameParser true true) [0x01, 0x10, 0x05] =
        some (newFrameParser true true, [.ping, .maxData 5], none) ∧
      (∀ f ∈ [Frame.ping, .maxData 5], f.extendsToEnd = false) ∧
      ∃ m q', drain .encryption1RTT version1 2 (newFrameParser true true)
          ([0x01, 0x10, 0x05].take m) = some (q', [Frame.ping, .maxData 5].take 1, none) ∧
        drain .encryption1RTT version1 2 q' ([0x01, 0x10, 0x05].drop m) =
          some (newFrameParser true true, [Frame.ping, .maxData 5].drop 1, none) :=
  have hf : ∀ f ∈ [Frame.ping, .maxData 5], f.extendsToEnd = false := by decide
  ⟨drain_ping_maxData, hf, drain_frame_boundary 2 _ _ drain_ping_maxData hf 1⟩

/-! ## Where a run fails -/

/-- A run that fails is a clean run over the bytes before the failing call,
then that call on the rest. The frames it returned are those the bytes
before the failing call give on their own, and its error and parser are
those of the one call. -/
theorem drain_error_split :
    ∀ (k : Nat) (p : FrameParser) (b : List UInt8) {q : FrameParser} {fs : List Frame}
      {err : TransportError}, drain e v k p b = some (q, fs, some err) →
      ∃ m q', m < b.length ∧ drain e v k p (b.take m) = some (q', fs, none) ∧
        (q'.ParseNext (b.drop m) e v).1 = q ∧ (q'.ParseNext (b.drop m) e v).2.2.2 = some err
  | k, p, [], _, _, _, h => by
    rw [drain_nil] at h
    cases h
  | 0, _, _ :: _, _, _, _, h => by cases h
  | k + 1, p, x :: xs, q, fs, err, h => by
    obtain ⟨q₁, l, frame, fs', hr, -, hd, rfl⟩ | ⟨l, frame, err', hr, rfl, he⟩ :=
      drain_succ_cases (List.cons_ne_nil x xs) h
    · -- the first call read a frame, which does not run to the end: more calls followed
      have hmore : (x :: xs).drop l ≠ [] := by
        intro hnil
        rw [hnil, drain_nil] at hd
        cases hd
      obtain ⟨m', q', hm', hd', hq, herr⟩ := drain_error_split k q₁ _ hd
      have hl := ParseNext_count_le p (x :: xs) e v
      have hl1 := ParseNext_count_pos (List.cons_ne_nil x xs)
        (show (p.ParseNext (x :: xs) e v).2.2.2 = none by rw [hr])
      rw [hr] at hl hl1
      dsimp only at hl hl1
      simp only [List.length_drop] at hm'
      have htake : (x :: xs).take (l + m') = (x :: xs).take l ++ ((x :: xs).drop l).take m' := by
        rw [List.take_add]
      have hr' : p.ParseNext ((x :: xs).take (l + m')) e v = (q₁, l, frame, none) := by
        cases frame with
        | none =>
          obtain ⟨-, -, rfl⟩ := ParseNext_padding_only hr
          exact absurd (List.drop_length _) hmore
        | some f =>
          have hf : f.extendsToEnd = false := by
            cases hx : f.extendsToEnd
            · rfl
            · exact absurd (by rw [(ParseNext_accepted hr).2.2.1 hx, List.drop_length]) hmore
          rw [htake]
          exact ParseNext_take_append hr hf _
      have hne : (x :: xs).take (l + m') ≠ [] := by
        obtain ⟨j, hj⟩ : ∃ j, l + m' = j + 1 := ⟨l + m' - 1, by omega⟩
        rw [hj, List.take_succ_cons]
        exact List.cons_ne_nil _ _
      refine ⟨l + m', q', by omega, ?_, ?_, ?_⟩
      · rw [drain_of_ok hne hr',
          htake, List.drop_left' (List.length_take_of_le hl), hd']
        rfl
      · rwa [← List.drop_drop]
      · rwa [← List.drop_drop]
    · -- the first call failed
      cases he
      exact ⟨0, p, by simp, by rw [List.take_zero, drain_nil], by rw [List.drop_zero, hr],
        by rw [List.drop_zero, hr]⟩

/-- PING, then the code `0x1f`, which is not in the table: the run fails
after one frame, the one `[0x01]` gives alone. -/
theorem drain_error_split_unknown :
    drain .encryption1RTT version1 2 (newFrameParser true true) [0x01, 0x1f] =
        some (newFrameParser true true, [.ping], some
          { frameType := 0x1f, errorCode := frameEncodingError, errorMessage := "unknown frame type" }) ∧
      ∃ m q', m < [(0x01 : UInt8), 0x1f].length ∧
        drain .encryption1RTT version1 2 (newFrameParser true true) ([0x01, 0x1f].take m) =
          some (q', [.ping], none) ∧
        (q'.ParseNext ([0x01, 0x1f].drop m) .encryption1RTT version1).1 = newFrameParser true true ∧
        (q'.ParseNext ([0x01, 0x1f].drop m) .encryption1RTT version1).2.2.2 = some
          { frameType := 0x1f, errorCode := frameEncodingError, errorMessage := "unknown frame type" } :=
  have hping : (newFrameParser true true).ParseNext [0x01, 0x1f] .encryption1RTT version1 =
      (newFrameParser true true, 1, some .ping, none) := by
    rw [ParseNext, parseNext, parseNextLoop_of_type
      (show Quicvarint.parse [0x01, 0x1f] = .ok (1, 1) from rfl) (by decide)]
    rfl
  have hbad : (newFrameParser true true).ParseNext [0x1f] .encryption1RTT version1 =
      (newFrameParser true true, 1, none, some
        { frameType := 0x1f, errorCode := frameEncodingError, errorMessage := "unknown frame type" }) := by
    rw [ParseNext, parseNext, parseNextLoop_of_type
      (show Quicvarint.parse [0x1f] = .ok (0x1f, 1) from rfl) (by decide)]
    rfl
  have h : drain .encryption1RTT version1 2 (newFrameParser true true) [0x01, 0x1f] =
      some (newFrameParser true true, [.ping], some
        { frameType := 0x1f, errorCode := frameEncodingError, errorMessage := "unknown frame type" }) := by
    rw [drain_of_ok (by simp) hping, show List.drop 1 [(0x01 : UInt8), 0x1f] = [0x1f] from rfl,
      drain_of_error (by simp) hbad]
    rfl
  ⟨h, drain_error_split 2 _ _ h⟩

end FrameParser
end QuicWire
