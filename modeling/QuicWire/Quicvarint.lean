import Mathlib.Tactic.Ring
import QuicWire.Protocol

/-!
# QuicWire.Quicvarint

The variable-length integer codec every frame field goes through (spec §4.1):
the two high bits of the first byte select an encoding of 1, 2, 4 or 8
bytes, and the remaining bits, read big-endian, are the value.

`quicvarint` is not part of the source, so `parse`, `append` and `len` are
modelled from the spec. The results the parser relies on are the contract
lemmas at the end: a successful parse consumes between one byte and the
whole buffer (`parse_ok_length`), a failed one says why (`parse_error`),
the PADDING byte reads as zero (`parse_zero_cons`), and the minimal encoding
reads back (`parse_append`).
-/

namespace QuicWire
namespace Quicvarint

/-! ## Parsing -/

/-- One step of reading a big-endian number. -/
def shiftIn (acc : Nat) (x : UInt8) : Nat := acc * 256 + x.toNat

/-- Modelled from the spec: `quicvarint.Parse` (§4.1). It returns the value
and the number of bytes consumed; "end of input" (`io.EOF`) on an empty
buffer, "truncated" (`io.ErrUnexpectedEOF`) when the buffer is shorter than
the width the first byte selects. -/
def parse : List UInt8 → Except Error (Nat × Nat)
  | [] => .error .eof
  | first :: rest =>
    let l := 2 ^ (first.toNat / 64)
    if rest.length < l - 1 then .error .unexpectedEOF
    else .ok ((rest.take (l - 1)).foldl shiftIn (first.toNat % 64), l)

/-! ## Encoding -/

/-- The low `k` bytes of `n`, most significant first. -/
def bigEndian : Nat → Nat → List UInt8
  | 0, _ => []
  | k + 1, n => UInt8.ofNat (n / 256 ^ k) :: bigEndian k n

/-- The encoding of `i` in `k + 1` bytes whose width tag is `tag`. -/
def encoding (tag k i : Nat) : List UInt8 :=
  UInt8.ofNat (tag * 64 + i / 256 ^ k) :: bigEndian k i

/-- Modelled from the spec: `quicvarint.Append`, which appends the minimal
encoding of `i`. Values of `2 ^ 62` and more make it panic; the model is
only used below that bound. -/
def append (b : List UInt8) (i : Nat) : List UInt8 :=
  if i < 2 ^ 6 then b ++ encoding 0 0 i
  else if i < 2 ^ 14 then b ++ encoding 1 1 i
  else if i < 2 ^ 30 then b ++ encoding 2 3 i
  else b ++ encoding 3 7 i

/-- Modelled from the spec: `quicvarint.Len`, the length of the minimal
encoding. -/
def len (i : Nat) : Nat :=
  if i < 2 ^ 6 then 1 else if i < 2 ^ 14 then 2 else if i < 2 ^ 30 then 4 else 8

theorem length_bigEndian (k n : Nat) : (bigEndian k n).length = k := by
  induction k with
  | zero => rfl
  | succ k ih => simp [bigEndian, ih]

/-- Reading back `k` big-endian bytes of `n` shifts them in below `acc`. -/
theorem foldl_shiftIn_bigEndian (k n acc : Nat) :
    (bigEndian k n).foldl shiftIn acc = acc * 256 ^ k + n % 256 ^ k := by
  induction k generalizing acc with
  | zero => simp [bigEndian, Nat.mod_one]
  | succ k ih =>
    rw [bigEndian, List.foldl_cons, ih, Nat.mod_pow_succ, pow_succ, shiftIn,
      show (UInt8.ofNat (n / 256 ^ k)).toNat = n / 256 ^ k % 256 from rfl]
    ring

/-- `append` only ever appends. -/
theorem append_eq (b : List UInt8) (i : Nat) : append b i = b ++ append [] i := by
  unfold append; split_ifs <;> rfl

theorem length_append_nil (i : Nat) : (append [] i).length = len i := by
  unfold append len; split_ifs <;> simp [encoding, length_bigEndian]

/-! ## The contract the parser relies on -/

/-- An encoding of width `k + 1` whose value fits it reads back. -/
theorem parse_encoding {tag k i : Nat} (rest : List UInt8) (htag : 2 ^ tag = k + 1)
    (hsmall : tag < 4) (hi : i < 64 * 256 ^ k) :
    parse (encoding tag k i ++ rest) = .ok (i, k + 1) := by
  have hq : i / 256 ^ k < 64 := Nat.div_lt_of_lt_mul (by rwa [Nat.mul_comm] at hi)
  have hbyte : ∀ q, q < 64 → (UInt8.ofNat (tag * 64 + q)).toNat = tag * 64 + q ∧
      (tag * 64 + q) / 64 = tag ∧ (tag * 64 + q) % 64 = q :=
    fun q hq => ⟨Nat.mod_eq_of_lt (by omega), by omega, by omega⟩
  obtain ⟨hfirst, hdiv, hmod⟩ := hbyte _ hq
  rw [encoding, List.cons_append, parse]
  simp only [hfirst, hdiv, hmod, htag, Nat.add_sub_cancel, List.length_append, length_bigEndian]
  rw [if_neg (by omega), List.take_left' (length_bigEndian k i), foldl_shiftIn_bigEndian,
    Nat.div_add_mod']

/-- The minimal encoding of a value in the varint range reads back, whatever
follows it. -/
theorem parse_append {i : Nat} (rest : List UInt8) (hi : i < 2 ^ 62) :
    parse (append [] i ++ rest) = .ok (i, len i) := by
  unfold append len
  split_ifs
  · exact parse_encoding rest rfl (by decide) (by omega)
  · exact parse_encoding rest rfl (by decide) (by omega)
  · exact parse_encoding rest rfl (by decide) (by omega)
  · exact parse_encoding rest rfl (by decide) (by omega)

/-- A value below 64 is its own one-byte encoding. -/
theorem append_nil_of_lt {i : Nat} (hi : i < 64) : append [] i = [UInt8.ofNat i] := by
  rw [append, if_pos (by omega)]
  simp [encoding, bigEndian]

/-- The PADDING byte reads as a zero that takes one byte. -/
theorem parse_zero_cons (b : List UInt8) : parse (0 :: b) = .ok (0, 1) := by
  simp [parse, show (0 : UInt8).toNat = 0 from rfl]

/-- A successful parse consumes at least one byte and no more than the
buffer holds. -/
theorem parse_ok_length {b : List UInt8} {v l : Nat} (h : parse b = .ok (v, l)) :
    0 < l ∧ l ≤ b.length := by
  cases b with
  | nil => simp [parse] at h
  | cons first rest =>
    simp only [parse] at h
    split at h
    · cases h
    · cases h
      exact ⟨Nat.pos_pow_of_pos _ (by decide), by simp only [List.length_cons]; omega⟩

/-- A successful parse looks at no byte past the ones it consumed. -/
theorem parse_take_append {b : List UInt8} {v l : Nat} (h : parse b = .ok (v, l))
    (ext : List UInt8) : parse (b.take l ++ ext) = .ok (v, l) := by
  cases b with
  | nil => simp [parse] at h
  | cons first rest =>
    simp only [parse] at h
    split at h
    · cases h
    · rename_i hlen
      cases h
      have hl : 2 ^ (first.toNat / 64) = 2 ^ (first.toNat / 64) - 1 + 1 :=
        (Nat.sub_add_cancel (Nat.one_le_two_pow)).symm
      rw [hl, List.take_succ_cons, List.cons_append, parse, ← hl]
      have ht : (rest.take (2 ^ (first.toNat / 64) - 1)).length = 2 ^ (first.toNat / 64) - 1 :=
        List.length_take_of_le (by omega)
      rw [if_neg (by simp only [List.length_append, ht]; omega), List.take_left' ht]

/-- Reading `xs` big-endian after `acc` stays below `acc + 1` shifted by
their length. -/
theorem foldl_shiftIn_lt (xs : List UInt8) (acc : Nat) :
    xs.foldl shiftIn acc < (acc + 1) * 256 ^ xs.length := by
  induction xs generalizing acc with
  | nil => simp
  | cons x xs ih =>
    have hx : x.toNat < 256 := x.toNat_lt_size
    calc (x :: xs).foldl shiftIn acc = xs.foldl shiftIn (acc * 256 + x.toNat) := rfl
      _ < (acc * 256 + x.toNat + 1) * 256 ^ xs.length := ih _
      _ ≤ (acc * 256 + 256) * 256 ^ xs.length := Nat.mul_le_mul_right _ (by omega)
      _ = (acc + 1) * 256 ^ (x :: xs).length := by rw [List.length_cons, Nat.pow_succ]; ring

/-- Every value a parse returns is in the varint range. -/
theorem parse_lt {b : List UInt8} {v l : Nat} (h : parse b = .ok (v, l)) : v < 2 ^ 62 := by
  cases b with
  | nil => simp [parse] at h
  | cons first rest =>
    simp only [parse] at h
    split at h
    · cases h
    · cases h
      have hf : first.toNat < 256 := first.toNat_lt_size
      have hk : (rest.take (2 ^ (first.toNat / 64) - 1)).length ≤ 7 := by
        have : 2 ^ (first.toNat / 64) ≤ 2 ^ 3 := Nat.pow_le_pow_right (by decide) (by omega)
        have := List.length_take_le (2 ^ (first.toNat / 64) - 1) rest
        omega
      calc _ < (first.toNat % 64 + 1) * 256 ^ (rest.take (2 ^ (first.toNat / 64) - 1)).length :=
            foldl_shiftIn_lt _ _
        _ ≤ 64 * 256 ^ 7 := Nat.mul_le_mul (by omega) (Nat.pow_le_pow_right (by decide) hk)
        _ = 2 ^ 62 := by decide

/-- A parse consumes at least as many bytes as the minimal encoding of
the value it returns: `Append` never writes a longer varint than one `Parse`
accepts. -/
theorem len_le_of_parse {b : List UInt8} {v l : Nat} (h : parse b = .ok (v, l)) : len v ≤ l := by
  cases b with
  | nil => simp [parse] at h
  | cons first rest =>
    simp only [parse] at h
    split at h
    · cases h
    · cases h
      have hf : first.toNat < 256 := first.toNat_lt_size
      have ht : (rest.take (2 ^ (first.toNat / 64) - 1)).length = 2 ^ (first.toNat / 64) - 1 :=
        List.length_take_of_le (by omega)
      have hv := foldl_shiftIn_lt (rest.take (2 ^ (first.toNat / 64) - 1)) (first.toNat % 64)
      rw [ht] at hv
      replace hv := hv.trans_le (Nat.mul_le_mul_right _ (show first.toNat % 64 + 1 ≤ 64 by omega))
      have hw : first.toNat / 64 < 4 := by omega
      generalize first.toNat / 64 = w at hv hw ⊢
      generalize List.foldl _ _ _ = x at hv ⊢
      unfold len
      rcases w with _ | _ | _ | _ | w
      all_goals first | omega | (norm_num at hv ⊢; split_ifs <;> omega)

/-- A parse fails with `io.EOF` on an empty buffer and with
`io.ErrUnexpectedEOF` on a truncated one. -/
theorem parse_error {b : List UInt8} {e : Error} (h : parse b = .error e) :
    (b = [] ∧ e = .eof) ∨ (b ≠ [] ∧ e = .unexpectedEOF) := by
  cases b with
  | nil => simp only [parse, Except.error.injEq] at h; exact .inl ⟨rfl, h.symm⟩
  | cons first rest =>
    simp only [parse] at h
    split at h
    · cases h; exact .inr ⟨List.cons_ne_nil _ _, rfl⟩
    · cases h

end Quicvarint
end QuicWire
