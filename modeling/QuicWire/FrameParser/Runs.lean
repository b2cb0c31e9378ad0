import QuicWire.FrameParser.Split

/-!
# QuicWire.FrameParser.Runs

The parser as a state machine (spec §4.4, "State machine"): its state is its
configuration and the ACK frame it reuses, and each method is a transition.
`SetAckDelayExponent` is the only call that changes the configuration; the
decoders change only the ACK frame.

`ParseFrame` and `ParseAckFrame` reset the ACK frame before they decode into
it, so what any call returns depends on the state only through the extension
toggles and the ACK delay exponent in force at the call's level (`Agree`).
Hence two runs from `NewFrameParser` with the same toggles and the same
exponent in force return the same results from then on
(`run_results_eq_of_effective_exponent`), whatever ACK frames the earlier
calls left behind.
-/

namespace QuicWire
namespace FrameParser

/-! ## Results that depend only on the configuration -/

/-- Two parsers the calls at level `e` cannot tell apart: the same toggles
and the same ACK delay exponent in force at `e`. -/
structure Agree (p q : FrameParser) (e : EncryptionLevel) : Prop where
  supportsDatagrams : p.supportsDatagrams = q.supportsDatagrams
  supportsResetStreamAt : p.supportsResetStreamAt = q.supportsResetStreamAt
  ackDelayExponentAt : p.ackDelayExponentAt e = q.ackDelayExponentAt e

section
variable {p q : FrameParser} {e : EncryptionLevel} {v : Version}

theorem parseFrameSwitch_agree (h : Agree p q e) (b : List UInt8) (t : Nat) :
    (p.parseFrameSwitch b t e v).2 = (q.parseFrameSwitch b t e v).2 := by
  unfold parseFrameSwitch
  split
  · rfl
  · split <;> simp only [AckFrame.reset_eq, h.ackDelayExponentAt, h.supportsDatagrams,
      h.supportsResetStreamAt] <;> split <;> rfl

theorem parseFrame_agree (h : Agree p q e) (b : List UInt8) (t : Nat) :
    (p.parseFrame b t e v).2 = (q.parseFrame b t e v).2 := by
  have hs := @parseFrameSwitch_agree p q e v h b t
  unfold parseFrame
  generalize p.parseFrameSwitch b t e v = x at hs ⊢
  generalize q.parseFrameSwitch b t e v = y at hs ⊢
  obtain ⟨p', r⟩ := x
  obtain ⟨q', r'⟩ := y
  cases hs
  rcases r with err | ⟨f, l⟩ <;> cases FrameType.isAllowedAtEncLevel t e <;> rfl

theorem parseNext_agree (h : Agree p q e) (b : List UInt8) :
    (p.parseNext b e v).2 = (q.parseNext b e v).2 := by
  rw [parseNext_after_padding, parseNext_after_padding]
  rcases after_padding_cases b with h0 | ⟨hne, err, herr⟩ | ⟨t, l, hp, ht⟩
  · rw [List.length_eq_zero.1 h0, parseNextLoop_nil, parseNextLoop_nil]
  · rw [parseNextLoop_of_error hne herr, parseNextLoop_of_error hne herr]
  rw [parseNextLoop_of_type hp ht, parseNextLoop_of_type hp ht]
  have hf := @parseFrame_agree p q e v h ((b.drop (paddingLength b)).drop l) t
  generalize p.parseFrame ((b.drop (paddingLength b)).drop l) t e v = x at hf ⊢
  generalize q.parseFrame ((b.drop (paddingLength b)).drop l) t e v = y at hf ⊢
  obtain ⟨p', r⟩ := x
  obtain ⟨q', r'⟩ := y
  cases hf
  rcases r with ⟨f, l', _ | err⟩ <;> rfl

/-- `ParseNext` returns the same count, frame and error on parsers that
agree at the level. -/
theorem ParseNext_agree (h : Agree p q e) (b : List UInt8) :
    (p.ParseNext b e v).2 = (q.ParseNext b e v).2 := by
  have := @parseNext_agree p q e v h b
  rw [ParseNext_eq, ParseNext_eq]
  simp only [Prod.ext_iff] at this ⊢
  exact ⟨this.2.1, this.1, this.2.2⟩

/-- The `ParseAckFrame` method returns the same frame, count and error on
parsers that agree at the level. -/
theorem parseAckFrame_agree (h : Agree p q e) (t : Nat) (b : List UInt8) :
    (p.parseAckFrame t b e v).2 = (q.parseAckFrame t b e v).2 := by
  simp only [FrameParser.parseAckFrame, AckFrame.reset_eq, h.ackDelayExponentAt]

end

/-! ## Runs -/

/-- A call of one of the parser's methods, with its arguments. -/
inductive Call
  | setAckDelayExponent (exp : UInt8)
  | parseNext (b : List UInt8) (encLevel : EncryptionLevel) (v : Version)
  | parseFrame (b : List UInt8) (frameTyp : Nat) (encLevel : EncryptionLevel) (v : Version)
  | parseType (b : List UInt8) (encLevel : EncryptionLevel)
  | parseLessCommonFrame (frameType : Nat) (data : List UInt8) (v : Version)
  | parseAckFrame (frameType : Nat) (data : List UInt8) (encLevel : EncryptionLevel) (v : Version)
  | parseDatagramFrame (frameType : Nat) (data : List UInt8) (v : Version)
deriving DecidableEq, Repr

/-- The parser after a call: what the method leaves in `*FrameParser`. -/
def Call.apply (p : FrameParser) : Call → FrameParser
  | .setAckDelayExponent exp => p.setAckDelayExponent exp
  | .parseNext b encLevel v => (p.ParseNext b encLevel v).1
  | .parseFrame b frameTyp encLevel v => (p.parseFrame b frameTyp encLevel v).1
  | .parseAckFrame frameType data encLevel v => (p.parseAckFrame frameType data encLevel v).1
  | .parseType .. | .parseLessCommonFrame .. | .parseDatagramFrame .. => p

/-- The parser after a run of calls. -/
def run (p : FrameParser) (calls : List Call) : FrameParser :=
  calls.foldl Call.apply p

@[simp] theorem run_nil (p : FrameParser) : p.run [] = p := rfl

@[simp] theorem run_cons (p : FrameParser) (c : Call) (calls : List Call) :
    p.run (c :: calls) = (c.apply p).run calls := rfl

/-- The value passed to the call if it is `SetAckDelayExponent`. -/
def Call.ackDelayExponent? : Call → Option UInt8
  | .setAckDelayExponent exp => some exp
  | _ => none

/-- The value passed to the last `SetAckDelayExponent` of a run. -/
def lastAckDelayExponent : List Call → Option UInt8
  | [] => none
  | c :: calls => (lastAckDelayExponent calls).orElse fun _ => c.ackDelayExponent?

/-- The configuration of a parser: everything but the ACK frame. -/
def config (p : FrameParser) : UInt8 × Bool × Bool :=
  (p.ackDelayExponent, p.supportsDatagrams, p.supportsResetStreamAt)

/-- The switch of `ParseFrame` writes only the ACK frame. -/
theorem config_parseFrameSwitch (p : FrameParser) (b : List UInt8) (t : Nat)
    (e : EncryptionLevel) (v : Version) : (p.parseFrameSwitch b t e v).1.config = p.config := by
  unfold parseFrameSwitch
  split
  · rfl
  · split <;> first | rfl | split <;> rfl

theorem config_parseFrame (p : FrameParser) (b : List UInt8) (t : Nat) (e : EncryptionLevel)
    (v : Version) : (p.parseFrame b t e v).1.config = p.config := by
  have := config_parseFrameSwitch p b t e v
  unfold parseFrame
  generalize p.parseFrameSwitch b t e v = x at this ⊢
  rcases x with ⟨p', err | ⟨f, l⟩⟩
  · exact this
  · dsimp only; split <;> exact this

theorem config_parseNext (p : FrameParser) (b : List UInt8) (e : EncryptionLevel) (v : Version) :
    (p.ParseNext b e v).1.config = p.config := by
  rw [ParseNext_eq, parseNext_after_padding]
  rcases after_padding_cases b with h0 | ⟨hne, err, herr⟩ | ⟨t, l, hp, ht⟩
  · rw [List.length_eq_zero.1 h0, parseNextLoop_nil]
  · rw [parseNextLoop_of_error hne herr]
  rw [parseNextLoop_of_type hp ht]
  have := config_parseFrame p ((b.drop (paddingLength b)).drop l) t e v
  generalize p.parseFrame ((b.drop (paddingLength b)).drop l) t e v = x at this ⊢
  rcases x with ⟨p', f, l', _ | err⟩ <;> exact this

/-- One call: `SetAckDelayExponent` sets the exponent, and no call changes
anything else of the configuration. -/
theorem config_apply (p : FrameParser) (c : Call) :
    (c.apply p).config =
      (c.ackDelayExponent?.getD p.ackDelayExponent, p.supportsDatagrams, p.supportsResetStreamAt) := by
  cases c with
  | setAckDelayExponent exp => rfl
  | parseNext b e v => exact config_parseNext p b e v
  | parseFrame b t e v => exact config_parseFrame p b t e v
  | parseAckFrame t b e v => rfl
  | parseType | parseLessCommonFrame | parseDatagramFrame => rfl

/-- A whole run: the exponent is the last one set, the toggles are those the
parser started with. -/
theorem config_run (p : FrameParser) (calls : List Call) :
    (p.run calls).config =
      ((lastAckDelayExponent calls).getD p.ackDelayExponent, p.supportsDatagrams,
        p.supportsResetStreamAt) := by
  induction calls generalizing p with
  | nil => rfl
  | cons c calls ih =>
    have hc := config_apply p c
    simp only [config, Prod.mk.injEq] at hc
    rw [run_cons, ih, hc.1, hc.2.1, hc.2.2, lastAckDelayExponent]
    cases lastAckDelayExponent calls <;> rfl

/-! ## Two runs -/

/-- Modelled from the spec: the ACK delay exponent a run from
`NewFrameParser` leaves in force at `encLevel` (§4.4, §8): the protocol
default below 1-RTT, and at 1-RTT the last value passed to
`SetAckDelayExponent`, zero if there was none. -/
def effectiveAckDelayExponent (calls : List Call) (encLevel : EncryptionLevel) : UInt8 :=
  if encLevel ≠ .encryption1RTT then defaultAckDelayExponent
  else (lastAckDelayExponent calls).getD 0

/-- After a run from `NewFrameParser`, `ParseFrame` and `ParseAckFrame` decode
with the exponent the run leaves in force. -/
theorem ackDelayExponentAt_run (sd sr : Bool) (calls : List Call) (e : EncryptionLevel) :
    ((newFrameParser sd sr).run calls).ackDelayExponentAt e = effectiveAckDelayExponent calls e := by
  have h := config_run (newFrameParser sd sr) calls
  simp only [config, Prod.mk.injEq] at h
  simp only [ackDelayExponentAt, effectiveAckDelayExponent, h.1]
  rfl

/-- Two runs from `NewFrameParser` with the same toggles that leave the same
exponent in force at `e` agree at `e`. -/
theorem agree_run {sd sr : Bool} {calls₁ calls₂ : List Call} {e : EncryptionLevel}
    (h : effectiveAckDelayExponent calls₁ e = effectiveAckDelayExponent calls₂ e) :
    Agree ((newFrameParser sd sr).run calls₁) ((newFrameParser sd sr).run calls₂) e := by
  have h₁ := config_run (newFrameParser sd sr) calls₁
  have h₂ := config_run (newFrameParser sd sr) calls₂
  simp only [config, Prod.mk.injEq] at h₁ h₂
  exact ⟨h₁.2.1.trans h₂.2.1.symm, h₁.2.2.trans h₂.2.2.symm,
    by rw [ackDelayExponentAt_run, ackDelayExponentAt_run, h]⟩

/-- Whatever two runs of calls came before, on parsers with the same toggles
that leave the same ACK delay exponent in force at `e`, `ParseNext` and the
`ParseAckFrame` method return the same count, the same frame (an ACK frame
field for field) and the same error. -/
theorem run_results_eq_of_effective_exponent (sd sr : Bool) (calls₁ calls₂ : List Call)
    (e : EncryptionLevel) (h : effectiveAckDelayExponent calls₁ e = effectiveAckDelayExponent calls₂ e)
    (b : List UInt8) (v : Version) (t : Nat) :
    (((newFrameParser sd sr).run calls₁).ParseNext b e v).2 =
      (((newFrameParser sd sr).run calls₂).ParseNext b e v).2 ∧
    (((newFrameParser sd sr).run calls₁).parseAckFrame t b e v).2 =
      (((newFrameParser sd sr).run calls₂).parseAckFrame t b e v).2 :=
  ⟨ParseNext_agree (agree_run h) b, parseAckFrame_agree (agree_run h) t b⟩

/-- Below 1-RTT a configured exponent is not in force: an ACK after
`SetAckDelayExponent(5)` decodes as on a new parser. -/
theorem run_results_eq_of_effective_exponent_initial :
    effectiveAckDelayExponent [.setAckDelayExponent 5] .encryptionInitial =
      effectiveAckDelayExponent [] .encryptionInitial ∧
    (((newFrameParser true true).run [.setAckDelayExponent 5]).ParseNext [0x05, 0x01, 0x00, 0x00]
        .encryptionInitial version1).2 =
      (((newFrameParser true true).run []).ParseNext [0x05, 0x01, 0x00, 0x00]
        .encryptionInitial version1).2 ∧
    (((newFrameParser true true).run [.setAckDelayExponent 5]).parseAckFrame ackFrameType
        [0x05, 0x01, 0x00, 0x00] .encryptionInitial version1).2 =
      (((newFrameParser true true).run []).parseAckFrame ackFrameType [0x05, 0x01, 0x00, 0x00]
        .encryptionInitial version1).2 :=
  have h : effectiveAckDelayExponent [.setAckDelayExponent 5] .encryptionInitial =
      effectiveAckDelayExponent [] .encryptionInitial := rfl
  ⟨h, run_results_eq_of_effective_exponent true true _ _ _ h _ _ _⟩

end FrameParser
end QuicWire
