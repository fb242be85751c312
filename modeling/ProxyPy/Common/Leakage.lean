import ProxyPy.Common.Double

/-!
# The leaky bucket of `proxy/common/leakage.py`

`Leakage` is the per-direction byte budget of a connection: `rate` tokens a
second, refilled from the clock on every `consume` and topped back up by
`release` when a reserved read or write came up short. The clock is
`time.time()`, read by `__init__` and by `_refill`; here it is the argument
`now` of `Leakage.init`, `Leakage.refill` and `Leakage.consume`, so that a run
of the bucket is a list of calls each carrying its own reading. A reading is
a rational (every double is one); `now - self.last_check` and
`elapsed * self.rate` are float operations and round to the nearest double
(`Double.round`), and `int()` on a float truncates toward zero (`int`): the
refill adds `credit`.

* `int_eq_floor`, `int_eq_ceil` — `int` is `⌊·⌋` on non-negative and `⌈·⌉`
  on non-positive arguments;
* `credit_le`, `rate_le_credit` — with the clock forward and `rate ≤ 2 ^ 53`,
  the credit is at most the exact `elapsed * rate` and `2 ^ -53` of it twice
  over, and a second or more credits at least `rate`;
* `Leakage.Valid` — the data model's invariant `0 ≤ tokens ≤ rate`, kept by
  every `consume` whatever the clock reads (`consume_valid`) and by every
  `release` (`release_valid`);
* `consume_allowed_nonneg`, `consume_allowed_le` — the grant lies in
  `0 .. min amount rate` once the clock has not stepped back;
* reserve-then-return: `consume` followed by the release of the unused part is
  `consume` of the part used.
-/

namespace ProxyPy.Common

/-- Python's `int()` on a float: truncation toward zero. -/
def int (x : ℚ) : ℤ := x.num.tdiv x.den

theorem int_eq_floor {x : ℚ} (nonneg : 0 ≤ x) : int x = ⌊x⌋ := by
  rw [Rat.floor_def, int, Int.tdiv_eq_ediv (Rat.num_nonneg.mpr nonneg) (by positivity)]

theorem int_eq_ceil {x : ℚ} (nonpos : x ≤ 0) : int x = ⌈x⌉ := by
  have negated := int_eq_floor (neg_nonneg.mpr nonpos)
  rw [int, Rat.num_neg_eq_neg_num, Rat.den_neg_eq_den, Int.neg_tdiv, Int.floor_neg] at negated
  exact neg_inj.mp negated

@[simp] theorem int_intCast (z : ℤ) : int z = z := by simp [int]

@[simp] theorem int_zero : int 0 = 0 := int_intCast 0

theorem int_nonneg {x : ℚ} (nonneg : 0 ≤ x) : 0 ≤ int x := by
  rw [int_eq_floor nonneg]
  exact Int.floor_nonneg.mpr nonneg

theorem int_le {x : ℚ} (nonneg : 0 ≤ x) : (int x : ℚ) ≤ x := by
  rw [int_eq_floor nonneg]
  exact Int.floor_le x

/-- `int(x)` of a non-negative double below one half is `0`. -/
theorem int_round_eq_zero {y : ℚ} (nonneg : 0 ≤ y) (small : y < 1 / 2) :
    int (Double.round y) = 0 := by
  have below : Double.round y ≤ 1 / 2 := by
    have kept := Double.round_mono (show y ≤ 2 ^ (-1 : ℤ) by norm_num; linarith)
    rwa [Double.round_two_zpow (by norm_num), show (2 : ℚ) ^ (-1 : ℤ) = 1 / 2 by norm_num] at kept
  rw [int_eq_floor (Double.round_nonneg nonneg)]
  exact Int.floor_eq_zero_iff.mpr ⟨Double.round_nonneg nonneg, by linarith⟩

/-- `int()` of a non-negative product rounded to a double is at most the exact
product and `2 ^ -53` of it. -/
theorem int_round_le {y : ℚ} (nonneg : 0 ≤ y) :
    (int (Double.round y) : ℚ) ≤ y * (1 + 1 / 2 ^ 53) := by
  rcases lt_or_le y (1 / 2) with small | large
  · rw [int_round_eq_zero nonneg small, Int.cast_zero]
    positivity
  · exact (int_le (Double.round_nonneg nonneg)).trans
      (Double.round_le_mul (le_trans (by norm_num) large))

/-- `int(elapsed * self.rate)` in `_refill`, `elapsed = now - self.last_check`:
both float operations round to the nearest double (the `int` rate too), then
`int()` truncates. -/
def credit (rate : ℤ) (lastCheck now : ℚ) : ℤ :=
  int (Double.round (Double.round (now - lastCheck) * Double.round rate))

section Credit

variable {rate : ℤ} {lastCheck now : ℚ}

theorem credit_same_reading (rate : ℤ) (now : ℚ) : credit rate now now = 0 := by
  simp [credit]

theorem credit_nonneg (rateNonneg : 0 ≤ rate) (forward : lastCheck ≤ now) :
    0 ≤ credit rate lastCheck now :=
  int_nonneg (Double.round_nonneg (mul_nonneg (Double.round_nonneg (sub_nonneg.mpr forward))
    (Double.round_nonneg (Int.cast_nonneg.mpr rateNonneg))))

/-- A rate up to `2 ^ 53` is a double. -/
theorem round_rate (rateNonneg : 0 ≤ rate) (rateLe : rate ≤ 2 ^ 53) :
    Double.round rate = rate :=
  Double.round_intCast (by rw [abs_of_nonneg rateNonneg]; exact rateLe)

/-- With the clock forward and `rate ≤ 2 ^ 53`, the credit is at most the
exact `elapsed * rate` and `2 ^ -53` of it twice over. -/
theorem credit_le (rateNonneg : 0 ≤ rate) (rateLe : rate ≤ 2 ^ 53) (forward : lastCheck ≤ now) :
    (credit rate lastCheck now : ℚ) ≤ rate * (now - lastCheck) * (1 + 1 / 2 ^ 53) ^ 2 := by
  have rateCast : (0 : ℚ) ≤ rate := Int.cast_nonneg.mpr rateNonneg
  have elapsed : 0 ≤ now - lastCheck := sub_nonneg.mpr forward
  have roundedElapsed := Double.round_nonneg elapsed
  have product := mul_nonneg roundedElapsed rateCast
  have exact : 0 ≤ rate * (now - lastCheck) * (1 + 1 / 2 ^ 53) ^ 2 := by positivity
  unfold credit
  rw [round_rate rateNonneg rateLe]
  rcases lt_or_le (now - lastCheck) (2 ^ (-1022 : ℤ)) with tiny | normal
  · -- a subnormal elapsed time makes a product too small to credit anything
    have below : Double.round (now - lastCheck) ≤ 2 ^ (-1022 : ℤ) := by
      have kept := Double.round_mono tiny.le
      rwa [Double.round_two_zpow le_rfl] at kept
    have small : Double.round (now - lastCheck) * rate < 1 / 2 :=
      calc Double.round (now - lastCheck) * rate ≤ 2 ^ (-1022 : ℤ) * 2 ^ 53 :=
            mul_le_mul below (by exact_mod_cast rateLe) rateCast (by positivity)
        _ < 1 / 2 := by norm_num
    rw [int_round_eq_zero product small, Int.cast_zero]
    exact exact
  · calc (int (Double.round (Double.round (now - lastCheck) * rate)) : ℚ)
        ≤ Double.round (now - lastCheck) * rate * (1 + 1 / 2 ^ 53) := int_round_le product
      _ ≤ (now - lastCheck) * (1 + 1 / 2 ^ 53) * rate * (1 + 1 / 2 ^ 53) :=
          mul_le_mul_of_nonneg_right
            (mul_le_mul_of_nonneg_right (Double.round_le_mul normal) rateCast) (by positivity)
      _ = rate * (now - lastCheck) * (1 + 1 / 2 ^ 53) ^ 2 := by ring

/-- After a second or more, with `rate ≤ 2 ^ 53`, the credit is at least
`rate`. -/
theorem rate_le_credit (rateNonneg : 0 ≤ rate) (rateLe : rate ≤ 2 ^ 53)
    (paused : lastCheck + 1 ≤ now) : rate ≤ credit rate lastCheck now := by
  have rateCast : (0 : ℚ) ≤ rate := Int.cast_nonneg.mpr rateNonneg
  have second : 1 ≤ Double.round (now - lastCheck) := by
    have kept := Double.round_mono (show ((1 : ℤ) : ℚ) ≤ now - lastCheck by push_cast; linarith)
    rwa [Double.round_intCast (by norm_num), Int.cast_one] at kept
  have product : (rate : ℚ) ≤ Double.round (Double.round (now - lastCheck) * rate) := by
    have kept := Double.round_mono (le_mul_of_one_le_left rateCast second)
    rwa [round_rate rateNonneg rateLe] at kept
  unfold credit
  rw [round_rate rateNonneg rateLe, int_eq_floor (rateCast.trans product)]
  exact Int.le_floor.mpr product

/-- Within a second, with the clock forward and `rate ≤ 2 ^ 53`, the credit is
at most `rate`. -/
theorem credit_le_rate (rateNonneg : 0 ≤ rate) (rateLe : rate ≤ 2 ^ 53) (forward : lastCheck ≤ now)
    (withinSecond : now - lastCheck ≤ 1) : credit rate lastCheck now ≤ rate := by
  have rateCast : (0 : ℚ) ≤ rate := Int.cast_nonneg.mpr rateNonneg
  have second : Double.round (now - lastCheck) ≤ 1 := by
    have kept := Double.round_mono (show now - lastCheck ≤ ((1 : ℤ) : ℚ) by push_cast; exact withinSecond)
    rwa [Double.round_intCast (by norm_num), Int.cast_one] at kept
  have product : Double.round (Double.round (now - lastCheck) * rate) ≤ rate := by
    have kept := Double.round_mono (mul_le_of_le_one_left rateCast second)
    rwa [round_rate rateNonneg rateLe] at kept
  unfold credit
  rw [round_rate rateNonneg rateLe, int_eq_floor (Double.round_nonneg
    (mul_nonneg (Double.round_nonneg (sub_nonneg.mpr forward)) rateCast))]
  exact (Int.floor_mono product).trans_eq (Int.floor_intCast _)

end Credit

/-- The fields of a `Leakage` object. -/
@[ext]
structure Leakage where
  rate : ℤ
  tokens : ℤ
  lastCheck : ℚ
  deriving DecidableEq, Repr

namespace Leakage

/-- `Leakage(rate)`, with `time.time()` reading `now`: the bucket starts full. -/
def init (rate : ℤ) (now : ℚ) : Leakage :=
  { rate := rate, tokens := rate, lastCheck := now }

/-- `_refill`, with `time.time()` reading `now`: credit `int(elapsed * rate)`,
cap at `rate`, and move `last_check` to `now`. -/
def refill (b : Leakage) (now : ℚ) : Leakage :=
  let tokens := b.tokens + credit b.rate b.lastCheck now
  { b with tokens := min tokens b.rate, lastCheck := now }

/-- `release(tokens)`: a negative count raises `ValueError` before any field
changes; otherwise the tokens go back, capped at `rate`. -/
def release (b : Leakage) (tokens : ℤ) : Except String Leakage :=
  if tokens < 0 then .error "Cannot release a negative number of tokens"
  else .ok { b with tokens := min (b.tokens + tokens) b.rate }

/-- `consume(amount)`, with `_refill` reading `now`: the new bucket and the
amount `allowed`. -/
def consume (b : Leakage) (amount : ℤ) (now : ℚ) : Leakage × ℤ :=
  let b := b.refill now
  let allowed := min amount b.tokens
  ({ b with tokens := b.tokens - allowed }, allowed)

variable (b : Leakage) (amount k : ℤ) (now : ℚ)

@[simp] theorem init_rate (rate : ℤ) : (init rate now).rate = rate := rfl

@[simp] theorem init_tokens (rate : ℤ) : (init rate now).tokens = rate := rfl

@[simp] theorem init_lastCheck (rate : ℤ) : (init rate now).lastCheck = now := rfl

@[simp] theorem refill_rate : (b.refill now).rate = b.rate := rfl

@[simp] theorem refill_lastCheck : (b.refill now).lastCheck = now := rfl

@[simp] theorem refill_tokens :
    (b.refill now).tokens = min (b.tokens + credit b.rate b.lastCheck now) b.rate := rfl

@[simp] theorem consume_rate : (b.consume amount now).1.rate = b.rate := rfl

@[simp] theorem consume_lastCheck : (b.consume amount now).1.lastCheck = now := rfl

/-- The grant of `consume`, in terms of the refilled bucket. -/
theorem consume_allowed : (b.consume amount now).2 = min amount (b.refill now).tokens := rfl

/-- The tokens `consume` leaves: the refilled tokens less the grant. -/
theorem consume_tokens :
    (b.consume amount now).1.tokens + (b.consume amount now).2 = (b.refill now).tokens := by
  simp [consume]

theorem release_of_nonneg {tokens : ℤ} (nonneg : 0 ≤ tokens) :
    b.release tokens = .ok { b with tokens := min (b.tokens + tokens) b.rate } := by
  simp [release, not_lt.mpr nonneg]

theorem release_of_neg {tokens : ℤ} (negative : tokens < 0) :
    b.release tokens = .error "Cannot release a negative number of tokens" := by
  simp [release, negative]

/-- The data model's invariant `0 ≤ tokens ≤ rate`, with the `0 ≤ rate` it
rests on. -/
structure Valid (b : Leakage) : Prop where
  rate_nonneg : 0 ≤ b.rate
  tokens_nonneg : 0 ≤ b.tokens
  tokens_le_rate : b.tokens ≤ b.rate

theorem init_valid {rate : ℤ} (nonneg : 0 ≤ rate) : (init rate now).Valid :=
  ⟨nonneg, nonneg, le_rfl⟩

/-- The cap in `_refill` bounds the refilled tokens by `rate`, whatever the
clock reads. -/
theorem refill_tokens_le : (b.refill now).tokens ≤ b.rate := min_le_right _ _

/-- A clock that has not stepped back credits a non-negative refill. -/
theorem refill_tokens_nonneg {b : Leakage} {now : ℚ} (valid : b.Valid)
    (forward : b.lastCheck ≤ now) : 0 ≤ (b.refill now).tokens := by
  have credited := credit_nonneg valid.rate_nonneg forward
  simp only [refill_tokens]
  exact le_min (by linarith [valid.tokens_nonneg]) valid.rate_nonneg

/-- `consume` keeps the invariant for every clock reading: the grant never
exceeds the refilled tokens, and a negative refill is handed out as a negative
grant rather than left in the bucket. -/
theorem consume_valid {b : Leakage} (valid : b.Valid) (nonneg : 0 ≤ amount) :
    (b.consume amount now).1.Valid := by
  have capped := b.refill_tokens_le now
  have spent := b.consume_tokens amount now
  have rateNonneg := valid.rate_nonneg
  rw [consume_allowed] at spent
  exact ⟨rateNonneg, by omega, by rw [consume_rate]; omega⟩

/-- What `consume` grants plus what it leaves is the refilled tokens, so at
most `rate`. -/
theorem consume_allowed_add_tokens_le :
    (b.consume amount now).2 + (b.consume amount now).1.tokens ≤ b.rate := by
  have spent := b.consume_tokens amount now
  have capped := b.refill_tokens_le now
  omega

theorem release_valid {b b' : Leakage} {tokens : ℤ} (valid : b.Valid)
    (released : b.release tokens = .ok b') : b'.Valid := by
  by_cases negative : tokens < 0
  · simp [release_of_neg b negative] at released
  · rw [release_of_nonneg b (not_lt.mp negative), Except.ok.injEq] at released
    subst released
    exact ⟨valid.rate_nonneg, le_min (by linarith [valid.tokens_nonneg]) valid.rate_nonneg,
      min_le_right _ _⟩

/-- The grant is at most the request and at most `rate`, whatever the clock
reads. -/
theorem consume_allowed_le : (b.consume amount now).2 ≤ min amount b.rate := by
  rw [consume_allowed]
  exact min_le_min_left _ (b.refill_tokens_le now)

theorem consume_allowed_nonneg {b : Leakage} (valid : b.Valid) (nonneg : 0 ≤ amount)
    (forward : b.lastCheck ≤ now) : 0 ≤ (b.consume amount now).2 := by
  rw [consume_allowed]
  exact le_min nonneg (refill_tokens_nonneg valid forward)

/-- **A clock stepped back.** Whatever the clock reads, `consume` of a
non-negative amount keeps `0 ≤ tokens ≤ rate` and grants at most the amount;
the grant is negative exactly when the refill's debit exceeds the tokens
held. -/
theorem consume_any_clock {b : Leakage} (valid : b.Valid) (nonneg : 0 ≤ amount) :
    (0 ≤ (b.consume amount now).1.tokens ∧ (b.consume amount now).1.tokens ≤ b.rate) ∧
      (b.consume amount now).2 ≤ amount ∧
      ((b.consume amount now).2 < 0 ↔ b.tokens + credit b.rate b.lastCheck now < 0) := by
  have kept := consume_valid amount now valid nonneg
  have rateNonneg := valid.rate_nonneg
  refine ⟨⟨kept.tokens_nonneg, kept.tokens_le_rate⟩, (b.consume_allowed_le amount now).trans
    (min_le_left _ _), ?_⟩
  rw [consume_allowed, refill_tokens]
  omega

theorem consume_any_clock_step_back :
    (Leakage.mk 100 0 1).Valid ∧ (0 : ℤ) ≤ 10 ∧
      ((0 ≤ ((Leakage.mk 100 0 1).consume 10 0).1.tokens ∧
          ((Leakage.mk 100 0 1).consume 10 0).1.tokens ≤ 100) ∧
        ((Leakage.mk 100 0 1).consume 10 0).2 ≤ 10 ∧
        (((Leakage.mk 100 0 1).consume 10 0).2 < 0 ↔
          (0 : ℤ) + credit 100 1 0 < 0)) :=
  have valid : (Leakage.mk 100 0 1).Valid := ⟨by decide, le_rfl, by decide⟩
  ⟨valid, by decide, consume_any_clock 10 0 valid (by decide)⟩

/-- A wall clock that steps back by a second, at `rate = 100`, turns the
refill into a debit of 100 tokens that `consume(10)` hands out as a grant of
`-100`. -/
theorem consume_after_clock_steps_back :
    (Leakage.mk 100 0 1).consume 10 0 = (⟨100, 0, 0⟩, -100) := by
  have debit : credit 100 1 0 = -100 := by
    have back : Double.round (0 - 1) = ((-1 : ℤ) : ℚ) := by
      rw [← Double.round_intCast (n := -1) (by norm_num)]
      norm_num
    have product : Double.round (((-1 : ℤ) : ℚ) * ((100 : ℤ) : ℚ)) = ((-100 : ℤ) : ℚ) := by
      rw [← Double.round_intCast (n := -100) (by norm_num)]
      norm_num
    rw [credit, back, Double.round_intCast (by norm_num), product, int_intCast]
  simp only [consume, refill, debit]
  decide

/-- **Reserve, then return the unused part.** Consuming `amount` and then
releasing all of the grant but `k` leaves the bucket exactly as consuming `k`
at the same reading does, and that `consume` grants all of `k`: the refill has
already capped the tokens at `rate`, so `release` never drops a returned
token. -/
theorem consume_release_unused (kNonneg : 0 ≤ k) (kLe : k ≤ (b.consume amount now).2) :
    (b.consume amount now).1.release ((b.consume amount now).2 - k) = .ok (b.consume k now).1 ∧
      (b.consume k now).2 = k := by
  have capped := b.refill_tokens_le now
  simp only [consume_allowed] at kLe ⊢
  refine ⟨?_, by omega⟩
  rw [release_of_nonneg _ (by omega), Except.ok.injEq]
  ext <;> simp only [consume, refill_rate]
  omega

theorem consume_release_unused_eighty_thirty :
    (0 : ℤ) ≤ 30 ∧ 30 ≤ ((Leakage.mk 100 100 0).consume 80 0).2 ∧
      ((Leakage.mk 100 100 0).consume 80 0).1.release
          (((Leakage.mk 100 100 0).consume 80 0).2 - 30) =
        .ok ((Leakage.mk 100 100 0).consume 30 0).1 ∧
      ((Leakage.mk 100 100 0).consume 30 0).2 = 30 :=
  have granted : 30 ≤ ((Leakage.mk 100 100 0).consume 80 0).2 := by
    simp [consume_allowed, credit_same_reading]
  ⟨by decide, granted, consume_release_unused _ 80 30 0 (by decide) granted⟩

end Leakage

end ProxyPy.Common
