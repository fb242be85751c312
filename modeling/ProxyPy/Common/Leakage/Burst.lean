import ProxyPy.Common.Leakage.Run

/-!
# What a caller sees of the leaky bucket

How the grants of `Leakage.consume` answer to the timing of the requests and
to the tokens the bucket holds:

* **one reading, one request** — two `consume` calls of non-negative amounts
  at one clock reading grant together what one `consume` of their sum grants,
  and leave the same bucket: splitting a request within an instant neither
  loses nor gains tokens (`consume_consume_same_reading`);
* **a pause refills** — under any run from `Leakage(rate)` with non-negative
  amounts, whatever the clock does, a `consume` reading `idle` seconds after
  the bucket's previous reading is granted at least
  `min(amount, int(idle * rate), rate)` as `_refill` computes that credit, and
  exactly `min(amount, rate)` when `idle` is a second or more and
  `rate ≤ 2 ^ 53`: after a second of quiet no request is throttled below the
  rate (`run_consume_after_pause`);
* **more tokens never grant less** — of two buckets at one rate and reading,
  the one holding more tokens grants at least as much to every call of every
  run, whatever the clock reads (`run_richer_grants_more`).
-/

namespace ProxyPy.Common.Leakage

/-! ## One reading -/

/-- A refill at the bucket's own reading credits nothing and, with the tokens
under the cap, changes nothing. -/
theorem refill_same_reading {b : Leakage} {now : ℚ} (same : b.lastCheck = now)
    (capped : b.tokens ≤ b.rate) : b.refill now = b := by
  ext
  · rfl
  · simp [same, capped, credit_same_reading]
  · exact same.symm

/-- **One reading, one request.** Two `consume` calls of non-negative amounts
at one clock reading grant together what one `consume` of the sum grants, and
leave the same bucket. -/
theorem consume_consume_same_reading (b : Leakage) {first second : ℤ} (now : ℚ)
    (rateNonneg : 0 ≤ b.rate) (firstNonneg : 0 ≤ first) (secondNonneg : 0 ≤ second) :
    ((b.consume first now).1.consume second now).1 = (b.consume (first + second) now).1 ∧
      (b.consume first now).2 + ((b.consume first now).1.consume second now).2 =
        (b.consume (first + second) now).2 := by
  have full := b.refill_tokens_le now
  have firstGrant := b.consume_allowed first now
  have firstLeft := b.consume_tokens first now
  have bothGrant := b.consume_allowed (first + second) now
  have bothLeft := b.consume_tokens (first + second) now
  -- the second call's refill finds the first call's bucket, already under the cap
  have again : (b.consume first now).1.refill now = (b.consume first now).1 :=
    refill_same_reading (consume_lastCheck _ _ _) (by rw [consume_rate]; omega)
  have secondGrant := (b.consume first now).1.consume_allowed second now
  have secondLeft := (b.consume first now).1.consume_tokens second now
  rw [again] at secondGrant secondLeft
  exact ⟨Leakage.ext (by simp) (by omega) rfl, by omega⟩

theorem consume_consume_same_reading_fifty_thirty :
    0 ≤ (init 100 0).rate ∧ (0 : ℤ) ≤ 50 ∧ (0 : ℤ) ≤ 30 ∧
      (((init 100 0).consume 50 1).1.consume 30 1).1 = ((init 100 0).consume (50 + 30) 1).1 ∧
      ((init 100 0).consume 50 1).2 + (((init 100 0).consume 50 1).1.consume 30 1).2 =
        ((init 100 0).consume (50 + 30) 1).2 :=
  ⟨by decide, by decide, by decide,
    consume_consume_same_reading (init 100 0) 1 (by decide) (by decide) (by decide)⟩

/-! ## A pause refills -/

/-- On a bucket with `0 ≤ tokens ≤ rate`, whatever the clock reads, a
`consume` is granted at least `min(amount, credit, rate)` for the credit of the
time since the last reading, and `min(amount, rate)` after a second or more
when `rate ≤ 2 ^ 53`. -/
theorem consume_after_pause {b : Leakage} (valid : b.Valid) (rateLe : b.rate ≤ 2 ^ 53)
    (amount : ℤ) (now : ℚ) :
    min amount (min (credit b.rate b.lastCheck now) b.rate) ≤ (b.consume amount now).2 ∧
      (b.lastCheck + 1 ≤ now → (b.consume amount now).2 = min amount b.rate) := by
  have tokensNonneg := valid.tokens_nonneg
  rw [consume_allowed, refill_tokens]
  refine ⟨by omega, fun paused => ?_⟩
  have whole := rate_le_credit valid.rate_nonneg rateLe paused
  omega

/-- **A pause refills.** From `Leakage(rate)` at `t0` with
`0 ≤ rate ≤ 2 ^ 53`, under any run of `consume` calls of non-negative amounts
and `release` calls, whatever the clock reads, a `consume` that reads `idle`
seconds after the bucket's previous reading (that of the last earlier
`consume`, or `t0`) is granted at least `min(amount, int(idle * rate), rate)`,
with the credit `int(idle * rate)` as `_refill` computes it, and
`min(amount, rate)` when `idle` is a second or more. -/
theorem run_consume_after_pause {rate : ℤ} {t0 : ℚ} {calls pre : List Call} {amount : ℤ}
    {now : ℚ} (rateNonneg : 0 ≤ rate) (rateLe : rate ≤ 2 ^ 53)
    (amounts : ∀ c ∈ calls, c.AmountNonneg) (reached : pre ++ [.consume amount now] <+: calls) :
    min amount (min (credit rate ((readings pre).getLast?.getD t0) now) rate) ≤
        ((run (init rate t0) pre).1.consume amount now).2 ∧
      ((readings pre).getLast?.getD t0 + 1 ≤ now →
        ((run (init rate t0) pre).1.consume amount now).2 = min amount rate) := by
  obtain ⟨post, split⟩ := reached
  subst split
  have valid := run_valid (init_valid t0 rateNonneg)
    fun c mem => amounts c (List.mem_append_left _ (List.mem_append_left _ mem))
  have pause := consume_after_pause valid (by rwa [run_rate]) amount now
  rwa [run_lastCheck, run_rate, init_lastCheck] at pause

theorem run_consume_after_pause_two_seconds :
    0 ≤ (100 : ℤ) ∧ (100 : ℤ) ≤ 2 ^ 53 ∧
    (∀ c ∈ [Call.consume 100 0, .consume 30 (1 / 2), .consume 100 2], c.AmountNonneg) ∧
    [Call.consume 100 0, .consume 30 (1 / 2)] ++ [.consume 100 2] <+:
      [Call.consume 100 0, .consume 30 (1 / 2), .consume 100 2] ∧
    (min 100 (min (credit 100 ((readings [Call.consume 100 0, .consume 30 (1 / 2)]).getLast?.getD 0)
        2) 100) ≤ ((run (init 100 0) [Call.consume 100 0, .consume 30 (1 / 2)]).1.consume 100 2).2 ∧
      ((readings [Call.consume 100 0, .consume 30 (1 / 2)]).getLast?.getD 0 + 1 ≤ 2 →
        ((run (init 100 0) [Call.consume 100 0, .consume 30 (1 / 2)]).1.consume 100 2).2 =
          min 100 100)) :=
  have amounts : ∀ c ∈ [Call.consume 100 0, .consume 30 (1 / 2), .consume 100 2],
      c.AmountNonneg := by simp [Call.AmountNonneg]
  ⟨by decide, by norm_num, amounts, ⟨[], rfl⟩,
    run_consume_after_pause (by decide) (by norm_num) amounts ⟨[], rfl⟩⟩

/-! ## More tokens never grant less -/

/-- Two buckets at one rate and reading, the second holding at least as many
tokens. -/
structure Richer (b b' : Leakage) : Prop where
  rate_eq : b.rate = b'.rate
  lastCheck_eq : b.lastCheck = b'.lastCheck
  tokens_le : b.tokens ≤ b'.tokens

theorem call_richer {b b' : Leakage} (richer : Richer b b') (c : Call) :
    Richer (b.call c).1 (b'.call c).1 ∧ (b.call c).2.granted ≤ (b'.call c).2.granted := by
  have tokensLe := richer.tokens_le
  cases c with
  | consume amount now =>
    have grant := b.consume_allowed amount now
    have grant' := b'.consume_allowed amount now
    have left := b.consume_tokens amount now
    have left' := b'.consume_tokens amount now
    simp only [refill_tokens, richer.rate_eq, richer.lastCheck_eq] at grant grant' left left'
    simp only [call_consume, Reply.granted]
    exact ⟨⟨by simp [richer.rate_eq], rfl, by omega⟩, by omega⟩
  | release tokens =>
    by_cases negative : tokens < 0
    · rw [call_release_of_neg b negative, call_release_of_neg b' negative]
      exact ⟨richer, le_rfl⟩
    · rw [call_release_of_nonneg b (not_lt.mp negative),
        call_release_of_nonneg b' (not_lt.mp negative)]
      refine ⟨⟨richer.rate_eq, richer.lastCheck_eq, ?_⟩, le_rfl⟩
      show min (b.tokens + tokens) b.rate ≤ min (b'.tokens + tokens) b'.rate
      rw [richer.rate_eq]
      omega

/-- **More tokens never grant less.** Of two buckets at one rate and reading,
the one holding more tokens grants at least as much to every call of every run,
whatever the clock reads, and stays the richer. -/
theorem run_richer_grants_more {b b' : Leakage} (richer : Richer b b') (calls : List Call) :
    Richer (run b calls).1 (run b' calls).1 ∧
      List.Forall₂ (fun reply reply' => reply.granted ≤ reply'.granted)
        (run b calls).2 (run b' calls).2 := by
  induction calls generalizing b b' with
  | nil => exact ⟨richer, .nil⟩
  | cons c calls ih =>
    obtain ⟨stepRicher, stepGrant⟩ := call_richer richer c
    obtain ⟨runRicher, runGrants⟩ := ih stepRicher
    exact ⟨runRicher, .cons stepGrant runGrants⟩

theorem run_richer_grants_more_twenty_tokens :
    Richer ⟨100, 20, 0⟩ (init 100 0) ∧
      Richer (run ⟨100, 20, 0⟩ [.consume 50 1, .release 30, .consume 100 2]).1
          (run (init 100 0) [.consume 50 1, .release 30, .consume 100 2]).1 ∧
        List.Forall₂ (fun reply reply' => reply.granted ≤ reply'.granted)
          (run ⟨100, 20, 0⟩ [.consume 50 1, .release 30, .consume 100 2]).2
          (run (init 100 0) [.consume 50 1, .release 30, .consume 100 2]).2 :=
  have richer : Richer ⟨100, 20, 0⟩ (init 100 0) := ⟨rfl, rfl, by decide⟩
  ⟨richer, run_richer_grants_more richer _⟩

end ProxyPy.Common.Leakage
