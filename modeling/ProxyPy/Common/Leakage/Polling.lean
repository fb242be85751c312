import ProxyPy.Common.Leakage.Run

/-!
# A bucket polled on every tick

The executor calls `consume` once per tick of its `select` loop. `_refill`
credits `int(elapsed * rate)` and then moves `last_check` to `now`, so the
fraction of a token an interval earns is dropped rather than carried into the
next interval. From an empty bucket, polled with requests of at least `rate`
at readings at most a second apart, the total grant is exactly the sum of what
`_refill` credits over each interval, `Σᵢ int(elapsed_i * rate)` in float
arithmetic (`polled_granted_eq_wholeCredits`); it is not the whole tokens of
the span: polled every half second at `rate = 1`, the bucket grants nothing
over a second that earns one token (`polled_every_half_second`).
-/

namespace ProxyPy.Common.Leakage

/-- The `consume` calls of a polling loop, each with its amount and the clock
reading of its `_refill`. -/
def polls (requests : List (ℤ × ℚ)) : List Call := requests.map fun r => .consume r.1 r.2

/-- What `_refill` credits over each interval between consecutive readings,
starting from `t`. -/
def wholeCredits (rate : ℤ) : ℚ → List ℚ → ℤ
  | _, [] => 0
  | t, t' :: rest => credit rate t t' + wholeCredits rate t' rest

/-- One poll of an empty bucket, asked for at least `rate` at most a second
after its last check, grants the interval's credit and leaves the bucket
empty. -/
theorem consume_empty {b : Leakage} {amount : ℤ} {now : ℚ} (rateNonneg : 0 ≤ b.rate)
    (rateLe : b.rate ≤ 2 ^ 53) (empty : b.tokens = 0) (large : b.rate ≤ amount)
    (forward : b.lastCheck ≤ now) (withinSecond : now - b.lastCheck ≤ 1) :
    b.consume amount now = ({ b with lastCheck := now }, credit b.rate b.lastCheck now) := by
  have atMostRate := credit_le_rate rateNonneg rateLe forward withinSecond
  have refilled : (b.refill now).tokens = credit b.rate b.lastCheck now := by
    rw [refill_tokens, empty, zero_add, min_eq_left atMostRate]
  have grant : (b.consume amount now).2 = credit b.rate b.lastCheck now := by
    rw [consume_allowed, refilled]
    exact min_eq_right (atMostRate.trans large)
  have spent := b.consume_tokens amount now
  rw [grant, refilled] at spent
  exact Prod.ext (Leakage.ext rfl (by rw [empty]; omega) rfl) grant

/-- **Polling.** From an empty bucket with `0 ≤ rate ≤ 2 ^ 53` and last check
`t₀`, polled with requests of at least `rate` at readings `t₁ ≤ ⋯ ≤ tₙ` at most
a second apart, the total grant is `Σᵢ int((tᵢ - tᵢ₋₁) * rate)` as `_refill`
computes each term. -/
theorem polled_granted_eq_wholeCredits {b : Leakage} {requests : List (ℤ × ℚ)}
    (rateNonneg : 0 ≤ b.rate) (rateLe : b.rate ≤ 2 ^ 53) (empty : b.tokens = 0)
    (large : ∀ r ∈ requests, b.rate ≤ r.1)
    (clock : List.Chain (fun s t => s ≤ t ∧ t - s ≤ 1) b.lastCheck (requests.map Prod.snd)) :
    granted b (polls requests) = wholeCredits b.rate b.lastCheck (requests.map Prod.snd) := by
  induction requests generalizing b with
  | nil => rfl
  | cons r rest ih =>
    obtain ⟨⟨forward, withinSecond⟩, later⟩ := List.chain_cons.mp clock
    have polled := consume_empty rateNonneg rateLe empty (large r (List.mem_cons_self _ _))
      forward withinSecond
    have tail := @ih { b with lastCheck := r.2 } rateNonneg rateLe empty
      (fun r' mem => large r' (List.mem_cons_of_mem _ mem)) later
    simp only [polls, List.map_cons, granted_cons, call_consume, polled, Reply.granted,
      wholeCredits] at tail ⊢
    rw [← tail]

theorem polled_granted_eq_wholeCredits_sample :
    (0 : ℤ) ≤ 100 ∧ (100 : ℤ) ≤ 2 ^ 53 ∧ (Leakage.mk 100 0 0).tokens = 0 ∧
      (∀ r ∈ [((150 : ℤ), (1 / 2 : ℚ)), (150, 1)], (100 : ℤ) ≤ r.1) ∧
      List.Chain (fun s t => s ≤ t ∧ t - s ≤ 1) 0 ([((150 : ℤ), (1 / 2 : ℚ)), (150, 1)].map Prod.snd) ∧
      granted ⟨100, 0, 0⟩ (polls [(150, 1 / 2), (150, 1)]) =
        wholeCredits 100 0 ([((150 : ℤ), (1 / 2 : ℚ)), (150, 1)].map Prod.snd) :=
  have large : ∀ r ∈ [((150 : ℤ), (1 / 2 : ℚ)), (150, 1)], (100 : ℤ) ≤ r.1 := by decide
  have clock : List.Chain (fun s t => s ≤ t ∧ t - s ≤ 1) 0
      ([((150 : ℤ), (1 / 2 : ℚ)), (150, 1)].map Prod.snd) := by norm_num
  ⟨by decide, by norm_num, rfl, large, clock,
    @polled_granted_eq_wholeCredits ⟨100, 0, 0⟩ _ (by decide) (by norm_num) rfl large clock⟩

/-- Half a second at `rate = 1` credits `int(0.5) = 0`. -/
theorem credit_half_second (t : ℚ) : credit 1 t (t + 2 ^ (-1 : ℤ)) = 0 := by
  rw [credit, add_sub_cancel_left, Double.round_two_zpow (by norm_num),
    Double.round_intCast (by norm_num), Int.cast_one, mul_one, Double.round_two_zpow (by norm_num),
    int_eq_floor (by positivity)]
  exact Int.floor_eq_zero_iff.mpr ⟨by positivity, by norm_num⟩

/-- Polled every half second at `rate = 1`, an empty bucket grants nothing
over a second that earns one whole token. -/
theorem polled_every_half_second :
    (0 : ℤ) < 1 ∧ (Leakage.mk 1 0 0).tokens = 0 ∧
      (∀ r ∈ [((1 : ℤ), (1 / 2 : ℚ)), (1, 1)], (1 : ℤ) ≤ r.1) ∧
      List.Chain (fun s t => s ≤ t ∧ t - s ≤ 1) 0 ([((1 : ℤ), (1 / 2 : ℚ)), (1, 1)].map Prod.snd) ∧
      granted ⟨1, 0, 0⟩ (polls [(1, 1 / 2), (1, 1)]) = 0 ∧
      ⌊(([((1 : ℤ), (1 / 2 : ℚ)), (1, 1)].map Prod.snd).getLast?.getD 0 - 0) * (1 : ℤ)⌋ = 1 := by
  have first := credit_half_second 0
  have second := credit_half_second (2 ^ (-1 : ℤ))
  norm_num at first second
  simp only [one_div] at first second
  refine ⟨by decide, rfl, by decide, by norm_num, ?_, by norm_num⟩
  simp [granted, polls, call, consume, refill, Reply.granted, first, second]

end ProxyPy.Common.Leakage
