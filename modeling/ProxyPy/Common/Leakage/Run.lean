import ProxyPy.Common.Leakage
import Mathlib.Data.List.Chain

/-!
# Runs of the leaky bucket

A run is the list of calls one bucket receives, in order. Each `consume`
carries the reading `time.time()` gives its `_refill`; a `release` of a
negative count raises `ValueError` before any field changes, and the caller
goes on with the next call. `readings calls` lists the clock readings of the
`consume` calls, so that a clock that never steps back and starts no earlier
than `t0` is `List.Chain (· ≤ ·) t0 (readings calls)`.

* **invariant** — from `Leakage(rate)` with `0 ≤ rate`, every state of every
  run has `0 ≤ tokens ≤ rate`, and every grant lies in `0 .. min amount rate`
  (`run_tokens_and_grants_bounded`);
* **potential** — for `rate ≤ 2 ^ 53`, the net grant of a run plus the tokens
  it leaves never exceed the tokens it started from plus `rate` times the time
  its `consume` calls span, and `2 ^ -53` of that twice over
  (`run_netGranted_add_tokens_le`): each credit is at most the exact
  `elapsed * rate` with the rounding of its two float operations
  (`credit_le`), and the two caps only ever discard tokens;
* **net grant** — hence the net grant of any segment of a run whose first and
  last `consume` read `s` and `s'` is at most
  `rate + rate * (s' - s) * (1 + 2 ^ -53) ^ 2` (`net_granted_le`); without the
  rounding's share it can be exceeded, a float product rounding up to a whole
  token (`net_granted_rounds_up`).
-/

namespace ProxyPy.Common.Leakage

/-- A call on the bucket, with the clock reading of a `consume`. -/
inductive Call where
  | consume (amount : ℤ) (now : ℚ)
  | release (tokens : ℤ)
  deriving DecidableEq, Repr

/-- What a call hands back: the grant of a `consume`, the `None` of a
`release`, or the `ValueError` a negative `release` raises. -/
inductive Reply where
  | allowed (amount : ℤ)
  | none
  | valueError (message : String)
  deriving DecidableEq, Repr

/-- One call on the bucket; a refused `release` leaves it as it was. -/
def call (b : Leakage) : Call → Leakage × Reply
  | .consume amount now => ((b.consume amount now).1, .allowed (b.consume amount now).2)
  | .release tokens =>
    match b.release tokens with
    | .ok released => (released, .none)
    | .error message => (b, .valueError message)

/-- The bucket after a run, and the replies of its calls in order. -/
def run (b : Leakage) : List Call → Leakage × List Reply
  | [] => (b, [])
  | c :: calls => ((run (b.call c).1 calls).1, (b.call c).2 :: (run (b.call c).1 calls).2)

/-- The clock reading a call takes: only `consume` reads `time.time()`. -/
def Call.reading : Call → Option ℚ
  | .consume _ now => some now
  | .release _ => none

/-- The clock readings of a run's `consume` calls, in order. -/
def readings (calls : List Call) : List ℚ := calls.filterMap Call.reading

/-- The tokens a reply grants. -/
def Reply.granted : Reply → ℤ
  | .allowed amount => amount
  | _ => 0

/-- The tokens a call hands back. -/
def Call.released : Call → ℤ
  | .release tokens => tokens
  | .consume _ _ => 0

/-- What the `consume` calls of a run grant, in total. -/
def granted (b : Leakage) (calls : List Call) : ℤ := ((run b calls).2.map Reply.granted).sum

/-- What the `release` calls of a run hand back, in total. -/
def released (calls : List Call) : ℤ := (calls.map Call.released).sum

/-- The net grant of a run: what its `consume` calls grant less what its
`release` calls hand back. -/
def netGranted (b : Leakage) (calls : List Call) : ℤ := granted b calls - released calls

/-- `consume` is asked for a non-negative amount. -/
def Call.AmountNonneg : Call → Prop
  | .consume amount _ => 0 ≤ amount
  | .release _ => True

/-- `release` hands back a non-negative count. -/
def Call.ReleaseNonneg : Call → Prop
  | .consume _ _ => True
  | .release tokens => 0 ≤ tokens

variable (b : Leakage) (c : Call) (calls : List Call)

@[simp] theorem call_consume (amount : ℤ) (now : ℚ) :
    b.call (.consume amount now) = ((b.consume amount now).1, .allowed (b.consume amount now).2) :=
  rfl

theorem call_release_of_nonneg {tokens : ℤ} (nonneg : 0 ≤ tokens) :
    b.call (.release tokens) = ({ b with tokens := min (b.tokens + tokens) b.rate }, .none) := by
  simp [call, release_of_nonneg b nonneg]

theorem call_release_of_neg {tokens : ℤ} (negative : tokens < 0) :
    b.call (.release tokens) = (b, .valueError "Cannot release a negative number of tokens") := by
  simp [call, release_of_neg b negative]

@[simp] theorem run_nil : run b [] = (b, []) := rfl

@[simp] theorem run_cons :
    run b (c :: calls) = ((run (b.call c).1 calls).1, (b.call c).2 :: (run (b.call c).1 calls).2) :=
  rfl

@[simp] theorem readings_cons : readings (c :: calls) = (c.reading.toList ++ readings calls) := by
  cases c <;> rfl

theorem granted_cons :
    granted b (c :: calls) = (b.call c).2.granted + granted (b.call c).1 calls := by
  simp only [granted, run_cons, List.map_cons, List.sum_cons]

theorem netGranted_cons :
    netGranted b (c :: calls) =
      (b.call c).2.granted - c.released + netGranted (b.call c).1 calls := by
  simp only [netGranted, granted_cons, released, List.map_cons, List.sum_cons]
  ring

/-! ## One call -/

theorem call_rate : (b.call c).1.rate = b.rate := by
  cases c with
  | consume amount now => rfl
  | release tokens =>
    by_cases negative : tokens < 0
    · rw [call_release_of_neg b negative]
    · rw [call_release_of_nonneg b (not_lt.mp negative)]

theorem call_lastCheck : (b.call c).1.lastCheck = c.reading.getD b.lastCheck := by
  cases c with
  | consume amount now => rfl
  | release tokens =>
    by_cases negative : tokens < 0
    · rw [call_release_of_neg b negative]; rfl
    · rw [call_release_of_nonneg b (not_lt.mp negative)]; rfl

theorem call_valid {b : Leakage} {c : Call} (valid : b.Valid) (nonneg : c.AmountNonneg) :
    (b.call c).1.Valid := by
  cases c with
  | consume amount now => exact consume_valid amount now valid nonneg
  | release tokens =>
    by_cases negative : tokens < 0
    · rw [call_release_of_neg b negative]
      exact valid
    · rw [call_release_of_nonneg b (not_lt.mp negative)]
      exact release_valid valid (release_of_nonneg b (not_lt.mp negative))

/-- A clock that does not step back stays so from the bucket after the call. -/
theorem call_chain {b : Leakage} {c : Call} {rest : List ℚ}
    (clock : List.Chain (· ≤ ·) b.lastCheck (c.reading.toList ++ rest)) :
    List.Chain (· ≤ ·) (b.call c).1.lastCheck rest := by
  rw [call_lastCheck]
  cases c with
  | consume amount now => exact (List.chain_cons.mp clock).2
  | release tokens => exact clock

/-- **Potential, one call.** A call's net grant plus the tokens it leaves is at
most the tokens before it plus `rate` times the time it moves `last_check`,
and the rounding's share of that. -/
theorem call_net_add_tokens_le {b : Leakage} {c : Call} (rateNonneg : 0 ≤ b.rate)
    (rateLe : b.rate ≤ 2 ^ 53) (nonneg : c.ReleaseNonneg)
    (forward : ∀ now, c.reading = some now → b.lastCheck ≤ now) :
    ((b.call c).2.granted - c.released + (b.call c).1.tokens : ℚ) ≤
      b.tokens + b.rate * ((b.call c).1.lastCheck - b.lastCheck) * (1 + 1 / 2 ^ 53) ^ 2 := by
  cases c with
  | consume amount now =>
    have credited := credit_le rateNonneg rateLe (forward now rfl)
    have spent := b.consume_tokens amount now
    have capped : (b.refill now).tokens ≤ b.tokens + credit b.rate b.lastCheck now :=
      min_le_left _ _
    have total : ((b.consume amount now).2 + (b.consume amount now).1.tokens : ℚ) ≤
        b.tokens + credit b.rate b.lastCheck now := by
      exact_mod_cast (by omega)
    simp only [call_consume, Reply.granted, Call.released, consume_lastCheck]
    push_cast
    linarith
  | release tokens =>
    rw [call_release_of_nonneg b nonneg]
    have kept : min (b.tokens + tokens) b.rate ≤ b.tokens + tokens := min_le_left _ _
    simp only [Reply.granted, Call.released, sub_self, mul_zero, zero_mul, add_zero]
    exact_mod_cast (by omega)

/-! ## Whole runs -/

theorem run_rate : (run b calls).1.rate = b.rate := by
  induction calls generalizing b with
  | nil => rfl
  | cons c calls ih => rw [run_cons, ih, call_rate]

theorem run_lastCheck : (run b calls).1.lastCheck = (readings calls).getLast?.getD b.lastCheck := by
  induction calls generalizing b with
  | nil => rfl
  | cons c calls ih =>
    rw [run_cons, ih, call_lastCheck, readings_cons]
    cases c.reading <;> simp [List.getLast?_cons]

theorem run_valid {b : Leakage} {calls : List Call} (valid : b.Valid)
    (nonneg : ∀ c ∈ calls, c.AmountNonneg) : (run b calls).1.Valid := by
  induction calls generalizing b with
  | nil => exact valid
  | cons c calls ih =>
    exact ih (call_valid valid (nonneg c (List.mem_cons_self _ _)))
      (fun c' mem => nonneg c' (List.mem_cons_of_mem _ mem))

/-- The clock condition read from the bucket reached after a prefix. -/
theorem run_chain {b : Leakage} {pre rest : List Call}
    (clock : List.Chain (· ≤ ·) b.lastCheck (readings (pre ++ rest))) :
    List.Chain (· ≤ ·) (run b pre).1.lastCheck (readings rest) := by
  induction pre generalizing b with
  | nil => exact clock
  | cons c pre ih =>
    rw [List.cons_append, readings_cons] at clock
    exact ih (call_chain clock)

/-- A clock that never steps back over a run never steps back over its
prefix. -/
theorem chain_readings_of_append {t : ℚ} {pre post : List Call}
    (clock : List.Chain (· ≤ ·) t (readings (pre ++ post))) :
    List.Chain (· ≤ ·) t (readings pre) := by
  rw [readings, List.filterMap_append] at clock
  exact List.Chain'.left_of_append
    (show List.Chain' (· ≤ ·) ((t :: pre.filterMap Call.reading) ++ post.filterMap Call.reading)
      from clock)

/-- **Potential.** Over a run, the net grant plus the tokens left is at most
the starting tokens plus `rate` times the span of the run's clock readings,
and the rounding's share of that. -/
theorem run_netGranted_add_tokens_le {b : Leakage} {calls : List Call} (rateNonneg : 0 ≤ b.rate)
    (rateLe : b.rate ≤ 2 ^ 53) (nonneg : ∀ c ∈ calls, c.ReleaseNonneg)
    (clock : List.Chain (· ≤ ·) b.lastCheck (readings calls)) :
    (netGranted b calls + (run b calls).1.tokens : ℚ) ≤
      b.tokens + b.rate * ((run b calls).1.lastCheck - b.lastCheck) * (1 + 1 / 2 ^ 53) ^ 2 := by
  induction calls generalizing b with
  | nil => simp [netGranted, granted, released]
  | cons c calls ih =>
    rw [readings_cons] at clock
    have step := call_net_add_tokens_le rateNonneg rateLe (nonneg c (List.mem_cons_self _ _))
      (fun now reading => by
        rw [reading, Option.toList_some, List.singleton_append] at clock
        exact (List.chain_cons.mp clock).1)
    have tail := ih (by rwa [call_rate]) (by rwa [call_rate])
      (fun c' mem => nonneg c' (List.mem_cons_of_mem _ mem)) (call_chain clock)
    rw [call_rate] at tail
    rw [netGranted_cons, run_cons]
    push_cast at step ⊢
    linarith

/-! ## The claims over runs -/

/-- **Invariant.** From `Leakage(rate)` with `0 ≤ rate` at `t0`, under any run
of `consume` calls of non-negative amounts and `release` calls of any count
with a clock that never steps back: after every call `0 ≤ tokens ≤ rate`, and
every `consume` grants between `0` and `min amount rate`. -/
theorem run_tokens_and_grants_bounded (rate : ℤ) (t0 : ℚ) (calls : List Call)
    (rateNonneg : 0 ≤ rate) (amounts : ∀ c ∈ calls, c.AmountNonneg)
    (clock : List.Chain (· ≤ ·) t0 (readings calls)) :
    (∀ pre, pre <+: calls →
      0 ≤ (run (init rate t0) pre).1.tokens ∧ (run (init rate t0) pre).1.tokens ≤ rate) ∧
    (∀ pre amount now, pre ++ [.consume amount now] <+: calls →
      0 ≤ ((run (init rate t0) pre).1.consume amount now).2 ∧
        ((run (init rate t0) pre).1.consume amount now).2 ≤ min amount rate) := by
  have reached : ∀ pre, pre <+: calls → (run (init rate t0) pre).1.Valid :=
    fun pre ⟨post, split⟩ => run_valid (init_valid t0 rateNonneg)
      (fun c mem => amounts c (split ▸ List.mem_append_left post mem))
  refine ⟨fun pre early => ?_, fun pre amount now ⟨post, split⟩ => ?_⟩
  · have valid := reached pre early
    exact ⟨valid.tokens_nonneg, valid.tokens_le_rate.trans_eq (run_rate _ pre)⟩
  · subst split
    have valid := reached pre ⟨_, (List.append_assoc _ _ _).symm⟩
    rw [List.append_assoc, List.singleton_append] at clock amounts
    -- the clock rebased at the bucket `pre` leaves: this `consume` reads no earlier
    have forward := @run_chain (init rate t0) pre _ clock
    simp only [readings_cons, Call.reading, Option.toList_some, List.singleton_append,
      List.chain_cons] at forward
    have bounded := consume_allowed_le (run (init rate t0) pre).1 amount now
    rw [run_rate] at bounded
    exact ⟨consume_allowed_nonneg amount now valid
      (amounts _ (List.mem_append_right _ (List.mem_cons_self _ _))) forward.1, bounded⟩

theorem run_tokens_and_grants_bounded_sample :
    0 ≤ (100 : ℤ) ∧
    (∀ c ∈ [Call.consume 150 1, .release (-5), .consume 10 (3 / 2)], c.AmountNonneg) ∧
    List.Chain (· ≤ ·) 0 (readings [Call.consume 150 1, .release (-5), .consume 10 (3 / 2)]) ∧
    ((∀ pre, pre <+: [Call.consume 150 1, .release (-5), .consume 10 (3 / 2)] →
      0 ≤ (run (init 100 0) pre).1.tokens ∧ (run (init 100 0) pre).1.tokens ≤ 100) ∧
    (∀ pre amount now,
      pre ++ [.consume amount now] <+: [Call.consume 150 1, .release (-5), .consume 10 (3 / 2)] →
      0 ≤ ((run (init 100 0) pre).1.consume amount now).2 ∧
        ((run (init 100 0) pre).1.consume amount now).2 ≤ min amount 100)) :=
  have amounts : ∀ c ∈ [Call.consume 150 1, .release (-5), .consume 10 (3 / 2)],
      c.AmountNonneg := by simp [Call.AmountNonneg]
  have clock : List.Chain (· ≤ ·) 0
      (readings [Call.consume 150 1, .release (-5), .consume 10 (3 / 2)]) := by
    simp [readings, Call.reading]
    norm_num
  ⟨by decide, amounts, clock, run_tokens_and_grants_bounded 100 0 _ (by decide) amounts clock⟩

/-- The net grant of a run from a valid bucket, between its first `consume`
at `s` and its last at `s'`: the first refill is capped at `rate`, and the
potential bounds the rest. -/
theorem segment_netGranted_le {b : Leakage} {seg : List Call} {s s' : ℚ} (valid : b.Valid)
    (rateLe : b.rate ≤ 2 ^ 53) (nonneg : ∀ c ∈ seg, c.AmountNonneg ∧ c.ReleaseNonneg)
    (clock : List.Chain (· ≤ ·) b.lastCheck (readings seg))
    (first : (readings seg).head? = some s) (last : (readings seg).getLast? = some s') :
    (netGranted b seg : ℚ) ≤ b.rate + b.rate * (s' - s) * (1 + 1 / 2 ^ 53) ^ 2 := by
  induction seg generalizing b with
  | nil => simp [readings] at first
  | cons c rest ih =>
    have restNonneg := fun c' mem => nonneg c' (List.mem_cons_of_mem c mem)
    rw [netGranted_cons]
    cases c with
    | consume amount now =>
      simp only [readings_cons, Call.reading, Option.toList_some, List.singleton_append,
        List.head?_cons, Option.some.injEq, List.chain_cons, List.getLast?_cons] at first clock last
      subst first
      have after := consume_valid amount now valid (nonneg _ (List.mem_cons_self _ _)).1
      have potential := @run_netGranted_add_tokens_le (b.consume amount now).1 rest
        (by rw [consume_rate]; exact valid.rate_nonneg) (by rwa [consume_rate])
        (fun c' mem => (restNonneg c' mem).2) (by rw [consume_lastCheck]; exact clock.2)
      have left : (0 : ℚ) ≤ _ := Int.cast_nonneg.mpr
        (run_valid after (fun c' mem => (restNonneg c' mem).1)).tokens_nonneg
      rw [run_lastCheck, consume_lastCheck, last, consume_rate] at potential
      have total : ((b.consume amount now).2 + (b.consume amount now).1.tokens : ℚ) ≤ b.rate := by
        exact_mod_cast b.consume_allowed_add_tokens_le amount now
      simp only [call_consume, Reply.granted, Call.released, Int.cast_sub, Int.cast_zero, sub_zero]
      push_cast
      linarith
    | release tokens =>
      simp only [readings_cons, Call.reading, Option.toList_none, List.nil_append] at first clock last
      have returned : (0 : ℤ) ≤ tokens := (nonneg _ (List.mem_cons_self _ _)).2
      have returnedCast : (0 : ℚ) ≤ tokens := Int.cast_nonneg.mpr returned
      have tail := ih (call_valid valid (nonneg _ (List.mem_cons_self _ _)).1)
        (by rwa [call_rate]) restNonneg (by rwa [call_lastCheck]) first last
      rw [call_rate, call_release_of_nonneg b returned] at tail
      rw [call_release_of_nonneg b returned]
      simp only [Reply.granted, Call.released] at tail ⊢
      push_cast
      linarith

/-- **Net grant.** From `Leakage(rate)` with `0 ≤ rate ≤ 2 ^ 53` at `t0`,
under any run of `consume` and `release` calls of non-negative amounts with a
clock that never steps back: the net grant of every segment of the run whose
first and last `consume` read `s` and `s'` is at most
`rate + rate * (s' - s) * (1 + 2 ^ -53) ^ 2`, and the net grant from
construction up to a `consume` at `t` is at most
`rate * (t - t0) * (1 + 2 ^ -53) ^ 2 + rate`. -/
theorem net_granted_le (rate : ℤ) (t0 : ℚ) (calls : List Call) (rateNonneg : 0 ≤ rate)
    (rateLe : rate ≤ 2 ^ 53) (nonneg : ∀ c ∈ calls, c.AmountNonneg ∧ c.ReleaseNonneg)
    (clock : List.Chain (· ≤ ·) t0 (readings calls)) :
    (∀ pre seg post s s', calls = pre ++ seg ++ post →
      (readings seg).head? = some s → (readings seg).getLast? = some s' →
      (netGranted (run (init rate t0) pre).1 seg : ℚ) ≤
        rate + rate * (s' - s) * (1 + 1 / 2 ^ 53) ^ 2) ∧
    (∀ pre amount t, pre ++ [.consume amount t] <+: calls →
      (netGranted (init rate t0) (pre ++ [.consume amount t]) : ℚ) ≤
        rate * (t - t0) * (1 + 1 / 2 ^ 53) ^ 2 + rate) := by
  refine ⟨fun pre seg post s s' split first last => ?_, fun pre amount t ⟨post, split⟩ => ?_⟩
  · subst split
    rw [List.append_assoc] at clock nonneg
    have valid := run_valid (init_valid t0 rateNonneg)
      (fun c mem => (nonneg c (List.mem_append_left _ mem)).1)
    have bound := segment_netGranted_le valid (by rwa [run_rate])
      (fun c mem => nonneg c (List.mem_append_right _ (List.mem_append_left _ mem)))
      (chain_readings_of_append (@run_chain (init rate t0) pre _ clock)) first last
    rwa [run_rate] at bound
  · subst split
    have potential := @run_netGranted_add_tokens_le (init rate t0) _ rateNonneg rateLe
      (fun c mem => (nonneg c (List.mem_append_left _ mem)).2) (chain_readings_of_append clock)
    have left : (0 : ℚ) ≤ _ := Int.cast_nonneg.mpr (run_valid (init_valid t0 rateNonneg)
      (fun c mem => (nonneg c (List.mem_append_left _ mem)).1)).tokens_nonneg
    rw [run_lastCheck] at potential
    simp only [readings, List.filterMap_append, List.filterMap_cons, List.filterMap_nil,
      Call.reading, List.getLast?_append, List.getLast?_singleton, Option.or_some,
      Option.getD_some, init_tokens, init_rate, init_lastCheck] at potential
    linarith

theorem net_granted_le_sample :
    0 ≤ (100 : ℤ) ∧ (100 : ℤ) ≤ 2 ^ 53 ∧
    (∀ c ∈ [Call.consume 80 1, .release 30, .consume 50 1], c.AmountNonneg ∧ c.ReleaseNonneg) ∧
    List.Chain (· ≤ ·) 0 (readings [Call.consume 80 1, .release 30, .consume 50 1]) ∧
    ((∀ pre seg post s s', [Call.consume 80 1, .release 30, .consume 50 1] = pre ++ seg ++ post →
      (readings seg).head? = some s → (readings seg).getLast? = some s' →
      (netGranted (run (init 100 0) pre).1 seg : ℚ) ≤
        100 + 100 * (s' - s) * (1 + 1 / 2 ^ 53) ^ 2) ∧
    (∀ pre amount t, pre ++ [.consume amount t] <+: [Call.consume 80 1, .release 30, .consume 50 1] →
      (netGranted (init 100 0) (pre ++ [.consume amount t]) : ℚ) ≤
        100 * (t - 0) * (1 + 1 / 2 ^ 53) ^ 2 + 100)) :=
  have nonneg : ∀ c ∈ [Call.consume 80 1, .release 30, .consume 50 1],
      c.AmountNonneg ∧ c.ReleaseNonneg := by simp [Call.AmountNonneg, Call.ReleaseNonneg]
  have clock : List.Chain (· ≤ ·) 0 (readings [Call.consume 80 1, .release 30, .consume 50 1]) := by
    simp [readings, Call.reading]
  ⟨by decide, by norm_num, nonneg, clock,
    by exact_mod_cast net_granted_le 100 0 _ (by decide) (by norm_num) nonneg clock⟩

/-- The float product can round up across a whole token: from `Leakage(3)` at
`0.0`, `consume(3)` at `0.0` and at `0.3333333333333333`, the double
`6004799503160661 / 2 ^ 54`, grant `3` and then `1`, since `elapsed * 3` is
`1 - 2 ^ -54`, halfway between two doubles, and rounds to the even one, `1.0`.
The net grant `4` exceeds `rate + rate * (s' - s)` by `2 ^ -54`. -/
theorem net_granted_rounds_up :
    netGranted (init 3 0) [.consume 3 0, .consume 3 (6004799503160661 / 2 ^ 54)] = 4 ∧
      (3 : ℚ) + 3 * (6004799503160661 / 2 ^ 54 - 0) < 4 := by
  have third : Double.round (6004799503160661 / 2 ^ 54 - 0) = 6004799503160661 / 2 ^ 54 := by
    rw [sub_zero]
    refine Double.round_of_mul 6004799503160661 ?_
    rw [Double.ulp, Double.exponent,
      Double.binade_eq (e := -2) (by norm_num [abs_of_pos]) (by norm_num [abs_of_pos])]
    norm_num
  -- the exact product `2 ^ 53 - 1 / 2` steps of `2 ^ -53` is a tie, and `2 ^ 53` is even
  have tie : ⌊(6004799503160661 / 2 ^ 54 * ((3 : ℤ) : ℚ)) / 2 ^ (-1 - 52 : ℤ) + 1 / 2⌋ =
      9007199254740992 := by
    norm_num [Int.floor_eq_iff]
  have roundsUp : Double.round (6004799503160661 / 2 ^ 54 * ((3 : ℤ) : ℚ)) = 1 := by
    rw [Double.round_eq_of_binade (e := -1) (by norm_num [abs_of_pos]) (by norm_num [abs_of_pos])
      (by norm_num), Double.roundEven, tie]
    norm_num
  have credited : credit 3 0 (6004799503160661 / 2 ^ 54) = 1 := by
    rw [credit, third, Double.round_intCast (by norm_num), roundsUp]
    exact int_intCast 1
  refine ⟨?_, by norm_num⟩
  simp [netGranted, granted, released, call, Call.released, Reply.granted, consume, refill,
    credit_same_reading, credited]

end ProxyPy.Common.Leakage
