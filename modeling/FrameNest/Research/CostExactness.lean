import FrameNest.Research.Values
import Mathlib.Algebra.BigOperators.Intervals
import Mathlib.Algebra.Order.Field.Rat
import Mathlib.Data.Rat.Cast.Order
import Mathlib.Tactic.FieldSimp
import Mathlib.Tactic.Linarith
import Mathlib.Tactic.Ring

/-! Integer micro-USD cost of reported usage. -/
namespace FrameNest.Research

def microUsdScale : Nat := 1000000

structure UsageTokenPrices where
  inputMicroUsdPerMillion : Nat
  cachedInputMicroUsdPerMillion : Nat
  cacheWriteInputMicroUsdPerMillion : Nat
  outputMicroUsdPerMillion : Nat

/- The four required rates describe the short tier; a legacy schedule may leave
   out the write rate, the threshold and the long tier. -/
structure UsagePriceSchedule where
  inputMicroUsdPerMillion : Nat
  cachedInputMicroUsdPerMillion : Nat
  outputMicroUsdPerMillion : Nat
  webSearchMicroUsdPerThousand : Nat
  cacheWriteInputMicroUsdPerMillion : Option Nat
  longContextThresholdTokens : Option Nat
  longContext : Option UsageTokenPrices

def ceilingDiv (numerator denominator : Nat) : Nat :=
  if numerator = 0 then 0 else (numerator + denominator - 1) / denominator

def tokenCostMicroUsd (tokenCount microUsdPerMillion : Nat) : Nat :=
  ceilingDiv (tokenCount * microUsdPerMillion) microUsdScale

def shortPrices (schedule : UsagePriceSchedule) : UsageTokenPrices where
  inputMicroUsdPerMillion := schedule.inputMicroUsdPerMillion
  cachedInputMicroUsdPerMillion := schedule.cachedInputMicroUsdPerMillion
  cacheWriteInputMicroUsdPerMillion :=
    schedule.cacheWriteInputMicroUsdPerMillion.getD schedule.inputMicroUsdPerMillion
  outputMicroUsdPerMillion := schedule.outputMicroUsdPerMillion

def selectTokenPrices (schedule : UsagePriceSchedule) (inputTokens : Nat) :
    Option UsageTokenPrices :=
  match schedule.longContextThresholdTokens with
  | some threshold =>
    if inputTokens > threshold then schedule.longContext else some (shortPrices schedule)
  | none => some (shortPrices schedule)

/- `none` where the source raises: an uncovered tier, or a write rate of its own
   with no write count reported. -/
def usageCostMicroUsd (usage : ResearchUsage) (schedule : UsagePriceSchedule) : Option Nat :=
  match selectTokenPrices schedule usage.inputTokens with
  | none => none
  | some prices =>
    let writeRate := prices.cacheWriteInputMicroUsdPerMillion
    let writeTokens := usage.cacheWriteInputTokens.getD 0
    if usage.cacheWriteInputTokens = none ∧ writeRate ≠ prices.inputMicroUsdPerMillion then none
    else if usage.cachedInputTokens + writeTokens > usage.inputTokens then none
    else
      let uncachedInput := usage.inputTokens - usage.cachedInputTokens - writeTokens
      let toolCost := ceilingDiv (usage.webToolCalls * schedule.webSearchMicroUsdPerThousand) 1000
      some (tokenCostMicroUsd uncachedInput prices.inputMicroUsdPerMillion +
        tokenCostMicroUsd usage.cachedInputTokens prices.cachedInputMicroUsdPerMillion +
        tokenCostMicroUsd writeTokens writeRate +
        tokenCostMicroUsd usage.outputTokens prices.outputMicroUsdPerMillion + toolCost)

def usageCostMicroUsdOrNone (usage : Option ResearchUsage)
    (schedule : Option UsagePriceSchedule) : Option Nat :=
  match usage, schedule with
  | some usage, some schedule => usageCostMicroUsd usage schedule
  | _, _ => none

end FrameNest.Research

/-! The integer cost of a usage beside the rational one: five components, each rounded up, so
less than five micro-USD above the exact amount. -/
namespace FrameNest.Research

/-- How one input token is charged. -/
inductive TokenClass where
  | uncached | cached | cacheWrite
deriving DecidableEq

/- Cached tokens are counted first, then those written to the cache. -/
def tokenClass (usage : ResearchUsage) (i : Nat) : TokenClass :=
  if i < usage.cachedInputTokens then .cached
  else if i < usage.cachedInputTokens + usage.cacheWriteInputTokens.getD 0 then .cacheWrite
  else .uncached

def tokenRate (prices : UsageTokenPrices) : TokenClass → Nat
  | .uncached => prices.inputMicroUsdPerMillion
  | .cached => prices.cachedInputMicroUsdPerMillion
  | .cacheWrite => prices.cacheWriteInputMicroUsdPerMillion

/-- Every input token at the one rate of its class, output tokens once (reasoning tokens are
among them), web calls per thousand. -/
def exactCost (usage : ResearchUsage) (prices : UsageTokenPrices) (webRate : Nat) : ℚ :=
  (∑ i ∈ Finset.range usage.inputTokens, (tokenRate prices (tokenClass usage i) : ℚ)) / 1000000 +
    (usage.outputTokens * prices.outputMicroUsdPerMillion : ℚ) / 1000000 +
    (usage.webToolCalls * webRate : ℚ) / 1000

/-- The tier that the total of input tokens selects. The threshold itself is short. -/
def InTier (schedule : UsagePriceSchedule) (inputTokens : Nat) (prices : UsageTokenPrices) :
    Prop :=
  ((∀ t, schedule.longContextThresholdTokens = some t → inputTokens ≤ t) ∧
      prices = shortPrices schedule) ∨
    ∃ t, schedule.longContextThresholdTokens = some t ∧ t < inputTokens ∧
      schedule.longContext = some prices

/-- When accounting stays unknown. -/
def CostUnknown (usage : ResearchUsage) (schedule : UsagePriceSchedule) : Prop :=
  (∃ t, schedule.longContextThresholdTokens = some t ∧ t < usage.inputTokens ∧
      schedule.longContext = none) ∨
    (usage.cacheWriteInputTokens = none ∧
      ∃ prices, InTier schedule usage.inputTokens prices ∧
        prices.cacheWriteInputMicroUsdPerMillion ≠ prices.inputMicroUsdPerMillion)

section Rounding

theorem le_ceilingDiv (n : Nat) {d : Nat} (hd : 0 < d) : (n : ℚ) / d ≤ ceilingDiv n d := by
  have hdq : (0 : ℚ) < d := by exact_mod_cast hd
  rw [div_le_iff₀ hdq]
  have hnat : n ≤ ceilingDiv n d * d := by
    unfold ceilingDiv
    split
    case isTrue h => omega
    case isFalse h =>
      have hlt := Nat.lt_mul_div_succ (n + d - 1) hd
      rw [Nat.mul_add, Nat.mul_comm] at hlt
      omega
  exact_mod_cast hnat

theorem ceilingDiv_lt (n : Nat) {d : Nat} (hd : 0 < d) : (ceilingDiv n d : ℚ) < n / d + 1 := by
  have hdq : (0 : ℚ) < d := by exact_mod_cast hd
  have hnat : ceilingDiv n d * d < n + d := by
    unfold ceilingDiv
    split
    case isTrue h => omega
    case isFalse h =>
      have hle := Nat.div_mul_le_self (n + d - 1) d
      omega
  have hq : (ceilingDiv n d : ℚ) * d < n + d := by exact_mod_cast hnat
  have hsum : (n : ℚ) / d + 1 = (n + d) / d := by field_simp
  rw [hsum, lt_div_iff₀ hdq]
  exact hq

theorem ceilingDiv_mono {m n : Nat} (d : Nat) (h : m ≤ n) : ceilingDiv m d ≤ ceilingDiv n d := by
  unfold ceilingDiv
  split
  case isTrue => omega
  case isFalse hm =>
    split
    case isTrue hn => omega
    case isFalse => exact Nat.div_le_div_right (by omega)

theorem tokenCost_bounds (count rate : Nat) :
    (count * rate : ℚ) / 1000000 ≤ tokenCostMicroUsd count rate ∧
      (tokenCostMicroUsd count rate : ℚ) < (count * rate : ℚ) / 1000000 + 1 := by
  have hle := le_ceilingDiv (count * rate) (d := microUsdScale) (by decide)
  have hlt := ceilingDiv_lt (count * rate) (d := microUsdScale) (by decide)
  have hscale : ((microUsdScale : Nat) : ℚ) = 1000000 := by norm_num [microUsdScale]
  rw [hscale, Nat.cast_mul] at hle hlt
  exact ⟨hle, hlt⟩

theorem tokenCost_mono {m n : Nat} (rate : Nat) (h : m ≤ n) :
    tokenCostMicroUsd m rate ≤ tokenCostMicroUsd n rate :=
  ceilingDiv_mono _ (Nat.mul_le_mul_right rate h)

end Rounding

section Tiers
variable {schedule : UsagePriceSchedule} {n : Nat} {prices : UsageTokenPrices}

theorem selectTokenPrices_some_iff :
    selectTokenPrices schedule n = some prices ↔ InTier schedule n prices := by
  unfold selectTokenPrices InTier
  cases hth : schedule.longContextThresholdTokens with
  | none => simp [eq_comm]
  | some t =>
    by_cases hn : n > t
    · simp [hn, Nat.not_le.mpr hn]
    · have hle : n ≤ t := Nat.le_of_not_gt hn
      simp [hn, hle, eq_comm]

theorem selectTokenPrices_none_iff :
    selectTokenPrices schedule n = none ↔
      ∃ t, schedule.longContextThresholdTokens = some t ∧ t < n ∧ schedule.longContext = none := by
  unfold selectTokenPrices
  cases hth : schedule.longContextThresholdTokens with
  | none => simp
  | some t =>
    by_cases hn : n > t
    · simp [hn]
    · simp [hn]

end Tiers

section Cost
variable {usage : ResearchUsage} {schedule : UsagePriceSchedule} {prices : UsageTokenPrices}

/- The tokens neither read from the cache nor written to it. -/
def uncachedInputTokens (usage : ResearchUsage) : Nat :=
  usage.inputTokens - usage.cachedInputTokens - usage.cacheWriteInputTokens.getD 0

theorem cacheTokens_le (usage : ResearchUsage) :
    usage.cachedInputTokens + usage.cacheWriteInputTokens.getD 0 ≤ usage.inputTokens := by
  cases hw : usage.cacheWriteInputTokens with
  | none => simpa using usage.cached_le
  | some n => simpa using usage.cacheWrite_le n hw

/- The sum of the five rounded components. -/
def roundedCost (usage : ResearchUsage) (prices : UsageTokenPrices) (webRate : Nat) : Nat :=
  tokenCostMicroUsd (uncachedInputTokens usage) prices.inputMicroUsdPerMillion +
    tokenCostMicroUsd usage.cachedInputTokens prices.cachedInputMicroUsdPerMillion +
    tokenCostMicroUsd (usage.cacheWriteInputTokens.getD 0)
      prices.cacheWriteInputMicroUsdPerMillion +
    tokenCostMicroUsd usage.outputTokens prices.outputMicroUsdPerMillion +
    ceilingDiv (usage.webToolCalls * webRate) 1000

/-- The cost of a usage within a covered tier. The subtraction never underflows: a usage
counts no more cache tokens than input tokens. -/
theorem usageCostMicroUsd_eq (h : selectTokenPrices schedule usage.inputTokens = some prices) :
    usageCostMicroUsd usage schedule =
      if usage.cacheWriteInputTokens = none ∧
          prices.cacheWriteInputMicroUsdPerMillion ≠ prices.inputMicroUsdPerMillion then none
      else some (roundedCost usage prices schedule.webSearchMicroUsdPerThousand) := by
  have hle := cacheTokens_le usage
  have hfits : ¬ usage.cachedInputTokens + usage.cacheWriteInputTokens.getD 0 >
      usage.inputTokens := by omega
  simp only [usageCostMicroUsd, h, hfits, if_false, roundedCost, uncachedInputTokens]

theorem usageCostMicroUsd_none_iff :
    usageCostMicroUsd usage schedule = none ↔ CostUnknown usage schedule := by
  cases hs : selectTokenPrices schedule usage.inputTokens with
  | none =>
    have hcost : usageCostMicroUsd usage schedule = none := by simp [usageCostMicroUsd, hs]
    simp only [hcost, true_iff]
    exact .inl (selectTokenPrices_none_iff.mp hs)
  | some prices =>
    have htier := selectTokenPrices_some_iff.mp hs
    have honly : ∀ prices', InTier schedule usage.inputTokens prices' → prices' = prices := by
      intro prices' h
      have hsame := selectTokenPrices_some_iff.mpr h
      exact Option.some.inj (hsame.symm.trans hs)
    have hcovered : ¬ ∃ t, schedule.longContextThresholdTokens = some t ∧
        t < usage.inputTokens ∧ schedule.longContext = none := by
      intro h
      have hnone := selectTokenPrices_none_iff.mpr h
      simp [hs] at hnone
    rw [usageCostMicroUsd_eq hs]
    constructor
    · intro h
      split at h
      case isTrue hunknown => exact .inr ⟨hunknown.1, prices, htier, hunknown.2⟩
      case isFalse => cases h
    · rintro (h | ⟨hwrite, prices', htier', hne⟩)
      · exact absurd h hcovered
      · rw [honly prices' htier'] at hne
        simp [hwrite, hne]

theorem sum_tokenRate (usage : ResearchUsage) (prices : UsageTokenPrices) :
    (∑ i ∈ Finset.range usage.inputTokens, (tokenRate prices (tokenClass usage i) : ℚ)) =
      uncachedInputTokens usage * prices.inputMicroUsdPerMillion +
        usage.cachedInputTokens * prices.cachedInputMicroUsdPerMillion +
        (usage.cacheWriteInputTokens.getD 0 : Nat) * prices.cacheWriteInputMicroUsdPerMillion := by
  have hle := cacheTokens_le usage
  have hcached : ∀ i ∈ Finset.range usage.cachedInputTokens,
      (tokenRate prices (tokenClass usage i) : ℚ) = prices.cachedInputMicroUsdPerMillion := by
    intro i hi
    simp [tokenClass, Finset.mem_range.mp hi, tokenRate]
  have hwrite : ∀ i ∈ Finset.Ico usage.cachedInputTokens
      (usage.cachedInputTokens + usage.cacheWriteInputTokens.getD 0),
      (tokenRate prices (tokenClass usage i) : ℚ) = prices.cacheWriteInputMicroUsdPerMillion := by
    intro i hi
    obtain ⟨hlow, hhigh⟩ := Finset.mem_Ico.mp hi
    simp [tokenClass, Nat.not_lt.mpr hlow, hhigh, tokenRate]
  have huncached : ∀ i ∈ Finset.Ico
      (usage.cachedInputTokens + usage.cacheWriteInputTokens.getD 0) usage.inputTokens,
      (tokenRate prices (tokenClass usage i) : ℚ) = prices.inputMicroUsdPerMillion := by
    intro i hi
    obtain ⟨hlow, -⟩ := Finset.mem_Ico.mp hi
    have hnot : ¬ i < usage.cachedInputTokens := by omega
    simp [tokenClass, hnot, Nat.not_lt.mpr hlow, tokenRate]
  have hcount : usage.inputTokens -
      (usage.cachedInputTokens + usage.cacheWriteInputTokens.getD 0) =
        uncachedInputTokens usage := by
    unfold uncachedInputTokens
    omega
  rw [← Finset.sum_range_add_sum_Ico _ hle,
    ← Finset.sum_range_add_sum_Ico _ (Nat.le_add_right usage.cachedInputTokens _),
    Finset.sum_congr rfl hcached, Finset.sum_congr rfl hwrite, Finset.sum_congr rfl huncached]
  simp only [Finset.sum_const, Finset.card_range, Nat.card_Ico, nsmul_eq_mul, hcount,
    Nat.add_sub_cancel_left]
  ring

/-- Five components, each less than one above its exact value. -/
theorem roundedCost_bounds (usage : ResearchUsage) (prices : UsageTokenPrices) (webRate : Nat) :
    exactCost usage prices webRate ≤ roundedCost usage prices webRate ∧
      (roundedCost usage prices webRate : ℚ) < exactCost usage prices webRate + 5 := by
  have h1 := tokenCost_bounds (uncachedInputTokens usage) prices.inputMicroUsdPerMillion
  have h2 := tokenCost_bounds usage.cachedInputTokens prices.cachedInputMicroUsdPerMillion
  have h3 := tokenCost_bounds (usage.cacheWriteInputTokens.getD 0)
    prices.cacheWriteInputMicroUsdPerMillion
  have h4 := tokenCost_bounds usage.outputTokens prices.outputMicroUsdPerMillion
  have hle := le_ceilingDiv (usage.webToolCalls * webRate) (d := 1000) (by decide)
  have hlt := ceilingDiv_lt (usage.webToolCalls * webRate) (d := 1000) (by decide)
  rw [Nat.cast_mul] at hle hlt
  have hthousand : ((1000 : Nat) : ℚ) = 1000 := by norm_num
  rw [hthousand] at hle hlt
  have hsplit := sum_tokenRate usage prices
  simp only [exactCost, roundedCost, hsplit, add_div]
  push_cast
  constructor
  · linarith only [h1.1, h2.1, h3.1, h4.1, hle]
  · linarith only [h1.2, h2.2, h3.2, h4.2, hlt]

theorem roundedCost_mono {u v : ResearchUsage} (prices : UsageTokenPrices) (webRate : Nat)
    (hcached : u.cachedInputTokens = v.cachedInputTokens)
    (hwrite : u.cacheWriteInputTokens = v.cacheWriteInputTokens)
    (huncached : uncachedInputTokens u ≤ uncachedInputTokens v)
    (houtput : u.outputTokens ≤ v.outputTokens) (hweb : u.webToolCalls ≤ v.webToolCalls) :
    roundedCost u prices webRate ≤ roundedCost v prices webRate := by
  have h1 := tokenCost_mono prices.inputMicroUsdPerMillion huncached
  have h2 := tokenCost_mono prices.outputMicroUsdPerMillion houtput
  have h3 := ceilingDiv_mono 1000 (Nat.mul_le_mul_right webRate hweb)
  simp only [roundedCost, hcached, hwrite]
  omega

end Cost

/-- The cost is unknown exactly in the listed cases; a known cost lies less than five micro-USD
above the exact one; within one tier it grows with output, web calls and uncached input. -/
theorem usage_cost_law :
    (∀ (usage : Option ResearchUsage) (schedule : Option UsagePriceSchedule),
      usageCostMicroUsdOrNone usage schedule = none ↔
        usage = none ∨ schedule = none ∨
          ∃ u s, usage = some u ∧ schedule = some s ∧ CostUnknown u s) ∧
    (∀ (u : ResearchUsage) (s : UsagePriceSchedule) (c : Nat),
      usageCostMicroUsdOrNone (some u) (some s) = some c →
        ∃ prices, InTier s u.inputTokens prices ∧
          exactCost u prices s.webSearchMicroUsdPerThousand ≤ c ∧
          (c : ℚ) < exactCost u prices s.webSearchMicroUsdPerThousand + 5) ∧
    (∀ (u v : ResearchUsage) (s : UsagePriceSchedule) (prices : UsageTokenPrices) (c d : Nat),
      InTier s u.inputTokens prices → InTier s v.inputTokens prices →
      u.cachedInputTokens = v.cachedInputTokens →
      u.cacheWriteInputTokens = v.cacheWriteInputTokens →
      uncachedInputTokens u ≤ uncachedInputTokens v → u.outputTokens ≤ v.outputTokens →
      u.webToolCalls ≤ v.webToolCalls →
      usageCostMicroUsdOrNone (some u) (some s) = some c →
      usageCostMicroUsdOrNone (some v) (some s) = some d → c ≤ d) := by
  have hknown : ∀ {u : ResearchUsage} {s : UsagePriceSchedule} {prices : UsageTokenPrices}
      {c : Nat}, selectTokenPrices s u.inputTokens = some prices →
      usageCostMicroUsdOrNone (some u) (some s) = some c →
      c = roundedCost u prices s.webSearchMicroUsdPerThousand := by
    intro u s prices c hs hc
    simp only [usageCostMicroUsdOrNone, usageCostMicroUsd_eq hs] at hc
    split at hc
    case isTrue => cases hc
    case isFalse => exact (Option.some.inj hc).symm
  refine ⟨?unknown, ?exact, ?monotone⟩
  case unknown =>
    intro usage schedule
    cases usage with
    | none => simp [usageCostMicroUsdOrNone]
    | some u =>
      cases schedule with
      | none => simp [usageCostMicroUsdOrNone]
      | some s => simp [usageCostMicroUsdOrNone, usageCostMicroUsd_none_iff]
  case exact =>
    intro u s c hc
    cases hs : selectTokenPrices s u.inputTokens with
    | none => simp [usageCostMicroUsdOrNone, usageCostMicroUsd, hs] at hc
    | some prices =>
      rw [hknown hs hc]
      exact ⟨prices, selectTokenPrices_some_iff.mp hs,
        roundedCost_bounds u prices s.webSearchMicroUsdPerThousand⟩
  case monotone =>
    intro u v s prices c d hu hv hcached hwrite huncached houtput hweb hc hd
    rw [hknown (selectTokenPrices_some_iff.mpr hu) hc, hknown (selectTokenPrices_some_iff.mpr hv) hd]
    exact roundedCost_mono prices _ hcached hwrite huncached houtput hweb

/-- A usage with a cached part and one with more uncached input and output. -/
def smallUsage : ResearchUsage where
  inputTokens := 1000
  cachedInputTokens := 400
  outputTokens := 50
  reasoningTokens := 20
  webToolCalls := 1
  cacheWriteInputTokens := some 100
  cached_le := by decide
  reasoning_le := by decide
  cacheWrite_le := by simp

def largeUsage : ResearchUsage where
  inputTokens := 1200
  cachedInputTokens := 400
  outputTokens := 80
  reasoningTokens := 20
  webToolCalls := 2
  cacheWriteInputTokens := some 100
  cached_le := by decide
  reasoning_le := by decide
  cacheWrite_le := by simp

def tieredSchedule : UsagePriceSchedule where
  inputMicroUsdPerMillion := 1250000
  cachedInputMicroUsdPerMillion := 125000
  outputMicroUsdPerMillion := 10000000
  webSearchMicroUsdPerThousand := 10000000
  cacheWriteInputMicroUsdPerMillion := some 1500000
  longContextThresholdTokens := some 1100
  longContext := none

theorem usage_cost_law_applied :
    (usageCostMicroUsdOrNone (some smallUsage) (some tieredSchedule) = some 11325 ∧
      ∃ prices, InTier tieredSchedule 1000 prices ∧
        exactCost smallUsage prices 10000000 ≤ (11325 : Nat) ∧
        ((11325 : Nat) : ℚ) < exactCost smallUsage prices 10000000 + 5) ∧
    usageCostMicroUsdOrNone (some largeUsage) (some tieredSchedule) = none := by
  have hknown : usageCostMicroUsdOrNone (some smallUsage) (some tieredSchedule) = some 11325 := by
    decide
  refine ⟨⟨hknown, usage_cost_law.2.1 smallUsage tieredSchedule 11325 hknown⟩, ?_⟩
  apply (usage_cost_law.1 (some largeUsage) (some tieredSchedule)).mpr
  have hunknown : CostUnknown largeUsage tieredSchedule := .inl ⟨1100, rfl, by decide, rfl⟩
  exact .inr (.inr ⟨largeUsage, tieredSchedule, rfl, rfl, hunknown⟩)

end FrameNest.Research
