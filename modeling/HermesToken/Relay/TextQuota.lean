import HermesToken.Relay.ClaudeStream
import Mathlib.Algebra.Order.BigOperators.GroupWithZero.List

/-!
# The price of a usage

What the quota of a text makes of the counts of its usage. The quota is an
unrounded total put through the corrections of `Pricing.charge`, which keep the
order of the totals; what is compared are then the totals of two counts, of
Claude's and of OpenAI's sense, or of the ratios and of an expression.
-/

namespace HermesToken.Relay

open Lib Billing

theorem quotaRound_eq : quotaRound x = if x < 0 then -⌊|x| + 1 / 2⌋ else ⌊|x| + 1 / 2⌋ := by
  have hint (n : Int) : intPart n = n := by simp [intPart]
  have hround : roundTo x 0 = ((if x < 0 then -⌊|x| + 1 / 2⌋ else ⌊|x| + 1 / 2⌋ : Int) : ℚ) := by
    simp [roundTo]
  rw [quotaRound, hround, hint]

theorem quotaRound_mono (hxy : x ≤ y) : quotaRound x ≤ quotaRound y := by
  have hfloor (z : ℚ) : 0 ≤ ⌊|z| + 1 / 2⌋ := Int.floor_nonneg.mpr (by positivity)
  rw [quotaRound_eq, quotaRound_eq]
  by_cases hy : y < 0
  · rw [if_pos hy, if_pos (hxy.trans_lt hy), abs_of_neg hy, abs_of_neg (hxy.trans_lt hy)]
    gcongr
  rw [if_neg hy]
  by_cases hx : x < 0
  · rw [if_pos hx]
    linarith [hfloor x, hfloor y]
  · rw [if_neg hx, abs_of_nonneg (not_lt.mp hx), abs_of_nonneg (not_lt.mp hy)]
    gcongr

theorem quotaRound_zero : quotaRound 0 = 0 := by decide +kernel

theorem quotaRound_one : quotaRound 1 = 1 := by decide +kernel

/-- The counts of a `textQuotaSummary`. Those `apart` do not count the tokens of
a cache among the prompt. -/
structure TextCounts where
  apart : Bool
  (total prompt completion cache created created5m created1h image audio : Int)

abbrev Usage.cached (usage : Usage) : Int := usage.promptTokensDetails.cachedTokens

abbrev Usage.created (usage : Usage) : Int := usage.promptTokensDetails.cachedCreationTokens

abbrev Usage.image (usage : Usage) : Int := usage.promptTokensDetails.imageTokens

abbrev Usage.audio (usage : Usage) : Int := usage.promptTokensDetails.audioTokens

/-- The counts of a usage, given those of the prompt and of a cache's creation. -/
def Usage.counts (usage : Usage) (apart : Bool) (input : Int × Int) : TextCounts where
  apart := apart
  total := usage.promptTokens + usage.completionTokens
  prompt := input.1
  completion := usage.completionTokens
  cache := usage.cached
  created := input.2
  created5m := usage.claudeCacheCreation5mTokens
  created1h := usage.claudeCacheCreation1hTokens
  image := usage.image
  audio := usage.promptTokensDetails.audioTokens

def TextCounts.creates (k : TextCounts) : Bool :=
  k.created ≠ 0 || 0 < k.created5m || 0 < k.created1h

structure Pricing where
  settings : ConsumeSettings
  bill : Bill

namespace Pricing

section

variable (p : Pricing)

def ratio : ℚ := p.bill.price.modelRatio * p.bill.price.groupRatio

def charge (total : ℚ) : Int :=
  let quota := quotaRound (if !p.bill.price.usePrice && p.ratio ≠ 0 && total ≤ 0 then 1 else total)
  if p.ratio ≠ 0 && quota = 0 then 1 else quota

/-- A total is below zero only where it is clamped. -/
def Chargeable (total : ℚ) : Prop :=
  0 ≤ total ∨ p.bill.price.usePrice = false ∧ p.ratio ≠ 0

variable (response : TextResponse)

def counts : TextCounts :=
  let usage := response.usage.getD p.bill.estimatedUsage
  usage.counts (usageSemanticFromUsage response = "anthropic" ||
    isLegacyClaudeDerivedOpenAIUsage response) (textInputTokens p.settings p.bill response usage)

def surcharge : ℚ :=
  toolCallSurcharge p.settings p.bill.modelName p.bill.price.groupRatio response.tools

variable (k : TextCounts)

/-- The tokens of a cache's creation, by their ratios. -/
def createdWithRatio : ℚ :=
  if !k.creates then 0
  else if k.apart then
    max 0 (k.created - k.created5m - k.created1h) * p.bill.ratios.cacheCreationRatio +
      k.created5m * p.bill.ratios.cacheCreation5mRatio +
      k.created1h * p.bill.ratios.cacheCreation1hRatio
  else k.created * p.bill.ratios.cacheCreationRatio

def audioPrice : ℚ := p.settings.geminiInputAudioPrice p.bill.modelName

def audioPriced : Bool := k.audio ≠ 0 && 0 < p.audioPrice

/-- The prompt tokens that are priced as such. -/
def baseTokens : Int :=
  k.prompt - (if k.apart then 0 else k.cache) - (if k.creates && !k.apart then k.created else 0) -
    k.image - (if p.audioPriced k then k.audio else 0)

def promptQuota : ℚ :=
  p.baseTokens k + k.cache * p.bill.ratios.cacheRatio + k.image * p.bill.ratios.imageRatio +
    p.createdWithRatio k

def audioQuota : ℚ :=
  if p.audioPriced k then
    p.audioPrice / 1000000 * k.audio * p.bill.price.groupRatio * p.settings.quotaPerUnit
  else 0

def unrounded : ℚ :=
  if !p.bill.price.usePrice then
    ((p.promptQuota (p.counts response) +
        (p.counts response).completion * p.bill.ratios.completionRatio) * p.ratio +
      p.surcharge response + p.audioQuota (p.counts response)) * otherFactor p.bill.price
  else
    (p.bill.price.modelPrice * p.settings.quotaPerUnit * p.bill.price.groupRatio +
      p.surcharge response) * otherFactor p.bill.price

def quota : Int := (calculateTextQuotaSummary p.settings p.bill response).quota

theorem quota_eq : p.quota response =
    if (p.counts response).total = 0 then 0 else p.charge (p.unrounded response) := by
  cases husePrice : p.bill.price.usePrice
  all_goals
    simp only [unrounded, charge, quota, calculateTextQuotaSummary, husePrice]
    rfl

/-- No price or ratio is a discount. -/
structure Nonneg : Prop where
  modelRatio : 0 ≤ p.bill.price.modelRatio
  groupRatio : 0 ≤ p.bill.price.groupRatio
  modelPrice : 0 ≤ p.bill.price.modelPrice
  otherRatios : ∀ r ∈ p.bill.price.otherRatios, 0 ≤ r.2
  quotaPerUnit : 0 ≤ p.settings.quotaPerUnit
  completionRatio : 0 ≤ p.bill.ratios.completionRatio
  cacheRatio : 0 ≤ p.bill.ratios.cacheRatio
  imageRatio : 0 ≤ p.bill.ratios.imageRatio
  cacheCreationRatio : 0 ≤ p.bill.ratios.cacheCreationRatio
  cacheCreation5mRatio : 0 ≤ p.bill.ratios.cacheCreation5mRatio
  cacheCreation1hRatio : 0 ≤ p.bill.ratios.cacheCreation1hRatio

end

variable {p : Pricing} {total : ℚ} {response other : TextResponse}

/-! ## The corrections -/

theorem charge_eq (h : p.Chargeable total) : p.charge total =
    if p.ratio = 0 then quotaRound total else max 1 (quotaRound total) := by
  have hzero := quotaRound_zero
  by_cases hratio : p.ratio = 0
  · simp [charge, hratio]
  simp only [charge, hratio, ne_eq, not_false_eq_true, decide_true, Bool.and_true, Bool.true_and,
    if_false, decide_eq_true_eq]
  by_cases hclamp : p.bill.price.usePrice = false ∧ total ≤ 0
  · have hround : quotaRound total ≤ 0 := hzero ▸ quotaRound_mono hclamp.2
    rw [show (!p.bill.price.usePrice && decide (total ≤ 0)) = true by simpa using hclamp]
    simp only [if_true, quotaRound_one]
    omega
  have htotal : 0 ≤ total := by
    rcases h with h | ⟨husePrice, -⟩
    · exact h
    · exact le_of_not_ge fun h => hclamp ⟨husePrice, h⟩
  have hround : 0 ≤ quotaRound total := hzero ▸ quotaRound_mono htotal
  rw [show (!p.bill.price.usePrice && decide (total ≤ 0)) = false by simpa using hclamp]
  simp only [Bool.false_eq_true, if_false]
  omega

theorem charge_mono {more : ℚ} (h : p.Chargeable total) (hmore : total ≤ more) :
    p.charge total ≤ p.charge more := by
  have hround := quotaRound_mono hmore
  rw [charge_eq h, charge_eq (h.imp_left hmore.trans')]
  split
  · exact hround
  · exact max_le_max_left 1 hround

theorem charge_nonneg (h : p.Chargeable total) : 0 ≤ p.charge total := by
  rw [charge_eq h]
  split
  · rename_i hratio
    exact quotaRound_zero ▸ quotaRound_mono (h.resolve_right fun h => h.2 hratio)
  · exact zero_le_one.trans (le_max_left _ _)

theorem Nonneg.otherFactor (h : p.Nonneg) : 0 ≤ otherFactor p.bill.price := by
  refine List.prod_nonneg fun ratio hratio => ?_
  obtain ⟨r, hr, rfl⟩ := List.mem_map.mp hratio
  exact h.otherRatios r hr

theorem audioQuota_nonneg (h : p.Nonneg) (haudio : 0 ≤ k.audio) : 0 ≤ p.audioQuota k := by
  have hgroup := h.groupRatio
  have hunit := h.quotaPerUnit
  unfold audioQuota
  split
  · rename_i hpriced
    simp only [audioPriced, Bool.and_eq_true, decide_eq_true_eq] at hpriced
    have hprice := hpriced.2
    positivity
  · exact le_rfl

theorem chargeable (h : p.Nonneg) (hsurcharge : 0 ≤ p.surcharge response)
    (haudio : 0 ≤ (p.counts response).audio) : p.Chargeable (p.unrounded response) := by
  have haudio := audioQuota_nonneg h haudio
  have hothers := h.otherFactor
  have hprice := mul_nonneg (mul_nonneg h.modelPrice h.quotaPerUnit) h.groupRatio
  unfold unrounded
  cases husePrice : p.bill.price.usePrice
  · by_cases hratio : p.ratio = 0
    · refine .inl ?_
      simp only [hratio, mul_zero, zero_add, Bool.not_false, if_true]
      positivity
    · exact .inr ⟨husePrice, hratio⟩
  · refine .inl ?_
    simp only [Bool.not_true, Bool.false_eq_true, if_false]
    positivity

/-- Neither the prompt nor the completion nor the audio is a discount. -/
theorem quota_mono (h : p.Nonneg) (hsurcharge : 0 ≤ p.surcharge response)
    (haudio : 0 ≤ (p.counts response).audio) (htools : other.tools = response.tools)
    (htotal : (p.counts other).total = 0 → (p.counts response).total = 0)
    (hprompt : p.promptQuota (p.counts response) ≤ p.promptQuota (p.counts other))
    (hcompletion : (p.counts response).completion ≤ (p.counts other).completion)
    (haudioQuota : p.audioQuota (p.counts response) ≤ p.audioQuota (p.counts other)) :
    p.quota response ≤ p.quota other := by
  have hratio : 0 ≤ p.ratio := mul_nonneg h.modelRatio h.groupRatio
  have hothers := h.otherFactor
  have hcompletionRatio := h.completionRatio
  have hcharge := chargeable h hsurcharge haudio
  have hle : p.unrounded response ≤ p.unrounded other := by
    unfold unrounded
    rw [show p.surcharge other = p.surcharge response by rw [surcharge, htools, surcharge]]
    split
    · gcongr
    · exact le_rfl
  have hquota := charge_mono hcharge hle
  rw [quota_eq, quota_eq]
  by_cases hother : (p.counts other).total = 0
  · rw [if_pos hother, if_pos (htotal hother)]
  rw [if_neg hother]
  split
  · exact (charge_nonneg hcharge).trans hquota
  · exact hquota

end Pricing

structure Usage.Nonneg (usage : Usage) : Prop where
  prompt : 0 ≤ usage.promptTokens
  completion : 0 ≤ usage.completionTokens
  cached : 0 ≤ usage.cached
  created : 0 ≤ usage.created
  image : 0 ≤ usage.image
  audio : 0 ≤ usage.audio
  created5m : 0 ≤ usage.claudeCacheCreation5mTokens
  created1h : 0 ≤ usage.claudeCacheCreation1hTokens

open Pricing

variable {p : Pricing} {usage : Usage} {response : TextResponse} {k : TextCounts}

abbrev Usage.reported (usage : Usage) (apart : Bool) : TextCounts :=
  usage.counts apart (usage.promptTokens, usage.created)

/-- OpenRouter's usage of Claude is counted in its own way. -/
abbrev TextResponse.RouterClaude (response : TextResponse) : Prop :=
  response.openRouter = true ∧ usageSemanticFromUsage response = "anthropic"

theorem Pricing.counts_eq (p : Pricing) (hresponse : response.usage = some usage)
    (hrouter : ¬ response.RouterClaude) :
    p.counts response = usage.reported (p.counts response).apart := by
  have hinput : textInputTokens p.settings p.bill response usage =
      (usage.promptTokens, usage.created) := by
    rw [textInputTokens, if_neg (by simpa using hrouter)]
  simp only [counts, hresponse, Option.getD_some, hinput]
  rfl

/-- The quota of a text is never negative, it is at least one for tokens that
have a ratio, and more tokens never cost less. -/
theorem text_quota_nonneg_and_grows (h : p.Nonneg) (hsurcharge : 0 ≤ p.surcharge response)
    (husage : (response.usage.getD p.bill.estimatedUsage).Nonneg)
    (hrouter : ¬ response.RouterClaude) :
    0 ≤ p.quota response ∧
    ((p.counts response).total ≠ 0 → p.bill.price.modelRatio ≠ 0 → p.bill.price.groupRatio ≠ 0 →
      1 ≤ p.quota response) ∧
    ∀ usage, response.usage = some usage → ∀ prompt completion : Int, 0 ≤ prompt → 0 ≤ completion →
      p.quota response ≤ p.quota { response with
        usage := some { usage with
          promptTokens := usage.promptTokens + prompt
          completionTokens := usage.completionTokens + completion } } := by
  have hcharge := chargeable h hsurcharge husage.audio
  refine ⟨?_, fun htokens hmodel hgroup => ?_, ?_⟩
  · rw [quota_eq]
    split
    · exact le_rfl
    · exact charge_nonneg hcharge
  · have hratio : p.ratio ≠ 0 := mul_ne_zero hmodel hgroup
    rw [quota_eq, if_neg htokens, charge_eq hcharge, if_neg hratio]
    exact le_max_left _ _
  intro usage hresponse prompt completion hprompt hcompletion
  obtain ⟨_, tools, claudeFormat, openRouter⟩ := response
  obtain rfl : _ = some usage := hresponse
  have hp : 0 ≤ usage.promptTokens := husage.prompt
  have hc : 0 ≤ usage.completionTokens := husage.completion
  let grown : Usage := { usage with
    promptTokens := usage.promptTokens + prompt
    completionTokens := usage.completionTokens + completion }
  have hbefore := p.counts_eq rfl hrouter
  have hafter : p.counts ⟨some grown, tools, claudeFormat, openRouter⟩ =
      grown.reported (p.counts ⟨some usage, tools, claudeFormat, openRouter⟩).apart :=
    p.counts_eq rfl hrouter
  have hshift (apart : Bool) : p.promptQuota (grown.reported apart) =
      p.promptQuota (usage.reported apart) + prompt := by
    have hadd (p cache created image audio : Int) (x y z : ℚ) :
        ((p + prompt - cache - created - image - audio : Int) : ℚ) + x + y + z =
        ((p - cache - created - image - audio : Int) : ℚ) + x + y + z + prompt := by
      push_cast
      ring
    exact hadd ..
  refine quota_mono h hsurcharge husage.audio rfl ?_ ?_ ?_ le_rfl
  · rw [hafter, hbefore]
    show usage.promptTokens + prompt + (usage.completionTokens + completion) = 0 →
      usage.promptTokens + usage.completionTokens = 0
    omega
  · rw [hafter, hbefore, hshift]
    exact le_add_of_nonneg_right (mod_cast hprompt)
  · exact Int.le_add_of_nonneg_right hcompletion

/-- A model at ratio one whose cached tokens cost a tenth. -/
def samplePricing : Pricing where
  settings := { tieredExpr_eq := fun _ => rfl }
  bill := {
    modelName := "m"
    price := { modelRatio := 1 }
    ratios := {
      completionRatio := 1, cacheRatio := 1 / 10, imageRatio := 1, cacheCreationRatio := 5 / 4
      cacheCreation5mRatio := 5 / 4, cacheCreation1hRatio := 2 } }

theorem samplePricing_nonneg : samplePricing.Nonneg := by
  constructor <;> norm_num [samplePricing]

/-- Ten prompt tokens, of which a hundred are said to come from a cache. -/
def sampleCached : Usage :=
  { promptTokens := 10, completionTokens := 100, promptTokensDetails := { cachedTokens := 100 } }

theorem sampleCached_nonneg : sampleCached.Nonneg := by
  constructor <;> decide

theorem text_quota_nonneg_and_grows_sample : 1 ≤ samplePricing.quota { usage := sampleCached } :=
  (@text_quota_nonneg_and_grows samplePricing { usage := sampleCached } samplePricing_nonneg
    (by decide +kernel) sampleCached_nonneg (by decide +kernel)).2.1
    (by decide +kernel) (by decide +kernel) (by decide +kernel)

/-! ## The input of a usage -/

def Usage.withoutInput (usage : Usage) : Usage := { usage with
  promptTokens := 0
  promptTokensDetails := {}
  claudeCacheCreation5mTokens := 0
  claudeCacheCreation1hTokens := 0 }

theorem textInputTokens_withoutInput :
    textInputTokens p.settings p.bill response usage.withoutInput = (0, 0) := by
  unfold textInputTokens
  dsimp only [Usage.withoutInput]
  split
  · split
    · simp_all
      omega
    · rfl
  · rfl

/-- What the input adds to the unrounded quota: the prompt tokens, and for every
category what its ratio gives beyond the tokens that it takes out of them. -/
def Pricing.inputWorth (p : Pricing) (k : TextCounts) : ℚ :=
  let inPrompt : ℚ := if k.apart then 0 else 1
  let audio : ℚ := if 0 < p.audioPrice then k.audio else 0
  ((k.prompt + k.cache * (p.bill.ratios.cacheRatio - inPrompt) +
        k.image * (p.bill.ratios.imageRatio - 1) + (p.createdWithRatio k - k.created * inPrompt) -
        audio) * p.ratio +
      p.audioPrice / 1000000 * audio * p.bill.price.groupRatio * p.settings.quotaPerUnit) *
    otherFactor p.bill.price

theorem Pricing.inputWorth_eq : p.inputWorth k =
    (p.promptQuota k * p.ratio + p.audioQuota k) * otherFactor p.bill.price := by
  let inPrompt : ℚ := if k.apart then 0 else 1
  let audio : ℚ := if 0 < p.audioPrice then k.audio else 0
  have haudio : ((if p.audioPriced k then k.audio else 0 : Int) : ℚ) = audio := by
    by_cases hnone : k.audio = 0 <;> simp [audioPriced, audio, hnone]
  have hbase : (p.baseTokens k : ℚ) =
      k.prompt - k.cache * inPrompt - k.created * inPrompt - k.image - audio := by
    have hcreated : k.creates = false → k.created = 0 := by
      simp +contextual [TextCounts.creates]
    rw [← haudio, baseTokens]
    cases hapart : k.apart <;> cases hcreates : k.creates <;>
      simp [inPrompt, hapart, hcreated, hcreates]
  have hquota : p.audioQuota k =
      p.audioPrice / 1000000 * audio * p.bill.price.groupRatio * p.settings.quotaPerUnit := by
    rw [← haudio, audioQuota]
    split <;> simp
  rw [inputWorth, promptQuota, hbase, hquota]
  ring

/-- `cacheCreationTokensForOpenAIUsage`. -/
def cacheCreationTokensForOpenAIUsage (usage : Usage) : Int :=
  let split := usage.claudeCacheCreation5mTokens + usage.claudeCacheCreation1hTokens
  let created := usage.created
  if split = 0 then created else if split < created then created else split

theorem cacheCreationTokens_eq_max (h : usage.Nonneg) : cacheCreationTokensForOpenAIUsage usage =
    max (usage.claudeCacheCreation5mTokens + usage.claudeCacheCreation1hTokens) usage.created := by
  have hcreated := h.created
  unfold cacheCreationTokensForOpenAIUsage
  grind

/-- `buildOpenAIStyleUsageFromClaudeUsage`. -/
def buildOpenAIStyleUsageFromClaudeUsage (usage : Usage) : Usage :=
  let split := normalizeCacheCreationSplit usage.created
    usage.claudeCacheCreation5mTokens usage.claudeCacheCreation1hTokens
  let totalInputTokens := usage.promptTokens + usage.cached +
    cacheCreationTokensForOpenAIUsage usage
  { usage with
    claudeCacheCreation5mTokens := split.1
    claudeCacheCreation1hTokens := split.2
    promptTokens := totalInputTokens
    totalTokens := totalInputTokens + usage.completionTokens
    usageSemantic := "openai"
    usageSource := "anthropic" }

theorem Pricing.promptQuota_of_openAI (h : k.apart = false) : p.promptQuota k =
    ((k.prompt - k.cache - k.created - k.image -
        (if p.audioPriced k then k.audio else 0) : Int) : ℚ) +
      k.cache * p.bill.ratios.cacheRatio + k.image * p.bill.ratios.imageRatio +
      k.created * p.bill.ratios.cacheCreationRatio := by
  by_cases hcreated : k.created = 0 <;>
    simp [promptQuota, baseTokens, createdWithRatio, TextCounts.creates, h, hcreated]

theorem Pricing.promptQuota_of_claude (h : k.apart) (h5m : 0 ≤ k.created5m)
    (h1h : 0 ≤ k.created1h) : p.promptQuota k =
    ((k.prompt - k.image - (if p.audioPriced k then k.audio else 0) : Int) : ℚ) +
      k.cache * p.bill.ratios.cacheRatio + k.image * p.bill.ratios.imageRatio +
      ((k.created - min (k.created5m + k.created1h) k.created : Int) *
          p.bill.ratios.cacheCreationRatio +
        (k.created5m * p.bill.ratios.cacheCreation5mRatio +
          k.created1h * p.bill.ratios.cacheCreation1hRatio)) := by
  have hrest : max 0 (k.created - k.created5m - k.created1h) =
      k.created - min (k.created5m + k.created1h) k.created := by omega
  by_cases hnone : k.creates
  · simp only [promptQuota, baseTokens, createdWithRatio, hnone, h, Bool.not_true, Bool.and_false,
      Bool.false_eq_true, if_true, if_false, sub_zero, ← hrest]
    push_cast
    ring
  · simp only [TextCounts.creates, Bool.or_eq_true, decide_eq_true_eq, not_or] at hnone
    have h5 : k.created5m = 0 := by omega
    have h1 : k.created1h = 0 := by omega
    have h0 : k.created = 0 := by omega
    simp [promptQuota, baseTokens, createdWithRatio, TextCounts.creates, h, h0, h5, h1]

/-- A cache of forty tokens, created for an hour. -/
def sampleCreated : Usage where
  promptTokens := 10
  completionTokens := 100
  usageSemantic := "anthropic"
  promptTokensDetails := { cachedCreationTokens := 40 }
  claudeCacheCreation1hTokens := 40

/-- The tokens an expression prices by a variable. -/
def priced (usedVars : List ExprVar) (var : ExprVar) (tokens : Int) : Int :=
  if var ∈ usedVars then tokens else 0

/-- The input tokens that the variables of an expression cover. -/
def TokenParams.covered (params : TokenParams) (usedVars : List ExprVar) : Int :=
  params.p + priced usedVars .cr params.cr + priced usedVars .cc params.cc +
    priced usedVars .cc1h params.cc1h + priced usedVars .img params.img +
    priced usedVars .ai params.ai

def Usage.inputTokens (usage : Usage) (isClaude : Bool) : Int :=
  if isClaude then usage.promptTokens + usage.cached +
    cacheCreationTokensForOpenAIUsage usage
  else usage.promptTokens

/-- For Claude's counts: the split that is read is all of the creation, and the
images and the audio that have variables make up for the cache tokens that have
none. -/
def ClaudeCovered (usage : Usage) (usedVars : List ExprVar) : Prop :=
  let split := usage.claudeCacheCreation5mTokens + usage.claudeCacheCreation1hTokens
  let lost (var : ExprVar) (tokens : Int) := tokens - priced usedVars var tokens
  if usage.usageSemantic = "anthropic" then
    usage.created ≤ split ∧
      priced usedVars .img usage.image + priced usedVars .ai usage.audio =
        lost .cr usage.cached + lost .cc usage.claudeCacheCreation5mTokens +
          lost .cc1h usage.claudeCacheCreation1hTokens
  else
    split ≤ usage.created ∧
      priced usedVars .img usage.image + priced usedVars .ai usage.audio =
        lost .cr usage.cached + lost .cc usage.created

instance : Decidable (ClaudeCovered usage usedVars) := by
  unfold ClaudeCovered; infer_instance

theorem usageSemantic_ne (hresponse : response.usage = some usage)
    (h : usageSemanticFromUsage response ≠ "anthropic") : usage.usageSemantic ≠ "anthropic" := by
  intro hsemantic
  simp [usageSemanticFromUsage, hresponse, hsemantic] at h

/-- The expression with the prices of the ratios, in dollars for a million
tokens. -/
def linearExpr (price : ℚ) (ratios : TextRatios) (usedVars : List ExprVar) : BillingExpr where
  usedVars := usedVars
  run params := .ok (price * (params.p + params.c * ratios.completionRatio +
    priced usedVars .cr params.cr * ratios.cacheRatio +
    priced usedVars .cc params.cc * ratios.cacheCreationRatio +
    priced usedVars .img params.img * ratios.imageRatio))

/-- The tiered bill prices a token as the ratios do: a category without a
variable has the price of the prompt. -/
structure SamePrices (p : Pricing) (tiered : Bill) (usedVars : List ExprVar) : Prop where
  snapshot : ∃ snap price, tiered.snapshot = some snap ∧
    snap.expr = linearExpr price p.bill.ratios usedVars ∧
    price / 1000000 * snap.quotaPerUnit = p.bill.price.modelRatio ∧
    snap.groupRatio = p.bill.price.groupRatio
  modelName : tiered.modelName = p.bill.modelName
  groupRatio : tiered.price.groupRatio = p.bill.price.groupRatio
  vars : ∀ var ∈ usedVars, var = .cr ∨ var = .cc ∨ var = .img
  cr : .cr ∉ usedVars → p.bill.ratios.cacheRatio = 1
  cc : .cc ∉ usedVars → p.bill.ratios.cacheCreationRatio = 1
  img : .img ∉ usedVars → p.bill.ratios.imageRatio = 1
  usePrice : p.bill.price.usePrice = false

theorem priced_mul {ratio : ℚ} (tokens : Int)
    (h : var ∉ usedVars → ratio = 1) : (priced usedVars var tokens : ℚ) * ratio =
    priced usedVars var tokens - tokens + tokens * ratio := by
  unfold priced
  split
  · ring
  rename_i hvar
  rw [h hvar]
  push_cast
  ring

/-- The sample's ratios as prices of an expression. -/
def sampleTiered : Bill where
  modelName := "m"
  price := {}
  snapshot := some {
    groupRatio := 1, estimatedQuotaBeforeGroup := 0, estimatedQuotaAfterGroup := 0
    quotaPerUnit := 500000, expr := linearExpr 2 samplePricing.bill.ratios [.cr, .cc] }

theorem sampleTiered_samePrices {settings : ConsumeSettings} :
    SamePrices ⟨settings, samplePricing.bill⟩ sampleTiered [.cr, .cc] where
  snapshot := ⟨_, 2, rfl, rfl, show (2 / 1000000 * 500000 : ℚ) = 1 by norm_num, rfl⟩
  modelName := rfl
  groupRatio := rfl
  vars := by decide
  cr h := absurd (by decide) h
  cc h := absurd (by decide) h
  img _ := rfl
  usePrice := rfl

/-- A hundred prompt tokens, forty of them from a cache and fifty of audio. -/
def sampleAudio : Usage where
  promptTokens := 100
  completionTokens := 100
  promptTokensDetails := { cachedTokens := 40, audioTokens := 50 }

end HermesToken.Relay
