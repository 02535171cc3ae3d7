import HermesToken.Billing.Price

/-!
# The quota of a response

What a delivered response costs: `calculateTextQuotaSummary` and
`PostTextConsumeQuota` of `service/text_quota.go`, the audio and realtime
variants of `service/quota.go`, and the tiered settlement of
`service/tiered_settle.go` and `pkg/billingexpr`. Decimals and floats are
rationals. Each settlement returns the quota it hands to `SettleBilling`.
-/

namespace HermesToken.Relay

open Lib Billing

/-! ## Usage -/

structure InputTokenDetails where
  (cachedTokens cachedCreationTokens textTokens audioTokens imageTokens : Int := 0)

structure OutputTokenDetails where
  (textTokens audioTokens imageTokens : Int := 0)

/-- The fields of `dto.Usage` a settlement reads. `cost` is zero where the
upstream gave none. -/
structure Usage where
  (promptTokens completionTokens totalTokens : Int := 0)
  (usageSemantic usageSource : String := "")
  promptTokensDetails : InputTokenDetails := {}
  completionTokenDetails : OutputTokenDetails := {}
  (claudeCacheCreation5mTokens claudeCacheCreation1hTokens : Int := 0)
  cost : ℚ := 0

structure RealtimeUsage where
  (totalTokens inputTokens outputTokens : Int := 0)
  inputTokenDetails : InputTokenDetails := {}
  outputTokenDetails : OutputTokenDetails := {}

/-! ## What a settlement reads -/

/-- The ratios of `PriceData` that only the settlement of a text reads. They are
zero for a model with a price and for a tiered one. -/
structure TextRatios where
  (completionRatio cacheRatio imageRatio cacheCreationRatio cacheCreation5mRatio
    cacheCreation1hRatio : ℚ := 0)

/-- The parts of a usage that an expression may price by a variable of their
own. -/
inductive ExprVar where
  | cr | cc | cc1h | img | ai | imgO | ao
deriving DecidableEq

structure TokenParams where
  (p c len : Int)
  (cr cc cc1h img imgO ai ao : Int := 0)

/-- A billing expression on the request it is frozen with: the variables it
refers to, and the cost in dollars for a million requests. -/
structure BillingExpr where
  usedVars : List ExprVar
  run : TokenParams → Except String ℚ

/-- The run of an expression for the estimate of a request. -/
def BillingExpr.estimate (expr : BillingExpr) : TieredExpr := fun promptTokens maxTokens =>
  expr.run { p := promptTokens, c := maxTokens, len := promptTokens }

/-- `TieredBillingSnapshot`: the rules of a tiered price, frozen before the
first attempt. -/
structure FrozenPrice extends BillingSnapshot where
  expr : BillingExpr
  quotaPerUnit : ℚ

/-- `billingExpr` is what `tieredExpr` runs for an estimate. -/
structure ConsumeSettings extends PriceSettings where
  billingExpr : String → Option (Option BillingExpr) := fun _ => none
  tieredExpr_eq : ∀ name, tieredExpr name = (billingExpr name).map (·.map BillingExpr.estimate)
  toolPrice : String → ℚ := fun _ => 0
  toolPriceForModel : String → String → ℚ := fun _ _ => 0
  geminiInputAudioPrice : String → ℚ := fun _ => 0
  (completionRatio audioRatio audioCompletionRatio cacheRatio createCacheRatio imageRatio : String →
    ℚ := fun _ => 1)
  defaultModelRatio : String → Option ℚ := fun _ => none

/-- What a settlement reads of the relay information. -/
structure Bill where
  modelName : String
  price : PriceData
  ratios : TextRatios := {}
  snapshot : Option FrozenPrice := none
  (finalPreConsumedQuota estimatePromptTokens : Int := 0)

/-- The calls of `ResponsesUsageInfo`; a tool that is not there has none. -/
structure BuiltInTools where
  (webSearchPreview fileSearch : Int := 0)

/-- The tool calls of a response. The price of an image generation call depends
on its quality and size. -/
structure ToolCalls where
  responses : Option BuiltInTools := none
  claudeWebSearchRequests : Int := 0
  imageGenerationCall : Option ℚ := none

structure TextResponse where
  usage : Option Usage
  tools : ToolCalls := {}
  (claudeFormat openRouter : Bool := false)

/-- A response, by the function that settles it. -/
inductive Response where
  | text (response : TextResponse)
  | audio (usage : Usage)
  | realtime (modelName : String) (usage : RealtimeUsage)

/-! ## Tiered prices -/

/-- `BuildTieredTokenParams`. A part of the usage is taken out of `P` and `C`
when the expression prices it on its own. -/
def buildTieredTokenParams (usage : Usage) (isClaudeUsageSemantic : Bool)
    (usedVars : List ExprVar) : TokenParams :=
  let input := usage.promptTokensDetails
  let output := usage.completionTokenDetails
  let anthropic := usage.usageSemantic = "anthropic"
  let cc5m := if anthropic then usage.claudeCacheCreation5mTokens else input.cachedCreationTokens
  let cc1h := if anthropic then usage.claudeCacheCreation1hTokens else 0
  let separately (var : ExprVar) (tokens : Int) : Int :=
    if !isClaudeUsageSemantic && var ∈ usedVars then tokens else 0
  { p := max 0 (usage.promptTokens - separately .cr input.cachedTokens - separately .cc cc5m -
      separately .cc1h cc1h - separately .img input.imageTokens - separately .ai input.audioTokens)
    c := max 0 (usage.completionTokens - separately .imgO output.imageTokens -
      separately .ao output.audioTokens)
    len := if isClaudeUsageSemantic then usage.promptTokens + input.cachedTokens + cc5m + cc1h
      else usage.promptTokens
    cr := input.cachedTokens
    cc := cc5m
    cc1h := cc1h
    img := input.imageTokens
    imgO := output.imageTokens
    ai := input.audioTokens
    ao := output.audioTokens }

structure TieredResult where
  actualQuotaBeforeGroup : ℚ
  actualQuotaAfterGroup : Int

/-- `ComputeTieredQuotaWithRequest`. -/
def FrozenPrice.computeTieredQuota (snap : FrozenPrice) (params : TokenParams) :
    Except String TieredResult := do
  let cost ← snap.expr.run params
  let quotaBeforeGroup := cost / 1000000 * snap.quotaPerUnit
  return ⟨quotaBeforeGroup, quotaRound (quotaBeforeGroup * snap.groupRatio)⟩

/-- `TryTieredSettle`. An expression that fails costs what was pre-consumed. -/
def Bill.tryTieredSettle (bill : Bill) (params : TokenParams) :
    Option (Int × Option TieredResult) :=
  bill.snapshot.map fun snap =>
    match snap.computeTieredQuota params with
    | .ok result => (result.actualQuotaAfterGroup, some result)
    | .error _ =>
      (if bill.finalPreConsumedQuota ≤ 0 then snap.estimatedQuotaAfterGroup
        else bill.finalPreConsumedQuota, none)

def Bill.tieredUsedVars (bill : Bill) : List ExprVar :=
  (bill.snapshot.map (·.expr.usedVars)).getD []

section

variable (settings : ConsumeSettings)

/-! ## Texts -/

/-- `calculateTextToolCallSurcharge`. -/
def toolCallSurcharge (modelName : String) (groupRatio : ℚ) (tools : ToolCalls) : ℚ :=
  let webSearchPrice := settings.toolPriceForModel "web_search_preview" modelName
  let webSearch := match tools.responses with
    | some builtIn =>
      if 0 < builtIn.webSearchPreview then
        webSearchPrice * builtIn.webSearchPreview / 1000 * groupRatio * settings.quotaPerUnit
      else 0
    | none =>
      if "search-preview".toList <:+ modelName.toList then
        webSearchPrice / 1000 * groupRatio * settings.quotaPerUnit
      else 0
  let claudeWebSearch :=
    if 0 < tools.claudeWebSearchRequests then
      settings.toolPrice "web_search" / 1000 * groupRatio * settings.quotaPerUnit *
        tools.claudeWebSearchRequests
    else 0
  let fileSearch := match tools.responses with
    | some builtIn =>
      if 0 < builtIn.fileSearch then
        settings.toolPrice "file_search" * builtIn.fileSearch / 1000 * groupRatio *
          settings.quotaPerUnit
      else 0
    | none => 0
  let image := (tools.imageGenerationCall.map (· * groupRatio * settings.quotaPerUnit)).getD 0
  webSearch + claudeWebSearch + fileSearch + image

/-- `usageSemanticFromUsage`. -/
def usageSemanticFromUsage (response : TextResponse) : String :=
  match response.usage with
  | some usage =>
    if usage.usageSemantic ≠ "" then usage.usageSemantic
    else if response.claudeFormat then "anthropic" else "openai"
  | none => if response.claudeFormat then "anthropic" else "openai"

/-- `isLegacyClaudeDerivedOpenAIUsage`. -/
def isLegacyClaudeDerivedOpenAIUsage (response : TextResponse) : Bool :=
  match response.usage with
  | some usage => !response.claudeFormat && usage.usageSource = "" && usage.usageSemantic = "" &&
      (0 < usage.claudeCacheCreation5mTokens || 0 < usage.claudeCacheCreation1hTokens)
  | none => false

/-- `hasCustomModelRatio`. -/
def ConsumeSettings.hasCustomModelRatio (modelName : String) (currentRatio : ℚ) : Bool :=
  match settings.defaultModelRatio modelName with
  | some ratio => currentRatio ≠ ratio
  | none => true

variable (bill : Bill)

/-- `CalcOpenRouterCacheCreateTokens`: the tokens that explain the cost the
upstream reports. -/
def calcOpenRouterCacheCreateTokens (usage : Usage) : Int :=
  if bill.ratios.cacheCreationRatio = 1 then 0
  else
    let quotaPrice := bill.price.modelRatio / settings.quotaPerUnit
    let promptCacheCreatePrice := quotaPrice * bill.ratios.cacheCreationRatio
    let promptCacheReadPrice := quotaPrice * bill.ratios.cacheRatio
    let completionPrice := quotaPrice * bill.ratios.completionRatio
    quotaRound ((usage.cost - usage.promptTokens * quotaPrice +
      usage.promptTokensDetails.cachedTokens * (quotaPrice - promptCacheReadPrice) -
      usage.completionTokens * completionPrice) / (promptCacheCreatePrice - quotaPrice))

/-- The usage a text without one is settled by. -/
def Bill.estimatedUsage : Usage where
  promptTokens := bill.estimatePromptTokens
  totalTokens := bill.estimatePromptTokens

/-- The prompt and cache creation tokens of a text. OpenRouter counts the
tokens of a cache among the prompt also for Claude. -/
def textInputTokens (response : TextResponse) (usage : Usage) : Int × Int :=
  let created := usage.promptTokensDetails.cachedCreationTokens
  if response.openRouter && usageSemanticFromUsage response = "anthropic" then
    let prompt := usage.promptTokens - usage.promptTokensDetails.cachedTokens
    let custom := bill.price.usePrice ||
      settings.hasCustomModelRatio bill.modelName bill.price.modelRatio
    let maybe := calcOpenRouterCacheCreateTokens settings bill usage
    -- the source also asks that the cost, an interface, is not the integer zero,
    -- which a decoded number never is
    let created :=
      if created = 0 && bill.ratios.cacheCreationRatio ≠ 1 && !custom &&
        0 ≤ maybe && maybe ≤ prompt then maybe else created
    (prompt - created, created)
  else (usage.promptTokens, created)

structure TextQuotaSummary where
  toolCallSurchargeQuota : ℚ
  isClaudeUsageSemantic : Bool
  quota : Int

def otherFactor (price : PriceData) : ℚ := (price.otherRatios.map (·.2)).prod

/-- `calculateTextQuotaSummary`. -/
def calculateTextQuotaSummary (response : TextResponse) : TextQuotaSummary :=
  let usage := response.usage.getD bill.estimatedUsage
  let groupRatio := bill.price.groupRatio
  let isClaude : Bool := usageSemanticFromUsage response = "anthropic"
  -- a usage in Claude's sense counts neither cache among the prompt tokens
  let apart := isClaude || isLegacyClaudeDerivedOpenAIUsage response
  let (promptTokens, cacheCreationTokens) := textInputTokens settings bill response usage
  let cacheTokens := usage.promptTokensDetails.cachedTokens
  let tokens5m := usage.claudeCacheCreation5mTokens
  let tokens1h := usage.claudeCacheCreation1hTokens
  let imageTokens := usage.promptTokensDetails.imageTokens
  let audioTokens := usage.promptTokensDetails.audioTokens
  let ratio := bill.price.modelRatio * groupRatio
  let surcharge := toolCallSurcharge settings bill.modelName groupRatio response.tools
  let others := otherFactor bill.price
  let quota :=
    if !bill.price.usePrice then
      let created := cacheCreationTokens ≠ 0 || 0 < tokens5m || 0 < tokens1h
      let createdWithRatio :=
        if !created then 0
        else if apart then
          max 0 (cacheCreationTokens - tokens5m - tokens1h) * bill.ratios.cacheCreationRatio +
            tokens5m * bill.ratios.cacheCreation5mRatio +
            tokens1h * bill.ratios.cacheCreation1hRatio
        else cacheCreationTokens * bill.ratios.cacheCreationRatio
      let audioInputPrice := settings.geminiInputAudioPrice bill.modelName
      let audioPriced : Bool := audioTokens ≠ 0 && 0 < audioInputPrice
      let baseTokens := promptTokens - (if apart then 0 else cacheTokens) -
        (if created && !apart then cacheCreationTokens else 0) - imageTokens -
        (if audioPriced then audioTokens else 0)
      let audioInputQuota :=
        if audioPriced then
          audioInputPrice / 1000000 * audioTokens * groupRatio * settings.quotaPerUnit
        else 0
      let promptQuota := baseTokens + cacheTokens * bill.ratios.cacheRatio +
        imageTokens * bill.ratios.imageRatio + createdWithRatio
      let completionQuota := usage.completionTokens * bill.ratios.completionRatio
      let total := ((promptQuota + completionQuota) * ratio + surcharge + audioInputQuota) * others
      quotaRound (if ratio ≠ 0 && total ≤ 0 then 1 else total)
    else
      quotaRound ((bill.price.modelPrice * settings.quotaPerUnit * groupRatio + surcharge) * others)
  { toolCallSurchargeQuota := surcharge
    isClaudeUsageSemantic := isClaude
    quota :=
      if usage.promptTokens + usage.completionTokens = 0 then 0
      else if ratio ≠ 0 && quota = 0 then 1 else quota }

/-- `composeTieredTextQuota`. -/
def composeTieredTextQuota (surcharge : ℚ) (tieredQuota : Int)
    (tieredResult : Option TieredResult) : Int :=
  if surcharge = 0 then tieredQuota
  else match tieredResult, bill.snapshot with
    | some result, some snap =>
      quotaRound (result.actualQuotaBeforeGroup * snap.groupRatio + surcharge)
    | _, _ => tieredQuota + quotaRound surcharge

/-- `PostTextConsumeQuota`. -/
def postTextConsumeQuota (response : TextResponse) : Int :=
  let summary := calculateTextQuotaSummary settings bill response
  match response.usage with
  | none => summary.quota
  | some usage =>
    match bill.tryTieredSettle
      (buildTieredTokenParams usage summary.isClaudeUsageSemantic bill.tieredUsedVars) with
    | some (tieredQuota, tieredResult) =>
      composeTieredTextQuota bill summary.toolCallSurchargeQuota tieredQuota tieredResult
    | none => summary.quota

/-! ## Audio -/

/-- `QuotaInfo`. -/
structure QuotaInfo where
  input : InputTokenDetails
  output : OutputTokenDetails
  modelName : String
  usePrice : Bool
  modelPrice : ℚ := 0
  (modelRatio groupRatio : ℚ)

/-- `calculateAudioQuota`. -/
def calculateAudioQuota (info : QuotaInfo) : Int :=
  if info.usePrice then intPart (info.modelPrice * settings.quotaPerUnit * info.groupRatio)
  else
    let audioRatio := settings.audioRatio info.modelName
    let ratio := info.groupRatio * info.modelRatio
    let quota := (info.input.textTokens +
      info.output.textTokens * settings.completionRatio info.modelName +
      info.input.audioTokens * audioRatio +
      info.output.audioTokens * audioRatio * settings.audioCompletionRatio info.modelName) * ratio
    quotaRound (if ratio ≠ 0 && quota ≤ 0 then 1 else quota)

/-- The settlement that `PostAudioConsumeQuota` and `PostWssConsumeQuota` share.
Neither passes the price of the model on. -/
def consumeAudio (modelName : String) (params : TokenParams) (input : InputTokenDetails)
    (output : OutputTokenDetails) (totalTokens : Int) : Int :=
  let quota := match bill.tryTieredSettle params with
    | some (tieredQuota, _) => tieredQuota
    | none => calculateAudioQuota settings {
        input, output, modelName
        usePrice := bill.price.usePrice
        modelRatio := bill.price.modelRatio
        groupRatio := bill.price.groupRatio }
  if totalTokens = 0 then 0 else quota

/-- `PostAudioConsumeQuota`. -/
def postAudioConsumeQuota (usage : Usage) : Int :=
  consumeAudio settings bill bill.modelName
    (buildTieredTokenParams usage false bill.tieredUsedVars)
    usage.promptTokensDetails usage.completionTokenDetails usage.totalTokens

/-- `PostWssConsumeQuota`, for the model name of the upstream. -/
def postWssConsumeQuota (modelName : String) (usage : RealtimeUsage) : Int :=
  consumeAudio settings bill modelName
    { p := usage.inputTokens, c := usage.outputTokens, len := usage.inputTokens }
    usage.inputTokenDetails usage.outputTokenDetails usage.totalTokens

def consumeQuota : Response → Int
  | .text response => postTextConsumeQuota settings bill response
  | .audio usage => postAudioConsumeQuota settings bill usage
  | .realtime modelName usage => postWssConsumeQuota settings bill modelName usage

end

/-! ## The group ratio of a settlement -/

/-- The bill with another group ratio in the price. -/
def Bill.priceAt (bill : Bill) (ratio : ℚ) : Bill :=
  { bill with price := { bill.price with groupRatio := ratio } }

/-- The bill with one group ratio everywhere. -/
def Bill.atRatio (bill : Bill) (ratio : ℚ) : Bill :=
  { bill.priceAt ratio with
    snapshot := bill.snapshot.map fun snap => { snap with groupRatio := ratio } }

@[simp] theorem Bill.atRatio_priceAt (bill : Bill) (ratio ratio' : ℚ) :
    (bill.priceAt ratio).atRatio ratio' = bill.atRatio ratio' := rfl

theorem Bill.priceAt_self {bill : Bill} (h : bill.price.groupRatio = ratio) :
    bill.priceAt ratio = bill := by
  subst h
  rfl

/-- With the ratio of the snapshot in the price, a bill has one ratio. -/
theorem Bill.priceAt_eq_atRatio {bill : Bill}
    (hsnap : ∀ snap ∈ bill.snapshot, snap.groupRatio = ratio) :
    bill.priceAt ratio = bill.atRatio ratio := by
  cases hsnaps : bill.snapshot with
  | none => simp only [atRatio, priceAt, hsnaps, Option.map_none]
  | some snap =>
    have hratio : snap.groupRatio = ratio := hsnap snap hsnaps
    have hsame : { snap with groupRatio := ratio } = snap := by rw [← hratio]
    simp only [atRatio, priceAt, hsnaps, Option.map_some, hsame]

end HermesToken.Relay
