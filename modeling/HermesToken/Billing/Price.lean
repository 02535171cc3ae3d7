import HermesToken.Lib.Decimal
import HermesToken.Lib.Guard
import Mathlib.Algebra.Order.BigOperators.GroupWithZero.List
import Mathlib.Data.List.Induction

/-!
# Prices

The price helpers of `relay/helper/price.go`. The maps of the settings are
lookup functions; a name is matched inside them. Prices and ratios are
rationals, and a conversion to `int` cuts the fraction off.
-/

namespace HermesToken.Billing

open Lib List Bool

/-- The mixed price of a task: so much for the request, so much a second. -/
structure TaskModelPricing where
  (perRequest perSecond : ℚ)
  includeOtherRatios : Bool := true

/-- An expression that prices a request by its tiers: the raw cost for so many
prompt and completion tokens, or the error of running it. -/
abbrev TieredExpr := Int → Int → Except String ℚ

/-- `tieredExpr` is `some` for a model in the mode `tiered_expr`, which may
still have no expression. -/
structure PriceSettings where
  quotaPerUnit : ℚ := 500000
  preConsumedQuota : Int := 500
  enableFreeModelPreConsume : Bool := true
  selfUseModeEnabled : Bool := false
  (modelPrice defaultModelPrice modelRatio groupRatio : String → Option ℚ := fun _ => none)
  groupGroupRatio : String → String → Option ℚ := fun _ _ => none
  taskModelPricing : String → Option TaskModelPricing := fun _ => none
  taskPricePatches : List String := []
  tieredExpr : String → Option (Option TieredExpr) := fun _ => none

/-- What the helpers read of the request. -/
structure PriceInfo where
  originModelName : String
  (userGroup usingGroup : String := "default")
  (acceptUnsetRatioModel isAdmin : Bool := false)

structure PriceData where
  freeModel : Bool := false
  (modelPrice modelRatio : ℚ := 0)
  otherRatios : List (String × ℚ) := []
  usePrice : Bool := false
  (quota quotaToPreConsume : Int := 0)
  groupRatio : ℚ := 1
  (taskPerRequestPrice taskPerSecondPrice : ℚ := 0)
  deriving DecidableEq

namespace PriceSettings

variable (settings : PriceSettings)

/-- `HandleGroupRatio`: the special ratio of the user's group goes first. -/
def handleGroupRatio (info : PriceInfo) : ℚ :=
  (settings.groupGroupRatio info.userGroup info.usingGroup).getD
    ((settings.groupRatio info.usingGroup).getD 1)

/-- `GetModelRatio`: the ratio, and whether the model may be used with it. -/
def getModelRatio (name : String) : ℚ × Bool :=
  match settings.modelRatio name with
  | some ratio => (ratio, true)
  | none => (75 / 2, settings.selfUseModeEnabled)

end PriceSettings

def modelPriceNotConfiguredError (info : PriceInfo) : String :=
  let name := info.originModelName
  if info.isAdmin then
    "模型 " ++ name ++ " 的价格未配置。请前往「系统设置 → 运营设置」开启自用模式，或在「系统设置 → 分组与模型定价设置」中为该模型配置价格；Model " ++
      name ++ " price not configured. Go to System Settings → Operation Settings to enable self-use mode, or configure the model price in System Settings → Group & Model Pricing."
  else
    "模型 " ++ name ++ " 的价格尚未由管理员配置，暂时无法使用，请联系站点管理员开启该模型；Model " ++
      name ++ " has not been priced by the administrator yet. Please contact the site administrator to enable this model."

namespace PriceSettings

variable (settings : PriceSettings)

/-- The ratio of a model without a price, if the request may use it. -/
def usableRatio (info : PriceInfo) : Except String ℚ :=
  let (ratio, success) := settings.getModelRatio info.originModelName
  if !success && !info.acceptUnsetRatioModel then .error (modelPriceNotConfiguredError info)
  else .ok ratio

/-- `ModelPriceHelperPerCall`. A model without a price is charged by half its
ratio. -/
def modelPriceHelperPerCall (info : PriceInfo) : Except String PriceData :=
  let groupRatio := settings.handleGroupRatio info
  match (settings.modelPrice info.originModelName).or
    (settings.defaultModelPrice info.originModelName) with
  | some modelPrice =>
    let free := !settings.enableFreeModelPreConsume && (groupRatio = 0 || modelPrice = 0)
    .ok {
      freeModel := free
      modelPrice := modelPrice
      usePrice := true
      quota := if free then 0 else intPart (modelPrice * settings.quotaPerUnit * groupRatio)
      groupRatio }
  | none => do
    let modelRatio ← settings.usableRatio info
    let free := !settings.enableFreeModelPreConsume && (groupRatio = 0 || modelRatio = 0)
    return {
      freeModel := free
      modelPrice := -1
      modelRatio := modelRatio
      quota := if free then 0 else intPart (modelRatio / 2 * settings.quotaPerUnit * groupRatio)
      groupRatio }

/-- `ApplyTaskModelPricing`; `none` when the model has no mixed price. -/
def applyTaskModelPricing (name : String) (price : PriceData) : Option PriceData :=
  (settings.taskModelPricing name).map fun pricing =>
    let seconds := ((price.otherRatios.lookup "seconds").filter (0 < ·)).getD
      (((price.otherRatios.lookup "duration").filter (0 < ·)).getD 1)
    let amount := pricing.perRequest + pricing.perSecond * seconds
    let others := price.otherRatios.filter fun r =>
      0 < r.2 && r.1 ≠ "seconds" && r.1 ≠ "duration"
    let multiplier := if pricing.includeOtherRatios then
      (others.map (·.2)).foldl (· * ·) price.groupRatio else price.groupRatio
    { price with
      quota := intPart (amount * settings.quotaPerUnit * multiplier)
      taskPerRequestPrice := pricing.perRequest
      taskPerSecondPrice := pricing.perSecond }

end PriceSettings

/-- `AddOtherRatio`. -/
def PriceData.addOtherRatio (price : PriceData) (key : String) (ratio : ℚ) : PriceData :=
  if ratio ≤ 0 then price
  else { price with
    otherRatios := price.otherRatios.filter (fun r => r.1 ≠ key) ++ [(key, ratio)] }

/-- The ratios one after the other, each with a cut. The source goes through
a map, so any order of the list is one of its orders. -/
def PriceData.applyOtherRatios (price : PriceData) : PriceData := { price with
  quota := (price.otherRatios.map (·.2)).foldl
    (fun quota ratio => if ratio ≠ 1 then intPart (quota * ratio) else quota) price.quota }

/-- `recalcQuotaFromRatios`. -/
def PriceData.recalcQuotaFromRatios (price : PriceData) (ratios : List (String × ℚ)) : Int :=
  let baseQuota := (price.otherRatios.map (·.2)).foldl
    (fun quota ratio => if ratio ≠ 1 && 0 < ratio then intPart (quota / ratio) else quota)
    price.quota
  intPart ((ratios.map (·.2)).foldl
    (fun result ratio => if ratio ≠ 1 then result * ratio else result) (baseQuota : ℚ))

/-- The price of an attempt to submit a task: steps 4 to 6 of
`RelayTaskSubmit`. -/
def PriceSettings.taskPrice (settings : PriceSettings) (info : PriceInfo)
    (estimatedRatios : List (String × ℚ)) : Except String PriceData := do
  let base ← settings.modelPriceHelperPerCall info
  let price := estimatedRatios.foldl (fun price r => price.addOtherRatio r.1 r.2) base
  return (settings.applyTaskModelPricing info.originModelName price).getD
    (if info.originModelName ∈ settings.taskPricePatches then price else price.applyOtherRatios)

theorem PriceSettings.modelPriceHelperPerCall_ok {settings : PriceSettings}
    (h : settings.modelPriceHelperPerCall info = .ok base) :
    base.groupRatio = settings.handleGroupRatio info ∧ base.otherRatios = [] := by
  simp only [modelPriceHelperPerCall] at h
  split at h
  · cases h
    exact ⟨rfl, rfl⟩
  simp only [seq_ok, return_ok] at h
  obtain ⟨_, _, rfl⟩ := h
  exact ⟨rfl, rfl⟩

theorem PriceSettings.taskPrice_groupRatio {settings : PriceSettings} {price : PriceData}
    (h : settings.taskPrice info estimatedRatios = .ok price) :
    price.groupRatio = settings.handleGroupRatio info := by
  simp only [taskPrice, seq_ok, return_ok] at h
  obtain ⟨base, hbase, rfl⟩ := h
  obtain ⟨hgroup, -⟩ := modelPriceHelperPerCall_ok hbase
  have hest : (estimatedRatios.foldl (fun price r => price.addOtherRatio r.1 r.2)
      base).groupRatio = settings.handleGroupRatio info := by
    refine foldlRecOn (motive := fun price : PriceData => price.groupRatio = _) _ _ hgroup ?_
    intro price hprice r _
    rw [← hprice, PriceData.addOtherRatio]
    split <;> rfl
  rw [← hest, applyTaskModelPricing]
  cases settings.taskModelPricing info.originModelName with
  | some => rfl
  | none =>
    rw [Option.map_none, Option.getD_none]
    split <;> rfl

/-! ## The price of a relay request -/

/-- What of the count of a request's tokens its price depends on. -/
structure TokenCountMeta where
  maxTokens : Int := 0
  imagePriceRatio : ℚ := 0

/-- The frozen rules of a tiered price, as far as they are changed later. -/
structure BillingSnapshot where
  (groupRatio estimatedQuotaBeforeGroup : ℚ)
  estimatedQuotaAfterGroup : Int

/-- `QuotaRound`. -/
def quotaRound (quota : ℚ) : Int := intPart (roundTo quota 0)

namespace PriceSettings

variable (settings : PriceSettings)

/-- The tokens a request without a price is estimated to use. -/
def preConsumedTokens (promptTokens : Int) (count : TokenCountMeta) : Int :=
  max promptTokens settings.preConsumedQuota + count.maxTokens

/-- `modelPriceHelperTiered`. A tiered model is free in a free group only. -/
def modelPriceHelperTiered (info : PriceInfo) (expr : Option TieredExpr) (promptTokens : Int)
    (count : TokenCountMeta) (groupRatio : ℚ) : Except String
    (PriceData × Option BillingSnapshot) :=
  match expr with
  | none => .error ("model " ++ info.originModelName ++
      " is configured as tiered_expr but has no billing expression")
  | some expr =>
    match expr promptTokens count.maxTokens with
    | .error e => .error ("model " ++ info.originModelName ++ " tiered expr run failed: " ++ e)
    | .ok rawCost =>
      let quotaBeforeGroup := rawCost / 1000000 * settings.quotaPerUnit
      let free := !settings.enableFreeModelPreConsume && groupRatio = 0
      let preConsumedQuota := if free then 0 else quotaRound (quotaBeforeGroup * groupRatio)
      .ok ({ freeModel := free, groupRatio, quotaToPreConsume := preConsumedQuota },
        some ⟨groupRatio, quotaBeforeGroup, preConsumedQuota⟩)

/-- `ModelPriceHelper`, with the snapshot it leaves in the relay information. -/
def modelPriceHelper (info : PriceInfo) (promptTokens : Int) (count : TokenCountMeta) :
    Except String (PriceData × Option BillingSnapshot) :=
  let groupRatio := settings.handleGroupRatio info
  match settings.tieredExpr info.originModelName with
  | some expr => settings.modelPriceHelperTiered info expr promptTokens count groupRatio
  | none =>
    match settings.modelPrice info.originModelName with
    | some price =>
      let modelPrice := if count.imagePriceRatio ≠ 0 then price * count.imagePriceRatio else price
      let free := !settings.enableFreeModelPreConsume && (groupRatio = 0 || modelPrice = 0)
      .ok ({
        freeModel := free
        modelPrice := modelPrice
        usePrice := true
        quotaToPreConsume :=
          if free then 0 else intPart (modelPrice * settings.quotaPerUnit * groupRatio)
        groupRatio }, none)
    | none => do
      let modelRatio ← settings.usableRatio info
      let free := !settings.enableFreeModelPreConsume && (groupRatio = 0 || modelRatio = 0)
      return ({
        freeModel := free
        modelPrice := -1
        modelRatio := modelRatio
        quotaToPreConsume :=
          if free then 0
          else intPart (settings.preConsumedTokens promptTokens count * (modelRatio * groupRatio))
        groupRatio }, none)

/-- `applyMarketplaceMultiplier`: the multiplier of the credential takes the
place of the group ratio. Whether the model is free stays what it was. -/
def applyMarketplaceMultiplier (price : PriceData) (snapshot : Option BillingSnapshot)
    (promptTokens : Int) (count : TokenCountMeta) (multiplier : ℚ) : PriceData :=
  let multiplier := if multiplier < 0 then 0 else multiplier
  { price with
    groupRatio := multiplier
    quotaToPreConsume :=
      match snapshot with
      | some snapshot => quotaRound (snapshot.estimatedQuotaBeforeGroup * multiplier)
      | none =>
        if price.freeModel then 0
        else if price.usePrice then intPart (price.modelPrice * settings.quotaPerUnit * multiplier)
        else intPart (settings.preConsumedTokens promptTokens count * price.modelRatio *
          multiplier) }

end PriceSettings

/-- The settings make the request free: its group, its price or its ratio is
zero, and what is free is not pre-consumed. -/
def PriceSettings.FreeRequest (settings : PriceSettings) (info : PriceInfo) : Prop :=
  settings.enableFreeModelPreConsume = false ∧
    (settings.handleGroupRatio info = 0 ∨ settings.tieredExpr info.originModelName = none ∧
      match settings.modelPrice info.originModelName with
      | some price => price = 0
      | none => (settings.getModelRatio info.originModelName).1 = 0)

section

variable {settings : PriceSettings} {info : PriceInfo} {promptTokens : Int} {count : TokenCountMeta}
  {price : PriceData} {snapshot : Option BillingSnapshot}

theorem PriceSettings.usableRatio_ok (h : settings.usableRatio info = .ok ratio) :
    ratio = (settings.getModelRatio info.originModelName).1 := by
  simp only [usableRatio] at h
  split at h
  · cases h
  · exact (Except.ok.inj h).symm

variable (h : settings.modelPriceHelper info promptTokens count = .ok (price, snapshot))
include h

theorem PriceSettings.modelPriceHelper_groupRatio :
    price.groupRatio = settings.handleGroupRatio info ∧
      ∀ snap ∈ snapshot, snap.groupRatio = settings.handleGroupRatio info := by
  simp only [modelPriceHelper] at h
  split at h
  · -- a tiered model
    simp only [modelPriceHelperTiered] at h
    split at h
    · cases h
    split at h
    · cases h
    · obtain ⟨rfl, rfl⟩ := Prod.mk.inj (Except.ok.inj h)
      exact ⟨rfl, fun snap hsnap => by cases hsnap; rfl⟩
  split at h
  · obtain ⟨rfl, rfl⟩ := Prod.mk.inj (Except.ok.inj h)
    exact ⟨rfl, fun _ hsnap => by cases hsnap⟩
  simp only [seq_ok, return_ok] at h
  obtain ⟨modelRatio, -, hpair⟩ := h
  obtain ⟨rfl, rfl⟩ := Prod.mk.inj hpair
  exact ⟨rfl, fun _ hsnap => by cases hsnap⟩

/-- `ModelPriceHelper` finds free only what the settings make free. -/
theorem PriceSettings.freeRequest_of_freeModel (hfree : price.freeModel) :
    settings.FreeRequest info := by
  simp only [modelPriceHelper] at h
  split at h
  · -- a tiered model
    simp only [modelPriceHelperTiered] at h
    split at h
    · cases h
    split at h
    · cases h
    obtain ⟨rfl, _⟩ := Prod.mk.inj (Except.ok.inj h)
    simp only [and_eq_true, not_eq_true', decide_eq_true_eq] at hfree
    exact ⟨hfree.1, .inl hfree.2⟩
  rename_i htier
  split at h
  · rename_i hmodel
    obtain ⟨rfl, _⟩ := Prod.mk.inj (Except.ok.inj h)
    simp only [and_eq_true, not_eq_true', or_eq_true, decide_eq_true_eq] at hfree
    refine ⟨hfree.1, hfree.2.imp id fun hzero => ⟨htier, ?_⟩⟩
    simp only [hmodel]
    split at hzero
    · exact (mul_eq_zero.mp hzero).resolve_right ‹_›
    · exact hzero
  rename_i hmodel
  simp only [seq_ok, return_ok] at h
  obtain ⟨modelRatio, hratio, hpair⟩ := h
  obtain ⟨rfl, _⟩ := Prod.mk.inj hpair
  simp only [and_eq_true, not_eq_true', or_eq_true, decide_eq_true_eq] at hfree
  refine ⟨hfree.1, hfree.2.imp id fun hzero => ⟨htier, ?_⟩⟩
  simp only [hmodel, ← usableRatio_ok hratio, hzero]

end

/-! ## Prices that are not negative -/

/-- No price and no ratio of the settings is negative. -/
structure PriceSettings.Nonneg (settings : PriceSettings) : Prop where
  quotaPerUnit : 0 ≤ settings.quotaPerUnit
  modelPrice : ∀ name, ∀ price ∈ settings.modelPrice name, 0 ≤ price
  defaultModelPrice : ∀ name, ∀ price ∈ settings.defaultModelPrice name, 0 ≤ price
  modelRatio : ∀ name, ∀ ratio ∈ settings.modelRatio name, 0 ≤ ratio
  groupRatio : ∀ name, ∀ ratio ∈ settings.groupRatio name, 0 ≤ ratio
  groupGroupRatio : ∀ user group, ∀ ratio ∈ settings.groupGroupRatio user group, 0 ≤ ratio
  taskModelPricing : ∀ name, ∀ pricing ∈ settings.taskModelPricing name,
    0 ≤ pricing.perRequest ∧ 0 ≤ pricing.perSecond

theorem foldl_nonneg {α β : Type} [LE α] [Zero α] {f} (xs : List β) {a : α}
    (ha : 0 ≤ a) (hf : ∀ a, 0 ≤ a → ∀ x ∈ xs, 0 ≤ f a x) : 0 ≤ xs.foldl f a :=
  foldlRecOn xs f ha hf

/-- The other ratios of a price are positive, `AddOtherRatio` sees to that. -/
structure PriceData.Nonneg (price : PriceData) : Prop where
  quota : 0 ≤ price.quota
  groupRatio : 0 ≤ price.groupRatio
  otherRatios : ∀ r ∈ price.otherRatios, 0 < r.2

namespace PriceSettings.Nonneg

variable {settings : PriceSettings} {info : PriceInfo}

theorem handleGroupRatio_nonneg (h : settings.Nonneg) (info : PriceInfo) :
    0 ≤ settings.handleGroupRatio info := by
  unfold handleGroupRatio
  cases hspec : settings.groupGroupRatio info.userGroup info.usingGroup with
  | some ratio => exact h.groupGroupRatio _ _ ratio hspec
  | none =>
    cases hgroup : settings.groupRatio info.usingGroup with
    | some ratio => exact h.groupRatio _ ratio hgroup
    | none => exact zero_le_one

theorem getModelRatio_nonneg (h : settings.Nonneg) (name : String) :
    0 ≤ (settings.getModelRatio name).1 := by
  unfold getModelRatio
  split
  · rename_i ratio hratio
    exact h.modelRatio name ratio hratio
  · norm_num

theorem usableRatio_nonneg (h : settings.Nonneg)
    (hratio : settings.usableRatio info = .ok ratio) : 0 ≤ ratio := by
  rw [usableRatio_ok hratio]
  exact h.getModelRatio_nonneg _

theorem modelPriceHelperPerCall_nonneg (h : settings.Nonneg)
    (hprice : settings.modelPriceHelperPerCall info = .ok price) : price.Nonneg := by
  have hunit := h.quotaPerUnit
  have hgroup := h.handleGroupRatio_nonneg info
  simp only [modelPriceHelperPerCall] at hprice
  split at hprice
  · rename_i modelPrice hmodel
    cases hprice
    refine ⟨?_, hgroup, by simp⟩
    have hnn : 0 ≤ modelPrice := by
      rcases Option.or_eq_some_iff.mp hmodel with hset | ⟨_, hdef⟩
      · exact h.modelPrice _ _ hset
      · exact h.defaultModelPrice _ _ hdef
    split
    · exact le_refl 0
    · exact intPart_nonneg (by positivity)
  cases hratio : settings.usableRatio info with
  | error => simp [hratio, bind, Except.bind] at hprice
  | ok =>
    have hnn := h.usableRatio_nonneg hratio
    rw [hratio] at hprice
    cases hprice
    refine ⟨?_, hgroup, by simp⟩
    split
    · exact le_refl 0
    · exact intPart_nonneg (by positivity)

end PriceSettings.Nonneg

namespace PriceData.Nonneg

variable {price : PriceData}

theorem addOtherRatio (h : price.Nonneg) (key : String) (ratio : ℚ) :
    (price.addOtherRatio key ratio).Nonneg := by
  unfold PriceData.addOtherRatio
  split
  · exact h
  rename_i hpos
  refine ⟨h.quota, h.groupRatio, fun r hr => ?_⟩
  rcases mem_append.mp hr with hold | hnew
  · exact h.otherRatios r (mem_filter.mp hold).1
  · rw [mem_singleton.mp hnew]
    exact not_le.mp hpos

theorem applyOtherRatios (h : price.Nonneg) : price.applyOtherRatios.Nonneg := by
  refine ⟨foldl_nonneg _ h.quota fun quota hquota ratio hratio => ?_, h.groupRatio, h.otherRatios⟩
  obtain ⟨r, hr, rfl⟩ := mem_map.mp hratio
  have hpos := h.otherRatios r hr
  split
  · exact intPart_nonneg (by positivity)
  · exact hquota

theorem recalcQuotaFromRatios (h : price.Nonneg) {ratios}
    (hratios : ∀ r ∈ ratios, 0 ≤ r.2) : 0 ≤ price.recalcQuotaFromRatios ratios := by
  have hbase : 0 ≤ (price.otherRatios.map (·.2)).foldl
      (fun quota ratio => if ratio ≠ 1 && 0 < ratio then intPart (quota / ratio) else quota)
      price.quota := by
    refine foldl_nonneg _ h.quota fun quota hquota ratio _ => ?_
    split
    · rename_i hpos
      have : 0 < ratio := by simpa using (and_eq_true_iff.mp hpos).2
      exact intPart_nonneg (by positivity)
    · exact hquota
  refine intPart_nonneg (foldl_nonneg _ (by exact_mod_cast hbase) fun result hres ratio hr => ?_)
  obtain ⟨r, hr', rfl⟩ := mem_map.mp hr
  have := hratios r hr'
  split
  · positivity
  · exact hres

theorem applyTaskModelPricing {settings : PriceSettings} (h : price.Nonneg)
    (hsettings : settings.Nonneg) {name} {priced : PriceData}
    (hpriced : settings.applyTaskModelPricing name price = some priced) : priced.Nonneg := by
  obtain ⟨pricing, hpricing, rfl⟩ := Option.map_eq_some_iff.mp hpriced
  obtain ⟨hreq, hsec⟩ := hsettings.taskModelPricing name pricing hpricing
  have hunit := hsettings.quotaPerUnit
  refine ⟨intPart_nonneg (mul_nonneg (mul_nonneg (add_nonneg hreq (mul_nonneg hsec ?_))
    hunit) ?_), h.groupRatio, h.otherRatios⟩
  · have hfilt : ∀ x : Option ℚ, ∀ d : ℚ, 0 ≤ d → 0 ≤ (x.filter (0 < ·)).getD d := by
      intro x d hd
      cases hx : x.filter (0 < ·) with
      | none => exact hd
      | some v =>
        have : 0 < v := by simpa using (Option.filter_eq_some_iff.mp hx).2
        exact this.le
    exact hfilt _ _ (hfilt _ _ zero_le_one)
  split
  · refine foldl_nonneg _ h.groupRatio fun a ha ratio hratio => ?_
    obtain ⟨r, hr, rfl⟩ := mem_map.mp hratio
    exact mul_nonneg ha (h.otherRatios r (mem_filter.mp hr).1).le
  · exact h.groupRatio

end PriceData.Nonneg

theorem PriceSettings.Nonneg.taskPrice_nonneg {settings : PriceSettings}
    {estimatedRatios : List (String × ℚ)} {price : PriceData} (h : settings.Nonneg)
    (hprice : settings.taskPrice info estimatedRatios = .ok price) : price.Nonneg := by
  simp only [PriceSettings.taskPrice, seq_ok, return_ok] at hprice
  obtain ⟨base, hbase, rfl⟩ := hprice
  have hest : (estimatedRatios.foldl (fun price r => price.addOtherRatio r.1 r.2)
      base).Nonneg :=
    foldlRecOn estimatedRatios _ (h.modelPriceHelperPerCall_nonneg hbase)
      fun _ hprice r _ => hprice.addOtherRatio r.1 r.2
  generalize estimatedRatios.foldl (fun price r => price.addOtherRatio r.1 r.2) base = price at hest
  cases htask : settings.applyTaskModelPricing info.originModelName price with
  | some => exact hest.applyTaskModelPricing h htask
  | none =>
    split
    · exact hest
    · exact hest.applyOtherRatios

/-! ## The quota of a task -/

/-- What the cuts after each ratio take off the product of a base with them. -/
def cutOff : Int → List ℚ → ℚ
  | _, [] => 0
  | base, ratio :: ratios =>
    Int.fract (base * ratio) * ratios.prod + cutOff ⌊base * ratio⌋ ratios

theorem foldl_cut {ratios : List ℚ} (hbase : 0 ≤ base) (hpos : ∀ r ∈ ratios, 0 < r) :
    ((ratios.foldl (fun (quota : Int) ratio =>
      if ratio ≠ 1 then intPart (quota * ratio) else quota) base : Int) : ℚ) =
      base * ratios.prod - cutOff base ratios := by
  induction ratios generalizing base with
  | nil => simp [cutOff]
  | cons ratio ratios ih =>
    obtain ⟨hratio, hpos⟩ := forall_mem_cons.mp hpos
    have hmul : (0 : ℚ) ≤ base * ratio := by positivity
    have hcut : (if ratio ≠ 1 then intPart (base * ratio) else base) = ⌊base * ratio⌋ := by
      split
      · exact intPart_eq_floor hmul
      · rename_i hone
        rw [not_not.mp hone, mul_one, Int.floor_intCast]
    rw [foldl_cons, hcut, ih (Int.floor_nonneg.mpr hmul) hpos, cutOff, prod_cons, Int.fract]
    ring

/-- To divide by a ratio is to multiply by its inverse. -/
theorem foldl_divide {ratios : List ℚ} (hpos : ∀ r ∈ ratios, 0 < r) :
    ratios.foldl (fun (quota : Int) ratio =>
      if ratio ≠ 1 && 0 < ratio then intPart (quota / ratio) else quota) base =
    (ratios.map (·⁻¹)).foldl (fun (quota : Int) ratio =>
      if ratio ≠ 1 then intPart (quota * ratio) else quota) base := by
  rw [foldl_map]
  refine foldl_ext _ _ _ fun quota ratio hratio => ?_
  simp [hpos ratio hratio, div_eq_mul_inv]

theorem foldl_ratios (ratios : List ℚ) (x : ℚ) :
    ratios.foldl (fun result ratio => if ratio ≠ 1 then result * ratio else result) x =
      x * ratios.prod := by
  induction ratios generalizing x with
  | nil => simp
  | cons r ratios ih =>
    rw [foldl_cons, ih, prod_cons]
    split
    · ring
    · rename_i hone
      rw [not_not.mp hone, one_mul]

/-- A map of positive ratios, in one of its orders. -/
structure RatioMap (ratios : List (String × ℚ)) : Prop where
  pos : ∀ ratio ∈ ratios.map (·.2), 0 < ratio
  nodup : (ratios.map (·.1)).Nodup

theorem RatioMap.added (h : RatioMap ratios) {base : PriceData} (hnone : base.otherRatios = []) :
    ratios.foldl (fun price r => price.addOtherRatio r.1 r.2) base =
      { base with otherRatios := ratios } := by
  induction ratios using reverseRecOn with
  | nil => cases base; cases hnone; rfl
  | append_singleton ratios r ih =>
    obtain ⟨hpos, hnodup⟩ := h
    rw [map_append, forall_mem_append] at hpos
    rw [map_append, nodup_append] at hnodup
    rw [foldl_append, ih ⟨hpos.1, hnodup.1⟩, foldl_cons, foldl_nil, PriceData.addOtherRatio,
      if_neg (not_le.mpr (hpos.2 _ (mem_singleton_self _))), filter_eq_self.mpr]
    intro other hother
    simpa using hnodup.2.2 _ (mem_map_of_mem hother) _ (mem_singleton_self _)

/-- What a submission is worth: by the mixed price of the model, as the base for
a model that is exempt from the ratios, or with the cuts. -/
def PriceSettings.taskWorth (settings : PriceSettings) (name : String) (base : PriceData)
    (ratios : List (String × ℚ)) : ℚ :=
  match settings.taskModelPricing name with
  | some pricing =>
    let seconds := ((ratios.lookup "seconds").or (ratios.lookup "duration")).getD 1
    let others := if pricing.includeOtherRatios then
      ratios.filter fun r => r.1 ≠ "seconds" && r.1 ≠ "duration" else []
    (pricing.perRequest + pricing.perSecond * seconds) * settings.quotaPerUnit *
      (base.groupRatio * (others.map (·.2)).prod)
  | none =>
    if name ∈ settings.taskPricePatches then base.quota
    else base.quota * (ratios.map (·.2)).prod - cutOff base.quota (ratios.map (·.2))

theorem RatioMap.lookup_filter (h : RatioMap ratios) (key : String) :
    (ratios.lookup key).filter (0 < ·) = ratios.lookup key := by
  cases hlookup : ratios.lookup key with
  | none => rfl
  | some ratio =>
    obtain ⟨before, after, rfl, -⟩ := lookup_eq_some_iff.mp hlookup
    exact if_pos (decide_eq_true (h.pos ratio (by simp)))

theorem intPart_intCast (n : Int) : intPart n = n := by simp [intPart]

/-- The quota of a submission is what it is worth, cut once more. -/
theorem PriceSettings.taskPrice_quota {settings : PriceSettings} (hsettings : settings.Nonneg)
    (hbase : settings.modelPriceHelperPerCall info = .ok base) (hratios : RatioMap ratios)
    (h : settings.taskPrice info ratios = .ok price) :
    price.quota = intPart (settings.taskWorth info.originModelName base ratios) := by
  have hnonneg := hsettings.modelPriceHelperPerCall_nonneg hbase
  simp only [taskPrice, hbase, seq_ok, return_ok, Except.ok.injEq, exists_eq_left'] at h
  rw [hratios.added (modelPriceHelperPerCall_ok hbase).2] at h
  simp only [taskWorth, applyTaskModelPricing] at h ⊢
  cases hprice : settings.taskModelPricing info.originModelName with
  | some pricing =>
    simp only [hprice, Option.map_some, Option.getD_some, hratios.lookup_filter] at h ⊢
    subst h
    have hothers : (ratios.filter fun r => 0 < r.2 && r.1 ≠ "seconds" && r.1 ≠ "duration") =
        ratios.filter fun r => r.1 ≠ "seconds" && r.1 ≠ "duration" :=
      filter_congr fun r hr => by simp [hratios.pos r.2 (mem_map_of_mem hr)]
    rw [hothers]
    cases ratios.lookup "seconds" <;> cases pricing.includeOtherRatios <;>
      simp [foldl_eq_apply_foldr, prod_eq_foldr]
  | none =>
    simp only [hprice, Option.map_none, Option.getD_none] at h ⊢
    split_ifs at h ⊢ <;> subst h
    · exact (intPart_intCast _).symm
    · rw [← foldl_cut hnonneg.quota hratios.pos, intPart_intCast]
      rfl

/-- The settings of a model with the price of three units. -/
def samplePerCall : PriceSettings where
  quotaPerUnit := 3
  modelPrice _ := some 1

theorem samplePerCall_nonneg : samplePerCall.Nonneg where
  quotaPerUnit := by decide
  modelPrice _ _ h := Option.some.inj h ▸ zero_le_one
  defaultModelPrice := nofun
  modelRatio := nofun
  groupRatio := nofun
  groupGroupRatio := nofun
  taskModelPricing := nofun

def samplePerCallPrice (quota : Int) (otherRatios : List (String × ℚ)) : PriceData :=
  { modelPrice := 1, otherRatios, usePrice := true, quota }

end HermesToken.Billing
