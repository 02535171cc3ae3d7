import HermesToken.Relay.Channels
import HermesToken.Relay.Consume
import Mathlib.Data.Finset.Card

/-!
# The attempts of a request

The retry loop of `Relay` in `controller/relay.go`. The price of a request is
prepared once, before the first attempt; every later attempt takes another
channel, in an auto group possibly of another group. What the outside answers
to an attempt is given with it.
-/

namespace HermesToken.Relay

open Lib Billing

/-! ## Errors and retries -/

/-- The part of `HermesTokenError` the loop reads. `violation` is the mark of an
error that costs a violation fee. -/
structure RelayError where
  message : String := ""
  errorCode : String := "bad_response"
  statusCode : Int := 500
  (skipRetry violation : Bool := false)

/-- `NormalizeViolationFeeError`. -/
def RelayError.normalize (err : RelayError) : RelayError :=
  if err.violation then { err with skipRetry := true } else err

/-- `IsChannelError`. -/
def RelayError.isChannelError (err : RelayError) : Bool :=
  "channel:".toList <+: err.errorCode.toList

inductive RetryReason where
  | skipRetryError | budgetExhausted | specificChannel | channelError
  | selectedChannelUnavailable | channelAffinitySkipRetry | successfulStatusCode
  | invalidStatusCode | alwaysSkipErrorCode | statusCode | statusCodeNotRetryable
deriving DecidableEq

/-- What the decision on a retry reads in the context of the request. -/
structure RetryContext where
  specificChannel : Bool := false
  channelId : Nat := 0
  (affinityRetryReady affinityCacheHit affinitySkipRetry : Bool := false)

/-- `EnableRetryAfterChannelAffinityFailure`. -/
def RetryContext.enableRetryAfterChannelAffinityFailure (ctx : RetryContext) :
    Bool × RetryContext :=
  if ctx.affinityRetryReady then (true, ctx)
  else if ctx.affinityCacheHit then
    (true, { ctx with affinityRetryReady := true, affinitySkipRetry := false })
  else (false, ctx)

/-- `shouldMatchStatusCodeRanges`. -/
def shouldMatchStatusCodeRanges (code : Int) : List (Int × Int) → Bool
  | [] => false
  | range :: rest =>
    if code < 100 || 599 < code || code < range.1 then false
    else if code ≤ range.2 then true
    else shouldMatchStatusCodeRanges code rest

/-- `AutomaticRetryStatusCodeRanges`, by default. -/
def automaticRetryStatusCodeRanges : List (Int × Int) :=
  [(100, 199), (300, 399), (401, 407), (409, 499), (500, 503), (505, 523), (525, 599)]

/-- `ShouldRetryByStatusCode`. -/
def shouldRetryByStatusCode (ranges : List (Int × Int)) (code : Int) : Bool :=
  if code = 504 || code = 524 then false else shouldMatchStatusCodeRanges code ranges

/-- `shouldRetryWithReason`, with `remaining` retries left. -/
def shouldRetryWithReason (ranges : List (Int × Int)) (ctx : RetryContext) (err : RelayError)
    (remaining : Int) : (Bool × RetryReason) × RetryContext :=
  let (enabled, ready) := ctx.enableRetryAfterChannelAffinityFailure
  if err.skipRetry then ((false, .skipRetryError), ctx)
  else if remaining ≤ 0 then ((false, .budgetExhausted), ctx)
  else if ctx.specificChannel then ((false, .specificChannel), ctx)
  else if err.isChannelError then ((true, .channelError), ready)
  else if 0 < ctx.channelId then ((true, .selectedChannelUnavailable), ready)
  else if !enabled && ready.affinitySkipRetry then ((false, .channelAffinitySkipRetry), ready)
  else if 200 ≤ err.statusCode && err.statusCode < 300 then ((false, .successfulStatusCode), ready)
  else if err.statusCode < 100 || 599 < err.statusCode then ((true, .invalidStatusCode), ready)
  else if err.errorCode = "bad_response_body" then ((false, .alwaysSkipErrorCode), ready)
  else if shouldRetryByStatusCode ranges err.statusCode then ((true, .statusCode), ready)
  else ((false, .statusCodeNotRetryable), ready)

/-! ## The end of a stream -/

inductive StreamEndReason where
  | none | done | timeout | clientGone | scannerErr | handlerStop | eof | panic | pingFail
  | firstChunkTimeout
deriving DecidableEq

/-- What an attempt leaves of its stream. -/
structure StreamOutcome where
  isStream : Bool := false
  endReason : StreamEndReason := .none
  receivedResponseCount : Nat := 0

/-- `relay.go` makes an error of a stream that timed out before its first
chunk. -/
def StreamOutcome.error (stream : StreamOutcome) (seconds : Nat) : Option RelayError :=
  if stream.isStream && stream.endReason = .firstChunkTimeout &&
    stream.receivedResponseCount = 0 then
    some {
      message := "first chunk timeout after " ++ toString seconds ++
        "s, failing over to another channel"
      errorCode := "bad_response"
      statusCode := 503 }
  else none

/-- The error is tried again on a selected channel as long as retries are left,
whatever status codes the settings retry. -/
def RelayError.Retryable (err : RelayError) : Prop :=
  ∀ (ranges : List (Int × Int)) (ctx : RetryContext) (remaining : Int), 0 < remaining →
    ctx.specificChannel = false → 0 < ctx.channelId →
    (shouldRetryWithReason ranges ctx err.normalize remaining).1.1 = true

/-- A stream that timed out before its first chunk is tried again. -/
theorem firstChunkTimeout_retryable {stream : StreamOutcome} (hstr : stream.isStream)
    (hend : stream.endReason = .firstChunkTimeout) (hcnt : stream.receivedResponseCount = 0) :
    ∃ err, stream.error seconds = some err ∧ err.Retryable := by
  refine ⟨_, if_pos (by simp [hstr, hend, hcnt]), ?_⟩
  intro ranges ctx remaining hrem hspec hchan
  simp only [shouldRetryWithReason, RelayError.normalize, Bool.false_eq_true, if_false,
    if_neg (Int.not_le.mpr hrem), hspec, hchan, if_true]
  split
  · rfl
  · rfl

/-- `firstChunkTimeoutSecondsForRequest`; zero is no timeout. -/
def firstChunkTimeoutSecondsForRequest (isStream enabled : Bool) (seconds : Int)
    (ctx : RetryContext) : Nat :=
  if !isStream || !enabled || ctx.affinitySkipRetry || ctx.specificChannel then 0
  else if seconds ≤ 0 then 60 else seconds.toNat

/-! ## The loop -/

structure RelaySettings extends ConsumeSettings, SelectSettings where
  retryRanges : List (Int × Int) := automaticRetryStatusCodeRanges
  firstChunkTimeoutEnabled : Bool := false
  firstChunkTimeoutSeconds : Int := 60

/-- A request at the beginning of the loop. The distributor has selected its
first channel, in an auto group also the group. -/
structure RelayRequest where
  info : PriceInfo
  tokenGroup : String
  context : GroupContext
  retryContext : RetryContext
  promptTokens : Int
  count : TokenCountMeta := {}
  finalPreConsumedQuota : Int := 0
  isStream : Bool := false
  seedCache : ChannelCache

/-- What the outside does in an attempt: the channels there are, an error of
setting the channel up or of reading the body, the answer of the handler and
the end of its stream. -/
structure Attempt where
  cache : ChannelCache
  (setupError bodyError : Option RelayError := none)
  answer : Except RelayError Response
  stream : StreamOutcome := {}

/-- A call of `SettleBilling`: the group and the channel of the attempt, the
response and the quota it is settled with. -/
structure Settlement where
  group : String
  channel : Nat
  response : Response
  quota : Int

inductive RelayResult where
  | running
  | delivered (group : String)
  | failed (err : RelayError)

/-- `group` is the group the channel of the last attempt was selected in. -/
structure RelayState where
  select : Selecting
  retryContext : RetryContext
  info : PriceInfo
  bill : Bill
  group : String
  started : Bool := false
  settlements : List Settlement := []
  result : RelayResult := .running

/-- The first step of `HandleGroupRatio`: the auto group of the context is the
group in use. -/
def GroupContext.apply (context : GroupContext) (info : PriceInfo) : PriceInfo :=
  { info with usingGroup := context.autoGroup.getD info.usingGroup }

/-- The ratios `ModelPriceHelper` reads for a model that is priced by them. -/
def ConsumeSettings.textRatios (settings : ConsumeSettings) (name : String) : TextRatios where
  completionRatio := settings.completionRatio name
  cacheRatio := settings.cacheRatio name
  imageRatio := settings.imageRatio name
  cacheCreationRatio := settings.createCacheRatio name
  cacheCreation5mRatio := settings.createCacheRatio name
  cacheCreation1hRatio := settings.createCacheRatio name * (8 / 5)

/-- `ModelPriceHelper` with all it leaves in the relay information. -/
def ConsumeSettings.prepareBill (settings : ConsumeSettings) (info : PriceInfo)
    (promptTokens : Int) (count : TokenCountMeta) (finalPreConsumedQuota : Int) :
    Except String Bill := do
  let (price, snapshot) ← settings.modelPriceHelper info promptTokens count
  let expr := (settings.billingExpr info.originModelName).join
  let byRatio := snapshot.isNone && !price.usePrice
  return {
    modelName := info.originModelName
    price := price
    ratios := if byRatio then settings.textRatios info.originModelName else {}
    snapshot := snapshot.bind fun snap => expr.map fun expr =>
      { snap with expr, quotaPerUnit := settings.quotaPerUnit }
    finalPreConsumedQuota
    estimatePromptTokens := promptTokens }

def getChannelFailed (message : String) : RelayError where
  message := message
  errorCode := "get_channel_failed"
  skipRetry := true

namespace RelaySettings

variable (settings : RelaySettings) (req : RelayRequest)

/-- `getChannel`. The first attempt takes the channel of the context. -/
def getChannel (a : Attempt) (st : RelayState) : Except RelayError Nat × RelayState :=
  if !st.started then (.ok st.retryContext.channelId, st)
  else
    let model := st.info.originModelName
    let ((answer, group), select) :=
      settings.cacheGetRandomSatisfiedChannel model a.cache req.tokenGroup st.select
    let info := select.context.apply st.info
    let price := { st.bill.price with groupRatio := settings.handleGroupRatio info }
    let st := { st with select, info, group, bill := { st.bill with price } }
    match answer with
    | .error e => (.error (getChannelFailed ("获取分组 " ++ group ++ " 下模型 " ++ model ++
        " 的可用渠道失败（retry）: " ++ e)), st)
    | .ok none => (.error (getChannelFailed ("分组 " ++ group ++ " 下模型 " ++ model ++
        " 的可用渠道不存在（retry）")), st)
    | .ok (some channel) =>
      let st := { st with retryContext := { st.retryContext with channelId := channel } }
      match a.setupError with
      | some err => (.error err, st)
      | none => (.ok channel, st)

/-- The handler of an attempt, which settles what it delivers, and what the
loop makes of a stream without a first chunk. -/
def handle (a : Attempt) (channel : Nat) (st : RelayState) : Option RelayError × RelayState :=
  match a.answer with
  | .error err => (some err, { st with started := true })
  | .ok response =>
    let seconds := firstChunkTimeoutSecondsForRequest req.isStream
      settings.firstChunkTimeoutEnabled settings.firstChunkTimeoutSeconds st.retryContext
    let quota := consumeQuota settings.toConsumeSettings st.bill response
    (a.stream.error seconds, { st with
      started := true
      settlements := st.settlements ++ [⟨st.group, channel, response, quota⟩] })

/-- A round of the loop: the channel it tries (`addUsedChannel`), with its group,
the state it leaves, and whether the loop goes on. -/
structure Round where
  tried : Option (String × Nat)
  state : RelayState
  willRetry : Bool := false

def round (a : Attempt) (st : RelayState) : Round :=
  match settings.getChannel req a st with
  | (.error err, st) => { tried := none, state := { st with result := .failed err } }
  | (.ok channel, st) =>
    let tried := some (st.group, channel)
    match a.bodyError with
    | some err => { tried, state := { st with result := .failed err } }
    | none =>
      match settings.handle req a channel st with
      | (none, st) => { tried, state := { st with result := .delivered st.group } }
      | (some err, st) =>
        let remaining := settings.retryTimes - st.select.param.retry
        let ((willRetry, _), retryContext) :=
          shouldRetryWithReason settings.retryRanges st.retryContext err.normalize remaining
        let st := { st with retryContext, result := .failed err.normalize }
        if willRetry then
          { tried, willRetry, state := { st with
              select := { st.select with param := st.select.param.increaseRetry } } }
        else { tried, state := st }

/-- The loop, with the channels it tries. -/
def rounds : List Attempt → RelayState → List (String × Nat) × RelayState
  | [], st => ([], st)
  | a :: rest, st =>
    if settings.retryTimes < st.select.param.retry then ([], st)
    else
      let round := settings.round req a st
      let (later, st) := if round.willRetry then rounds rest round.state else ([], round.state)
      (round.tried.toList ++ later, st)

def relayLoop (attempts : List Attempt) (st : RelayState) : RelayState :=
  (settings.rounds req attempts st).2

def usedChannels (attempts : List Attempt) (st : RelayState) : List (String × Nat) :=
  (settings.rounds req attempts st).1

/-- `Relay` from the price of the request on. -/
def relay (attempts : List Attempt) : Except String RelayState := do
  let info := req.context.apply req.info
  let bill ← settings.prepareBill info req.promptTokens req.count req.finalPreConsumedQuota
  let seeded := RetryParam.seedSelectedChannel {} req.seedCache info.usingGroup
    info.originModelName req.retryContext.channelId
  let param := match seeded with
    | .ok param => param
    | .error _ => {}
  return settings.relayLoop req attempts {
    select := ⟨req.context, param⟩
    retryContext := req.retryContext
    info
    bill
    group := info.usingGroup }

/-- The ratio of a group for the user of the request. -/
def ratioOf (group : String) : ℚ :=
  settings.handleGroupRatio { req.info with usingGroup := group }

end RelaySettings

/-! ## The ratio of a settlement -/

/-- The books of a run that began with `bill`: only the group ratio of the price
moves, and every settlement was made with the ratio of its own group in the
price. -/
structure SettledBooks (settings : RelaySettings) (req : RelayRequest) (bill : Bill)
    (st : RelayState) : Prop where
  moved : ∃ ratio, st.bill = bill.priceAt ratio
  settled : ∀ s ∈ st.settlements, s.quota = consumeQuota settings.toConsumeSettings
    (bill.priceAt (settings.ratioOf req s.group)) s.response
  delivered : ∀ group, st.result = .delivered group → ∃ s ∈ st.settlements, s.group = group

/-- While it goes on, the group in use is the group of the channel, and the
price has its ratio. -/
structure Priced (settings : RelaySettings) (req : RelayRequest) (bill : Bill) (st : RelayState) :
    Prop extends SettledBooks settings req bill st where
  info : st.info = { req.info with usingGroup := st.group }
  price : st.bill = bill.priceAt (settings.ratioOf req st.group)

section

variable {settings : RelaySettings} {req : RelayRequest} {st : RelayState}

/-- A channel of an auto group brings the group and its ratio with it. -/
theorem Priced.getChannel (hauto : req.tokenGroup = "auto") (h : Priced settings req bill st)
    (hget : settings.getChannel req a st = (answer, st')) :
    SettledBooks settings req bill st' ∧
      ∀ channel, answer = .ok channel → Priced settings req bill st' := by
  simp only [RelaySettings.getChannel, hauto] at hget
  split at hget
  · obtain ⟨-, rfl⟩ := Prod.mk.inj hget
    exact ⟨h.toSettledBooks, fun _ _ => h⟩
  have hgrp := @SelectSettings.cacheGetRandomSatisfiedChannel_ok settings.toSelectSettings
    st.info.originModelName a.cache "auto" st.select
  generalize settings.cacheGetRandomSatisfiedChannel st.info.originModelName a.cache "auto"
    st.select = selected at hget hgrp
  obtain ⟨⟨found, group⟩, select⟩ := selected
  obtain ⟨ratio, hbill⟩ := h.moved
  have hmoved : ∀ ratio', { st.bill with price := { st.bill.price with groupRatio := ratio' } } =
      bill.priceAt ratio' := fun _ => by rw [hbill]; rfl
  match found with
  | .error _ | .ok none =>
    obtain ⟨rfl, rfl⟩ := Prod.mk.inj hget
    exact ⟨⟨⟨_, hmoved _⟩, h.settled, h.delivered⟩, fun _ hok => by cases hok⟩
  | .ok (some channel) =>
    -- the selection has put the group of the channel into the context
    have hinfo : select.context.apply st.info = { req.info with usingGroup := group } := by
      simp only [GroupContext.apply, (hgrp rfl).1, Option.getD_some, h.info]
    have hsta : ∀ retryContext, Priced settings req bill { st with
        select, group, retryContext
        info := select.context.apply st.info
        bill := { st.bill with price := { st.bill.price with
          groupRatio := settings.handleGroupRatio (select.context.apply st.info) } } } := by
      intro retryContext
      refine ⟨⟨⟨_, hmoved _⟩, h.settled, h.delivered⟩, hinfo, ?_⟩
      rw [hmoved, hinfo]
      rfl
    cases hsetup : a.setupError with simp only [hsetup] at hget
    | some =>
      obtain ⟨rfl, rfl⟩ := Prod.mk.inj hget
      exact ⟨(hsta _).toSettledBooks, fun _ hok => by cases hok⟩
    | none =>
      obtain ⟨rfl, rfl⟩ := Prod.mk.inj hget
      exact ⟨(hsta _).toSettledBooks, fun _ _ => hsta _⟩

/-- A handler settles at the ratio of the group, and only what was settled is
delivered. -/
theorem Priced.handle (h : Priced settings req bill st)
    (hhand : settings.handle req a channel st = (err, st')) :
    Priced settings req bill st' ∧ (err = none → ∃ s ∈ st'.settlements, s.group = st'.group) := by
  simp only [RelaySettings.handle] at hhand
  split at hhand
  · obtain ⟨rfl, rfl⟩ := Prod.mk.inj hhand
    exact ⟨⟨⟨h.moved, h.settled, h.delivered⟩, h.info, h.price⟩, fun hnone => by cases hnone⟩
  obtain ⟨-, rfl⟩ := Prod.mk.inj hhand
  refine ⟨⟨⟨h.moved, fun s hs => ?_, fun group hgrp => ?_⟩, h.info, h.price⟩,
    fun _ => ⟨_, List.mem_append_right _ List.mem_cons_self, rfl⟩⟩
  · rcases List.mem_append.mp hs with hs | hs
    · exact h.settled s hs
    · obtain rfl := List.mem_singleton.mp hs
      simp only [h.price]
  · obtain ⟨s, hs, hgrp⟩ := h.delivered group hgrp
    exact ⟨s, List.mem_append_left _ hs, hgrp⟩

theorem Priced.round (hauto : req.tokenGroup = "auto") (h : Priced settings req bill st)
    (a : Attempt) :
    SettledBooks settings req bill (settings.round req a st).state ∧
      ((settings.round req a st).willRetry →
        Priced settings req bill (settings.round req a st).state) := by
  rw [RelaySettings.round]
  cases hget : settings.getChannel req a st with
  | mk answer st₁ =>
  obtain ⟨hbooks, hpriced⟩ := h.getChannel hauto hget
  cases answer with
  | error err => exact ⟨⟨hbooks.moved, hbooks.settled, nofun⟩, nofun⟩
  | ok channel =>
  have h₁ := hpriced channel rfl
  dsimp only
  cases a.bodyError with
  | some err => exact ⟨⟨h₁.moved, h₁.settled, nofun⟩, nofun⟩
  | none =>
  dsimp only
  cases hhand : settings.handle req a channel st₁ with
  | mk err st₂ =>
  obtain ⟨h₂, hdelivered⟩ := h₁.handle hhand
  cases err with
  | none =>
    refine ⟨⟨h₂.moved, h₂.settled, fun group hres => ?_⟩, nofun⟩
    obtain rfl := RelayResult.delivered.inj hres
    exact hdelivered rfl
  | some err =>
  dsimp only
  split
  · exact ⟨⟨h₂.moved, h₂.settled, nofun⟩,
      fun _ => ⟨⟨h₂.moved, h₂.settled, nofun⟩, h₂.info, h₂.price⟩⟩
  · exact ⟨⟨h₂.moved, h₂.settled, nofun⟩, nofun⟩

theorem Priced.relayLoop (hauto : req.tokenGroup = "auto") (attempts : List Attempt)
    (h : Priced settings req bill st) :
    SettledBooks settings req bill (settings.relayLoop req attempts st) := by
  rw [RelaySettings.relayLoop]
  induction attempts generalizing st with
  | nil => exact h.toSettledBooks
  | cons a rest ih =>
    rw [RelaySettings.rounds]
    split
    · exact h.toSettledBooks
    obtain ⟨hbooks, hnext⟩ := h.round hauto a
    dsimp only
    split
    · rename_i hretry
      exact ih (hnext hretry)
    · exact hbooks

theorem ConsumeSettings.prepareBill_ratio
    (h : settings.prepareBill info promptTokens count preConsumed = .ok bill) :
    bill.price.groupRatio = settings.handleGroupRatio info ∧
      ∀ snap ∈ bill.snapshot, snap.groupRatio = settings.handleGroupRatio info := by
  simp only [prepareBill, seq_ok, return_ok] at h
  obtain ⟨⟨price, snapshot⟩, hprice, rfl⟩ := h
  obtain ⟨hratio, hsnaps⟩ := PriceSettings.modelPriceHelper_groupRatio hprice
  refine ⟨hratio, fun snap hsnap => ?_⟩
  obtain ⟨frozen, hfroze, hmap⟩ := Option.bind_eq_some_iff.mp hsnap
  obtain ⟨expr, -, rfl⟩ := Option.map_eq_some_iff.mp hmap
  exact hsnaps frozen hfroze

section

variable {attempts : List Attempt} (hauto : req.tokenGroup = "auto")
  (hrun : settings.relay req attempts = .ok st)
include hauto hrun

/-- The books of a whole run, and the ratio its snapshot keeps. -/
theorem RelaySettings.relay_books :
    ∃ bill, SettledBooks settings req bill st ∧ ∀ snap ∈ bill.snapshot,
      snap.groupRatio = settings.ratioOf req (req.context.apply req.info).usingGroup := by
  simp only [relay, seq_ok, return_ok] at hrun
  obtain ⟨bill, hbill, rfl⟩ := hrun
  obtain ⟨hprice, hsnap⟩ := ConsumeSettings.prepareBill_ratio hbill
  have hself := (Bill.priceAt_self hprice).symm
  refine ⟨bill, Priced.relayLoop hauto attempts ⟨⟨⟨_, hself⟩, ?_, ?_⟩, rfl, hself⟩, hsnap⟩
  · intro s hs
    cases hs
  · intro group hres
    cases hres

/-- Ratio billing: every settlement in an auto group is made at the ratio of
the group whose channel answered. -/
theorem ratio_settled_at_serving_group (hratio : st.bill.snapshot = none) :
    ∀ s ∈ st.settlements, s.quota = consumeQuota settings.toConsumeSettings
      (st.bill.atRatio (settings.ratioOf req s.group)) s.response := by
  obtain ⟨bill, hbks, -⟩ := settings.relay_books hauto hrun
  obtain ⟨ratio, hbill⟩ := hbks.moved
  have hnone : bill.snapshot = none := by rw [hbill] at hratio; exact hratio
  intro s hs
  rw [hbks.settled s hs, hbill, Bill.atRatio_priceAt,
    Bill.priceAt_eq_atRatio fun snap hsnap => by rw [hnone] at hsnap; cases hsnap]

end

/-- Tiered billing: when all that was settled came from groups of the ratio the
price was prepared with, it was settled at the ratio of the group that
delivered. -/
theorem tiered_settled_at_serving_group (hauto : req.tokenGroup = "auto")
    {attempts : List Attempt} {group : String} (hrun : settings.relay req attempts = .ok st)
    (hdelivered : st.result = .delivered group)
    (hratio : ∀ s ∈ st.settlements, settings.ratioOf req s.group =
      settings.ratioOf req (req.context.apply req.info).usingGroup) :
    ∀ s ∈ st.settlements, s.quota = consumeQuota settings.toConsumeSettings
      (st.bill.atRatio (settings.ratioOf req group)) s.response := by
  obtain ⟨bill, hbooks, hsnap⟩ := settings.relay_books hauto hrun
  obtain ⟨ratio, hbill⟩ := hbooks.moved
  obtain ⟨serving, hserving, rfl⟩ := hbooks.delivered group hdelivered
  rw [← hratio serving hserving] at hsnap
  intro s hs
  rw [hbooks.settled s hs, hratio s hs, ← hratio serving hserving, hbill, Bill.atRatio_priceAt,
    Bill.priceAt_eq_atRatio hsnap]

end

/-! ## A request over two groups -/

/-- Two dollars for a million prompt tokens, in groups whose ratios are
`default` and `vip`. -/
def sampleTiers (default vip : ℚ) : RelaySettings where
  tieredExpr _ := some (some fun promptTokens _ => .ok (promptTokens * 2))
  billingExpr _ := some (some ⟨[], fun params => .ok (params.p * 2)⟩)
  tieredExpr_eq _ := rfl
  groupRatio group := some (if group = "default" then default else vip)
  retryTimes := 1
  autoGroups := ["default", "vip"]
  userAutoGroups := ["default", "vip"]
  crossGroupRetry := true

def sampleTieredRequest : RelayRequest where
  info := { originModelName := "gpt-5", usingGroup := "auto" }
  tokenGroup := "auto"
  context := ⟨some "default", some 0⟩
  retryContext := { channelId := 1 }
  promptTokens := 1000
  seedCache := sampleCache

/-- The first channel fails, and the second delivers a thousand tokens. -/
def sampleFailover : List Attempt :=
  [{ cache := sampleCache, answer := .error {} },
    { cache := sampleCache,
      answer := .ok (.text { usage := some { promptTokens := 1000, totalTokens := 1000 } }) }]

/-- A failover into a group of twice the ratio. -/
theorem ratio_settled_at_serving_group_sample :
    let settings := { sampleTiers 1 2 with
      tieredExpr _ := none, billingExpr _ := none, tieredExpr_eq _ := rfl
      modelRatio _ := some 3 }
    ∃ st, settings.relay sampleTieredRequest sampleFailover = .ok st ∧
      st.settlements.map (·.group) = ["vip"] ∧
      ∀ s ∈ st.settlements, s.quota = consumeQuota settings.toConsumeSettings
        (st.bill.atRatio (settings.ratioOf sampleTieredRequest s.group)) s.response :=
  ⟨_, rfl, rfl, ratio_settled_at_serving_group rfl rfl rfl⟩

/-- With the same ratio in both groups the failover is settled at it. -/
theorem tiered_settled_at_serving_group_sample :
    ∃ st, (sampleTiers 2 2).relay sampleTieredRequest sampleFailover = .ok st ∧
      st.result = .delivered "vip" ∧ st.settlements.length = 1 ∧
      ∀ s ∈ st.settlements, s.quota = consumeQuota (sampleTiers 2 2).toConsumeSettings
        (st.bill.atRatio ((sampleTiers 2 2).ratioOf sampleTieredRequest "vip")) s.response :=
  ⟨_, rfl, rfl, rfl, tiered_settled_at_serving_group rfl rfl rfl (by decide +kernel)⟩

/-- A failover into a group of twice the ratio is settled at the ratio of the
group that failed: the snapshot was taken there. -/
theorem tiered_settled_at_first_group :
    ∃ (settings : RelaySettings) (req : RelayRequest) (attempts : List Attempt)
      (st : RelayState) (group : String), req.tokenGroup = "auto" ∧
      settings.relay req attempts = .ok st ∧ st.result = .delivered group ∧
      st.bill.snapshot.isSome ∧ ∃ s ∈ st.settlements, s.group = group ∧
        s.quota ≠ consumeQuota settings.toConsumeSettings
          (st.bill.atRatio (settings.ratioOf req group)) s.response := by
  refine ⟨sampleTiers 1 2, sampleTieredRequest, sampleFailover, _, _, rfl, rfl, rfl, rfl, _,
    List.mem_cons_self, rfl, ?_⟩
  decide +kernel

/-! ## The channels of a run -/

namespace RelaySettings

open List

variable (settings : RelaySettings) (req : RelayRequest)

variable {settings req} {a : Attempt} {attempts : List Attempt} {st : RelayState}

theorem getChannel_ok (hget : settings.getChannel req a st = (.ok channel, st')) :
    st'.info.originModelName = st.info.originModelName ∧ (st.started = false ∧ st' = st ∨
      st.started = true ∧ settings.cacheGetRandomSatisfiedChannel st.info.originModelName a.cache
        req.tokenGroup st.select = ((.ok (some channel), st'.group), st'.select)) := by
  simp only [getChannel] at hget
  split at hget
  · rename_i hfirst
    cases hget
    exact ⟨rfl, .inl ⟨by simpa using hfirst, rfl⟩⟩
  split at hget
  · cases hget
  · cases hget
  rename_i hstarted _ _ hsel
  split at hget
  · cases hget
  cases hget
  exact ⟨rfl, .inr ⟨by simpa using hstarted, Prod.ext (Prod.ext hsel rfl) rfl⟩⟩

/-- A round that goes on has tried a channel, and keeps where it was found. -/
structure GoesOn (st₁ : RelayState) (round : Round) : Prop where
  willRetry : round.willRetry
  started : round.state.started = true
  info : round.state.info = st₁.info
  group : round.state.group = st₁.group
  context : round.state.select.context = st₁.select.context
  tried : round.state.select.param.triedChannels = st₁.select.param.triedChannels

theorem round_cases (settings : RelaySettings) (req : RelayRequest) (a : Attempt)
    (st : RelayState) :
    (settings.round req a st).tried = none ∧ (settings.round req a st).willRetry = false ∨
      ∃ channel st₁, settings.getChannel req a st = (.ok channel, st₁) ∧
        (settings.round req a st).tried = some (st₁.group, channel) ∧
        ((settings.round req a st).willRetry → GoesOn st₁ (settings.round req a st)) := by
  rw [round]
  cases hget : settings.getChannel req a st with
  | mk answer st₁ =>
  cases answer with
  | error err => exact .inl ⟨rfl, rfl⟩
  | ok channel =>
  refine .inr ⟨channel, st₁, rfl, ?_⟩
  dsimp only
  cases a.bodyError with
  | some err => exact ⟨rfl, nofun⟩
  | none =>
  dsimp only
  cases hhand : settings.handle req a channel st₁ with
  | mk err st₂ =>
  cases err with
  | none => exact ⟨rfl, nofun⟩
  | some err =>
  have hst₂ : st₂.started = true ∧ st₂.info = st₁.info ∧ st₂.group = st₁.group ∧
      st₂.select = st₁.select := by
    rw [handle] at hhand
    split at hhand
    · obtain ⟨-, rfl⟩ := Prod.mk.inj hhand
      exact ⟨rfl, rfl, rfl, rfl⟩
    · obtain ⟨-, rfl⟩ := Prod.mk.inj hhand
      exact ⟨rfl, rfl, rfl, rfl⟩
  obtain ⟨hstarted, hinfo, hgroup, hselect⟩ := hst₂
  dsimp only
  split
  · refine ⟨rfl, fun hretry => ⟨hretry, hstarted, hinfo, hgroup, ?_, ?_⟩⟩
    · exact (congrArg Selecting.context hselect : st₂.select.context = _)
    · exact (RetryParam.increaseRetry_tried _).trans (by rw [hselect])
  · exact ⟨rfl, nofun⟩

/-- The loop ends, or goes on after the channel it has tried. -/
theorem usedChannels_cons (settings : RelaySettings) (req : RelayRequest) (a : Attempt)
    (rest : List Attempt) (st : RelayState) :
    settings.usedChannels req (a :: rest) st = [] ∨
      ∃ channel st₁ later, settings.getChannel req a st = (.ok channel, st₁) ∧
        settings.usedChannels req (a :: rest) st = (st₁.group, channel) :: later ∧
        (later = [] ∨ later = settings.usedChannels req rest (settings.round req a st).state ∧
          GoesOn st₁ (settings.round req a st)) := by
  rw [usedChannels, rounds]
  split
  · exact .inl rfl
  obtain ⟨hnone, hend⟩ | ⟨channel, st₁, hget, htried, hgoes⟩ := settings.round_cases req a st
  · simp [hnone, hend]
  simp only [htried]
  refine .inr ⟨channel, st₁, _, hget, rfl, ?_⟩
  split
  · rename_i hretry
    exact .inr ⟨rfl, hgoes hretry⟩
  · exact .inl rfl

/-- At every selection of the run the group in use has an untried channel from
the cursor on, or no later group has one. -/
def Stays (settings : RelaySettings) (req : RelayRequest) : List Attempt → RelayState → Prop
  | [], _ => True
  | a :: rest, st =>
    let find group := a.cache.getSatisfiedChannelBuckets group st.info.originModelName
    let param := st.select.param
    (st.started → ∀ group later,
      settings.userAutoGroups.drop (st.select.context.autoGroupIndex.getD 0) = group :: later →
        (offersFrom find param.triedChannels param.priorityIndex [group]).flatten ≠ [] ∨
          (offersFrom find param.triedChannels 0 later).flatten = []) ∧
    ((settings.round req a st).willRetry → Stays settings req rest (settings.round req a st).state)

/-- Every retry uses up one of the channels that were not tried. -/
theorem usedChannels_untried {satisfying : Finset Nat} (hstarted : st.started)
    (hsat : ∀ a ∈ attempts, ∀ group ∈ settings.groupsOf req.tokenGroup, ∀ channel,
      a.cache.Serves group st.info.originModelName channel → channel ∈ satisfying) :
    (settings.usedChannels req attempts st).length ≤
      (satisfying \ st.select.param.triedChannels.toFinset).card := by
  induction attempts generalizing st with
  | nil => exact Nat.zero_le _
  | cons a rest ih =>
  rcases settings.usedChannels_cons req a rest st with
    hnil | ⟨channel, st₁, later, hget, hcons, hlater⟩
  · rw [hnil]; exact Nat.zero_le _
  obtain ⟨hmodel, ⟨hnot, -⟩ | ⟨-, hcall⟩⟩ := getChannel_ok hget
  · rw [hstarted] at hnot; cases hnot
  obtain ⟨-, hmem, htake⟩ := SelectSettings.cacheGetRandomSatisfiedChannel_ok hcall
  have hcard : (satisfying \ st₁.select.param.triedChannels.toFinset).card + 1 =
      (satisfying \ st.select.param.triedChannels.toFinset).card := by
    rw [htake.tried, toFinset_cons, Finset.sdiff_insert]
    refine Finset.card_erase_add_one (Finset.mem_sdiff.mpr ⟨?_, ?_⟩)
    · exact hsat a mem_cons_self _ hmem _ htake.serves
    · exact mem_toFinset.not.mpr htake.untried
  rw [hcons, length_cons, ← hcard]
  refine Nat.succ_le_succ ?_
  obtain rfl | ⟨rfl, hgoes⟩ := hlater
  · exact Nat.zero_le _
  rw [← hgoes.tried]
  refine ih hgoes.started ?_
  rw [hgoes.info, hmodel]
  exact fun a ha => hsat a (mem_cons_of_mem _ ha)

/-- **The loop is bounded** by the channels that serve the model in the groups
of the token, however often the selection resets its counter. -/
theorem attempts_bounded (cache : ChannelCache) (satisfying : Finset Nat)
    (hfixed : ∀ a ∈ attempts, a.cache.getSatisfiedChannelBuckets = cache.getSatisfiedChannelBuckets)
    (hsat : ∀ channel, channel ∈ satisfying ↔ ∃ group ∈ settings.groupsOf req.tokenGroup,
      cache.Serves group st.info.originModelName channel) :
    (settings.usedChannels req attempts st).length ≤ satisfying.card + 1 := by
  cases attempts with
  | nil => exact Nat.zero_le _
  | cons a rest =>
  rcases settings.usedChannels_cons req a rest st with
    hnil | ⟨channel, st₁, later, hget, hcons, hlater⟩
  · rw [hnil]; exact Nat.zero_le _
  rw [hcons, length_cons]
  refine Nat.succ_le_succ ?_
  obtain rfl | ⟨rfl, hgoes⟩ := hlater
  · exact Nat.zero_le _
  -- only the first channel may be one that does not serve
  · refine (usedChannels_untried hgoes.started ?_).trans (Finset.card_le_card Finset.sdiff_subset)
    intro a ha group hgroup channel hserves
    rw [hgoes.info, (getChannel_ok hget).1, ChannelCache.Serves,
      hfixed a (mem_cons_of_mem _ ha)] at hserves
    exact (hsat channel).mpr ⟨group, hgroup, hserves⟩

/-- `sampleTieredRequest` before its first attempt. -/
def sampleStart : RelayState where
  select := ⟨⟨some "default", some 0⟩, { triedChannels := [1] }⟩
  retryContext := { channelId := 1 }
  info := { originModelName := "gpt-5", usingGroup := "default" }
  bill := { modelName := "gpt-5", price := {} }
  group := "default"

theorem attempts_bounded_sample :
    ((sampleTiers 1 2).usedChannels sampleTieredRequest sampleFailover sampleStart).length ≤ 3 := by
  refine attempts_bounded sampleCache {1, 2} (by simp [sampleFailover]) fun channel => ?_
  simp [SelectSettings.groupsOf, sampleTieredRequest, sampleTiers, ChannelCache.Serves, sampleCache]

/-- **No channel is tried twice**, when the first one was seeded. A retry takes
none that was tried before it. -/
theorem channels_tried_once (hseed : st.started = false →
      st.retryContext.channelId ∈ st.select.param.triedChannels) :
    ((settings.usedChannels req attempts st).map (·.2)).Nodup ∧ (st.started →
      ∀ used ∈ settings.usedChannels req attempts st, used.2 ∉ st.select.param.triedChannels) := by
  induction attempts generalizing st with
  | nil => simp [usedChannels, rounds]
  | cons a rest ih =>
  rcases settings.usedChannels_cons req a rest st with
    hnil | ⟨channel, st₁, later, hget, hcons, hlater⟩
  · simp [hnil]
  -- the channel has come to the tried ones, or was seeded
  have htried : channel ∈ st₁.select.param.triedChannels ∧ (st.started →
      st₁.select.param.triedChannels = channel :: st.select.param.triedChannels ∧
      channel ∉ st.select.param.triedChannels) := by
    obtain ⟨-, ⟨hfirst, rfl⟩ | ⟨-, hcall⟩⟩ := getChannel_ok hget
    · simp only [getChannel, hfirst, Bool.not_false, if_true, Prod.mk.injEq, Except.ok.injEq,
        and_true] at hget
      exact ⟨hget ▸ hseed hfirst, by simp [hfirst]⟩
    · obtain ⟨-, -, htake⟩ := SelectSettings.cacheGetRandomSatisfiedChannel_ok hcall
      exact ⟨by simp [htake.tried], fun _ => ⟨htake.tried, htake.untried⟩⟩
  have hlater : (later.map (·.2)).Nodup ∧
      ∀ used ∈ later, used.2 ∉ st₁.select.param.triedChannels := by
    obtain rfl | ⟨rfl, hgoes⟩ := hlater
    · simp
    · rw [← hgoes.tried]
      exact (ih (by simp [hgoes.started])).imp_right fun hnew => hnew hgoes.started
  obtain ⟨hnodup, hnew⟩ := hlater
  rw [hcons, map_cons]
  refine ⟨nodup_cons.mpr ⟨fun hmem => ?_, hnodup⟩, fun hstarted => ?_⟩
  · obtain ⟨used, hused, rfl⟩ := mem_map.mp hmem
    exact hnew used hused htried.1
  · obtain ⟨hsame, huntried⟩ := htried.2 hstarted
    rw [hsame] at hnew
    exact forall_mem_cons.mpr
      ⟨huntried, fun used hused => not_mem_of_not_mem_cons (hnew used hused)⟩

/-- The run of `sampleTieredRequest` tries both channels. -/
theorem channels_tried_once_sample :
    let used := (sampleTiers 1 2).usedChannels sampleTieredRequest sampleFailover sampleStart
    used = [("default", 1), ("vip", 2)] ∧ (used.map (·.2)).Nodup :=
  ⟨by decide +kernel, (channels_tried_once fun _ => mem_cons_self).1⟩

end RelaySettings

end HermesToken.Relay
