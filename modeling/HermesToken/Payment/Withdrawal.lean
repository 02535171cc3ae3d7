import HermesToken.Lib.Holds
import HermesToken.Lib.Int64
import HermesToken.Lib.Table
import HermesToken.Payment.CryptoOrder

/-!
# Withdrawals

`model/user_withdrawal.go`: a user applies for a withdrawal, an administrator
approves or rejects it, and an approved one is marked as paid. The quota that
was applied for is frozen until then. What a user got from redemption codes
cannot be withdrawn.
-/

namespace HermesToken.Payment

open Lib

inductive UserWithdrawalStatus where
  | pending | approved | paid | rejected
  deriving DecidableEq

structure UserWithdrawal where
  id : Int := 0
  userId : Int
  (tradeNo channel currency : String)
  exchangeRateSnapshot : ℚ
  (availableQuotaSnapshot frozenQuotaSnapshot : Int)
  (applyAmount feeAmount netAmount : ℚ)
  (applyQuota feeQuota netQuota : Int)
  (alipayAccount alipayRealName usdtNetwork usdtAddress : String)
  status : UserWithdrawalStatus := .pending
  (reviewAdminId rejectedAdminId paidAdminId : Int := 0)
  (reviewNote rejectionNote payReceiptNo payReceiptUrl paidNote : String := "")
  (reviewedAt paidAt createdAt updatedAt : Int := 0)
  deriving DecidableEq

/-- The columns of a user that withdrawals read and write. -/
structure User where
  (id quota : Int)
  withdrawFrozenQuota : Int := 0
  deriving DecidableEq

/-- A code that was deleted stays in the table. -/
structure RedemptionRow where
  redemption : Redemption
  deleted : Bool := false
  deriving DecidableEq

structure WithdrawalDB where
  users : Table Int User (·.id)
  withdrawals : List UserWithdrawal := []
  nextWithdrawalID : Int := 1
  redemptions : List RedemptionRow := []

/-! ## Validation -/

def UserWithdrawal.normalize (w : UserWithdrawal) : UserWithdrawal := { w with
  tradeNo := trimSpace w.tradeNo
  channel := trimSpace w.channel
  currency := trimSpace w.currency
  alipayAccount := trimSpace w.alipayAccount
  alipayRealName := trimSpace w.alipayRealName
  usdtNetwork := normalizeCryptoNetwork w.usdtNetwork
  usdtAddress := trimSpace w.usdtAddress
  reviewNote := trimSpace w.reviewNote
  rejectionNote := trimSpace w.rejectionNote
  payReceiptNo := trimSpace w.payReceiptNo
  payReceiptUrl := trimSpace w.payReceiptUrl
  paidNote := trimSpace w.paidNote }

/-- The letters and digits of an address in base 58. -/
def isBase58 (c : Char) : Bool :=
  c.isAlphanum && c ≠ '0' && c ≠ 'O' && c ≠ 'I' && c ≠ 'l'

def isHexDigit (c : Char) : Bool :=
  c.isDigit || ('a' ≤ c && c ≤ 'f') || ('A' ≤ c && c ≤ 'F')

def isValidEVMAddress (address : String) : Bool :=
  match (trimSpace address).toList with
  | '0' :: 'x' :: digits => digits.length = 40 && digits.all isHexDigit
  | _ => false

def isValidTronAddress (address : String) : Bool :=
  match (trimSpace address).toList with
  | 'T' :: rest => rest.length = 33 && rest.all isBase58
  | _ => false

def isValidSolanaAddress (address : String) : Bool :=
  let letters := (trimSpace address).toList
  32 ≤ letters.length && letters.length ≤ 44 && letters.all isBase58

def isSupportedUSDTWithdrawalNetwork (network : String) : Bool :=
  normalizeCryptoNetwork network ∈ ["tron_trc20", "bsc_erc20", "polygon_pos", "solana"]

def isValidUSDTWithdrawalAddress (network address : String) : Bool :=
  match normalizeCryptoNetwork network with
  | "tron_trc20" => isValidTronAddress address
  | "bsc_erc20" | "polygon_pos" => isValidEVMAddress address
  | "solana" => isValidSolanaAddress address
  | _ => false

def validateChannel (w : UserWithdrawal) : Except String Unit :=
  if w.channel = "alipay" then do
    require (w.alipayAccount ≠ "") "alipay account is required"
    require (w.alipayRealName ≠ "") "alipay real name is required"
  else if w.channel = "usdt" then do
    require (w.usdtNetwork ≠ "") "usdt network is required"
    require (isSupportedUSDTWithdrawalNetwork w.usdtNetwork) "invalid usdt network"
    require (w.usdtAddress ≠ "") "usdt address is required"
    require (isValidUSDTWithdrawalAddress w.usdtNetwork w.usdtAddress) "invalid usdt address"
  else .error "invalid withdrawal channel"

/-- `Validate` normalizes the row that is then written. The status is always
one of the four. -/
def UserWithdrawal.validate (w : UserWithdrawal) : Except String UserWithdrawal := do
  let w := w.normalize
  require (0 < w.userId) "user id is required"
  require (w.tradeNo ≠ "") "trade no is required"
  require (w.channel ≠ "") "channel is required"
  validateChannel w
  require (w.currency ≠ "") "currency is required"
  require (0 ≤ w.applyAmount ∧ 0 ≤ w.feeAmount ∧ 0 ≤ w.netAmount) "invalid withdrawal amount"
  require (0 ≤ w.applyQuota ∧ 0 ≤ w.feeQuota ∧ 0 ≤ w.netQuota) "invalid withdrawal quota"
  return w

/-! ## Amounts and fees -/

inductive WithdrawalFeeType where
  | fixed | ratio
  | other (name : String)
  deriving DecidableEq

structure WithdrawalFeeRule where
  (minAmount maxAmount : ℚ)
  feeType : WithdrawalFeeType
  feeValue : ℚ
  (minFee maxFee : ℚ := 0)
  enabled : Bool := false
  sortOrder : Int := 0
  deriving DecidableEq

structure UserWithdrawalSetting where
  enabled : Bool
  minAmount : ℚ
  feeRules : List WithdrawalFeeRule

structure UserWithdrawalCurrencyConfig where
  currency : String
  usdToCurrencyRate : ℚ

def withdrawalAmountMatchesRule (amount : ℚ) (rule : WithdrawalFeeRule) : Bool :=
  amount > rule.minAmount && !(rule.maxAmount > 0 && amount > rule.maxAmount)

/-- `Div` of the decimal library keeps 16 places. -/
def divDecimal (x y : ℚ) : ℚ := roundTo (x / y) 16

/-- The fee of a ratio rule, between the smallest and the largest fee. -/
def ratioFee (amount : ℚ) (rule : WithdrawalFeeRule) : ℚ :=
  let fee := divDecimal (amount * rule.feeValue) 100
  let fee := if rule.minFee > 0 ∧ fee < rule.minFee then rule.minFee else fee
  if rule.maxFee > 0 ∧ fee > rule.maxFee then rule.maxFee else fee

/-- The first rule that matches, and its fee. -/
def calculateWithdrawalFeeAmount (amount : ℚ) :
    List WithdrawalFeeRule → Except String (Option (WithdrawalFeeRule × ℚ))
  | [] => .ok none
  | rule :: rules =>
    if withdrawalAmountMatchesRule amount rule then
      match rule.feeType with
      | .fixed => .ok (some (rule, roundTo rule.feeValue 2))
      | .ratio => .ok (some (rule, roundTo (ratioFee amount rule) 2))
      | .other _ => .error "invalid withdrawal fee type"
    else calculateWithdrawalFeeAmount amount rules

def currencyAmountToQuota (quotaPerUnit : ℚ) (amount : ℚ)
    (currency : UserWithdrawalCurrencyConfig) : Except String Int := do
  require (0 ≤ amount) "invalid amount"
  require (0 < quotaPerUnit) "invalid quota per unit"
  require (0 < currency.usdToCurrencyRate) "invalid withdrawal exchange rate"
  let usdAmount := divDecimal amount currency.usdToCurrencyRate
  return wrap64 (intPart (roundTo (usdAmount * quotaPerUnit) 0))

/-! ## What can be withdrawn -/

def UserWithdrawal.isOpen (w : UserWithdrawal) : Bool :=
  w.status = .pending || w.status = .approved

namespace WithdrawalDB

variable (db : WithdrawalDB)

def countOpenUserWithdrawalsTx (userID : Int) : Nat :=
  (db.withdrawals.filter fun w => w.userId = userID && w.isOpen).length

/-- The sum over the codes that the user has used, deleted ones included. -/
def redeemedQuota (userID : Int) : Int :=
  ((db.redemptions.filter fun r => r.redemption.usedUserId = userID
      && r.redemption.status = .used && r.redemption.quota > 0).map (·.redemption.quota)).sum

def getUserRedeemedQuotaTx (userID : Int) : Except String Int := do
  require (0 < userID) "user id is required"
  return db.redeemedQuota userID

end WithdrawalDB

structure UserWithdrawalQuotaBreakdown where
  (totalQuota rechargeQuota redemptionQuota : Int)

def getUserWithdrawalQuotaBreakdownTx (db : WithdrawalDB) (userID currentQuota : Int) :
    Except String UserWithdrawalQuotaBreakdown := do
  let redeemedQuota ← db.getUserRedeemedQuotaTx userID
  let totalQuota := if currentQuota < 0 then 0 else currentQuota
  let redemptionQuota := if redeemedQuota > totalQuota then totalQuota else redeemedQuota
  let redemptionQuota := if redemptionQuota < 0 then 0 else redemptionQuota
  return ⟨totalQuota, totalQuota - redemptionQuota, redemptionQuota⟩

/-! ## The operations -/

structure CreateUserWithdrawalParams where
  userID : Int
  channel : String := "alipay"
  amount : ℚ
  (alipayAccount alipayRealName usdtNetwork usdtAddress : String := "")

structure MarkUserWithdrawalPaidParams where
  (payReceiptNo payReceiptURL paidNote : String := "")

/-- What the operations read of the configuration. -/
structure WithdrawalConfig where
  setting : UserWithdrawalSetting
  currency : UserWithdrawalCurrencyConfig
  quotaPerUnit : ℚ

def normalizeWithdrawalChannel (channel : String) : String :=
  let normalized := toLower (trimSpace channel)
  if normalized = "" then "alipay" else normalized

/-- The first of five random numbers that is not taken. -/
def generateUserWithdrawalTradeNo (db : WithdrawalDB) (candidates : List String) :
    Except String String :=
  found ((candidates.take 5).find? fun tradeNo => db.withdrawals.all (·.tradeNo ≠ tradeNo))
    "failed to generate withdrawal trade no"

structure WithdrawalAmounts where
  (amount feeAmount netAmount : ℚ)
  (applyQuota feeQuota netQuota : Int)

/-- The part of `CreateUserWithdrawal` before its transaction. -/
def withdrawalAmounts (config : WithdrawalConfig) (amount : ℚ) :
    Except String WithdrawalAmounts := do
  require config.setting.enabled "withdrawal is disabled"
  let amount := roundTo amount 2
  require (0 < amount) "invalid withdrawal amount"
  require (config.setting.minAmount ≤ amount)
    ("withdrawal amount must be at least " ++ stringFixed config.setting.minAmount 2)
  let applyQuota ← currencyAmountToQuota config.quotaPerUnit amount config.currency
  require (0 < applyQuota) "invalid withdrawal quota"
  let rule ← calculateWithdrawalFeeAmount amount config.setting.feeRules
  let (_, feeAmount) ← found rule "withdrawal amount does not match any fee rule"
  let netAmount := roundTo (amount - feeAmount) 2
  require (0 < netAmount) "net withdrawal amount must be greater than zero"
  let feeQuota ← currencyAmountToQuota config.quotaPerUnit feeAmount config.currency
  let netQuota ← currencyAmountToQuota config.quotaPerUnit netAmount config.currency
  return ⟨amount, feeAmount, netAmount, applyQuota, feeQuota, netQuota⟩

def newWithdrawal (config : WithdrawalConfig) (params : CreateUserWithdrawalParams)
    (a : WithdrawalAmounts) (user : User) (rechargeQuota : Int) (tradeNo : String) :
    UserWithdrawal where
  userId := params.userID
  tradeNo := tradeNo
  channel := normalizeWithdrawalChannel params.channel
  currency := config.currency.currency
  exchangeRateSnapshot := config.currency.usdToCurrencyRate
  availableQuotaSnapshot := rechargeQuota
  frozenQuotaSnapshot := user.withdrawFrozenQuota + a.applyQuota
  applyAmount := a.amount
  feeAmount := a.feeAmount
  netAmount := a.netAmount
  applyQuota := a.applyQuota
  feeQuota := a.feeQuota
  netQuota := a.netQuota
  alipayAccount := trimSpace params.alipayAccount
  alipayRealName := trimSpace params.alipayRealName
  usdtNetwork := normalizeCryptoNetwork params.usdtNetwork
  usdtAddress := trimSpace params.usdtAddress

namespace WithdrawalDB

variable (db : WithdrawalDB)

/-- Move the quota and the frozen quota of a user. -/
def moveQuota (userID quota frozen : Int) : WithdrawalDB :=
  match db.users.get userID with
  | none => db
  | some user => { db with users := db.users.save { user with
      quota := user.quota + quota
      withdrawFrozenQuota := user.withdrawFrozenQuota + frozen } }

/-- An insert, with the columns that `BeforeCreate` sets. -/
def insertWithdrawal (w : UserWithdrawal) (now : Int) : Except String WithdrawalDB := do
  let w ← { w with id := db.nextWithdrawalID, createdAt := now, updatedAt := now }.validate
  require (db.withdrawals.all (·.tradeNo ≠ w.tradeNo)) "duplicated key not allowed"
  return { db with
    withdrawals := db.withdrawals ++ [w]
    nextWithdrawalID := db.nextWithdrawalID + 1 }

/-- A save, with the column that `BeforeUpdate` sets. -/
def saveWithdrawal (w : UserWithdrawal) (now : Int) : Except String WithdrawalDB := do
  let w ← { w with updatedAt := now }.validate
  return { db with withdrawals := saveRow (·.id) w db.withdrawals }

def getWithdrawal (id : Int) : Option UserWithdrawal :=
  db.withdrawals.find? (·.id = id)

def createUserWithdrawal (config : WithdrawalConfig) (params : CreateUserWithdrawalParams)
    (candidates : List String) (now : Int) : Except String WithdrawalDB := do
  let a ← withdrawalAmounts config params.amount
  let user ← found (db.users.get params.userID) "record not found"
  require (¬ db.countOpenUserWithdrawalsTx params.userID > 0)
    "existing withdrawal is still pending"
  let breakdown ← getUserWithdrawalQuotaBreakdownTx db user.id user.quota
  require (a.applyQuota ≤ breakdown.rechargeQuota) "insufficient withdrawable balance"
  let tradeNo ← generateUserWithdrawalTradeNo db candidates
  let db ← db.insertWithdrawal
    (newWithdrawal config params a user breakdown.rechargeQuota tradeNo) now
  return db.moveQuota params.userID (-a.applyQuota) a.applyQuota

def approveUserWithdrawal (id adminID : Int) (note : String) (now : Int) :
    Except String WithdrawalDB := do
  let withdrawal ← found (db.getWithdrawal id) "record not found"
  require (withdrawal.status = .pending) "withdrawal is not pending"
  db.saveWithdrawal { withdrawal with
    status := .approved
    reviewAdminId := adminID
    reviewNote := trimSpace note
    reviewedAt := now } now

def rejectUserWithdrawal (id adminID : Int) (note : String) (now : Int) :
    Except String WithdrawalDB := do
  require (trimSpace note ≠ "") "rejection note is required"
  let withdrawal ← found (db.getWithdrawal id) "record not found"
  require (withdrawal.status = .pending ∨ withdrawal.status = .approved)
    "withdrawal cannot be rejected"
  let user ← found (db.users.get withdrawal.userId) "record not found"
  let db := db.moveQuota user.id withdrawal.applyQuota (-withdrawal.applyQuota)
  db.saveWithdrawal { withdrawal with
    status := .rejected
    rejectedAdminId := adminID
    rejectionNote := trimSpace note
    reviewedAt := if withdrawal.reviewedAt = 0 then now else withdrawal.reviewedAt } now

def markUserWithdrawalPaid (id adminID : Int) (params : MarkUserWithdrawalPaidParams)
    (now : Int) : Except String WithdrawalDB := do
  let withdrawal ← found (db.getWithdrawal id) "record not found"
  require (withdrawal.status = .approved) "withdrawal is not approved"
  let user ← found (db.users.get withdrawal.userId) "record not found"
  let db := db.moveQuota user.id 0 (-withdrawal.applyQuota)
  db.saveWithdrawal { withdrawal with
    status := .paid
    paidAdminId := adminID
    payReceiptNo := trimSpace params.payReceiptNo
    payReceiptUrl := trimSpace params.payReceiptURL
    paidNote := trimSpace params.paidNote
    paidAt := now } now

/-! ## Redemption codes -/

def saveRedemption (row : RedemptionRow) : WithdrawalDB :=
  { db with redemptions := saveRow (·.redemption.id) row db.redemptions }

/-- `Redeem` on the table: the lookup does not see deleted codes. -/
def redeemCode (key : String) (userId now : Int) : Except String (WithdrawalDB × Credit) := do
  require (key ≠ "") "未提供兑换码"
  require (userId ≠ 0) "无效的 user id"
  let row ← found (db.redemptions.find? fun r => r.redemption.key = key && !r.deleted)
    "无效的兑换码"
  let (redemption, credit) ← redeem now key userId row.redemption
  return ((db.moveQuota userId credit.quota 0).saveRedemption ⟨redemption, row.deleted⟩, credit)

/-- A new code, under an id and a key of its own. -/
def insertRedemption (redemption : Redemption) : Except String WithdrawalDB := do
  require (db.redemptions.all fun r => r.redemption.id ≠ redemption.id
    && r.redemption.key ≠ redemption.key) "duplicated key not allowed"
  return { db with
    redemptions := db.redemptions ++ [⟨{ redemption with status := .enabled }, false⟩] }

/-- The codes that a delete selects are only marked. -/
def deleteRedemptions (selects : Redemption → Bool) : WithdrawalDB :=
  { db with redemptions :=
      db.redemptions.map fun r => ⟨r.redemption, selects r.redemption || r.deleted⟩ }

end WithdrawalDB

end HermesToken.Payment
