import HermesToken.Lib.Interleaving
import HermesToken.Payment.WithdrawalLedger

/-!
# Concurrent withdrawals

The operations of `HermesToken.Payment.Withdrawal` as programs of statements,
run by any number of users and administrators at once. Every check is a SELECT
without a lock: the open withdrawals are counted, the balance and the status
are read, and what follows is written whatever has happened in between.

Run alone, each program is the operation of the ledger (`program_run`). So
where every COMMIT still finds what its checks have read, the ledger is kept.
-/

namespace HermesToken.Payment

open Lib Lib.Interleaving WithdrawalDB Tx List Prod Sys Except WithdrawalOp

variable {adminID : Int} {candidates : List String} {db' db : WithdrawalDB} {w : UserWithdrawal}
  {op : WithdrawalOp}

/-! ## The statements -/

/-- What a statement locks. -/
inductive WithdrawalRow where
  | user (id : Int)
  | withdrawal (id : Int)
  | tradeNo (tradeNo : String)
  | code (id : Int)
  | codes
  deriving DecidableEq

/-- What a committed transaction did: a code was redeemed, or a withdrawal left
the frozen quota. -/
inductive WithdrawalEffect where
  | credit (credit : Credit)
  | refunded (id quota : Int)
  | paid (id quota : Int)
  deriving DecidableEq

abbrev WithdrawalTx := Tx WithdrawalDB WithdrawalRow String

/-- One COUNT for each number that is tried. -/
def generateUserWithdrawalTradeNoTx : List String → WithdrawalTx String
  | [] => .fail "failed to generate withdrawal trade no"
  | tradeNo :: rest => do
    let unused ← Tx.select fun db => db.withdrawals.all (·.tradeNo ≠ tradeNo)
    if unused then return tradeNo else generateUserWithdrawalTradeNoTx rest

def createUserWithdrawalTx (config : WithdrawalConfig) (params : CreateUserWithdrawalParams)
    (candidates : List String) (now : Int) : WithdrawalTx (List WithdrawalEffect) := do
  let a ← withdrawalAmounts config params.amount
  let row ← Tx.select (·.users.get params.userID)
  let user ← found row "record not found"
  let openCount ← Tx.select (·.countOpenUserWithdrawalsTx params.userID)
  require (¬ openCount > 0) "existing withdrawal is still pending"
  let answer ← Tx.select fun db =>
    (getUserWithdrawalQuotaBreakdownTx db user.id user.quota).map (·.rechargeQuota)
  let rechargeQuota ← answer
  require (a.applyQuota ≤ rechargeQuota) "insufficient withdrawable balance"
  let tradeNo ← generateUserWithdrawalTradeNoTx (candidates.take 5)
  Tx.attempt (.tradeNo tradeNo)
    (·.insertWithdrawal (newWithdrawal config params a user rechargeQuota tradeNo) now)
  Tx.update (.user params.userID)
    (·.moveQuota params.userID (-a.applyQuota) a.applyQuota)
  return []

def approveUserWithdrawalTx (id adminID : Int) (note : String) (now : Int) :
    WithdrawalTx (List WithdrawalEffect) := do
  let row ← Tx.select (·.getWithdrawal id)
  let withdrawal ← found row "record not found"
  require (withdrawal.status = .pending) "withdrawal is not pending"
  Tx.attempt (.withdrawal id) (·.saveWithdrawal { withdrawal with
    status := .approved
    reviewAdminId := adminID
    reviewNote := trimSpace note
    reviewedAt := now } now)
  return []

def rejectUserWithdrawalTx (id adminID : Int) (note : String) (now : Int) :
    WithdrawalTx (List WithdrawalEffect) := do
  require (trimSpace note ≠ "") "rejection note is required"
  let row ← Tx.select (·.getWithdrawal id)
  let withdrawal ← found row "record not found"
  require (withdrawal.status = .pending ∨ withdrawal.status = .approved)
    "withdrawal cannot be rejected"
  -- the user is only looked up: its quota is not part of the answer
  let owner ← Tx.select fun db => (db.users.get withdrawal.userId).map (·.id)
  let userID ← found owner "record not found"
  Tx.update (.user userID) (·.moveQuota userID withdrawal.applyQuota (-withdrawal.applyQuota))
  Tx.attempt (.withdrawal id) (·.saveWithdrawal { withdrawal with
    status := .rejected
    rejectedAdminId := adminID
    rejectionNote := trimSpace note
    reviewedAt := if withdrawal.reviewedAt = 0 then now else withdrawal.reviewedAt } now)
  return [.refunded withdrawal.id withdrawal.applyQuota]

def markUserWithdrawalPaidTx (id adminID : Int) (params : MarkUserWithdrawalPaidParams)
    (now : Int) : WithdrawalTx (List WithdrawalEffect) := do
  let row ← Tx.select (·.getWithdrawal id)
  let withdrawal ← found row "record not found"
  require (withdrawal.status = .approved) "withdrawal is not approved"
  let owner ← Tx.select fun db => (db.users.get withdrawal.userId).map (·.id)
  let userID ← found owner "record not found"
  Tx.update (.user userID) (·.moveQuota userID 0 (-withdrawal.applyQuota))
  Tx.attempt (.withdrawal id) (·.saveWithdrawal { withdrawal with
    status := .paid
    paidAdminId := adminID
    payReceiptNo := trimSpace params.payReceiptNo
    payReceiptUrl := trimSpace params.payReceiptURL
    paidNote := trimSpace params.paidNote
    paidAt := now } now)
  return [.paid withdrawal.id withdrawal.applyQuota]

def redeemTx (key : String) (userId now : Int) : WithdrawalTx (List WithdrawalEffect) := do
  require (key ≠ "") "未提供兑换码"
  require (userId ≠ 0) "无效的 user id"
  let answer ← Tx.select fun db =>
    db.redemptions.find? fun r => r.redemption.key = key && !r.deleted
  let row ← found answer "无效的兑换码"
  let redeemed ← redeem now key userId row.redemption
  Tx.update (.user userId) (·.moveQuota userId redeemed.2.quota 0)
  Tx.update (.code row.redemption.id) (·.saveRedemption ⟨redeemed.1, row.deleted⟩)
  return [.credit redeemed.2]

def WithdrawalOp.program : WithdrawalOp → WithdrawalTx (List WithdrawalEffect)
  | .create config params candidates now => createUserWithdrawalTx config params candidates now
  | .approve id adminID note now => approveUserWithdrawalTx id adminID note now
  | .reject id adminID note now => rejectUserWithdrawalTx id adminID note now
  | .markPaid id adminID params now => markUserWithdrawalPaidTx id adminID params now
  | .redeem key userId now => redeemTx key userId now
  | .addCode redemption => do
    Tx.attempt .codes (·.insertRedemption redemption)
    return []
  | .deleteCodes selects => do
    Tx.update .codes (·.deleteRedemptions selects)
    return []
  | .changeQuota userID delta => do
    Tx.update (.user userID) (·.moveQuota userID delta 0)
    return []

/-! ## Alone, a program is the operation -/

section

variable {now : Int}

theorem generateUserWithdrawalTradeNoTx_run
    (h : (generateUserWithdrawalTradeNoTx candidates).run db = .ok (tradeNo, db')) :
    db' = db ∧ candidates.find? (fun no => db.withdrawals.all (·.tradeNo ≠ no)) =
      some tradeNo := by
  induction candidates with
  | nil => cases h
  | cons no _ ih =>
  rw [generateUserWithdrawalTradeNoTx, run_select_bind] at h
  by_cases hfresh : db.withdrawals.all (·.tradeNo ≠ no)
  · rw [if_pos hfresh] at h
    cases h
    exact ⟨rfl, find?_cons_of_pos hfresh⟩
  rw [if_neg hfresh] at h
  obtain ⟨hdb, hfind⟩ := ih h
  refine ⟨hdb, ?_⟩
  rw [find?_cons, eq_false_of_ne_true hfresh]
  exact hfind

theorem createUserWithdrawalTx_run
    (h : (createUserWithdrawalTx config params candidates now).run db = .ok (effects, db')) :
    effects = [] ∧ db.createUserWithdrawal config params candidates now = .ok db' := by
  obtain ⟨a, hamt, h⟩ := run_lift_bind_ok.mp h
  obtain ⟨user, huser, h⟩ := run_lift_bind_ok.mp h
  obtain ⟨⟨⟩, hnone, h⟩ := run_lift_bind_ok.mp h
  obtain ⟨rechargeQuota, hquota, h⟩ := run_lift_bind_ok.mp h
  obtain ⟨⟨⟩, hbal, h⟩ := run_lift_bind_ok.mp h
  obtain ⟨tradeNo, db₁, hpick, h⟩ := run_bind_ok.mp h
  obtain ⟨hsame, hfind⟩ := generateUserWithdrawalTradeNoTx_run hpick
  obtain ⟨db₂, hins, h⟩ := run_attempt_bind_ok.mp h
  obtain ⟨hnil, hdb⟩ := mk.inj (ok.inj h)
  obtain ⟨breakdown, hparts, hquo⟩ := map_ok.mp hquota
  subst hquo
  rw [hsame] at hins
  refine ⟨hnil.symm, ?_⟩
  refine seq_ok.mpr ⟨a, hamt, found_seq_ok.mpr ⟨user, found_ok.mp huser, ?_⟩⟩
  refine require_seq_ok.mpr ⟨require_ok.mp hnone, seq_ok.mpr ⟨breakdown, hparts,
    require_seq_ok.mpr ⟨require_ok.mp hbal, ?_⟩⟩⟩
  refine found_seq_ok.mpr ⟨tradeNo, hfind, seq_ok.mpr ⟨db₂, hins, ?_⟩⟩
  exact congrArg ok hdb

theorem approveUserWithdrawalTx_run {id note}
    (h : (approveUserWithdrawalTx id adminID note now).run db = .ok (effects, db')) :
    effects = [] ∧ db.approveUserWithdrawal id adminID note now = .ok db' := by
  unfold approveUserWithdrawalTx at h
  obtain ⟨withdrawal, hget, h⟩ := run_lift_bind_ok.mp h
  obtain ⟨⟨⟩, hpend, h⟩ := run_lift_bind_ok.mp h
  obtain ⟨db₁, hsave, h⟩ := run_attempt_bind_ok.mp h
  obtain ⟨hnil, hdb⟩ := mk.inj (ok.inj h)
  refine ⟨hnil.symm, ?_⟩
  refine found_seq_ok.mpr ⟨withdrawal, found_ok.mp hget, ?_⟩
  rw [← hdb]
  exact require_seq_ok.mpr ⟨require_ok.mp hpend, hsave⟩

theorem rejectUserWithdrawalTx_run {id note}
    (h : (rejectUserWithdrawalTx id adminID note now).run db = .ok (effects, db')) :
    ∃ w, db.getWithdrawal id = some w ∧ effects = [.refunded w.id w.applyQuota] ∧
      db.rejectUserWithdrawal id adminID note now = .ok db' := by
  obtain ⟨⟨⟩, hnote, h⟩ := run_lift_bind_ok.mp h
  obtain ⟨withdrawal, hget, h⟩ := run_lift_bind_ok.mp h
  obtain ⟨⟨⟩, hopen, h⟩ := run_lift_bind_ok.mp h
  obtain ⟨userID, howner, h⟩ := run_lift_bind_ok.mp h
  rw [run_update_bind] at h
  obtain ⟨db₁, hsave, h⟩ := run_attempt_bind_ok.mp h
  obtain ⟨heff, hdb⟩ := mk.inj (ok.inj h)
  obtain ⟨user, huser, hid⟩ := Option.map_eq_some_iff.mp (found_ok.mp howner)
  subst hid
  refine ⟨withdrawal, found_ok.mp hget, heff.symm, ?_⟩
  refine require_seq_ok.mpr ⟨require_ok.mp hnote,
    found_seq_ok.mpr ⟨withdrawal, found_ok.mp hget, ?_⟩⟩
  refine require_seq_ok.mpr ⟨require_ok.mp hopen, found_seq_ok.mpr ⟨user, huser, ?_⟩⟩
  rw [← hdb]
  exact hsave

theorem markUserWithdrawalPaidTx_run {id params}
    (h : (markUserWithdrawalPaidTx id adminID params now).run db = .ok (effects, db')) :
    ∃ w, db.getWithdrawal id = some w ∧ effects = [.paid w.id w.applyQuota] ∧
      db.markUserWithdrawalPaid id adminID params now = .ok db' := by
  unfold markUserWithdrawalPaidTx at h
  obtain ⟨withdrawal, hget, h⟩ := run_lift_bind_ok.mp h
  obtain ⟨⟨⟩, hgrant, h⟩ := run_lift_bind_ok.mp h
  obtain ⟨userID, howner, h⟩ := run_lift_bind_ok.mp h
  rw [run_update_bind] at h
  obtain ⟨db₁, hsave, h⟩ := run_attempt_bind_ok.mp h
  obtain ⟨heff, hdb⟩ := mk.inj (ok.inj h)
  obtain ⟨user, huser, hid⟩ := Option.map_eq_some_iff.mp (found_ok.mp howner)
  subst hid
  refine ⟨withdrawal, found_ok.mp hget, heff.symm, ?_⟩
  refine found_seq_ok.mpr ⟨withdrawal, found_ok.mp hget, ?_⟩
  refine require_seq_ok.mpr ⟨require_ok.mp hgrant, found_seq_ok.mpr ⟨user, huser, ?_⟩⟩
  rw [← hdb]
  exact hsave

theorem redeemTx_run (h : (redeemTx key userId now).run db = .ok (effects, db')) :
    ∃ credit, effects = [.credit credit] ∧ db.redeemCode key userId now = .ok (db', credit) := by
  obtain ⟨⟨⟩, hkey, h⟩ := run_lift_bind_ok.mp h
  obtain ⟨⟨⟩, huser, h⟩ := run_lift_bind_ok.mp h
  obtain ⟨row, hrow, h⟩ := run_lift_bind_ok.mp h
  obtain ⟨redeemed, hred, h⟩ := run_lift_bind_ok.mp h
  obtain ⟨heff, hdb⟩ := mk.inj (ok.inj h)
  refine ⟨redeemed.2, heff.symm, ?_⟩
  refine require_seq_ok.mpr ⟨require_ok.mp hkey, require_seq_ok.mpr ⟨require_ok.mp huser, ?_⟩⟩
  refine found_seq_ok.mpr ⟨row, found_ok.mp hrow, seq_ok.mpr ⟨redeemed, hred, ?_⟩⟩
  rw [← hdb]
  rfl

end

def creditsOf (log : List WithdrawalEffect) : List Credit :=
  log.filterMap fun
    | .credit credit => some credit
    | .refunded _ _ | .paid _ _ => none

/-- **Alone, a program is the operation** of the ledger. -/
theorem program_run {effects} (h : op.program.run db = .ok (effects, db'))
    (redeemed : List Credit) : (Wallets.mk db redeemed).tx op = .ok (db', creditsOf effects) := by
  cases op with
  | create =>
    obtain ⟨rfl, hcre⟩ := createUserWithdrawalTx_run h
    exact map_ok.mpr ⟨db', hcre, rfl⟩
  | approve =>
    obtain ⟨rfl, hgrant⟩ := approveUserWithdrawalTx_run h
    exact map_ok.mpr ⟨db', hgrant, rfl⟩
  | reject =>
    obtain ⟨w, _, rfl, hrej⟩ := rejectUserWithdrawalTx_run h
    exact map_ok.mpr ⟨db', hrej, rfl⟩
  | markPaid =>
    obtain ⟨w, _, rfl, hpaid⟩ := markUserWithdrawalPaidTx_run h
    exact map_ok.mpr ⟨db', hpaid, rfl⟩
  | redeem =>
    obtain ⟨credit, rfl, hred⟩ := redeemTx_run h
    exact map_ok.mpr ⟨(db', credit), hred, rfl⟩
  | addCode =>
    obtain ⟨db₁, hins, h⟩ := run_attempt_bind_ok.mp h
    obtain ⟨rfl, rfl⟩ := mk.inj (ok.inj h)
    exact map_ok.mpr ⟨db₁, hins, rfl⟩
  | deleteCodes selects | changeQuota userID delta =>
    obtain ⟨rfl, rfl⟩ := mk.inj (ok.inj h)
    rfl

/-! ## What has left the frozen quota -/

/-- The effect takes this withdrawal out of the frozen quota. -/
def WithdrawalEffect.takes (id : Int) : WithdrawalEffect → Bool
  | .credit _ => false
  | .refunded id' _ | .paid id' _ => id' = id

/-- How often, and how, a withdrawal has left the frozen quota. -/
def departures (log : List WithdrawalEffect) (id : Int) : List WithdrawalEffect :=
  log.filter (·.takes id)

/-- How a withdrawal with this status should have left it: not while it is
open, and else once. -/
def UserWithdrawal.departed (w : UserWithdrawal) : List WithdrawalEffect :=
  match w.status with
  | .pending | .approved => []
  | .rejected => [.refunded w.id w.applyQuota]
  | .paid => [.paid w.id w.applyQuota]

/-- Every withdrawal has left as its status says, and no other has. -/
structure Departed (db : WithdrawalDB) (log : List WithdrawalEffect) : Prop where
  rows : ∀ w ∈ db.withdrawals, departures log w.id = w.departed
  absent : ∀ id, (∀ w ∈ db.withdrawals, w.id ≠ id) → departures log id = []

section

variable {db db' : WithdrawalDB} {log effects : List WithdrawalEffect}

theorem departures_append (log effects : List WithdrawalEffect) (id : Int) :
    departures (log ++ effects) id = departures log id ++ departures effects id :=
  filter_append ..

theorem departures_departed (w : UserWithdrawal) (id : Int) :
    departures w.departed id = if w.id = id then w.departed else [] := by
  unfold UserWithdrawal.departed departures
  by_cases hid : w.id = id
  · cases w.status <;> simp [WithdrawalEffect.takes, hid]
  · cases w.status <;> simp [WithdrawalEffect.takes, hid]

theorem Departed.turned (h : Departed db log)
    (hturn : WithdrawalDB.Turned db db' w w') (heff : effects = w'.departed) :
    Departed db' (log ++ effects) := by
  have hopen : w.departed = [] := by
    unfold UserWithdrawal.departed
    rcases hturn.moves.from_open with hw | hw <;> rw [hw]
  subst heff
  constructor
  · intro r hr
    rw [hturn.rows] at hr
    rw [departures_append, departures_departed]
    rcases mem_saveRow.mp hr with ⟨hold, hne⟩ | ⟨rfl, -⟩
    · rw [if_neg (Ne.symm hne), append_nil]
      exact h.rows r hold
    · rw [if_pos rfl, hturn.id, h.rows w hturn.mem, hopen]
      rfl
  intro id habs
  have hw' : w' ∈ db'.withdrawals := by
    rw [hturn.rows]
    exact mem_saveRow.mpr (.inr ⟨rfl, w, hturn.mem, hturn.id.symm⟩)
  rw [departures_append, departures_departed, if_neg (habs w' hw'), append_nil]
  refine h.absent id fun r hr hid => ?_
  by_cases hsame : r.id = w'.id
  · exact habs w' hw' (hsame ▸ hid)
  refine habs r ?_ hid
  rw [hturn.rows]
  exact mem_saveRow.mpr (.inl ⟨hr, hsame⟩)

theorem Departed.created (h : Departed db log) (hfrs : ∀ r ∈ db.withdrawals, r.id ≠ w.id)
    (hstat : w.status = .pending) (hrows : db'.withdrawals = db.withdrawals ++ [w]) :
    Departed db' (log ++ []) := by
  rw [append_nil]
  constructor
  · intro r hr
    rw [hrows] at hr
    rcases mem_append.mp hr with hold | hnew
    · exact h.rows r hold
    rw [mem_singleton.mp hnew, h.absent w.id hfrs]
    unfold UserWithdrawal.departed
    rw [hstat]
  · intro id habs
    refine h.absent id fun r hr => habs r ?_
    rw [hrows]
    exact mem_append_left _ hr

theorem Departed.other (h : Departed db log) (hrows : db'.withdrawals = db.withdrawals)
    (hnone : ∀ id, departures effects id = []) : Departed db' (log ++ effects) := by
  constructor
  · intro r hr
    rw [departures_append, hnone, append_nil]
    rw [hrows] at hr
    exact h.rows r hr
  · intro id habs
    rw [departures_append, hnone, append_nil]
    rw [hrows] at habs
    exact h.absent id habs

end

/-! ## Interleavings -/

/-- The ledger, and what has left the frozen quota. -/
structure SpentOnce (db : WithdrawalDB) (log : List WithdrawalEffect) : Prop where
  kept : Wallets.Kept ⟨db, creditsOf log⟩
  departed : Departed db log

theorem SpentOnce.run {log effects}
    (hrun : op.program.run db = .ok (effects, db')) (h : SpentOnce db log) :
    SpentOnce db' (log ++ effects) := by
  have hnext := h.kept.tx (program_run hrun (creditsOf log))
  have hcred : creditsOf (log ++ effects) = creditsOf log ++ creditsOf effects :=
    filterMap_append ..
  refine ⟨by rw [hcred]; exact hnext.kept, ?_⟩
  cases op with
  | create =>
    obtain ⟨rfl, hcre⟩ := createUserWithdrawalTx_run hrun
    obtain ⟨user, row, _, _, _, hid, _, hstat, rfl⟩ :=
      createUserWithdrawal_ok hcre
    refine h.departed.created (w := row) ?_ hstat (moveQuota_tables _ _ _ _).1
    intro r hr
    rw [hid]
    exact (h.kept.ids r hr).ne
  | approve =>
    obtain ⟨rfl, hgrant⟩ := approveUserWithdrawalTx_run hrun
    obtain ⟨w, w', _, hstat, hturn⟩ := approveUserWithdrawal_ok hgrant
    refine h.departed.turned hturn ?_
    simp [UserWithdrawal.departed, hstat]
  | reject =>
    obtain ⟨w₀, hget₀, rfl, hrej⟩ := rejectUserWithdrawalTx_run hrun
    obtain ⟨w, w', hget, hstat, hturn⟩ := rejectUserWithdrawal_ok hrej
    obtain rfl : w₀ = w := Option.some.inj (hget₀.symm.trans hget)
    refine h.departed.turned hturn ?_
    simp [UserWithdrawal.departed, hstat, hturn.id, hturn.applyQuota]
  | markPaid =>
    obtain ⟨w₀, hget₀, rfl, hpaid⟩ := markUserWithdrawalPaidTx_run hrun
    obtain ⟨w, w', hget, hstat, hturn⟩ := markUserWithdrawalPaid_ok hpaid
    obtain rfl : w₀ = w := Option.some.inj (hget₀.symm.trans hget)
    refine h.departed.turned hturn ?_
    simp [UserWithdrawal.departed, hstat, hturn.id, hturn.applyQuota]
  | redeem =>
    obtain ⟨credit, rfl, hred⟩ := redeemTx_run hrun
    exact h.departed.other (redeemCode_ok hred h.kept.codes).1 fun _ => rfl
  | addCode =>
    obtain ⟨db₁, hins, hdone⟩ := run_attempt_bind_ok.mp hrun
    obtain ⟨rfl, rfl⟩ := mk.inj (ok.inj hdone)
    exact h.departed.other (insertRedemption_ok hins).1 fun _ => rfl
  | deleteCodes =>
    obtain ⟨rfl, rfl⟩ := mk.inj (ok.inj hrun)
    exact h.departed.other rfl fun _ => rfl
  | changeQuota =>
    obtain ⟨rfl, rfl⟩ := mk.inj (ok.inj hrun)
    exact h.departed.other (moveQuota_tables _ _ _ _).1 fun _ => rfl

theorem WithdrawalDB.redeemedQuota_nonneg :
    0 ≤ db.redeemedQuota userID := by
  refine sum_nonneg fun quota hquo => ?_
  obtain ⟨r, hr, rfl⟩ := mem_map.mp hquo
  have hpos := (mem_filter.mp hr).2
  simp only [Bool.and_eq_true, decide_eq_true_eq] at hpos
  omega

/-- **No quota is spent twice.** In every interleaving in which each COMMIT
finds what its transaction has read: a user has at most one open withdrawal,
the frozen quota is what it applied for, a withdrawal leaves the frozen quota
when it is closed, once and only one way, and a Create leaves no negative
quota. -/
theorem withdrawals_spent_once (db : WithdrawalDB) (hstart : Wallets.Start ⟨db, []⟩)
    (acts : List (Act WithdrawalOp))
    (hfresh : Along (Sys.step WithdrawalOp.program) Sys.Fresh (Sys.start db) acts) :
    let s := exec (step program) (start db) acts
    (∀ userID, s.db.countOpenUserWithdrawalsTx userID ≤ 1) ∧
    (∀ userID user, s.db.users.get userID = some user →
      user.withdrawFrozenQuota = s.db.frozenTotal userID) ∧
    (∀ w ∈ s.db.withdrawals, departures s.log w.id = w.departed) ∧
    (∀ p config params candidates now past effects,
      s.procs p = .running (.create config params candidates now) past (.done effects) →
      s.Fresh (.step p) → ∀ user,
        (s.step program (.step p)).db.users.get params.userID = some user →
        0 ≤ user.quota) := by
  have hspent : SpentOnce db [] := by
    refine ⟨hstart.kept, ⟨?_, fun _ _ => rfl⟩⟩
    intro w hw
    have hnil : db.withdrawals = [] := hstart.withdrawals
    rw [hnil] at hw
    cases hw
  obtain ⟨htracks, hspent⟩ := serial_rule SpentOnce
    (fun _ _ _ _ _ hrun h => h.run hrun) hspent hfresh
  refine ⟨?_, ?_, hspent.departed.rows, ?_⟩
  · intro userID
    have hsingle := hspent.kept.sound.single userID
    have hcount := WithdrawalDB.countOpen_eq (exec (step program) (start db) acts).db userID
    have hle := hcount.trans_le hsingle
    omega
  · intro userID user huser
    rw [WithdrawalDB.frozenTotal_eq]
    exact hspent.kept.sound.frozen userID user.account (congrArg (Option.map User.account) huser)
  intro p config params candidates now past effects hproc hcommit user huser
  have hrun := htracks.commit hproc hcommit
  have hdb : (step program
      (exec (step program) (start db) acts) (.step p)).db =
      past.writes (exec (step program) (start db) acts).db := by
    simp only [step, hproc]
    rfl
  rw [hdb] at huser
  have hleft := WithdrawalDB.createUserWithdrawal_quota (createUserWithdrawalTx_run hrun).2 huser
  exact le_trans WithdrawalDB.redeemedQuota_nonneg hleft

/-! ### Two transactions at once -/

/-- The next statements of a transaction. -/
def steps (p count : Nat) : List (Act WithdrawalOp) := List.replicate count (.step p)

/-- The application of `sampleApplication` alone: it reads four times, writes
twice and commits. -/
theorem withdrawals_spent_once_sample :
    let s := exec (step program) (start sampleWallets.db)
      (.start 0 (sampleApplication 10 "t1") :: steps 0 7 ++
        .start 1 (.reject 1 2 "no" 20) :: steps 1 5)
    (∀ userID, s.db.countOpenUserWithdrawalsTx userID ≤ 1) ∧
      (∀ w ∈ s.db.withdrawals, departures s.log w.id = w.departed) ∧
      s.db.withdrawals.map (fun w => (w.id, w.status)) = [(1, .rejected)] := by
  have h := withdrawals_spent_once sampleWallets.db sampleWallets_start
    (.start 0 (sampleApplication 10 "t1") :: steps 0 7 ++
      .start 1 (.reject 1 2 "no" 20) :: steps 1 5) (by decide +kernel)
  exact ⟨h.1, h.2.2.1, by decide +kernel⟩

/-- The user applies twice at once: both transactions count no open
withdrawal and read a quota of 1000. Two administrators close one approved
withdrawal at once: it is refunded and paid. -/
theorem withdrawals_spent_twice :
    let run := exec (step program)
    let twice := run (start sampleWallets.db)
      ([.start 0 (sampleApplication 10 "t1"), .start 1 (sampleApplication 10 "t2")] ++
        steps 0 4 ++ steps 1 4 ++ steps 0 3 ++ steps 1 3)
    let closed := run (start sampleWallets.db)
      (.start 0 (sampleApplication 10 "t1") :: steps 0 7 ++
        .start 0 (.approve 1 2 "ok" 20) :: steps 0 3 ++
        [.start 1 (.reject 1 2 "no" 30), .start 2 (.markPaid 1 3 {} 30), .step 1, .step 2] ++
        steps 1 4 ++ steps 2 4)
    twice.db.countOpenUserWithdrawalsTx 7 = 2 ∧
      (twice.db.users.get 7).map (fun user => (user.quota, user.withdrawFrozenQuota)) =
        some (-1000, 2000) ∧
      departures closed.log 1 = [.refunded 1 1000, .paid 1 1000] ∧
      (closed.db.users.get 7).map (fun user => (user.quota, user.withdrawFrozenQuota)) =
        some (1000, -1000) := by
  decide +kernel

end HermesToken.Payment
