import HermesToken.Lib.Run
import HermesToken.Payment.Withdrawal

/-!
# The ledger of withdrawals

A withdrawal is a hold of `HermesToken.Lib.Holds`: it is held while it is
pending or approved, a rejection returns it and a payment takes it out. Every
operation is a move of a hold or leaves the holds alone. The codes that a user
redeems are logged, so that "ever redeemed" is a fact about the run and not
about the table that the code reads.
-/

namespace HermesToken.Payment

open Lib WithdrawalDB RedemptionRow List

variable {w w' : UserWithdrawal} {config : WithdrawalConfig} {params : CreateUserWithdrawalParams}
  {candidates : List String} {adminID now : Int} {redemption : Redemption} {credits : List Credit}

/-! ## Withdrawals as holds -/

def UserWithdrawalStatus.holdState : UserWithdrawalStatus → HoldState
  | .pending | .approved => .held
  | .paid => .paid
  | .rejected => .returned

def holdRule : HoldRule UserWithdrawal Int Int where
  id := (·.id)
  owner := (·.userId)
  amount := (·.applyQuota)
  state w := w.status.holdState

def User.account (user : User) : Account := ⟨user.quota, user.withdrawFrozenQuota⟩

namespace WithdrawalDB

def vault (db : WithdrawalDB) : Vault UserWithdrawal Int where
  rows := db.withdrawals
  account userID := (db.users.get userID).map User.account

/-- What the user has applied for and neither got back nor been paid. -/
def frozenTotal (db : WithdrawalDB) (userID : Int) : Int :=
  ((db.withdrawals.filter fun w => w.userId = userID && w.isOpen).map (·.applyQuota)).sum

def paidOut (db : WithdrawalDB) (userID : Int) : Int :=
  ((db.withdrawals.filter fun w => w.userId = userID && w.status = .paid).map (·.applyQuota)).sum

/-- Quota, frozen quota and what was paid out. -/
def worth (db : WithdrawalDB) (userID : Int) : Option Int :=
  (db.users.get userID).map fun user =>
    user.quota + user.withdrawFrozenQuota + db.paidOut userID

variable {db db' : WithdrawalDB} {userID : Int}

theorem isOpen_iff : w.isOpen = decide (holdRule.state w = .held) := by
  unfold UserWithdrawal.isOpen
  show _ = decide (w.status.holdState = .held)
  cases w.status <;> rfl

variable (db userID)

theorem frozenTotal_eq : db.frozenTotal userID = holdRule.total .held userID db.withdrawals := by
  unfold frozenTotal HoldRule.total
  rw [← keyedSum_ite]
  simp only [isOpen_iff, decide_eq_true_eq]
  rfl

theorem paidOut_eq : db.paidOut userID = holdRule.total .paid userID db.withdrawals := by
  have hpaid : ∀ w : UserWithdrawal,
      decide (w.status = .paid) = decide (holdRule.state w = .paid) := by
    intro w
    show _ = decide (w.status.holdState = .paid)
    cases w.status <;> rfl
  unfold paidOut HoldRule.total
  simp only [hpaid]
  rw [← keyedSum_ite]
  simp only [decide_eq_true_eq]
  rfl

theorem countOpen_eq :
    (db.countOpenUserWithdrawalsTx userID : Int) = holdRule.heldCount userID db.withdrawals := by
  have hcnt : holdRule.heldCount userID db.withdrawals = ((db.withdrawals.filter
      fun w => w.userId = userID && w.isOpen).map fun _ => (1 : Int)).sum := by
    rw [← keyedSum_ite]
    simp only [isOpen_iff, decide_eq_true_eq]
    rfl
  rw [hcnt]
  simp [countOpenUserWithdrawalsTx]

theorem worth_eq : db.worth userID = holdRule.worth db.vault userID := by
  unfold worth HoldRule.worth vault
  rw [paidOut_eq, Option.map_map]
  rfl

/-! ## What the operations do -/

theorem moveQuota_account (quota frozen : Int) :
    (db.moveQuota userID quota frozen).vault.account = db.vault.moved userID quota frozen := by
  funext k
  unfold moveQuota Vault.moved vault
  cases huser : db.users.get userID with
  | none =>
    -- there is no such account to be moved
    by_cases hk : userID = k
    · subst hk
      simp [huser]
    · simp [hk, Function.comp_def]
  | some user =>
    have hid : user.id = userID := db.users.key_get huser
    dsimp only
    rw [Table.get_save]
    by_cases hk : userID = k
    · subst hk
      simp [hid, huser, User.account]
    · simp [hid, hk, Function.comp_def]

theorem moveQuota_tables (quota frozen : Int) :
    (db.moveQuota userID quota frozen).withdrawals = db.withdrawals ∧
      (db.moveQuota userID quota frozen).nextWithdrawalID = db.nextWithdrawalID ∧
      (db.moveQuota userID quota frozen).redemptions = db.redemptions := by
  unfold moveQuota
  split <;> exact ⟨rfl, rfl, rfl⟩

end WithdrawalDB

theorem UserWithdrawal.validate_ok (h : w.validate = .ok w') : w' = w.normalize := by
  unfold UserWithdrawal.validate at h
  obtain ⟨_, h⟩ := require_seq_ok.mp h
  obtain ⟨_, h⟩ := require_seq_ok.mp h
  obtain ⟨_, h⟩ := require_seq_ok.mp h
  obtain ⟨_, _, h⟩ := seq_ok.mp h
  obtain ⟨_, h⟩ := require_seq_ok.mp h
  obtain ⟨_, h⟩ := require_seq_ok.mp h
  obtain ⟨_, h⟩ := require_seq_ok.mp h
  exact (return_ok.mp h).symm

namespace WithdrawalDB

variable {db db' : WithdrawalDB} {now : Int}

theorem insertWithdrawal_ok (h : db.insertWithdrawal w now = .ok db') :
    ∃ row : UserWithdrawal, row.id = db.nextWithdrawalID ∧ row.userId = w.userId ∧
      row.applyQuota = w.applyQuota ∧ row.status = w.status ∧
      db' = { db with
        withdrawals := db.withdrawals ++ [row]
        nextWithdrawalID := db.nextWithdrawalID + 1 } := by
  obtain ⟨row, hrow, h⟩ := seq_ok.mp h
  obtain ⟨_, h⟩ := require_seq_ok.mp h
  refine ⟨row, ?_, ?_, ?_, ?_, (return_ok.mp h).symm⟩ <;>
    rw [UserWithdrawal.validate_ok hrow] <;> rfl

theorem saveWithdrawal_ok (h : db.saveWithdrawal w now = .ok db') :
    ∃ row : UserWithdrawal, row.id = w.id ∧ row.userId = w.userId ∧
      row.applyQuota = w.applyQuota ∧ row.status = w.status ∧
      db' = { db with withdrawals := saveRow (·.id) row db.withdrawals } := by
  obtain ⟨row, hrow, h⟩ := seq_ok.mp h
  refine ⟨row, ?_, ?_, ?_, ?_, (return_ok.mp h).symm⟩ <;>
    rw [UserWithdrawal.validate_ok hrow] <;> rfl

end WithdrawalDB

/-! ## The statuses -/

/-- An application is approved or rejected, and an approved one is paid or
rejected. -/
def UserWithdrawalStatus.MovesTo : UserWithdrawalStatus → UserWithdrawalStatus → Prop
  | .pending, .approved | .pending, .rejected | .approved, .paid | .approved, .rejected => True
  | _, _ => False

theorem UserWithdrawalStatus.MovesTo.from_open {a b : UserWithdrawalStatus} (h : a.MovesTo b) :
    a = .pending ∨ a = .approved := by
  cases a with
  | pending => exact .inl rfl
  | approved => exact .inr rfl
  | paid | rejected => cases b <;> exact h.elim

/-- Every withdrawal is still there, with its status or moved on; a new one is
pending. -/
structure StatusesMove (db db' : WithdrawalDB) : Prop where
  old : ∀ w ∈ db.withdrawals, ∃ w' ∈ db'.withdrawals, w'.id = w.id ∧
    (w'.status = w.status ∨ w.status.MovesTo w'.status)
  new : ∀ w' ∈ db'.withdrawals, (∃ w ∈ db.withdrawals, w.id = w'.id) ∨ w'.status = .pending

theorem StatusesMove.of_same (h : db'.withdrawals = db.withdrawals) :
    StatusesMove db db' := by
  refine ⟨fun w hw => ⟨w, ?_, rfl, .inl rfl⟩, fun w hw => .inl ⟨w, ?_, rfl⟩⟩
  · rw [h]
    exact hw
  · rw [← h]
    exact hw

namespace WithdrawalDB

variable {db db' : WithdrawalDB} {now : Int}

theorem getWithdrawal_some {id} (h : db.getWithdrawal id = some w) :
    w ∈ db.withdrawals ∧ w.id = id :=
  ⟨mem_of_find?_eq_some h, by simpa using find?_some h⟩

theorem withdrawalAmounts_pos (h : withdrawalAmounts config amount = .ok a) : 0 < a.applyQuota := by
  obtain ⟨_, h⟩ := require_seq_ok.mp h
  obtain ⟨_, h⟩ := require_seq_ok.mp h
  obtain ⟨_, h⟩ := require_seq_ok.mp h
  obtain ⟨applyQuota, _, h⟩ := seq_ok.mp h
  obtain ⟨hpos, h⟩ := require_seq_ok.mp h
  obtain ⟨rule, _, h⟩ := seq_ok.mp h
  obtain ⟨⟨matched, feeAmount⟩, _, h⟩ := found_seq_ok.mp h
  obtain ⟨_, h⟩ := require_seq_ok.mp h
  obtain ⟨feeQuota, _, h⟩ := seq_ok.mp h
  obtain ⟨netQuota, _, h⟩ := seq_ok.mp h
  obtain rfl := return_ok.mp h
  exact hpos

/-- A positive amount that can be withdrawn leaves what was redeemed. -/
theorem rechargeQuota_le (h : getUserWithdrawalQuotaBreakdownTx db userID quota = .ok breakdown)
    (hpos : 0 < applyQuota) (hle : applyQuota ≤ breakdown.rechargeQuota) :
    db.redeemedQuota userID ≤ quota - applyQuota := by
  obtain ⟨redeemed, hcode, h⟩ := seq_ok.mp h
  obtain ⟨_, hcode⟩ := require_seq_ok.mp hcode
  obtain rfl := return_ok.mp hcode
  obtain rfl := return_ok.mp h
  generalize db.redeemedQuota userID = redeemed at hle ⊢
  -- a clamp that is reached leaves nothing to withdraw
  by_cases hneg : quota < 0
  · simp only [hneg, if_true] at hle
    split at hle <;> split at hle <;> omega
  simp only [hneg, if_false] at hle
  by_cases hall : redeemed > quota
  · omega
  · split at hle <;> omega

/-- **Create.** The user had no open withdrawal, and is left with at least what
was redeemed. -/
theorem createUserWithdrawal_ok
    (h : db.createUserWithdrawal config params candidates now = .ok db') :
    ∃ (user : User) (row : UserWithdrawal), db.users.get params.userID = some user ∧
      db.countOpenUserWithdrawalsTx params.userID = 0 ∧
      db.redeemedQuota params.userID ≤ user.quota - row.applyQuota ∧
      row.id = db.nextWithdrawalID ∧ row.userId = params.userID ∧ row.status = .pending ∧
      db' = moveQuota { db with
        withdrawals := db.withdrawals ++ [row]
        nextWithdrawalID := db.nextWithdrawalID + 1 }
          params.userID (-row.applyQuota) row.applyQuota := by
  obtain ⟨a, hamt, h⟩ := seq_ok.mp h
  obtain ⟨user, huser, h⟩ := found_seq_ok.mp h
  obtain ⟨_, h⟩ := require_seq_ok.mp h
  obtain ⟨breakdown, hparts, h⟩ := seq_ok.mp h
  obtain ⟨hbal, h⟩ := require_seq_ok.mp h
  obtain ⟨tradeNo, _, h⟩ := seq_ok.mp h
  obtain ⟨db₁, hins, h⟩ := seq_ok.mp h
  obtain ⟨row, hid, huserI, happly, hstat, rfl⟩ := insertWithdrawal_ok hins
  have happly : row.applyQuota = a.applyQuota := happly
  have huserID : user.id = params.userID := db.users.key_get huser
  rw [huserID] at hparts
  have hleft := rechargeQuota_le hparts (withdrawalAmounts_pos hamt) hbal
  refine ⟨user, row, huser, by omega, by omega, hid, huserI, hstat, ?_⟩
  rw [happly]
  exact (return_ok.mp h).symm

theorem createUserWithdrawal_quota
    (h : db.createUserWithdrawal config params candidates now = .ok db')
    (huser' : db'.users.get params.userID = some user') :
    db.redeemedQuota params.userID ≤ user'.quota := by
  obtain ⟨user, row, huser, _, _, _, _, _, rfl⟩ := createUserWithdrawal_ok h
  have hacc := congrFun (moveQuota_account { db with
    withdrawals := db.withdrawals ++ [row]
    nextWithdrawalID := db.nextWithdrawalID + 1 } params.userID (-row.applyQuota)
    row.applyQuota) params.userID
  simp only [vault, Vault.moved, huser, huser', Option.map_some, if_true, Option.some.injEq] at hacc
  have hquo : user'.quota = user.quota + -row.applyQuota := congrArg Account.free hacc
  omega

/-- A withdrawal that is open becomes one with another status. -/
structure Turned (db db' : WithdrawalDB) (w w' : UserWithdrawal) : Prop where
  mem : w ∈ db.withdrawals
  moves : w.status.MovesTo w'.status
  id : w'.id = w.id
  userId : w'.userId = w.userId
  applyQuota : w'.applyQuota = w.applyQuota
  rows : db'.withdrawals = saveRow (·.id) w' db.withdrawals
  account : db'.vault.account = db.vault.moved w.userId
    (w'.status.holdState.givesBack w.applyQuota) (-w'.status.holdState.thaws w.applyQuota)
  next : db'.nextWithdrawalID = db.nextWithdrawalID
  redemptions : db'.redemptions = db.redemptions

theorem Turned.statuses (h : Turned db db' w w') (huniq : (db.withdrawals.map (·.id)).Nodup) :
    StatusesMove db db' := by
  refine ⟨fun r hr => ?_, fun r' hr' => ?_⟩
  · by_cases hid : r.id = w'.id
    · have hsame : r = w := eq_of_key huniq hr h.mem (hid.trans h.id)
      refine ⟨w', ?_, hid.symm, .inr (hsame ▸ h.moves)⟩
      rw [h.rows]
      exact mem_saveRow.mpr (.inr ⟨rfl, r, hr, hid⟩)
    · refine ⟨r, ?_, rfl, .inl rfl⟩
      rw [h.rows]
      exact mem_saveRow.mpr (.inl ⟨hr, hid⟩)
  · rw [h.rows] at hr'
    rcases mem_saveRow.mp hr' with ⟨hold, _⟩ | ⟨rfl, r, hr, hid⟩
    · exact .inl ⟨r', hold, rfl⟩
    · exact .inl ⟨r, hr, hid⟩

theorem Turned.move (h : Turned db db' w w') : holdRule.Move db.vault db'.vault := by
  have hheld : w.status.holdState = .held := by
    rcases h.moves.from_open with hw | hw <;> rw [hw] <;> rfl
  exact .turn w w' h.mem hheld h.id h.userId h.applyQuota h.rows h.account

theorem Turned.of_save {db₁ : WithdrawalDB} {w₁ : UserWithdrawal}
    (h : db₁.saveWithdrawal w₁ now = .ok db') (hmem : w ∈ db.withdrawals) (hid : w₁.id = w.id)
    (huser : w₁.userId = w.userId) (happly : w₁.applyQuota = w.applyQuota)
    (hmoves : w.status.MovesTo w₁.status) (hacc : db₁.vault.account = db.vault.moved w.userId
      (w₁.status.holdState.givesBack w.applyQuota) (-w₁.status.holdState.thaws w.applyQuota))
    (htabs : db₁.withdrawals = db.withdrawals ∧ db₁.nextWithdrawalID = db.nextWithdrawalID ∧
      db₁.redemptions = db.redemptions) : ∃ w', w'.status = w₁.status ∧ Turned db db' w w' := by
  obtain ⟨w', hid', huser', happly', hstat', rfl⟩ := saveWithdrawal_ok h
  obtain ⟨hrows, hnext, hcodes⟩ := htabs
  refine ⟨w', hstat', hmem, ?_, hid'.trans hid, huser'.trans huser, happly'.trans happly, ?_,
    ?_, hnext, hcodes⟩
  · rw [hstat']
    exact hmoves
  · rw [hrows]
  · rw [hstat']
    exact hacc

theorem approveUserWithdrawal_ok {id note}
    (h : db.approveUserWithdrawal id adminID note now = .ok db') :
    ∃ w w', db.getWithdrawal id = some w ∧ w'.status = .approved ∧ Turned db db' w w' := by
  obtain ⟨w, hget, h⟩ := found_seq_ok.mp h
  obtain ⟨hpend, h⟩ := require_seq_ok.mp h
  obtain ⟨w', hstat, hturn⟩ : ∃ w', w'.status = .approved ∧ Turned db db' w w' := by
    refine Turned.of_save h (getWithdrawal_some hget).1 rfl rfl rfl ?_ ?_ ⟨rfl, rfl, rfl⟩
    · rw [hpend]
      trivial
    · exact (Vault.moved_zero db.vault w.userId).symm
  exact ⟨w, w', hget, hstat, hturn⟩

theorem rejectUserWithdrawal_ok {id note}
    (h : db.rejectUserWithdrawal id adminID note now = .ok db') :
    ∃ w w', db.getWithdrawal id = some w ∧ w'.status = .rejected ∧ Turned db db' w w' := by
  obtain ⟨_, h⟩ := require_seq_ok.mp h
  obtain ⟨w, hget, h⟩ := found_seq_ok.mp h
  obtain ⟨hopen, h⟩ := require_seq_ok.mp h
  obtain ⟨user, huser, h⟩ := found_seq_ok.mp h
  have hid : user.id = w.userId := db.users.key_get huser
  rw [hid] at h
  obtain ⟨w', hstat, hturn⟩ : ∃ w', w'.status = .rejected ∧ Turned db db' w w' := by
    refine Turned.of_save h (getWithdrawal_some hget).1 rfl rfl rfl ?_ ?_
      (db.moveQuota_tables _ _ _)
    · rcases hopen with hstat | hstat <;> rw [hstat] <;> trivial
    · exact db.moveQuota_account _ _ _
  exact ⟨w, w', hget, hstat, hturn⟩

theorem markUserWithdrawalPaid_ok {id params}
    (h : db.markUserWithdrawalPaid id adminID params now = .ok db') :
    ∃ w w', db.getWithdrawal id = some w ∧ w'.status = .paid ∧ Turned db db' w w' := by
  obtain ⟨w, hget, h⟩ := found_seq_ok.mp h
  obtain ⟨hgrant, h⟩ := require_seq_ok.mp h
  obtain ⟨user, huser, h⟩ := found_seq_ok.mp h
  have hid : user.id = w.userId := db.users.key_get huser
  rw [hid] at h
  obtain ⟨w', hstat, hturn⟩ : ∃ w', w'.status = .paid ∧ Turned db db' w w' := by
    refine Turned.of_save h (getWithdrawal_some hget).1 rfl rfl rfl ?_ ?_
      (db.moveQuota_tables _ _ _)
    · rw [hgrant]
      trivial
    · exact db.moveQuota_account _ _ _
  exact ⟨w, w', hget, hstat, hturn⟩

end WithdrawalDB

/-! ## Codes -/

theorem redeem_result (h : redeem now key userId redemption = .ok (redemption', credit)) :
    redemption.status = .enabled ∧ redemption'.id = redemption.id ∧ redemption'.status = .used ∧
      redemption'.usedUserId = userId ∧ redemption'.quota = redemption.quota ∧
      credit = ⟨userId, redemption.quota⟩ := by
  obtain ⟨_, h⟩ := require_seq_ok.mp h
  obtain ⟨_, h⟩ := require_seq_ok.mp h
  obtain ⟨_, h⟩ := require_seq_ok.mp h
  obtain ⟨hon, h⟩ := require_seq_ok.mp h
  obtain ⟨_, h⟩ := require_seq_ok.mp h
  obtain ⟨rfl, rfl⟩ := Prod.mk.inj (return_ok.mp h)
  exact ⟨hon, rfl, rfl, rfl, rfl, rfl⟩

/-- What a used code counts for. -/
def RedemptionRow.usedQuota (r : RedemptionRow) : Int :=
  if r.redemption.status = .used && r.redemption.quota > 0 then r.redemption.quota else 0

/-- What the user has got from codes in the run. -/
def everRedeemed (log : List Credit) (userID : Int) : Int :=
  keyedSum (·.userId) (fun credit => max credit.quota 0) userID log

namespace WithdrawalDB

variable {db db' : WithdrawalDB}

theorem redeemedQuota_eq :
    db.redeemedQuota userID =
      keyedSum (·.redemption.usedUserId) usedQuota userID db.redemptions := by
  unfold redeemedQuota usedQuota
  rw [keyedSum_ite]
  simp only [Bool.and_assoc]

/-- A redemption adds its quota to the user, and to what the user has
redeemed. -/
theorem redeemCode_ok (h : db.redeemCode key userId now = .ok (db', credit))
    (huniq : (db.redemptions.map (·.redemption.id)).Nodup) :
    db'.withdrawals = db.withdrawals ∧ db'.nextWithdrawalID = db.nextWithdrawalID ∧
      db'.vault.account = db.vault.moved userId credit.quota 0 ∧
      db'.redemptions.map (·.redemption.id) = db.redemptions.map (·.redemption.id) ∧
      ∀ userID, db'.redeemedQuota userID =
        db.redeemedQuota userID + if credit.userId = userID then max credit.quota 0 else 0 := by
  obtain ⟨_, h⟩ := require_seq_ok.mp h
  obtain ⟨_, h⟩ := require_seq_ok.mp h
  obtain ⟨row, hrow, h⟩ := found_seq_ok.mp h
  obtain ⟨⟨redemption, credit'⟩, hred, h⟩ := seq_ok.mp h
  obtain ⟨rfl, rfl⟩ := Prod.mk.inj (return_ok.mp h)
  obtain ⟨hon, hid, hused, huser, hquo, rfl⟩ := redeem_result hred
  have hmem : row ∈ db.redemptions := mem_of_find?_eq_some hrow
  obtain ⟨hrows, hnext, hcodes⟩ := db.moveQuota_tables userId row.redemption.quota 0
  refine ⟨hrows, hnext, db.moveQuota_account _ _ _, ?_, fun userID => ?_⟩
  · show (saveRow _ _ _).map _ = _
    rw [map_key_saveRow, hcodes]
  have hsave : keyedSum (·.redemption.usedUserId) usedQuota userID
        (saveRow (·.redemption.id) ⟨redemption, row.deleted⟩ db.redemptions) +
        (if row.redemption.usedUserId = userID then row.usedQuota else 0) =
      keyedSum (·.redemption.usedUserId) usedQuota userID db.redemptions +
        (if redemption.usedUserId = userID then
          usedQuota ⟨redemption, row.deleted⟩ else 0) :=
    keyedSum_saveRow huniq hmem hid
  have hpre : row.usedQuota = 0 := by simp [usedQuota, hon]
  have hafter : usedQuota ⟨redemption, row.deleted⟩ =
      max row.redemption.quota 0 := by
    simp only [usedQuota, hused, hquo, decide_true, Bool.true_and, decide_eq_true_eq]
    split <;> omega
  rw [hpre, hafter, huser, ite_self, add_zero] at hsave
  rw [redeemedQuota_eq, redeemedQuota_eq, ← hsave]
  show keyedSum _ _ _ (saveRow _ _ _) = _
  rw [hcodes]

theorem insertRedemption_ok (h : db.insertRedemption redemption = .ok db') :
    db'.withdrawals = db.withdrawals ∧ db'.nextWithdrawalID = db.nextWithdrawalID ∧
      db'.users = db.users ∧
      ((db.redemptions.map (·.redemption.id)).Nodup →
        (db'.redemptions.map (·.redemption.id)).Nodup) ∧
      ∀ userID, db'.redeemedQuota userID = db.redeemedQuota userID := by
  obtain ⟨hfrs, h⟩ := require_seq_ok.mp h
  obtain rfl := return_ok.mp h
  refine ⟨rfl, rfl, rfl, fun huniq => ?_, fun userID => ?_⟩
  · rw [map_append, map_singleton]
    refine nodup_append.mpr ⟨huniq, nodup_singleton _, ?_⟩
    rintro id hid id' hid' rfl
    obtain ⟨r, hr, rfl⟩ := mem_map.mp hid
    have hne := all_eq_true.mp hfrs r hr
    rw [mem_singleton.mp hid'] at hne
    simp at hne
  · rw [redeemedQuota_eq, redeemedQuota_eq]
    simp [keyedSum_append, usedQuota]

theorem deleteRedemptions_keeps (db : WithdrawalDB) (selects : Redemption → Bool) :
    (db.deleteRedemptions selects).redemptions.map (·.redemption.id) =
      db.redemptions.map (·.redemption.id) ∧
    ∀ userID, (db.deleteRedemptions selects).redeemedQuota userID = db.redeemedQuota userID := by
  unfold deleteRedemptions
  refine ⟨?_, fun userID => ?_⟩
  · rw [map_map]
    rfl
  rw [redeemedQuota_eq, redeemedQuota_eq]
  unfold keyedSum
  rw [map_map]
  rfl

end WithdrawalDB

/-! ## Runs -/

/-- The operations. `changeQuota` is any other change of a user's quota. -/
inductive WithdrawalOp where
  | create (config : WithdrawalConfig) (params : CreateUserWithdrawalParams)
      (candidates : List String) (now : Int)
  | approve (id adminID : Int) (note : String) (now : Int)
  | reject (id adminID : Int) (note : String) (now : Int)
  | markPaid (id adminID : Int) (params : MarkUserWithdrawalPaidParams) (now : Int)
  | redeem (key : String) (userId now : Int)
  | addCode (redemption : Redemption)
  | deleteCodes (selects : Redemption → Bool)
  | changeQuota (userID delta : Int)

def WithdrawalOp.OfWithdrawal : WithdrawalOp → Prop
  | .create .. | .approve .. | .reject .. | .markPaid .. => True
  | .redeem .. | .addCode .. | .deleteCodes .. | .changeQuota .. => False

/-- The tables, and every credit that a code has given. -/
structure Wallets where
  db : WithdrawalDB
  redeemed : List Credit := []

namespace Wallets

variable (w : Wallets)

/-- The transaction of an operation, with the credits it gives. -/
def tx : WithdrawalOp → Except String (WithdrawalDB × List Credit)
  | .create config params candidates now =>
      (w.db.createUserWithdrawal config params candidates now).map (·, [])
  | .approve id adminID note now => (w.db.approveUserWithdrawal id adminID note now).map (·, [])
  | .reject id adminID note now => (w.db.rejectUserWithdrawal id adminID note now).map (·, [])
  | .markPaid id adminID params now =>
      (w.db.markUserWithdrawalPaid id adminID params now).map (·, [])
  | .redeem key userId now =>
      (w.db.redeemCode key userId now).map fun (db, credit) => (db, [credit])
  | .addCode redemption => (w.db.insertRedemption redemption).map (·, [])
  | .deleteCodes selects => .ok (w.db.deleteRedemptions selects, [])
  | .changeQuota userID delta => .ok (w.db.moveQuota userID delta 0, [])

/-- One operation. `commits` is whether the COMMIT succeeds. -/
def apply (commits : Bool) (op : WithdrawalOp) : Wallets × Except String Unit :=
  match w.tx op with
  | .error e => (w, .error e)
  | .ok (db, credits) =>
      if commits then (⟨db, w.redeemed ++ credits⟩, .ok ()) else (w, .error "commit failed")

def step (a : WithdrawalOp × Bool) : Wallets := (w.apply a.2 a.1).1

/-- The holds are sound, and what the table says was redeemed was redeemed. -/
structure Kept : Prop where
  sound : holdRule.Sound w.db.vault
  ids : ∀ r ∈ w.db.withdrawals, r.id < w.db.nextWithdrawalID
  codes : (w.db.redemptions.map (·.redemption.id)).Nodup
  redeemed : ∀ userID, w.db.redeemedQuota userID = everRedeemed w.redeemed userID

/-- Nothing was withdrawn and no code was used. -/
structure Start : Prop where
  withdrawals : w.db.withdrawals = []
  frozen : ∀ userID user, w.db.users.get userID = some user → user.withdrawFrozenQuota = 0
  codes : (w.db.redemptions.map (·.redemption.id)).Nodup
  unused : ∀ r ∈ w.db.redemptions, r.redemption.status ≠ .used
  redeemed : w.redeemed = []

variable {w}

theorem Start.kept (h : w.Start) : w.Kept where
  sound := by
    refine ⟨?_, ?_, ?_⟩
    · show (w.db.withdrawals.map _).Nodup
      rw [h.withdrawals]
      exact nodup_nil
    · intro userID a ha
      obtain ⟨user, huser, rfl⟩ := Option.map_eq_some_iff.mp ha
      show user.withdrawFrozenQuota = holdRule.total .held userID w.db.withdrawals
      rw [h.withdrawals, h.frozen userID user huser]
      rfl
    · intro userID
      show holdRule.heldCount userID w.db.withdrawals ≤ 1
      rw [h.withdrawals]
      exact zero_le_one
  ids := by
    rw [h.withdrawals]
    exact fun _ hr => absurd hr not_mem_nil
  codes := h.codes
  redeemed userID := by
    rw [h.redeemed]
    have hnone : w.db.redemptions.filter (fun r => r.redemption.usedUserId = userID
        && r.redemption.status = .used && r.redemption.quota > 0) = [] := by
      rw [filter_eq_nil_iff]
      intro r hr
      simp [h.unused r hr]
    show (map _ (w.db.redemptions.filter _)).sum = 0
    rw [hnone]
    rfl

/-- What every operation leaves behind: the ledger is kept, the statuses move,
and an operation of a withdrawal changes no one's worth. -/
structure Next (w : Wallets) (op : WithdrawalOp) (w' : Wallets) : Prop where
  kept : w'.Kept
  statuses : StatusesMove w.db w'.db
  worth : op.OfWithdrawal → ∀ userID, w'.db.worth userID = w.db.worth userID

variable {op : WithdrawalOp} {db' : WithdrawalDB}

variable (h : w.Kept)
include h

theorem Next.refl (op : WithdrawalOp) : w.Next op w :=
  ⟨h, .of_same rfl, fun _ _ => rfl⟩

theorem Kept.worth (hmove : holdRule.Move w.db.vault db'.vault) (userID : Int) :
    db'.worth userID = w.db.worth userID := by
  rw [worth_eq, worth_eq]
  exact hmove.worth h.sound.unique userID

theorem Kept.turned {r r'} (hturn : WithdrawalDB.Turned w.db db' r r') :
    w.Next op ⟨db', w.redeemed ++ []⟩ := by
  refine ⟨⟨h.sound.move hturn.move, ?_, ?_, ?_⟩, hturn.statuses h.sound.unique,
    fun _ => h.worth hturn.move⟩
  · intro row hrow
    rw [hturn.rows] at hrow
    rw [hturn.next]
    rcases mem_saveRow.mp hrow with ⟨hold, _⟩ | ⟨rfl, r₀, hr₀, hid⟩
    · exact h.ids row hold
    · rw [← hid]
      exact h.ids r₀ hr₀
  · rw [hturn.redemptions]
    exact h.codes
  intro userID
  rw [append_nil, ← h.redeemed userID]
  unfold redeemedQuota
  rw [hturn.redemptions]

theorem Kept.created (hok : w.db.createUserWithdrawal config params candidates now = .ok db') :
    w.Next op ⟨db', w.redeemed ++ []⟩ := by
  obtain ⟨user, row, _, hnone, _, _, huserI, hstat, rfl⟩ :=
    createUserWithdrawal_ok hok
  generalize hdb₁ : ({ w.db with
    withdrawals := w.db.withdrawals ++ [row]
    nextWithdrawalID := w.db.nextWithdrawalID + 1 } : WithdrawalDB) = db₁
  obtain ⟨hrows, hnext, hcodes⟩ := db₁.moveQuota_tables params.userID (-row.applyQuota)
    row.applyQuota
  have hfrs : ∀ r ∈ w.db.withdrawals, r.id ≠ row.id := by
    intro r hr
    have := h.ids r hr
    omega
  have hmove : holdRule.Move w.db.vault
      (db₁.moveQuota params.userID (-row.applyQuota) row.applyQuota).vault := by
    refine .take row hfrs ?_ ?_ ?_ ?_
    · show row.status.holdState = .held
      rw [hstat]
      rfl
    · show holdRule.heldCount row.userId w.db.withdrawals = 0
      rw [huserI, ← countOpen_eq, hnone]
      rfl
    · show (db₁.moveQuota _ _ _).withdrawals = _
      rw [hrows, ← hdb₁]
      rfl
    rw [moveQuota_account, ← hdb₁]
    show _ = w.db.vault.moved row.userId _ _
    rw [huserI]
    rfl
  refine ⟨⟨h.sound.move hmove, ?_, ?_, ?_⟩, ⟨?_, ?_⟩, fun _ => h.worth hmove⟩
  · intro r hr
    rw [hrows, ← hdb₁] at hr
    rw [hnext, ← hdb₁]
    show r.id < w.db.nextWithdrawalID + 1
    rcases mem_append.mp hr with hold | hnew
    · have := h.ids r hold
      omega
    · rw [mem_singleton.mp hnew]
      omega
  · rw [hcodes, ← hdb₁]
    exact h.codes
  · intro userID
    rw [append_nil, ← h.redeemed userID]
    unfold redeemedQuota
    rw [hcodes, ← hdb₁]
  · intro r hr
    refine ⟨r, ?_, rfl, .inl rfl⟩
    rw [hrows, ← hdb₁]
    exact mem_append_left _ hr
  intro r' hr'
  rw [hrows, ← hdb₁] at hr'
  rcases mem_append.mp hr' with hold | hnew
  · exact .inl ⟨r', hold, rfl⟩
  · rw [mem_singleton.mp hnew]
    exact .inr hstat

theorem Kept.other (hother : ¬ op.OfWithdrawal) (hrows : db'.withdrawals = w.db.withdrawals)
    (hnext : db'.nextWithdrawalID = w.db.nextWithdrawalID)
    (hfroze : ∀ userID, (db'.vault.account userID).map (·.frozen) =
      (w.db.vault.account userID).map (·.frozen))
    (hcodes : (db'.redemptions.map (·.redemption.id)).Nodup)
    (hcode : ∀ userID, db'.redeemedQuota userID =
      w.db.redeemedQuota userID + everRedeemed credits userID) :
    w.Next op ⟨db', w.redeemed ++ credits⟩ := by
  refine ⟨⟨h.sound.of_frozen hrows hfroze, ?_, hcodes, ?_⟩, .of_same hrows,
    fun hop => absurd hop hother⟩
  · rw [hrows, hnext]
    exact h.ids
  intro userID
  rw [hcode, h.redeemed]
  exact (keyedSum_append _ _).symm

theorem Kept.tx (hok : w.tx op = .ok (db', credits)) : w.Next op ⟨db', w.redeemed ++ credits⟩ := by
  cases op with
  | create =>
    obtain ⟨db₁, hcre, heq⟩ := map_ok.mp hok
    obtain ⟨rfl, rfl⟩ := Prod.mk.inj heq
    exact h.created hcre
  | approve =>
    obtain ⟨db₁, hgrant, heq⟩ := map_ok.mp hok
    obtain ⟨rfl, rfl⟩ := Prod.mk.inj heq
    obtain ⟨r, r', _, _, hturn⟩ := approveUserWithdrawal_ok hgrant
    exact h.turned hturn
  | reject =>
    obtain ⟨db₁, hrej, heq⟩ := map_ok.mp hok
    obtain ⟨rfl, rfl⟩ := Prod.mk.inj heq
    obtain ⟨r, r', _, _, hturn⟩ := rejectUserWithdrawal_ok hrej
    exact h.turned hturn
  | markPaid =>
    obtain ⟨db₁, hpaid, heq⟩ := map_ok.mp hok
    obtain ⟨rfl, rfl⟩ := Prod.mk.inj heq
    obtain ⟨r, r', _, _, hturn⟩ := markUserWithdrawalPaid_ok hpaid
    exact h.turned hturn
  | redeem =>
    obtain ⟨⟨db₁, credit⟩, hred, heq⟩ := map_ok.mp hok
    obtain ⟨rfl, rfl⟩ := Prod.mk.inj heq
    obtain ⟨hrows, hnext, hacc, hcodes, hcode⟩ :=
      redeemCode_ok hred h.codes
    refine h.other id hrows hnext (fun userID => ?_) ?_ (fun userID => ?_)
    · rw [hacc]
      exact Vault.moved_frozen _ _ _ _
    · rw [hcodes]
      exact h.codes
    · rw [hcode]
      simp [everRedeemed]
  | addCode =>
    obtain ⟨db₁, hins, heq⟩ := map_ok.mp hok
    obtain ⟨rfl, rfl⟩ := Prod.mk.inj heq
    obtain ⟨hrows, hnext, husers, hcodes, hcode⟩ := insertRedemption_ok hins
    refine h.other id hrows hnext (fun userID => ?_) (hcodes h.codes) (fun userID => ?_)
    · unfold vault
      rw [husers]
    · rw [hcode]
      exact (add_zero _).symm
  | deleteCodes selects =>
    obtain ⟨rfl, rfl⟩ := Prod.mk.inj (Except.ok.inj hok)
    obtain ⟨hcodes, hcode⟩ := w.db.deleteRedemptions_keeps selects
    refine h.other id rfl rfl (fun userID => rfl) ?_ (fun userID => ?_)
    · rw [hcodes]
      exact h.codes
    · rw [hcode]
      exact (add_zero _).symm
  | changeQuota userID delta =>
    obtain ⟨rfl, rfl⟩ := Prod.mk.inj (Except.ok.inj hok)
    obtain ⟨hrows, hnext, hcodes⟩ := w.db.moveQuota_tables userID delta 0
    refine h.other id hrows hnext (fun userID' => ?_) ?_ (fun userID' => ?_)
    · rw [moveQuota_account]
      exact Vault.moved_frozen _ _ _ _
    · rw [hcodes]
      exact h.codes
    unfold redeemedQuota
    rw [hcodes]
    exact (add_zero _).symm

theorem Kept.step (a : WithdrawalOp × Bool) : w.Next a.1 (w.step a) := by
  unfold Wallets.step Wallets.apply
  split
  · exact .refl h _
  rename_i hok
  split
  · exact h.tx hok
  · exact .refl h _

theorem Kept.run (acts : List (WithdrawalOp × Bool)) : (exec Wallets.step w acts).Kept := by
  induction acts generalizing w with
  | nil => exact h
  | cons a _ ih => exact ih (h.step a).kept

/-- Right after a withdrawal was created the user still has what was
redeemed. -/
theorem Kept.created_quota
    (hok : (w.apply commits (.create config params candidates now)).2 = .ok ())
    (huser' : (w.apply commits (.create config params candidates now)).1.db.users.get
      params.userID = some user') :
    everRedeemed (w.apply commits (.create config params candidates now)).1.redeemed
      params.userID ≤ user'.quota := by
  unfold Wallets.apply at hok huser' ⊢
  split at hok
  · cases hok
  rename_i htx
  obtain ⟨db₁, hcre, heq⟩ := map_ok.mp htx
  obtain ⟨rfl, rfl⟩ := Prod.mk.inj heq
  split at hok
  · rename_i hcom
    simp only [htx, hcom, if_true, append_nil] at huser' ⊢
    rw [← h.redeemed]
    exact createUserWithdrawal_quota hcre huser'
  · cases hok

end Wallets

/-- **The ledger of withdrawals.** In every run the frozen quota of a user is
what the open withdrawals have applied for, there is at most one of them, a
status only moves forward, an operation of a withdrawal changes no one's worth,
and a user who has just created a withdrawal is left with at least what codes
have ever given. -/
theorem withdrawal_ledger (w : Wallets) (hstart : w.Start) (acts : List (WithdrawalOp × Bool)) :
    let w' := exec Wallets.step w acts
    (∀ userID user, w'.db.users.get userID = some user →
      user.withdrawFrozenQuota = w'.db.frozenTotal userID) ∧
    (∀ userID, w'.db.countOpenUserWithdrawalsTx userID ≤ 1) ∧
    (∀ a, StatusesMove w'.db (w'.step a).db) ∧
    (∀ op commits, op.OfWithdrawal → ∀ userID,
      (w'.step (op, commits)).db.worth userID = w'.db.worth userID) ∧
    (∀ commits config params candidates now,
      let created := w'.apply commits (.create config params candidates now)
      created.2 = .ok () → ∀ user, created.1.db.users.get params.userID = some user →
        everRedeemed created.1.redeemed params.userID ≤ user.quota) := by
  have hkept := hstart.kept.run acts
  refine ⟨?_, ?_, ?_, ?_, ?_⟩
  · intro userID user huser
    rw [WithdrawalDB.frozenTotal_eq]
    refine hkept.sound.frozen userID user.account ?_
    exact congrArg (Option.map User.account) huser
  · intro userID
    have hsingle := hkept.sound.single userID
    have hcount := WithdrawalDB.countOpen_eq (exec Wallets.step w acts).db userID
    have hle : ((exec Wallets.step w acts).db.countOpenUserWithdrawalsTx userID : Int) ≤ 1 :=
      hcount.trans_le hsingle
    omega
  · exact fun a => (hkept.step a).statuses
  · exact fun op commits hop => (hkept.step (op, commits)).worth hop
  · intro commits config params candidates now created hok user huser
    exact hkept.created_quota hok huser

/-! ### A user with a quota of 1000 -/

def sampleWithdrawalConfig : WithdrawalConfig where
  setting := ⟨true, 1, [⟨0, 0, .ratio, 10, 0, 0, true, 0⟩]⟩
  currency := ⟨"USD", 1⟩
  quotaPerUnit := 100

def sampleWallets : Wallets where
  db :=
    { users := (Table.empty _).save ⟨7, 1000, 0⟩
      redemptions := [⟨{ id := 1, key := "K", quota := 300 }, false⟩] }

theorem sampleWallets_start : sampleWallets.Start where
  withdrawals := rfl
  frozen userID user huser := by
    have hget : ((Table.empty _).save (⟨7, 1000, 0⟩ : User)).get userID = some user := huser
    rw [Table.get_save] at hget
    split at hget
    · obtain rfl := Option.some.inj hget
      rfl
    · cases hget
  codes := by decide
  unused := by decide
  redeemed := rfl

def sampleApplication (amount : ℚ) (tradeNo : String) : WithdrawalOp :=
  .create sampleWithdrawalConfig
    { userID := 7, amount, alipayAccount := "a", alipayRealName := "b" } [tradeNo] 10

/-- The user redeems 300, applies for 1000 of 1300, may not apply again, is
paid, and cannot apply for the 300 that are left. -/
def sampleWithdrawals : List (WithdrawalOp × Bool) :=
  [(.redeem "K" 7 5, true), (sampleApplication 10 "t1", true), (sampleApplication 1 "t2", true),
   (.approve 1 2 "ok" 20, true), (.markPaid 1 2 {} 30, true), (sampleApplication 1 "t3", true)]

theorem withdrawal_ledger_sample :
    let w := exec Wallets.step sampleWallets sampleWithdrawals
    (∀ user, w.db.users.get 7 = some user → user.withdrawFrozenQuota = w.db.frozenTotal 7) ∧
      (w.db.users.get 7).map (·.quota) = some 300 ∧
      w.db.withdrawals.map (fun r => (r.id, r.applyQuota, r.status)) = [(1, 1000, .paid)] ∧
      everRedeemed w.redeemed 7 = 300 := by
  have h := withdrawal_ledger sampleWallets sampleWallets_start sampleWithdrawals
  exact ⟨h.1 7, by decide +kernel, by decide +kernel, by decide +kernel⟩

end HermesToken.Payment
