import HermesToken.Lib.Interleaving
import HermesToken.Lib.KeyedSum
import HermesToken.Lib.Table
import Mathlib.Data.Rat.Defs

/-!
# The balance of a user under concurrent writers

`quota` and `aff_quota` are moved by UPDATEs that add to the column
(`IncreaseUserQuota`, `DecreaseUserQuota`, top-ups, withdrawals,
`TransferAffQuotaToQuota`), and they are also written back from copies:
`inviteUser` reads the row and saves all of it, and `User.Update` writes every
column of an earlier copy that is not zero.

A copy that is outdated when it is written takes back what was committed since.
If every copy is still the row when its transaction commits, the columns are
what the committed deltas say.
-/

namespace HermesToken.Users

open Lib Lib.Interleaving

/-! ## The row -/

/-- The columns of `users`. -/
structure User where
  id : Int
  (username password displayName : String := "")
  (role status : Int := 1)
  (email githubId discordId oidcId weChatId telegramId : String := "")
  accessToken : Option String := none
  (quota withdrawFrozenQuota usedQuota requestCount : Int := 0)
  group : String := "default"
  affCode : String := ""
  (affCount affQuota affHistoryQuota inviterId : Int := 0)
  (linuxDOId setting remark stripeCustomer : String := "")
  (createdAt lastLoginAt : Int := 0)
  deriving DecidableEq

abbrev UserTable := AutoTable User (·.id)

namespace User

def textOr (new old : String) : String := if new = "" then old else new

def numberOr (new old : Int) : Int := if new = 0 then old else new

/-- `Updates` with a struct: the columns that are not zero are written. -/
def merge (newUser user : User) : User where
  id := user.id
  username := textOr newUser.username user.username
  password := textOr newUser.password user.password
  displayName := textOr newUser.displayName user.displayName
  role := numberOr newUser.role user.role
  status := numberOr newUser.status user.status
  email := textOr newUser.email user.email
  githubId := textOr newUser.githubId user.githubId
  discordId := textOr newUser.discordId user.discordId
  oidcId := textOr newUser.oidcId user.oidcId
  weChatId := textOr newUser.weChatId user.weChatId
  telegramId := textOr newUser.telegramId user.telegramId
  accessToken := newUser.accessToken.orElse fun _ => user.accessToken
  quota := numberOr newUser.quota user.quota
  withdrawFrozenQuota := numberOr newUser.withdrawFrozenQuota user.withdrawFrozenQuota
  usedQuota := numberOr newUser.usedQuota user.usedQuota
  requestCount := numberOr newUser.requestCount user.requestCount
  group := textOr newUser.group user.group
  affCode := textOr newUser.affCode user.affCode
  affCount := numberOr newUser.affCount user.affCount
  affQuota := numberOr newUser.affQuota user.affQuota
  affHistoryQuota := numberOr newUser.affHistoryQuota user.affHistoryQuota
  inviterId := numberOr newUser.inviterId user.inviterId
  linuxDOId := textOr newUser.linuxDOId user.linuxDOId
  setting := textOr newUser.setting user.setting
  remark := textOr newUser.remark user.remark
  stripeCustomer := textOr newUser.stripeCustomer user.stripeCustomer
  createdAt := numberOr newUser.createdAt user.createdAt
  lastLoginAt := numberOr newUser.lastLoginAt user.lastLoginAt

theorem numberOr_self : numberOr n n = n := ite_self n

/-- The inviter's copy after an invitation. -/
def invited (user : User) (quotaForInviter : Int) : User := { user with
  affCount := user.affCount + 1
  affQuota := user.affQuota + quotaForInviter
  affHistoryQuota := user.affHistoryQuota + quotaForInviter }

end User

/-- What a caller of `User.Update` changes in its copy: an e-mail address, the
id of another account, the settings, but none of the balances. -/
structure ProfileEdit where
  apply : User → User
  id : ∀ user, (apply user).id = user.id
  quota : ∀ user, (apply user).quota = user.quota
  affQuota : ∀ user, (apply user).affQuota = user.affQuota

/-! ## The writers -/

inductive UserError where
  | text (message : String)
  /-- Below the smallest transfer; the text names it. -/
  | transferTooSmall (quotaPerUnit : ℚ)
  | recordNotFound

/-- What a transaction adds to the columns of a user. -/
structure Delta where
  (userID quota affQuota : Int)

abbrev UserTx := Tx UserTable Int UserError

def emptyID : UserError := .text "id 为空！"

def negativeQuota : UserError := .text "quota 不能为负数！"

/-- `quota` is moved by an UPDATE. -/
def addQuota (id amount : Int) (users : UserTable) : UserTable :=
  users.modify id fun user => { user with quota := user.quota + amount }

/-- The UPDATEs of the withdrawals. -/
def moveToFrozen (id amount : Int) (users : UserTable) : UserTable :=
  users.modify id fun user =>
    { user with
      quota := user.quota - amount
      withdrawFrozenQuota := user.withdrawFrozenQuota + amount }

def increaseUserQuota (id quota : Int) : UserTx (List Delta) := do
  require (0 ≤ quota) negativeQuota
  Tx.update id (addQuota id quota)
  return [⟨id, quota, 0⟩]

def decreaseUserQuota (id quota : Int) : UserTx (List Delta) := do
  require (0 ≤ quota) negativeQuota
  Tx.update id (addQuota id (-quota))
  return [⟨id, -quota, 0⟩]

/-- The UPDATE of the user in the transactions that complete a top-up. -/
def topUp (id quotaToAdd : Int) : UserTx (List Delta) := do
  Tx.update id (addQuota id quotaToAdd)
  return [⟨id, quotaToAdd, 0⟩]

/-- The UPDATE of the user in `CreateUserWithdrawal`. -/
def freezeQuota (id applyQuota : Int) : UserTx (List Delta) := do
  Tx.update id (moveToFrozen id applyQuota)
  return [⟨id, -applyQuota, 0⟩]

/-- The UPDATE of the user in `RejectUserWithdrawal`. -/
def unfreezeQuota (id applyQuota : Int) : UserTx (List Delta) := do
  Tx.update id (moveToFrozen id (-applyQuota))
  return [⟨id, applyQuota, 0⟩]

def transferAffQuotaToQuota (quotaPerUnit : ℚ) (id quota : Int) : UserTx (List Delta) := do
  require (id ≠ 0) emptyID
  require (¬ (quota : ℚ) < quotaPerUnit) (UserError.transferTooSmall quotaPerUnit)
  let moved ← Tx.updateWhere id
    (fun users => (users.get id).any fun user => quota ≤ user.affQuota)
    fun users => users.modify id fun user =>
      { user with affQuota := user.affQuota - quota, quota := user.quota + quota }
  require (moved = true) (UserError.text "邀请额度不足！")
  return [⟨id, quota, -quota⟩]

/-- The SELECT of a copy. It takes no lock. -/
def getUserById (id : Int) : UserTx User := do
  require (id ≠ 0) emptyID
  let row ← Tx.read id fun users => users.get id
  found row UserError.recordNotFound

def inviteUser (quotaForInviter inviterID : Int) : UserTx (List Delta) := do
  let user ← getUserById inviterID
  Tx.update user.id fun users => users.put (user.invited quotaForInviter)
  return [⟨user.id, 0, quotaForInviter⟩]

/-- A caller of `User.Update` with the copy it has read. -/
def update (edit : ProfileEdit) (id : Int) : UserTx (List Delta) := do
  let user ← getUserById id
  let newUser := edit.apply user
  let _row ← Tx.select fun users => users.get id
  Tx.update user.id fun users => users.modify user.id newUser.merge
  return []

inductive BalanceOp where
  | increase (id quota : Int)
  | decrease (id quota : Int)
  | topUp (id quotaToAdd : Int)
  | freeze (id applyQuota : Int)
  | unfreeze (id applyQuota : Int)
  | transfer (quotaPerUnit : ℚ) (id quota : Int)
  | invite (quotaForInviter inviterID : Int)
  | update (edit : ProfileEdit) (id : Int)

def BalanceOp.prog : BalanceOp → UserTx (List Delta)
  | .increase id quota => increaseUserQuota id quota
  | .decrease id quota => decreaseUserQuota id quota
  | .topUp id quotaToAdd => Users.topUp id quotaToAdd
  | .freeze id applyQuota => freezeQuota id applyQuota
  | .unfreeze id applyQuota => unfreezeQuota id applyQuota
  | .transfer quotaPerUnit id quota => transferAffQuotaToQuota quotaPerUnit id quota
  | .invite quotaForInviter inviterID => inviteUser quotaForInviter inviterID
  | .update edit id => Users.update edit id

/-! ## What a transaction does to the balances -/

/-- The deltas of the user in one of the columns. -/
def total (column : Delta → Int) (id : Int) (deltas : List Delta) : Int :=
  keyedSum (·.userID) column id deltas

def Moves (deltas : List Delta) (users users' : UserTable) : Prop :=
  ∀ id row, users.get id = some row → ∃ row', users'.get id = some row' ∧
    row'.quota = row.quota + total (·.quota) id deltas ∧
    row'.affQuota = row.affQuota + total (·.affQuota) id deltas

theorem Moves.refl (users : UserTable) : Moves [] users users :=
  fun _ row hrow => ⟨row, hrow, (Int.add_zero _).symm, (Int.add_zero _).symm⟩

theorem Moves.trans {users users' users'' deltas deltas'}
    (h : Moves deltas users users') (h' : Moves deltas' users' users'') :
    Moves (deltas ++ deltas') users users'' := by
  intro id row hrow
  obtain ⟨row', hrow', hquo, haff⟩ := h id row hrow
  obtain ⟨row'', hrow'', hquo', haff'⟩ := h' id row' hrow'
  refine ⟨row'', hrow'', ?_, ?_⟩
  · rw [hquo', hquo, total, total, total, keyedSum_append]
    omega
  · rw [haff', haff, total, total, total, keyedSum_append]
    omega

theorem Moves.of_row {users users' : UserTable} {id a b} {f : User → User}
    (hget : ∀ k, users'.get k = (users.get k).map fun row => if k = id then f row else row)
    (hf : ∀ row, users.get id = some row → (f row).quota = row.quota + a ∧
      (f row).affQuota = row.affQuota + b) :
    Moves [⟨id, a, b⟩] users users' := by
  intro k row hrow
  refine ⟨_, (hget k).trans (congrArg _ hrow), ?_⟩
  by_cases hk : k = id
  · subst hk
    simpa [total] using hf row hrow
  · simp [total, hk, Ne.symm hk]

theorem moves_modify (users : UserTable) {id a b} {f : User → User}
    (hid : ∀ row, (f row).id = row.id)
    (hf : ∀ row, (f row).quota = row.quota + a ∧ (f row).affQuota = row.affQuota + b) :
    Moves [⟨id, a, b⟩] users (users.modify id f) :=
  .of_row (users.get_modify hid id) fun row _ => hf row

theorem moves_invited {users : UserTable} {user : User} (h : users.get user.id = some user)
    (quotaForInviter : Int) :
    Moves [⟨user.id, 0, quotaForInviter⟩] users (users.put (user.invited quotaForInviter)) := by
  have hid : (user.invited quotaForInviter).id = user.id := rfl
  refine .of_row (f := fun _ => user.invited quotaForInviter) (fun k => ?_) fun row hrow => ?_
  · rw [users.get_put, hid]
    simp only [eq_comm]
  · obtain rfl := Option.some.inj (h.symm.trans hrow)
    exact ⟨(Int.add_zero _).symm, rfl⟩

theorem moves_merge (h : users.get user.id = some user) (edit : ProfileEdit) :
    Moves [] users (users.modify user.id (edit.apply user).merge) := by
  have hid : ∀ row, ((edit.apply user).merge row).id = row.id := fun _ => rfl
  intro id row hrow
  refine ⟨_, (users.get_modify hid ..).trans (congrArg _ hrow), ?_⟩
  by_cases hk : id = user.id
  · subst hk
    obtain rfl := Option.some.inj (h.symm.trans hrow)
    dsimp only
    rw [if_pos rfl]
    refine ⟨?_, ?_⟩
    · show User.numberOr (edit.apply user).quota user.quota = user.quota + 0
      rw [edit.quota, User.numberOr_self, Int.add_zero]
    · show User.numberOr (edit.apply user).affQuota user.affQuota = user.affQuota + 0
      rw [edit.affQuota, User.numberOr_self, Int.add_zero]
  · dsimp only
    rw [if_neg hk]
    exact ⟨(Int.add_zero _).symm, (Int.add_zero _).symm⟩

/-! ## Every program -/

/-- The answers that are copies of a row. -/
abbrev copies : Option Int → Bool := Option.isSome

/-- If the copies are still the rows, the balances move by the deltas. -/
def MovesFresh (t : Trace UserTable Int) (deltas : List Delta) : Prop :=
  ∀ users, t.freshOn copies users = true → Moves deltas users (t.writes users)

theorem every_getUserById_bind {id f}
    (h : ∀ t user, (∀ users, t.freshOn copies users → users.get user.id = some user) →
      (∀ users, t.writes users = users) → Every MovesFresh (f user) t) :
    Every MovesFresh (getUserById id >>= f) {} := by
  refine every_bind.mpr (every_lift_bind.mpr fun _ _ db => every_lift.mpr fun user hfound => ?_)
  have hrow : db.get id = some user := found_ok.mp hfound
  refine h _ user (fun users hfrs => ?_) fun _ => rfl
  have hans := (Trace.freshOn_extend.mp hfrs).2 rfl
  rw [db.key_get hrow]
  exact hans.trans hrow

/-- **Every writer** moves the balances by what it says, if its copy is fresh. -/
theorem BalanceOp.every_movesFresh (op : BalanceOp) : Every MovesFresh op.prog {} := by
  -- an UPDATE of `quota` alone
  have hadd : ∀ id amount users, Moves [⟨id, amount, 0⟩] users (addQuota id amount users) :=
    fun _ _ users => moves_modify users (fun _ => rfl) fun _ => ⟨rfl, (Int.add_zero _).symm⟩
  have hfroze : ∀ id amount users, Moves [⟨id, -amount, 0⟩] users (moveToFrozen id amount users) :=
    fun _ _ users => moves_modify users (fun _ => rfl) fun _ =>
      ⟨Int.sub_eq_add_neg, (Int.add_zero _).symm⟩
  cases op with
  | increase id quota => exact every_lift_bind.mpr fun _ _ _ users _ => hadd id quota users
  | decrease id quota => exact every_lift_bind.mpr fun _ _ _ users _ => hadd id (-quota) users
  | topUp id quotaToAdd => exact fun _ users _ => hadd id quotaToAdd users
  | freeze id applyQuota => exact fun _ users _ => hfroze id applyQuota users
  | unfreeze id applyQuota =>
    intro _ users _
    have := hfroze id (-applyQuota) users
    rwa [Int.neg_neg] at this
  | transfer _ id quota =>
    refine every_lift_bind.mpr fun _ _ => every_lift_bind.mpr fun _ _ db => ?_
    refine every_lift_bind.mpr fun _ hmoved users _ => ?_
    have hmet : (db.get id).any (fun user => quota ≤ user.affQuota) :=
      require_ok.mp hmoved
    show Moves _ users ((if (db.get id).any (fun user => decide (quota ≤ user.affQuota))
      then _ else fun users : UserTable => users) users)
    rw [if_pos hmet]
    exact moves_modify users (fun _ => rfl) fun _ => ⟨rfl, Int.sub_eq_add_neg⟩
  | invite quotaForInviter =>
    refine every_getUserById_bind fun t user hcopy hwrite _ users hfrs => ?_
    have hfrs' := (Trace.freshOn_extend.mp hfrs).1
    show Moves _ users ((t.writes users).put _)
    rw [hwrite]
    exact moves_invited (hcopy users hfrs') quotaForInviter
  | update edit =>
    refine every_getUserById_bind fun t user hcopy hwrite _ _ users hfrs => ?_
    have hfrs' := (Trace.freshOn_extend.mp (Trace.freshOn_extend.mp hfrs).1).1
    show Moves _ users ((t.writes users).modify _ _)
    rw [hwrite]
    exact moves_merge (hcopy users hfrs') edit

/-- **The balances are what the committed deltas say**, in every interleaving in
which a transaction commits only while its copies are still the rows. -/
theorem balances_eq_committed_deltas {users : UserTable} {acts : List (Act BalanceOp)}
    (hfresh : Along (Sys.step BalanceOp.prog) (Sys.FreshOn copies) (Sys.start users) acts) :
    let s := exec (Sys.step BalanceOp.prog) (Sys.start users) acts
    ∀ id user, users.get id = some user → ∃ user', s.db.get id = some user' ∧
      user'.quota = user.quota + total (·.quota) id s.log ∧
      user'.affQuota = user.affQuota + total (·.affQuota) id s.log :=
  guarded_rule (fun _ => MovesFresh) BalanceOp.every_movesFresh copies (fun db log =>
    Moves log users db) (fun _ _ _ db _ hpost hfresh h => h.trans (hpost db hfresh))
    (Moves.refl users) hfresh

/-! ## Schedules -/

/-- One user with 1000 to spend. -/
def sampleUsers : UserTable :=
  (AutoTable.empty (R := User) (·.id)).insert (fun id => { id, quota := 1000 }) fun _ => rfl

/-- An e-mail address is bound. -/
def bindEmail (email : String) : ProfileEdit where
  apply user := { user with email }
  id _ := rfl
  quota _ := rfl
  affQuota _ := rfl

/-- A transaction that has the database for itself. -/
def alone (op : BalanceOp) (statements : Nat) : List (Act BalanceOp) :=
  .start 0 op :: List.replicate (statements + 1) (.step 0)

/-- The balances of the user, and what they should be by the log. -/
def balances (acts : List (Act BalanceOp)) : Option (Int × Int) × Int × Int :=
  let s := exec (Sys.step BalanceOp.prog) (Sys.start sampleUsers) acts
  ((s.db.get 1).map fun user => (user.quota, user.affQuota),
    1000 + total (·.quota) 1 s.log, total (·.affQuota) 1 s.log)

/-- An invitation and an edit, each before the next writer starts. -/
theorem balances_eq_committed_deltas_sample :
    let acts := alone (.invite 50 1) 2 ++ alone (.decrease 1 300) 1 ++
      alone (.update (bindEmail "a@b") 1) 3 ++ alone (.transfer 10 1 20) 1
    balances acts = (some (720, 30), 720, 30) ∧
      ∃ user', (exec (Sys.step BalanceOp.prog) (Sys.start sampleUsers) acts).db.get 1 = some user' ∧
        user'.quota = 1000 + total (·.quota) 1
          (exec (Sys.step BalanceOp.prog) (Sys.start sampleUsers) acts).log ∧
        user'.affQuota = 0 + total (·.affQuota) 1
          (exec (Sys.step BalanceOp.prog) (Sys.start sampleUsers) acts).log := by
  refine ⟨by decide +kernel, balances_eq_committed_deltas ?_ 1 { id := 1, quota := 1000 } rfl⟩
  decide +kernel

/-- A request is charged 300 while the copy of an invitation, or of an edit, is
on its way back: the row has 1000 again. -/
theorem stale_copies_take_deltas_back :
    let charge : List (Act BalanceOp) := [.start 1 (.decrease 1 300), .step 1, .step 1]
    balances ([.start 0 (.invite 50 1), .step 0] ++ charge ++ [.step 0, .step 0]) =
        (some (1000, 50), 700, 50) ∧
      balances ([.start 0 (.update (bindEmail "a@b") 1), .step 0] ++ charge ++
        [.step 0, .step 0, .step 0]) = (some (1000, 0), 700, 0) := by
  decide +kernel

end HermesToken.Users
