import HermesToken.Lib.Run
import HermesToken.Referral.Engine
import Mathlib.Data.Int.Interval

/-!
# The graph of inviters

Registrations, deletions and the edits of an administrator change who is
invited by whom: `InsertWithOptions`, `DeleteUserById`, `HardDeleteUserById`,
`ValidateInviterAssignment` and `Edit` of `model/user.go`, and `UpdateUser` of
`controller/user.go`. Two loops follow the inviters without a guard against
cycles, `ValidateInviterAssignment` and `resolveSubscriptionTeamChain`; that
they end is a fact about every graph that can arise.
-/

namespace HermesToken.Referral

open Lib AutoTable Option
open Subscription
open Relation

variable {inviterID : Int} {fuel : Nat}

/-! ## The operations -/

def getUserById (st : Store) (id : Int) : Except SubError User := do
  require (id ≠ 0) (.text "id 为空！")
  found (st.user? id) .recordNotFound

/-- The loop of `ValidateInviterAssignment`; `none` when it has not come back. -/
def validateInviterLoop (st : Store) (userID : Int) : Nat → Int → Option (Except SubError Unit)
  | 0, currentID => if currentID ≤ 0 then some (.ok ()) else none
  | fuel + 1, currentID =>
    if currentID ≤ 0 then some (.ok ())
    else if currentID = userID then some (.error (.text "inviter assignment would create a cycle"))
    else match getUserById st currentID with
      | .error e =>
        some (.error (if e = .recordNotFound then .text "inviter does not exist" else e))
      | .ok currentUser => validateInviterLoop st userID fuel currentUser.inviterId

section

variable (st : Store)

def validateInviterAssignment (fuel : Nat) (userID inviterID : Int) :
    Option (Except SubError Unit) :=
  if userID ≤ 0 then some (.error (.text "user id is empty"))
  else if inviterID ≤ 0 then some (.ok ())
  else if inviterID = userID then some (.error (.text "inviter cannot be self"))
  else validateInviterLoop st userID fuel inviterID

def inviteUser (inviterID quotaForInviter : Int) : Store :=
  st.updateUser inviterID (credit · quotaForInviter)

def newUser (quotaForNewUser inviterID id : Int) : User :=
  { id, quota := quotaForNewUser, group := "default", inviterId := inviterID }

/-- A registration with the code of the user `codeOwner`: an inviter that is
not found is no inviter. -/
def insertWithOptions (codeOwner quotaForNewUser quotaForInviter : Int) : Store :=
  let inviterID := if (st.user? codeOwner).isSome then codeOwner else 0
  let users := st.users.insert (newUser quotaForNewUser inviterID) fun _ => rfl
  let st := { st with users }
  if inviterID ≠ 0 then inviteUser st inviterID quotaForInviter else st

def deleteUserById (id : Int) : Store :=
  st.updateUser id fun user => { user with deleted := true }

def hardDeleteUserById (id : Int) : Store := { st with users := st.users.erase id }

def edit (id : Int) (group : String) (inviterID : Int) : Store :=
  st.updateUser id fun user => { user with group, inviterId := inviterID }

/-- The edit of an administrator; `none` when the request does not come
back. -/
def updateUser (fuel : Nat) (id : Int) (group : String) (inviterID : Int) :
    Option (Except SubError Store) :=
  match getUserById st id with
  | .error e => some (.error e)
  | .ok originUser =>
    if inviterID ≠ originUser.inviterId then
      (validateInviterAssignment st fuel id inviterID).map fun result =>
        result.map fun _ => edit st id group inviterID
    else some (.ok (edit st id group inviterID))

inductive UserOp where
  | register (codeOwner quotaForNewUser quotaForInviter : Int)
  | softDelete (id : Int)
  | hardDelete (id : Int)
  | edit (fuel : Nat) (id : Int) (group : String) (inviterID : Int)

/-- A request that fails or does not come back changes nothing. -/
def UserOp.step : UserOp → Store
  | .register codeOwner quotaForNewUser quotaForInviter =>
    insertWithOptions st codeOwner quotaForNewUser quotaForInviter
  | .softDelete id => deleteUserById st id
  | .hardDelete id => hardDeleteUserById st id
  | .edit fuel id group inviterID => match updateUser st fuel id group inviterID with
    | some (.ok st') => st'
    | _ => st

end

/-! ## What the updates do to the graph -/

variable {st : Store}

theorem inviter?_eq_some {id} :
    inviter? st id = some inviterID ↔
      ∃ user, st.user? id = some user ∧ user.inviterId = inviterID ∧ 0 < inviterID := by
  simp only [inviter?, bind_eq_some_iff]
  constructor
  · rintro ⟨user, huser, h⟩
    split at h
    · cases h
      exact ⟨user, huser, rfl, ‹_›⟩
    · cases h
  · rintro ⟨user, huser, rfl, hpos⟩
    exact ⟨user, huser, if_pos hpos⟩

theorem inviter?_credit (id quota k : Int) :
    inviter? (st.updateUser id (credit · quota)) k = inviter? st k := by
  have huser : (st.updateUser id (credit · quota)).user? k = _ :=
    Store.user?_updateUser (f := (credit · quota)) (fun _ => ⟨rfl, rfl⟩) id k
  simp only [inviter?, huser]
  cases st.user? k with
  | none => rfl
  | some => by_cases hk : k = id <;> simp [hk, credit]

theorem inviter?_edit (id : Int) (group : String) (inviterID k : Int) :
    inviter? (edit st id group inviterID) k =
      if k = id then (st.user? id).bind fun _ => if 0 < inviterID then some inviterID else none
      else inviter? st k := by
  have huser : (edit st id group inviterID).user? k = _ :=
    Store.user?_updateUser (f := fun user => { user with group, inviterId := inviterID })
      (fun _ => ⟨rfl, rfl⟩) id k
  simp only [inviter?, huser]
  by_cases hk : k = id
  · rw [hk]
    cases st.user? id <;> simp
  · cases st.user? k <;> simp [hk]

theorem inviter?_deleteUserById (id k : Int) :
    inviter? (deleteUserById st id) k = if k = id then none else inviter? st k := by
  have hget : (deleteUserById st id).users.get k = (st.users.get k).map fun user =>
      if k = id then (if user.deleted then user else { user with deleted := true }) else user := by
    refine get_modify _ (fun user => ?_) id k
    split <;> rfl
  simp only [inviter?, Store.user?, hget]
  by_cases hk : k = id
  · rw [if_pos hk]
    cases st.users.get k with
    | none => rfl
    | some user => cases hdel : user.deleted <;> simp [hk, hdel, Option.filter]
  · cases st.users.get k <;> simp [hk]

theorem inviter?_hardDeleteUserById (id k : Int) :
    inviter? (hardDeleteUserById st id) k = if k = id then none else inviter? st k := by
  simp only [inviter?, Store.user?, hardDeleteUserById, get_erase]
  by_cases hk : k = id <;> simp [hk]

theorem inviter?_insertWithOptions (codeOwner quotaForNewUser quotaForInviter k : Int) :
    inviter? (insertWithOptions st codeOwner quotaForNewUser quotaForInviter) k =
      if k = st.users.nextID then (if (st.user? codeOwner).isSome then some codeOwner else none)
      else inviter? st k := by
  have hins (inviterID : Int) :
      inviter? { st with
        users := st.users.insert (newUser quotaForNewUser inviterID) fun _ => rfl } k =
      if k = st.users.nextID then (if 0 < inviterID then some inviterID else none)
      else inviter? st k := by
    have hget := st.users.get_insert (newUser quotaForNewUser inviterID) (fun _ => rfl) k
    simp only [inviter?, Store.user?, hget]
    by_cases hk : k = st.users.nextID <;> simp [hk, Option.filter, newUser]
  simp only [insertWithOptions, inviteUser]
  cases howner : st.user? codeOwner with
  | none => simpa using hins 0
  | some =>
    have hpos : 0 < codeOwner := Store.user?_pos howner
    have hne : codeOwner ≠ 0 := ne_of_gt hpos
    simp only [Option.isSome_some, if_true, ne_eq, hne, not_false_eq_true, inviter?_credit]
    simpa [hpos] using hins codeOwner

/-! ## The graph stays acyclic -/

/-- Nobody is their own ancestor, and inviters are users that were there
before, also those of deleted users. -/
structure Forest (st : Store) : Prop where
  acyclic : Acyclic (inviter? st)
  below : ∀ {id user}, st.users.get id = some user → user.inviterId < st.users.nextID

theorem Forest.inviter_lt (h : Forest st) {id} (hlink : inviter? st id = some inviterID) :
    inviterID < st.users.nextID := by
  obtain ⟨user, huser, rfl, -⟩ := inviter?_eq_some.mp hlink
  exact h.below (Store.user?_eq_some huser).1

/-- No chain of inviters leads to a key that has not been given out. -/
theorem Forest.path_lt (h : Forest st) {a b}
    (hpath : ReflTransGen (HasParent (inviter? st)) a b) (ha : a < st.users.nextID) :
    b < st.users.nextID := by
  cases hpath with
  | refl => exact ha
  | tail _ hlast => exact h.inviter_lt hlast

theorem below_updateUser {id f bound} (hf : ∀ user, (f user).id = user.id)
    (hbound : ∀ k user, st.users.get k = some user → user.inviterId < bound)
    (hnew : ∀ user, st.user? id = some user → (f user).inviterId < bound) {k user}
    (h : (st.updateUser id f).users.get k = some user) : user.inviterId < bound := by
  have hget : (st.updateUser id f).users.get k = (st.users.get k).map fun user =>
      if k = id then (if user.deleted then user else f user) else user := by
    refine get_modify _ (fun user => ?_) id k
    split
    · rfl
    · exact hf user
  rw [hget] at h
  obtain ⟨old, hold, rfl⟩ := map_eq_some_iff.mp h
  by_cases hk : k = id
  · subst hk
    by_cases hdel : old.deleted
    · simpa [hdel] using hbound k old hold
    · have hlive : st.user? k = some old := by simp [Store.user?, hold, Option.filter, hdel]
      simpa [hdel] using hnew old hlive
  · simpa [hk] using hbound k old hold

theorem getUserById_eq {id} (h : id ≠ 0) :
    getUserById st id = found (st.user? id) .recordNotFound := by
  unfold getUserById require
  rw [if_pos h]
  rfl

/-- A chain that the validation has accepted ends without the user. -/
theorem validateInviterLoop_ok {userID currentID} (hpos : 0 < currentID)
    (h : validateInviterLoop st userID fuel currentID = some (.ok ())) :
    (∃ user, st.user? currentID = some user) ∧
      ∃ ids, trail (inviter? st) fuel currentID = some ids ∧ userID ∉ ids := by
  induction fuel generalizing currentID with
  | zero =>
    rw [validateInviterLoop, if_neg (not_le.mpr hpos)] at h
    cases h
  | succ fuel ih =>
  rw [validateInviterLoop, if_neg (not_le.mpr hpos)] at h
  split at h
  · cases h
  rename_i hne
  cases huser : st.user? currentID with
  | none =>
    rw [getUserById_eq (ne_of_gt hpos), huser] at h
    cases h
  | some user =>
  rw [getUserById_eq (ne_of_gt hpos), huser] at h
  refine ⟨⟨user, rfl⟩, ?_⟩
  by_cases hlink : 0 < user.inviterId
  · obtain ⟨-, ids, hids, hnot⟩ := ih hlink h
    have hnext : inviter? st currentID = some user.inviterId :=
      inviter?_eq_some.mpr ⟨user, huser, rfl, hlink⟩
    refine ⟨currentID :: ids, by rw [trail_succ_some hnext, hids]; rfl, ?_⟩
    simp [Ne.symm hne, hnot]
  · have hlast : inviter? st currentID = none := by
      simp [inviter?, huser, hlink]
    exact ⟨[currentID], trail_succ_none hlast, by simpa using Ne.symm hne⟩

theorem Forest.register (h : Forest st) (codeOwner quotaForNewUser quotaForInviter : Int) :
    Forest (insertWithOptions st codeOwner quotaForNewUser quotaForInviter) := by
  have hpos := st.users.nextID_pos
  refine ⟨h.acyclic.repoint (x := st.users.nextID) ?_ ?_, ?_⟩
  · intro a b ha hab
    rw [inviter?_insertWithOptions, if_neg ha] at hab
    exact hab
  · intro y hy hpath
    rw [inviter?_insertWithOptions, if_pos rfl] at hy
    split at hy
    · rename_i hsome
      cases hy
      obtain ⟨user, huser⟩ := isSome_iff_exists.mp hsome
      have hlt := (st.users.inRange (Store.user?_eq_some huser).1).2
      exact absurd (h.path_lt hpath hlt) (lt_irrefl _)
    · cases hy
  have hins (inviterID : Int) (hlt : inviterID < st.users.nextID) {k : Int} {user : User}
      (hget : (st.users.insert (newUser quotaForNewUser inviterID) fun _ => rfl).get k =
        some user) : user.inviterId < st.users.nextID + 1 := by
    rw [st.users.get_insert (newUser quotaForNewUser inviterID) (fun _ => rfl) k] at hget
    split at hget
    · cases hget
      exact Int.lt_add_one_of_le (le_of_lt hlt)
    · exact Int.lt_add_one_of_le (le_of_lt (h.below hget))
  intro k user huser
  simp only [insertWithOptions] at huser ⊢
  cases howner : st.user? codeOwner with
  | none =>
    simp only [howner, isSome_none, Bool.false_eq_true, if_false, ne_eq,
      not_true_eq_false] at huser ⊢
    exact hins 0 hpos huser
  | some =>
  obtain ⟨hownerPos, hown⟩ := st.users.inRange (Store.user?_eq_some howner).1
  have hne : codeOwner ≠ 0 := ne_of_gt hownerPos
  simp only [howner, isSome_some, if_true, ne_eq, hne, not_false_eq_true, inviteUser] at huser ⊢
  have hnext : (Store.updateUser { st with
      users := st.users.insert (newUser quotaForNewUser codeOwner) fun _ => rfl } codeOwner
      (credit · quotaForInviter)).users.nextID = st.users.nextID + 1 :=
    nextID_modify ..
  rw [hnext]
  exact below_updateUser (f := (credit · quotaForInviter)) (fun _ => rfl)
    (fun _ _ => hins codeOwner hown)
    (fun user hlive => show user.inviterId < _ from
      hins codeOwner hown (Store.user?_eq_some hlive).1) huser

theorem Forest.softDelete (h : Forest st) (id : Int) : Forest (deleteUserById st id) := by
  refine ⟨h.acyclic.repoint (x := id) ?_ ?_, ?_⟩
  · intro a b ha hab
    rw [inviter?_deleteUserById, if_neg ha] at hab
    exact hab
  · intro y hy
    rw [inviter?_deleteUserById, if_pos rfl] at hy
    cases hy
  intro k user huser
  have hnext : (deleteUserById st id).users.nextID = st.users.nextID :=
    nextID_modify ..
  rw [hnext]
  exact below_updateUser (f := fun user => { user with deleted := true }) (fun _ => rfl)
    (fun _ _ => h.below)
    (fun user hlive => show user.inviterId < _ from h.below (Store.user?_eq_some hlive).1) huser

theorem Forest.hardDelete (h : Forest st) (id : Int) : Forest (hardDeleteUserById st id) := by
  refine ⟨h.acyclic.repoint (x := id) ?_ ?_, ?_⟩
  · intro a b ha hab
    rw [inviter?_hardDeleteUserById, if_neg ha] at hab
    exact hab
  · intro y hy
    rw [inviter?_hardDeleteUserById, if_pos rfl] at hy
    cases hy
  intro k user huser
  have hget := st.users.get_erase id k
  rw [show (hardDeleteUserById st id).users.get k = _ from hget] at huser
  split at huser
  · cases huser
  · exact h.below huser

/-- An edit that goes through: the inviter is the old one, or none, or a user
whose ancestors all exist and are others. -/
theorem updateUser_ok {id group st'} (h : updateUser st fuel id group inviterID = some (.ok st')) :
    st' = edit st id group inviterID ∧ ∃ user, st.user? id = some user ∧
      (inviterID = user.inviterId ∨ inviterID ≤ 0 ∨
        ((∃ inviter, st.user? inviterID = some inviter) ∧
          ¬ ReflTransGen (HasParent (inviter? st)) inviterID id)) := by
  unfold updateUser at h
  split at h
  · cases h
  rename_i user hlook
  have huser : st.user? id = some user := by
    unfold getUserById at hlook
    exact found_ok.mp (require_seq_ok.mp hlook).2
  split at h
  · obtain ⟨result, hvalid, hres⟩ := map_eq_some_iff.mp h
    cases result with
    | error => cases hres
    | ok u =>
    cases hres
    refine ⟨rfl, user, huser, .inr ?_⟩
    unfold validateInviterAssignment at hvalid
    split at hvalid
    · cases hvalid
    split at hvalid
    · exact .inl ‹_›
    split at hvalid
    · cases hvalid
    obtain ⟨hsome, ids, hids, hnot⟩ :=
      validateInviterLoop_ok (not_le.mp ‹¬ inviterID ≤ 0›) hvalid
    exact .inr ⟨hsome, fun hpath => hnot (mem_trail_of_path hids hpath)⟩
  · rename_i hsame
    cases h
    exact ⟨rfl, user, huser, .inl (not_not.mp hsame)⟩

theorem Forest.edit {id group st'} (h : Forest st)
    (hedit : updateUser st fuel id group inviterID = some (.ok st')) : Forest st' := by
  obtain ⟨rfl, user, huser, hlink⟩ := updateUser_ok hedit
  have hpos := st.users.nextID_pos
  have hlt : inviterID < st.users.nextID := by
    rcases hlink with rfl | hnone | ⟨⟨inviter, hsome⟩, -⟩
    · exact h.below (Store.user?_eq_some huser).1
    · omega
    · exact (st.users.inRange (Store.user?_eq_some hsome).1).2
  refine ⟨h.acyclic.repoint (x := id) ?_ ?_, ?_⟩
  · intro a b ha hab
    rw [inviter?_edit, if_neg ha] at hab
    exact hab
  · intro y hy hpath
    rw [inviter?_edit, if_pos rfl, huser, bind_some] at hy
    split at hy
    · rename_i hpositive
      cases hy
      rcases hlink with rfl | hnone | ⟨-, hnot⟩
      · -- the old inviter: the path would have closed a cycle before
        have hedge : HasParent (inviter? st) id user.inviterId :=
          inviter?_eq_some.mpr ⟨user, huser, rfl, hpositive⟩
        exact h.acyclic id (TransGen.head' hedge hpath)
      · omega
      · exact hnot hpath
    · cases hy
  intro k row hrow
  have hnext : (HermesToken.Referral.edit st id group inviterID).users.nextID =
      st.users.nextID := nextID_modify ..
  rw [hnext]
  exact below_updateUser
    (f := fun user => { user with group, inviterId := inviterID }) (fun _ => rfl)
    (fun _ _ => h.below) (fun _ _ => hlt) hrow

theorem UserOp.step_eq (op : UserOp) : op.step st = { st with users := (op.step st).users } := by
  cases op with
  | register =>
    simp only [UserOp.step, insertWithOptions]
    split <;> split <;> rfl
  | softDelete | hardDelete => rfl
  | edit fuel id group inviterID =>
    simp only [UserOp.step]
    split
    · rename_i hupd
      rw [(updateUser_ok hupd).1]
      rfl
    · rfl

theorem Forest.step (h : Forest st) (op : UserOp) : Forest (op.step st) := by
  cases op with
  | register => exact h.register ..
  | softDelete id => exact h.softDelete id
  | hardDelete id => exact h.hardDelete id
  | edit fuel id group inviterID =>
    simp only [UserOp.step]
    split
    · exact h.edit ‹_›
    · exact h

/-! ## The loops end -/

/-- Fuel for as many users as ever registered is enough. -/
theorem Forest.exists_trail (h : Forest st) (hfuel : st.users.nextID.toNat ≤ fuel) (id : Int) :
    ∃ ids, trail (inviter? st) fuel id = some ids := by
  have hpos := st.users.nextID_pos
  refine h.acyclic.exists_trail (Finset.Ico 1 st.users.nextID) ?_ ?_ id
  · intro a b hab
    obtain ⟨user, huser, -, -⟩ := inviter?_eq_some.mp hab
    have hrange := st.users.inRange (Store.user?_eq_some huser).1
    rw [Finset.mem_Ico]
    omega
  · rw [Int.card_Ico]
    omega

theorem validateInviterLoop_isSome {userID currentID ids}
    (h : trail (inviter? st) fuel currentID = some ids) :
    (validateInviterLoop st userID fuel currentID).isSome := by
  induction fuel generalizing currentID ids with
  | zero => cases h
  | succ fuel ih =>
  rw [validateInviterLoop]
  split
  · rfl
  rename_i hpos
  split
  · rfl
  rw [getUserById_eq (fun hzero => hpos (le_of_eq hzero))]
  cases huser : st.user? currentID with
  | none => rfl
  | some user =>
  dsimp only [found]
  by_cases hlink : 0 < user.inviterId
  · have hnext : inviter? st currentID = some user.inviterId :=
      inviter?_eq_some.mpr ⟨user, huser, rfl, hlink⟩
    rw [trail_succ_some hnext] at h
    obtain ⟨rest, hrest, -⟩ := map_eq_some_iff.mp h
    exact ih hrest
  · cases fuel <;> simp [validateInviterLoop, not_lt.mp hlink]

theorem teamNodes_sublist (cfg : Settings) (referralType group : String) (st : Store)
    (ids : List Int) (pathDistance matchedTeamIndex : Int) :
    ((teamNodes cfg referralType group st ids pathDistance matchedTeamIndex).map
      (·.userId)).Sublist ids := by
  induction ids generalizing pathDistance matchedTeamIndex with
  | nil => exact List.Sublist.slnil
  | cons id ids ih =>
  simp only [teamNodes]
  cases huser : st.user? id with
  | none => exact List.nil_sublist _
  | some user =>
  have hid : user.id = id := Store.user?_id huser
  rw [List.map_append]
  cases hnode : teamNode? cfg user pathDistance matchedTeamIndex
      (activeTemplate st user.id referralType group) with
  | none => exact (ih _ _).cons id
  | some node =>
    have hnod : node.userId = id := by
      rw [← hid]
      unfold teamNode? at hnode
      split at hnode
      · cases hnode
      dsimp only at hnode
      split at hnode
      · cases hnode
        rfl
      · cases hnode
    rw [toList_some, List.map_singleton, hnod, List.singleton_append]
    exact (ih _ _).cons_cons id

/-- **The graph of inviters stays acyclic**, and so the loops end. After every
sequence of registrations, deletions and edits nobody is their own ancestor;
`ValidateInviterAssignment` comes back for all arguments; and for every start
user, template configuration and group `resolveSubscriptionTeamChain` returns,
having looked up the users of a chain without repetition. -/
theorem inviter_graph_acyclic (acts : List UserOp) :
    let st := exec UserOp.step {} acts
    Acyclic (inviter? st) ∧
    (∀ userID inviterID fuel, st.users.nextID.toNat ≤ fuel →
      (validateInviterAssignment st fuel userID inviterID).isSome) ∧
    ∀ st' : Store, st'.users = st.users →
      ∀ cfg start referralType group fuel, st.users.nextID.toNat ≤ fuel →
        ∃ ids chain,
          trail (inviter? st') fuel start = some ids ∧ ids.Nodup ∧
          (resolveSubscriptionTeamChain cfg fuel start referralType group).run st' =
            .ok (chain, st') ∧
          chain = (if 0 < start then teamNodes cfg referralType group st' ids 1 0 else []) ∧
          (chain.map (·.userId)).Sublist ids := by
  intro st
  have hforest : Forest st := by
    refine exec_invariant Forest (fun s op h => h.step op) ⟨?_, ?_⟩ acts
    · intro a hcycle
      obtain ⟨b, hab, -⟩ := TransGen.head'_iff.mp hcycle
      cases hab
    · intro id user h
      cases h
  refine ⟨hforest.acyclic, ?_, ?_⟩
  · intro userID inviterID fuel hfuel
    obtain ⟨ids, hids⟩ := hforest.exists_trail hfuel inviterID
    unfold validateInviterAssignment
    split
    · rfl
    split
    · rfl
    split
    · rfl
    · exact validateInviterLoop_isSome hids
  intro st' husers cfg start referralType group fuel hfuel
  have hsame : inviter? st' = inviter? st := by
    funext id
    simp only [inviter?, Store.user?, husers]
  obtain ⟨ids, hids⟩ := hforest.exists_trail hfuel start
  rw [← hsame] at hids
  have hnodup : ids.Nodup := by
    rw [hsame] at hids
    exact hforest.acyclic.nodup_trail hids
  unfold resolveSubscriptionTeamChain
  by_cases hstart : 0 < start
  · rw [teamChainLoop_run _ _ _ _ hstart, hids]
    exact ⟨ids, _, rfl, hnodup, rfl, (if_pos hstart).symm, teamNodes_sublist ..⟩
  · rw [teamChainLoop_run_nonpos _ _ _ _ (not_lt.mp hstart)]
    exact ⟨ids, [], hids, hnodup, rfl, (if_neg hstart).symm, List.nil_sublist _⟩

/-- Users 1 to 3 in a chain; 1 cannot be invited by 3; 2 is deleted, which
cuts the chain, and then 3 cannot lead to 1 any more. -/
def sampleInvitations : List UserOp :=
  [.register 0 0 0, .register 1 0 0, .register 2 0 0, .edit 9 1 "default" 3, .softDelete 2]

theorem inviter_graph_acyclic_sample :
    let st := exec UserOp.step {} sampleInvitations
    (validateInviterAssignment st 4 1 3).isSome ∧
      ∃ ids chain, trail (inviter? st) 4 3 = some ids ∧ ids.Nodup ∧
        (resolveSubscriptionTeamChain ⟨1, 1, 0, fun _ => false, ⟨fun t _ => t, fun t _ => t, id,
          id, id⟩⟩ 4 3 "r" "g").run st = .ok (chain, st) := by
  obtain ⟨-, hvalidate, hchain⟩ := inviter_graph_acyclic sampleInvitations
  refine ⟨hvalidate 1 3 4 (by decide +kernel), ?_⟩
  obtain ⟨ids, chain, hids, hnodup, hrun, -⟩ := hchain _ rfl _ 3 "r" "g" 4 (by decide +kernel)
  exact ⟨ids, chain, hids, hnodup, hrun⟩

end HermesToken.Referral
