import HermesToken.Lib.KeyedSum

/-!
# Holds on an account

An account has a free and a frozen balance. A hold takes its amount from the
free balance to the frozen one. As long as it is held it can turn: it stays
held, or it ends RETURNED to the free balance or PAID out. When every account
has at most one hold at a time, the frozen balance is always what is held, and
no move of a hold changes what an account is worth: its two balances and what
was paid out of it.
-/

namespace HermesToken.Lib

variable {R I K : Type*} [DecidableEq I] [DecidableEq K]

inductive HoldState where
  | held | returned | paid
  deriving DecidableEq

/-- What a hold that ends like this gives back to the free balance. -/
def HoldState.givesBack : HoldState → Int → Int
  | .returned, amount => amount
  | .held, _ | .paid, _ => 0

/-- What a hold that ends like this takes from the frozen balance. -/
def HoldState.thaws : HoldState → Int → Int
  | .held, _ => 0
  | .returned, amount | .paid, amount => amount

/-- How a row is read as a hold. -/
structure HoldRule (R I K : Type*) where
  id : R → I
  owner : R → K
  amount : R → Int
  state : R → HoldState

structure Account where
  (free frozen : Int)

structure Vault (R K : Type*) where
  rows : List R
  account : K → Option Account

/-- The accounts after one of them moved. -/
def Vault.moved (v : Vault R K) (k : K) (free frozen : Int) (k' : K) : Option Account :=
  (v.account k').map fun a => if k = k' then ⟨a.free + free, a.frozen + frozen⟩ else a

@[simp] theorem Vault.moved_zero (v : Vault R K) (k : K) : v.moved k 0 0 = v.account := by
  funext k'
  unfold Vault.moved
  cases v.account k' with
  | none => rfl
  | some => simp

theorem Vault.moved_frozen (v : Vault R K) (k : K) (free : Int) (k' : K) :
    (v.moved k free 0 k').map (·.frozen) = (v.account k').map (·.frozen) := by
  unfold Vault.moved
  cases v.account k' with
  | none => rfl
  | some =>
    by_cases hk : k = k'
    · simp [hk]
    · simp [hk]

namespace HoldRule

variable (p : HoldRule R I K)

/-- The amounts of the account's holds in this state. -/
def total (state : HoldState) (k : K) (rows : List R) : Int :=
  keyedSum p.owner (fun r => if p.state r = state then p.amount r else 0) k rows

/-- The number of the account's holds that are held. -/
def heldCount (k : K) (rows : List R) : Int :=
  keyedSum p.owner (fun r => if p.state r = .held then 1 else 0) k rows

/-- The two balances of the account and what was paid out of it. -/
def worth (v : Vault R K) (k : K) : Option Int :=
  (v.account k).map fun a => a.free + a.frozen + p.total .paid k v.rows

/-- Every frozen balance is what is held, and that is at most one hold. -/
structure Sound (v : Vault R K) : Prop where
  unique : (v.rows.map p.id).Nodup
  frozen : ∀ k a, v.account k = some a → a.frozen = p.total .held k v.rows
  single : ∀ k, p.heldCount k v.rows ≤ 1

/-- A hold is taken, or one that is held turns. -/
inductive Move (v v' : Vault R K) : Prop
  | take (r : R) (fresh : ∀ r' ∈ v.rows, p.id r' ≠ p.id r) (held : p.state r = .held)
      (alone : p.heldCount (p.owner r) v.rows = 0) (rows : v'.rows = v.rows ++ [r])
      (account : v'.account = v.moved (p.owner r) (-p.amount r) (p.amount r))
  | turn (r r' : R) (mem : r ∈ v.rows) (held : p.state r = .held) (id : p.id r' = p.id r)
      (owner : p.owner r' = p.owner r) (amount : p.amount r' = p.amount r)
      (rows : v'.rows = saveRow p.id r' v.rows)
      (account : v'.account = v.moved (p.owner r) ((p.state r').givesBack (p.amount r))
        (-(p.state r').thaws (p.amount r)))

end HoldRule

namespace HoldRule

variable {p : HoldRule R I K} {v v' : Vault R K} {k : K}

omit [DecidableEq I] in
theorem total_append (state : HoldState) (k : K) (rows : List R) (r : R) :
    p.total state k (rows ++ [r]) =
      p.total state k rows +
        if p.owner r = k then (if p.state r = state then p.amount r else 0) else 0 := by
  simp only [total, keyedSum_append, keyedSum_cons, keyedSum_nil, add_zero]

theorem total_saveRow (huniq : (rows.map p.id).Nodup) (hr : r ∈ rows)
    (hid : p.id r' = p.id r) (howner : p.owner r' = p.owner r)
    (hamt : p.amount r' = p.amount r) (state : HoldState) (k : K) :
    p.total state k (saveRow p.id r' rows) =
      p.total state k rows + if p.owner r = k then
        (if p.state r' = state then p.amount r else 0) -
          (if p.state r = state then p.amount r else 0) else 0 := by
  have hsave : p.total state k (saveRow p.id r' rows) + (if p.owner r = k then
      (if p.state r = state then p.amount r else 0) else 0) = p.total state k rows +
      (if p.owner r' = k then (if p.state r' = state then p.amount r' else 0) else 0) :=
    keyedSum_saveRow huniq hr hid
  rw [howner, hamt] at hsave
  split at hsave
  · rename_i hk
    rw [if_pos hk]
    omega
  · rename_i hk
    rw [if_neg hk]
    omega

omit [DecidableEq I] in
theorem moved_some (h : v.moved k₀ free frozen k = some a') :
    ∃ a, v.account k = some a ∧ a' = if k₀ = k then ⟨a.free + free, a.frozen + frozen⟩ else a := by
  obtain ⟨a, ha, rfl⟩ := Option.map_eq_some_iff.mp h
  exact ⟨a, ha, rfl⟩

omit [DecidableEq I] in
theorem Sound.of_frozen (h : p.Sound v) (hrows : v'.rows = v.rows)
    (hfroze : ∀ k, (v'.account k).map (·.frozen) = (v.account k).map (·.frozen)) :
    p.Sound v' := by
  obtain ⟨huniq, hold, hone⟩ := h
  rw [← hrows] at huniq hold hone
  refine ⟨huniq, fun k a' ha' => ?_, hone⟩
  have hsame := hfroze k
  rw [ha'] at hsame
  obtain ⟨a, ha, hequal⟩ := Option.map_eq_some_iff.mp hsame.symm
  have hbal : a'.frozen = a.frozen := hequal.symm
  rw [hbal]
  exact hold k a ha

/-- **A move** keeps the frozen balances what is held. -/
theorem Sound.move (h : p.Sound v) (hmove : p.Move v v') : p.Sound v' := by
  obtain ⟨huniq, hfroze, hone⟩ := h
  cases hmove with
  | take r fresh held alone rows account =>
    refine ⟨?_, ?_, ?_⟩
    · rw [rows, List.map_append]
      refine List.nodup_append.mpr ⟨huniq, List.nodup_singleton _, ?_⟩
      rintro i hi j hj rfl
      obtain ⟨r', hr', rfl⟩ := List.mem_map.mp hi
      exact fresh r' hr' (List.mem_singleton.mp hj)
    · intro k a' ha'
      rw [account] at ha'
      obtain ⟨a, ha, rfl⟩ := moved_some ha'
      have := hfroze k a ha
      rw [rows, total_append]
      split <;> simp_all
    intro k
    have hcnt : p.heldCount k (v.rows ++ [r]) =
        p.heldCount k v.rows + if p.owner r = k then 1 else 0 := by
      simp only [heldCount, keyedSum_append, keyedSum_cons, keyedSum_nil, add_zero, held, if_true]
    have := hone k
    rw [rows, hcnt]
    split
    · rename_i hk
      rw [← hk, alone]
      decide
    · omega
  | turn r r' mem _ id owner amount rows account =>
    refine ⟨?_, ?_, ?_⟩
    · rw [rows, map_key_saveRow]
      exact huniq
    · intro k a' ha'
      rw [account] at ha'
      obtain ⟨a, ha, rfl⟩ := moved_some ha'
      have := hfroze k a ha
      rw [rows, total_saveRow huniq mem id owner amount]
      cases hsta : p.state r' <;> split <;> simp [HoldState.thaws] <;> omega
    -- the hold was counted already, and turning it adds none
    intro k
    have hsave : p.heldCount k (saveRow p.id r' v.rows) + (if p.owner r = k then
        (if p.state r = .held then 1 else 0) else 0) = p.heldCount k v.rows +
        (if p.owner r' = k then (if p.state r' = .held then 1 else 0) else 0) :=
      keyedSum_saveRow huniq mem id
    have := hone k
    rw [owner] at hsave
    rw [rows]
    split at hsave
    · split at hsave <;> omega
    · omega

theorem Move.worth (hmove : p.Move v v') (huniq : (v.rows.map p.id).Nodup) (k : K) :
    p.worth v' k = p.worth v k := by
  cases hmove with unfold HoldRule.worth
  | take _ _ held _ rows account =>
    rw [account, rows, total_append, held]
    unfold Vault.moved
    cases v.account k with
    | none => rfl
    | some =>
      split
      · simp
        omega
      · simp
  | turn _ r' mem held id owner amount rows account =>
    rw [account, rows, total_saveRow huniq mem id owner amount, held]
    unfold Vault.moved
    cases v.account k with
    | none => rfl
    | some =>
      cases hsta : p.state r' <;> split <;>
        simp [HoldState.givesBack, HoldState.thaws] <;> omega

end HoldRule

end HermesToken.Lib
