import HermesToken.Lib.Slots
import HermesToken.Marketplace.Market

/-!
# Concurrency slots of a credential

`CurrentConcurrency` of a credential counts the requests in flight. A `Prepare`
takes a slot; `Settle`, `Refund` and `Release` give it back, from four places
and behind different flags. Every call of a session is a `SlotMove` of
`HermesToken.Lib.Slots`, with one exception: the settlement of a pool session
gives a slot back without asking whether the session still has one.
-/

namespace HermesToken.Marketplace

open Lib MarketplaceFixedOrderBillingSession Market List
open Billing (Accounts BillingSession)

variable {F : Type} {s : MarketplaceFixedOrderBillingSession F}
  {f : MarketplacePoolBillingSession F → MarketplacePoolBillingSession F × PoolDB F}
  {settings : Settings F}
  {db : DB F} {acts : List (MarketAct F)}

/-- `CurrentConcurrency` of the credential; a credential without a row has
none. -/
def concurrency (db : DB F) (credentialID : Int) : Int :=
  (getOrCreateMarketplaceCredentialStatsForUpdate db credentialID).currentConcurrency

def fixedSlots : SlotRule (MarketplaceFixedOrderBillingSession F) Int where
  key := (·.credentialID)
  holds s := !s.capacityReleased

def poolSlots : SlotRule (MarketplacePoolBillingSession F) Int where
  key := (·.pool.credentialID)
  holds s := !s.pool.capacityReleased

/-- The prepared sessions of the credential that have not given back their
slot. -/
def Market.slotsInUse (m : Market F) (credentialID : Int) : Int :=
  fixedSlots.inUse credentialID m.schedule.world.sessions + poolSlots.inUse credentialID m.pool

/-! ## The counter in the tables -/

section

variable {credentialID : Int}

theorem getOrCreate_credentialID (db : DB F) (credentialID : Int) :
    (getOrCreateMarketplaceCredentialStatsForUpdate db credentialID).credentialID =
      credentialID := by
  unfold getOrCreateMarketplaceCredentialStatsForUpdate
  cases h : db.stats.get credentialID with
  | none => rfl
  | some stats => exact db.stats.key_get h

theorem concurrency_of_stats (h : db'.stats = db.stats) : concurrency db' = concurrency db := by
  unfold concurrency getOrCreateMarketplaceCredentialStatsForUpdate
  rw [h]

theorem concurrency_saveStats (k : Int) : concurrency (db.saveStats stats) k =
    if stats.credentialID = k then stats.currentConcurrency else concurrency db k := by
  unfold concurrency getOrCreateMarketplaceCredentialStatsForUpdate DB.saveStats
  rw [Table.get_save]
  split <;> rfl

theorem concurrency_saveUse : concurrency (db.saveUse credential stats) k =
    if stats.credentialID = k then stats.currentConcurrency else concurrency db k :=
  concurrency_saveStats k

theorem concurrency_saveStats_same (h : stats.currentConcurrency =
    concurrency db stats.credentialID) : concurrency (db.saveStats stats) = concurrency db := by
  funext k
  rw [concurrency_saveStats]
  split
  · rename_i hk
    rw [h, hk]
  · rfl

theorem freeSlot_concurrency :
    (freeSlot stats).currentConcurrency = freed stats.currentConcurrency := by
  unfold freeSlot freed
  split <;> rfl

theorem frees_saveUse (hid : stats.credentialID = credentialID)
    (hcnt : stats.currentConcurrency = freed (concurrency db credentialID)) :
    Frees credentialID (concurrency db) (concurrency (db.saveUse credential stats)) := by
  intro k
  rw [concurrency_saveUse, hid, hcnt]
  split
  · rename_i hk
    rw [hk]
  · rfl

theorem takes_saveUse (h : credential.id = credentialID) :
    Takes credentialID (concurrency db) (concurrency (db.saveUse credential (takeSlot
      (getOrCreateMarketplaceCredentialStatsForUpdate db credential.id)))) := by
  intro k
  rw [concurrency_saveUse, h]
  show (if (getOrCreateMarketplaceCredentialStatsForUpdate db credentialID).credentialID = k then
    concurrency db credentialID + 1 else _) = _
  rw [getOrCreate_credentialID]
  split
  · rename_i hk
    rw [hk]
  · rw [add_zero]

theorem DB.addUserQuota_stats (db : DB F) (userID delta : Int) :
    (db.addUserQuota userID delta).stats = db.stats := by
  unfold DB.addUserQuota
  split <;> rfl

theorem createReleased_stats
    (h : createReleasedMarketplaceSettlementTx db st now = .ok db') : db'.stats = db.stats := by
  rcases createReleased_ok h with rfl | ⟨_, rfl⟩
  · rfl
  unfold DB.paySettlement
  split
  · rfl
  · rw [DB.addUserQuota_stats]

theorem concurrency_closeActive (db : DB F) (credentialID : Int) :
    concurrency (db.saveStats (closeActiveFixedOrder
      (getOrCreateMarketplaceCredentialStatsForUpdate db credentialID))) = concurrency db := by
  refine concurrency_saveStats_same ?_
  obtain ⟨hid, hcnt⟩ := closeActive_concurrency
    (getOrCreateMarketplaceCredentialStatsForUpdate db credentialID)
  rw [hid, hcnt, getOrCreate_credentialID]
  rfl

theorem concurrency_saveOrder (h : db' = db ∨ ∃ order, db' = db.saveOrder order) :
    concurrency db' = concurrency db := by
  rcases h with rfl | ⟨order, rfl⟩
  · rfl
  · exact concurrency_of_stats rfl

end

/-! ## The calls of a fixed-order session -/

/-- A session has ended exactly when it has given its slot back. -/
def MarketplaceFixedOrderBillingSession.Ends (s : MarketplaceFixedOrderBillingSession F) : Prop :=
  s.capacityReleased = true ↔ s.settled = true ∨ s.refunded = true

structure FixedMove (s s' : MarketplaceFixedOrderBillingSession F) (db db' : DB F) : Prop where
  credential : s'.credentialID = s.credentialID
  ends : s'.Ends
  slot : SlotMove s.credentialID (!s.capacityReleased) (!s'.capacityReleased) (concurrency db)
    (concurrency db')

section

theorem FixedMove.refl (h : s.Ends) : FixedMove s s db db := ⟨rfl, h, .kept rfl rfl⟩

/-- The tables are rolled back, and the session holds another quota. -/
theorem FixedMove.withQuota (h : s.Ends) (quota : Int) : FixedMove s (s.withQuota quota) db db :=
  ⟨rfl, h, .kept rfl rfl⟩

theorem reserveDeltaTx_session (h : s.reserveDeltaTx db delta = .ok (s', db')) :
    ∃ quota, s' = s.withQuota quota := by
  rcases reserveDeltaTx_ok h with
    ⟨_, hs, _⟩ | ⟨_, order, _, _, _, hs, _⟩
  · exact ⟨s.preConsumedQuota, hs⟩
  · exact ⟨_, hs⟩

theorem releaseDeltaTx_session (h : s.releaseDeltaTx db delta = .ok (s', db')) :
    ∃ quota, s' = s.withQuota quota := by
  rcases releaseDeltaTx_ok h with
    ⟨_, hs, _⟩ | ⟨_, order, _, hs, _⟩
  · exact ⟨s.preConsumedQuota, hs⟩
  · exact ⟨_, hs⟩

theorem held_of_not_ended (h : s.Ends) (hopen : ¬ (s.settled ∨ s.refunded)) :
    s.capacityReleased = false := by
  cases hfree : s.capacityReleased with
  | false => rfl
  | true => exact absurd (h.mp hfree) hopen

variable [FloatOps F]

theorem settle_move (h : s.Ends) :
    FixedMove s (s.settle db commits actualQuota latencyMS now).session db
      (s.settle db commits actualQuota latencyMS now).db := by
  unfold settle
  split
  · exact .refl h
  split
  · exact .refl h
  rename_i hopen
  split
  · exact .refl h
  rename_i s₁ tx hresv
  have hs₁ := (settleReserve_adjusted hresv).1.session
  generalize s₁.preConsumedQuota = quota at hs₁
  subst hs₁
  split
  · exact .withQuota h quota
  rename_i tx' hrec
  split
  · obtain ⟨order, latency, tx₁, credential, stats, _, hcre, hid, hcnt, htx'⟩ :=
      settleRecord_ok hrec
    have htx : concurrency tx = concurrency db := concurrency_saveOrder (settleReserve_db hresv)
    have htx₁ : concurrency tx₁ = concurrency db := by
      rw [concurrency_of_stats (createReleased_stats hcre), ← htx]
      exact concurrency_of_stats rfl
    have hfrees : Frees s.credentialID (concurrency db) (concurrency tx') := by
      have hid' : stats.credentialID = s.credentialID :=
        hid.trans (getOrCreate_credentialID tx s.credentialID)
      have hcnt' : stats.currentConcurrency = freed (concurrency db s.credentialID) := by
        rw [hcnt, freeSlot_concurrency, ← htx]
        rfl
      rw [← htx₁, ← concurrency_saveOrder (closeExhausted_db tx₁ order)] at hcnt' ⊢
      rw [htx']
      exact frees_saveUse hid' hcnt'
    exact ⟨rfl, ⟨fun _ => .inl rfl, fun _ => rfl⟩,
      .given (by rw [held_of_not_ended h hopen]; rfl) rfl hfrees⟩
  · exact .withQuota h quota

omit [FloatOps F] in
theorem refund_move (h : s.Ends) :
    FixedMove s (s.refund db commits).session db (s.refund db commits).db := by
  unfold refund
  split
  · exact .refl h
  rename_i hguard
  have hheld := held_of_not_ended h fun hended => hguard (hended.imp id .inl)
  split
  · exact .refl h
  rename_i tx hrel
  obtain ⟨quota, rfl⟩ := releaseDeltaTx_session hrel
  have htx : concurrency tx = concurrency db := concurrency_saveOrder (releaseDeltaTx_db hrel)
  split
  · exact .withQuota h quota
  rename_i hcap
  split
  · rw [if_neg (show ¬ (s.withQuota quota).capacityReleased = true by
      show ¬ s.capacityReleased = true; simp [hheld])] at hcap
    obtain ⟨credential, _, rfl⟩ := saveCapacity_ok hcap
    refine ⟨rfl, ⟨fun _ => .inr rfl, fun _ => rfl⟩, .given (by rw [hheld]; rfl) rfl ?_⟩
    rw [← htx]
    refine frees_saveUse ?_ freeSlot_concurrency
    rw [freeSlot_credentialID]
    exact getOrCreate_credentialID tx s.credentialID
  · exact .withQuota h quota

theorem reserve_move (h : s.Ends) :
    FixedMove s (s.reserve db commits targetQuota).session db
      (s.reserve db commits targetQuota).db := by
  unfold reserve
  split
  · exact .refl h
  split
  · exact .refl h
  split
  · exact .refl h
  rename_i hresv
  obtain ⟨delta, -, hdlt⟩ := reserveTx_ok hresv
  obtain ⟨quota, rfl⟩ := reserveDeltaTx_session hdlt
  split
  · exact ⟨rfl, h, .kept rfl (concurrency_saveOrder (reserveDeltaTx_db hdlt))⟩
  · exact .withQuota h quota

theorem prepare_takes (h : prepareMarketplaceFixedOrderRelay settings db input now = .ok (s, db')) :
    s.capacityReleased = false ∧ s.Ends ∧
      Takes s.credentialID (concurrency db) (concurrency db') ∧
      ∀ credential, db.credentials.get s.credentialID = some credential →
        credential.concurrencyLimit ≤ 0 ∨
          concurrency db s.credentialID < credential.concurrencyLimit := by
  obtain ⟨order, credential, delta, -, -, hget, hlim, hresv⟩ := prepareFixed_ok h
  have hid : credential.id = order.credentialID := db.credentials.key_get hget
  obtain ⟨quota, rfl⟩ := reserveDeltaTx_session hresv
  refine ⟨rfl, ⟨nofun, fun hended => hended.elim nofun nofun⟩, ?_, ?_⟩
  · rw [concurrency_saveOrder (reserveDeltaTx_db hresv)]
    exact takes_saveUse hid
  intro credential' hget'
  obtain rfl := Option.some.inj (hget.symm.trans hget')
  rw [hid] at hlim
  by_cases hpos : credential.concurrencyLimit > 0
  · exact .inr (lt_of_not_ge fun hge => hlim ⟨hpos, hge⟩)
  · exact .inl (not_lt.mp hpos)

end

/-! ## The calls of a pool session -/

structure PoolMove (s s' : MarketplacePoolRelaySession F) (d d' : PoolDB F) : Prop where
  credential : s'.credentialID = s.credentialID
  ends : (s.settled = true → s.capacityReleased = true) →
    s'.settled = true → s'.capacityReleased = true
  slot : SlotMove s.credentialID (!s.capacityReleased) (!s'.capacityReleased) (concurrency d.db)
    (concurrency d'.db)

section

variable {d d' : PoolDB F} {s s' : MarketplacePoolRelaySession F}

theorem PoolMove.refl : PoolMove s s d d := ⟨rfl, id, .kept rfl rfl⟩

theorem releaseCapacity_move (s : MarketplacePoolRelaySession F) (d : PoolDB F) (commits : Bool) :
    PoolMove s (s.releaseCapacity d commits).1 d (s.releaseCapacity d commits).2 := by
  rcases releaseCapacity_cases s d commits with h | ⟨hheld, credential, _, h⟩ <;> rw [h]
  · exact .refl
  refine ⟨rfl, fun _ _ => rfl, .given (by rw [hheld]; rfl) rfl ?_⟩
  refine frees_saveUse ?_ freeSlot_concurrency
  rw [freeSlot_credentialID]
  exact getOrCreate_credentialID d.db s.credentialID

theorem releaseCapacity_given (h : (d.db.credentials.get s.credentialID).isSome) :
    (s.releaseCapacity d true).1.capacityReleased := by
  obtain ⟨credential, hget⟩ := Option.isSome_iff_exists.mp h
  unfold MarketplacePoolRelaySession.releaseCapacity
  split
  · assumption
  · simp [saveCapacity, DB.saveStats, hget, found, bind, Except.bind]

variable [FloatOps F]

/-- `Settle` of a session that has not given its slot back on another way. -/
theorem poolSession_move (hclean : s.capacityReleased → s.settled) :
    let c := s.settle d commits releases buyerCharge latencyMS now
    PoolMove s c.session d c.store := by
  unfold MarketplacePoolRelaySession.settle
  split
  · exact .refl
  split
  · exact .refl
  rename_i hopen
  have hheld : s.capacityReleased = false := by
    cases hfree : s.capacityReleased with
    | false => rfl
    | true => exact absurd (hclean hfree) hopen
  split
  · exact releaseCapacity_move s d releases
  rename_i htx
  split
  · obtain ⟨credential, db₁, stats, _, _, hcre, hid, hcnt, rfl⟩ := settleTx_ok htx
    have hdb₁ : concurrency db₁ = concurrency d.db :=
      concurrency_of_stats (createReleased_stats hcre)
    refine ⟨rfl, fun _ _ => rfl, .given (by rw [hheld]; rfl) rfl ?_⟩
    rw [← hdb₁]
    refine frees_saveUse (hid.trans (getOrCreate_credentialID d.db s.credentialID)) ?_
    rw [hcnt, freeSlot_concurrency, hdb₁]
    rfl
  · exact releaseCapacity_move s d releases

/-- `Settle` of a charge, when the release behind it commits. -/
theorem poolSession_given (hends : s.settled → s.capacityReleased)
    (hcred : (d.db.credentials.get s.credentialID).isSome)
    (hchg : 0 ≤ buyerCharge) :
    (s.settle d commits true buyerCharge latencyMS now).session.capacityReleased := by
  unfold MarketplacePoolRelaySession.settle
  rw [if_neg (not_lt.mpr hchg)]
  split
  · exact hends ‹_›
  split
  · exact releaseCapacity_given hcred
  split
  · rfl
  · exact releaseCapacity_given hcred

theorem poolSettle_move {s : MarketplacePoolBillingSession F}
    (hclean : s.pool.capacityReleased → s.pool.settled) (acc : Accounts)
    (d : PoolDB F) (w : PoolWrites) (actualQuota : Int) :
    let c := s.settle acc d w actualQuota
    PoolMove s.pool c.session.pool d c.store := by
  simp only [MarketplacePoolBillingSession.settle]
  split
  · exact poolSession_move hclean ..
  split
  · exact releaseCapacity_move ..
  · exact poolSession_move hclean ..

theorem poolSettle_given {s : MarketplacePoolBillingSession F}
    (hends : s.pool.settled → s.pool.capacityReleased)
    (hcred : (d.db.credentials.get s.pool.credentialID).isSome) (acc : Accounts)
    {w : PoolWrites} (hrel : w.releases)
    (hfits : ChargeFits actualQuota s.pool.platformFeeRateSnapshot) :
    (s.settle acc d w actualQuota).session.pool.capacityReleased := by
  have hchg := buyerCharge_nonneg hfits
  simp only [MarketplacePoolBillingSession.settle, MarketplacePoolBillingSession.settlePool, hrel]
  split
  · exact poolSession_given hends hcred hchg ..
  split
  · exact releaseCapacity_given hcred
  · exact poolSession_given hends hcred hchg ..

omit [FloatOps F] in
theorem refund_pool (s : MarketplacePoolBillingSession F) (acc : Accounts) (d : PoolDB F)
    (releases : Bool) : (s.refund acc d releases).session.pool =
      (s.pool.releaseCapacity d releases).1 := by
  unfold MarketplacePoolBillingSession.refund
  split <;> rfl

theorem poolPrepare_takes (h : prepareMarketplacePoolRelay settings better d input = .ok (s, d')) :
    s.capacityReleased = false ∧ s.settled = false ∧
      Takes s.credentialID (concurrency d.db) (concurrency d'.db) ∧
      ∀ credential, d.db.credentials.get s.credentialID = some credential →
        credential.concurrencyLimit ≤ 0 ∨
          concurrency d.db s.credentialID < credential.concurrencyLimit := by
  obtain ⟨c, hc, _, _, rfl, rfl⟩ := preparePool_ok h
  refine ⟨rfl, rfl, ?_, ?_⟩
  · rw [hc.stats]
    exact takes_saveUse rfl
  intro credential hget
  obtain rfl := Option.some.inj (hc.stored.symm.trans hget)
  have helig := hc.eligible
  simp only [isMarketplacePoolRelayEligible, isMarketplacePoolCredentialEligible,
    Bool.and_eq_true] at helig
  have hlim := helig.2.1.2
  simp only [Bool.not_eq_true', Bool.and_eq_false_iff, decide_eq_false_iff_not, hc.stats] at hlim
  exact hlim.imp not_lt.mp lt_of_not_ge

end

/-! ## Runs -/

/-- Every counter agrees with the sessions, and a session that has ended has
no slot. -/
structure Market.SlotsKept (m : Market F) : Prop where
  counted : ∀ credentialID, concurrency m.db credentialID = m.slotsInUse credentialID
  fixed_ends : ∀ s ∈ m.schedule.world.sessions, s.Ends
  pool_ends : ∀ s ∈ m.pool, s.pool.settled = true → s.pool.capacityReleased = true

/-- No session of `m` has taken a slot again in `m'`. -/
def Market.Stays (m m' : Market F) : Prop :=
  fixedSlots.Stays m.schedule.world.sessions m'.schedule.world.sessions ∧
    poolSlots.Stays m.pool m'.pool

/-- A slot of the credential is free. A limit that is not positive is none. -/
def Market.HasSlot (m : Market F) (credentialID : Int) : Prop :=
  ∀ credential ∈ m.db.credentials.get credentialID,
    credential.concurrencyLimit ≤ 0 ∨ m.slotsInUse credentialID < credential.concurrencyLimit

/-- An operation of the marketplace; `other` may write any counter. -/
def MarketAct.Internal : MarketAct F → Prop
  | .fixed (.run (.other ..) _) => False
  | _ => True

/-- `Settle` of a pool session is not called any more once the session gave
its slot back without being settled. -/
def Market.CleanSettle (m : Market F) : MarketAct F → Prop
  | .poolSettle i .. | .sessionSettle i .. =>
      ∀ s ∈ m.pool[i]?, s.pool.capacityReleased = true → s.pool.settled = true
  | _ => True

/-- The transaction that releases the slot of the `i`-th pool session works. -/
def Market.CanRelease (m : Market F) (s : MarketplacePoolBillingSession F) (releases : Bool) :
    Prop :=
  releases = true ∧ (m.db.credentials.get s.pool.credentialID).isSome

/-- Pool sessions start with funding that has something to refund, and every
later call can release the slot. -/
def Market.CleanupWorks [FloatOps F] (m : Market F) : MarketAct F → Prop
  | .poolPrepare _ _ _ funding _ => ∃ f ∈ funding, f.needsRefund = true
  | .poolSettle i _ w actualQuota => ∀ s ∈ m.pool[i]?,
      ChargeFits actualQuota s.pool.platformFeeRateSnapshot ∧ m.CanRelease s w.releases
  | .sessionSettle i w buyerCharge => ∀ s ∈ m.pool[i]?,
      0 ≤ buyerCharge ∧ m.CanRelease s w.releases
  | .poolRefund i _ releases | .sessionRelease i releases => ∀ s ∈ m.pool[i]?,
      m.CanRelease s releases
  | _ => True

instance (m : Market F) : (a : MarketAct F) → Decidable (m.CleanSettle a)
  | .poolSettle i .. | .sessionSettle i .. => inferInstanceAs (Decidable
      (∀ s ∈ m.pool[i]?, s.pool.capacityReleased = true → s.pool.settled = true))
  | .fixed .. | .poolPrepare .. | .poolRefund .. | .sessionRelease .. | .release .. =>
      isTrue trivial

instance (m : Market F) (s : MarketplacePoolBillingSession F) (releases : Bool) :
    Decidable (m.CanRelease s releases) :=
  inferInstanceAs (Decidable (_ ∧ _))

instance [FloatOps F] (m : Market F) : (a : MarketAct F) → Decidable (m.CleanupWorks a)
  | .poolPrepare _ _ _ funding _ =>
      inferInstanceAs (Decidable (∃ f ∈ funding, f.needsRefund = true))
  | .poolSettle i _ w actualQuota => inferInstanceAs (Decidable (∀ s ∈ m.pool[i]?,
      ChargeFits actualQuota s.pool.platformFeeRateSnapshot ∧ m.CanRelease s w.releases))
  | .sessionSettle i w buyerCharge => inferInstanceAs (Decidable (∀ s ∈ m.pool[i]?,
      0 ≤ buyerCharge ∧ m.CanRelease s w.releases))
  | .poolRefund i _ releases | .sessionRelease i releases =>
      inferInstanceAs (Decidable (∀ s ∈ m.pool[i]?, m.CanRelease s releases))
  | .fixed .. | .release .. => isTrue trivial

/-- The fixed-order half of the invariant; `rest` are the slots of the pool. -/
structure SlotWorld (rest : Int → Int) (w : World F) : Prop where
  counted : Counted fixedSlots (concurrency w.db) rest w.sessions
  ends : ∀ s ∈ w.sessions, s.Ends

/-- The half is kept, and what was given back stays given back. -/
def SlotNext (rest : Int → Int) (w w' : World F) : Prop :=
  SlotWorld rest w' ∧ fixedSlots.Stays w.sessions w'.sessions

section

variable {rest : Int → Int} {i : Nat}

theorem SlotWorld.next (h : SlotWorld rest w) : SlotNext rest w w := ⟨h, .refl _ _⟩

theorem SlotWorld.tables (h : SlotWorld rest w) (hsame : concurrency db = concurrency w.db) :
    SlotNext rest w { w with db } :=
  ⟨⟨fun k => (congrFun hsame k).trans (h.counted k), h.ends⟩, .refl _ _⟩

theorem SlotWorld.join (h : SlotWorld rest w) (hheld : s.capacityReleased = false) (hends : s.Ends)
    (htakes : Takes s.credentialID (concurrency w.db) (concurrency db)) :
    SlotNext rest w ⟨db, w.sessions ++ [s]⟩ := by
  have hhold : fixedSlots.holds s := by simp [fixedSlots, hheld]
  refine ⟨⟨h.counted.take hhold htakes, ?_⟩, .join _ _ _⟩
  intro s' hs'
  rcases mem_append.mp hs' with hold | hnew
  · exact h.ends s' hold
  · rw [mem_singleton.mp hnew]
    exact hends

theorem SlotWorld.call (h : SlotWorld rest w) (hrest : ∀ k, 0 ≤ rest k)
    (hi : w.sessions[i]? = some s)
    (hmove : FixedMove s s' w.db db) : SlotNext rest w ⟨db, w.sessions.set i s'⟩ := by
  refine ⟨⟨h.counted.move hrest hi hmove.credential hmove.slot, ?_⟩,
    .move hi hmove.credential hmove.slot⟩
  intro s₀ hs₀
  rcases mem_or_eq_of_mem_set hs₀ with hold | rfl
  · exact h.ends s₀ hold
  · exact hmove.ends

variable [FloatOps F] {now : Int}

theorem SlotWorld.expire (h : SlotWorld rest w) (copy : Option (MarketplaceFixedOrder F)) :
    SlotNext rest w (w.expire commits copy now).1 := by
  unfold World.expire
  split
  · exact h.next
  refine World.commit_rule (Q := SlotNext rest w) h.next fun db hok => h.tables ?_
  rcases expireFixedOrder_ok hok with ⟨_, rfl⟩ | ⟨_, tx, hfin, rfl⟩
  · rfl
  have htx : tx.stats = w.db.stats := by
    unfold settleMarketplaceFixedOrderFinalTx at hfin
    split at hfin
    · cases hfin
      rfl
    · exact createReleased_stats hfin
  exact (concurrency_closeActive _ _).trans (concurrency_of_stats htx)

theorem create_concurrency (h : createMarketplaceFixedOrder settings db input now = .ok db') :
    concurrency db' = concurrency db := by
  unfold createMarketplaceFixedOrder at h
  obtain ⟨purchased, -, h⟩ := seq_ok.mp h
  obtain ⟨_, -, h⟩ := seq_ok.mp h
  simp only [found_seq_ok, require_seq_ok] at h
  obtain ⟨credential, -, -, -, buyer, -, -, -, h⟩ := h
  obtain rfl := Except.ok.inj h
  rw [concurrency_saveStats_same]
  · exact concurrency_of_stats (DB.addUserQuota_stats _ _ _)
  dsimp only
  rw [getOrCreate_credentialID]
  exact congrFun (concurrency_of_stats (DB.addUserQuota_stats db _ _)).symm credential.id

omit [FloatOps F] in
theorem probeRefund_concurrency {buyerUserID fixedOrderID completion db'}
    (h : refundBuyerMarketplaceFixedOrderRemainingQuota db buyerUserID fixedOrderID completion
      now = .ok db') : concurrency db' = concurrency db := by
  unfold refundBuyerMarketplaceFixedOrderRemainingQuota at h
  simp only [found_seq_ok, require_seq_ok] at h
  obtain ⟨order, _, -, -, -, -, -, -, h⟩ := h
  obtain ⟨_, -, h⟩ := seq_ok.mp h
  obtain rfl := Except.ok.inj h
  refine (concurrency_of_stats (DB.addUserQuota_stats _ buyerUserID order.remainingQuota)).trans ?_
  exact (concurrency_closeActive _ order.credentialID).trans (concurrency_of_stats rfl)

theorem SlotWorld.step {c : Schedule F} (h : SlotWorld rest c.world) (hrest : ∀ k, 0 ≤ rest k)
    {act} (hact : (MarketAct.fixed act).Internal) :
    SlotNext rest c.world (c.step act).world := by
  cases act with
  | run op =>
    cases op with
    | create =>
      exact World.commit_rule (Q := SlotNext rest c.world) h.next
        fun db hok => h.tables (create_concurrency hok)
    | prepare =>
      refine World.openSession_rule (Q := SlotNext rest c.world) h.next fun s db hok => ?_
      obtain ⟨hheld, hends, htakes, _⟩ := prepare_takes hok
      exact h.join hheld hends htakes
    | reserve =>
      exact World.call_rule (Q := SlotNext rest c.world) h.next fun s hi =>
        h.call hrest hi (reserve_move (h.ends s (mem_of_getElem? hi)) ..)
    | settle =>
      exact World.call_rule (Q := SlotNext rest c.world) h.next fun s hi =>
        h.call hrest hi (settle_move (h.ends s (mem_of_getElem? hi)) ..)
    | refund =>
      exact World.call_rule (Q := SlotNext rest c.world) h.next fun s hi =>
        h.call hrest hi (refund_move (h.ends s (mem_of_getElem? hi)) ..)
    | detect =>
      refine World.commit_rule (Q := SlotNext rest c.world) h.next fun db hok => h.tables ?_
      obtain rfl := Except.ok.inj hok
      unfold recordMarketplaceFixedOrderRefundProbeCompletion
      split
      · rfl
      · split <;> rfl
    | probeRefund =>
      exact World.commit_rule (Q := SlotNext rest c.world) h.next
        fun db hok => h.tables (probeRefund_concurrency hok)
    | getBuyer | expireDue => exact h.expire _
    | other => exact hact.elim
  | readGetBuyer | readExpireDue => exact h.next
  | expireTx => exact h.expire _

end

namespace Market

variable {m m' : Market F} {i : Nat}

theorem SlotsKept.world (h : m.SlotsKept) :
    SlotWorld (fun k => poolSlots.inUse k m.pool) m.schedule.world :=
  ⟨h.counted, h.fixed_ends⟩

theorem Stays.refl (m : Market F) : m.Stays m := ⟨.refl _ _, .refl _ _⟩

theorem SlotsKept.poolCall (h : m.SlotsKept)
    (hf : ∀ s, m.pool[i]? = some s → PoolMove s.pool (f s).1.pool m.store (f s).2) :
    (m.poolCall i f).SlotsKept ∧ m.Stays (m.poolCall i f) := by
  unfold Market.poolCall
  split
  · exact ⟨h, .refl m⟩
  rename_i s hi
  obtain ⟨hkey, hends, hslot⟩ := hf s hi
  have hcount : Counted poolSlots (concurrency m.db)
      (fun k => fixedSlots.inUse k m.schedule.world.sessions) m.pool :=
    Counted.swap h.counted
  have hmoved : Counted poolSlots (concurrency (f s).2.db)
      (fun k => fixedSlots.inUse k m.schedule.world.sessions) (m.pool.set i (f s).1) :=
    hcount.move (fun k => fixedSlots.inUse_nonneg k _) hi hkey hslot
  refine ⟨⟨hmoved.swap, h.fixed_ends, ?_⟩, .refl _ _, .move hi hkey hslot⟩
  intro s₀ hs₀
  rcases mem_or_eq_of_mem_set hs₀ with hold | rfl
  · exact h.pool_ends s₀ hold
  · exact hends (h.pool_ends s (mem_of_getElem? hi))

variable [FloatOps F]

theorem SlotsKept.poolPrepare (h : m.SlotsKept) :
    let next := m.openPool commits funding
      (prepareMarketplacePoolRelay settings better m.store input)
    next.SlotsKept ∧ m.Stays next := by
  simp only [openPool]
  split
  · exact ⟨h, .refl m⟩
  rename_i s d hprep
  split
  · obtain ⟨hheld, hopen, htakes, _⟩ := poolPrepare_takes hprep
    have hcount : Counted poolSlots (concurrency m.db)
        (fun k => fixedSlots.inUse k m.schedule.world.sessions) m.pool :=
      Counted.swap h.counted
    have hhold : poolSlots.holds ⟨funding, s⟩ = true := by simp [poolSlots, hheld]
    have hjoin := hcount.take hhold htakes
    refine ⟨⟨hjoin.swap, h.fixed_ends, ?_⟩, .refl _ _, .join _ _ _⟩
    intro s₀ hs₀ hset
    rcases mem_append.mp hs₀ with hold | hnew
    · exact h.pool_ends s₀ hold hset
    · rw [mem_singleton.mp hnew, hopen] at hset
      cases hset
  · exact ⟨h, .refl m⟩

/-- **A step** keeps the counters, and gives back no slot twice. -/
theorem SlotsKept.step (h : m.SlotsKept) {a : MarketAct F} (hint : a.Internal)
    (hclean : m.CleanSettle a) : (m.step a).SlotsKept ∧ m.Stays (m.step a) := by
  cases a with
  | fixed =>
    obtain ⟨hworld, hstays⟩ :=
      h.world.step (fun k => poolSlots.inUse_nonneg k m.pool) hint
    exact ⟨⟨hworld.counted, hworld.ends, h.pool_ends⟩, hstays, .refl _ _⟩
  | poolPrepare => exact h.poolPrepare
  | poolSettle _ acc w actualQuota =>
    exact h.poolCall fun s hi => poolSettle_move (hclean s hi) acc m.store w actualQuota
  | poolRefund _ _ releases =>
    refine h.poolCall fun s hi => ?_
    dsimp only
    rw [refund_pool, refund_records]
    exact releaseCapacity_move s.pool m.store releases
  | sessionSettle =>
    exact h.poolCall fun s hi => poolSession_move (hclean s hi) ..
  | sessionRelease _ releases =>
    exact h.poolCall fun s hi => releaseCapacity_move s.pool m.store releases
  | release settings sellerUserID now limit clock commits =>
    simp only [Market.step, commitRelease]
    split
    · exact ⟨h, .refl m⟩
    rename_i db result hrel
    split
    · have hsame : concurrency db = concurrency m.db := by
        rcases releaseSettlements_ok hrel with rfl | rfl
        · rfl
        · exact concurrency_of_stats (DB.addUserQuota_stats _ _ _)
      exact ⟨⟨fun k => (congrFun hsame k).trans (h.counted k), h.fixed_ends, h.pool_ends⟩,
        .refl _ _, .refl _ _⟩
    · exact ⟨h, .refl m⟩

/-- **A run** keeps the counters, and gives back no slot twice. -/
theorem SlotsKept.run (h : m.SlotsKept) (hint : ∀ a ∈ acts, a.Internal)
    (hclean : Along Market.step CleanSettle m acts) :
    (exec Market.step m acts).SlotsKept ∧ m.Stays (exec Market.step m acts) := by
  induction acts generalizing m with
  | nil => exact ⟨h, .refl m⟩
  | cons a _ ih =>
    obtain ⟨hkept, hfixed, hpool⟩ := h.step (hint a mem_cons_self) hclean.1
    obtain ⟨hrest, hfix, hpoolR⟩ :=
      ih hkept (fun b hb => hint b (mem_cons_of_mem a hb)) hclean.2
    exact ⟨hrest, hfixed.trans hfix, hpool.trans hpoolR⟩

/-! ## The cleanup of the relay -/

/-- A pool session that still has a slot asks for a refund. -/
def SlotsReported (m : Market F) : Prop :=
  ∀ s ∈ m.pool, s.pool.capacityReleased = false → s.needsRefund = true

omit [FloatOps F] in
theorem SlotsReported.poolCall (h : m.SlotsReported)
    (hf : ∀ s, m.pool[i]? = some s → (f s).1.pool.capacityReleased) :
    (m.poolCall i f).SlotsReported := by
  unfold Market.poolCall
  split
  · exact h
  rename_i s hi
  intro s₀ hs₀ hheld
  rcases mem_or_eq_of_mem_set hs₀ with hold | rfl
  · exact h s₀ hold hheld
  · rw [hf s hi] at hheld
    cases hheld

theorem SlotsReported.step (h : m.SlotsReported) (hkept : m.SlotsKept) {a : MarketAct F}
    (hworks : m.CleanupWorks a) : (m.step a).SlotsReported := by
  have hends : ∀ {i : Nat} {s}, m.pool[i]? = some s → s.pool.settled →
      s.pool.capacityReleased :=
    fun hi => hkept.pool_ends _ (mem_of_getElem? hi)
  cases a with
  | fixed => exact h
  | poolPrepare =>
    obtain ⟨f, rfl, hneeds⟩ := hworks
    simp only [Market.step, Market.openPool]
    split
    · exact h
    split
    · intro s₀ hs₀ hheld
      rcases mem_append.mp hs₀ with hold | hnew
      · exact h s₀ hold hheld
      · rw [mem_singleton.mp hnew]
        exact hneeds
    · exact h
  | poolSettle _ acc =>
    refine h.poolCall fun s hi => ?_
    obtain ⟨hfits, hrel, hcred⟩ := hworks s hi
    exact poolSettle_given (hends hi) hcred acc hrel hfits
  | poolRefund =>
    refine h.poolCall fun s hi => ?_
    obtain ⟨rfl, hcred⟩ := hworks s hi
    rw [refund_pool]
    exact releaseCapacity_given hcred
  | sessionSettle =>
    refine h.poolCall fun s hi => ?_
    obtain ⟨hchg, hrel, hcred⟩ := hworks s hi
    rw [hrel]
    exact poolSession_given (hends hi) hcred hchg ..
  | sessionRelease =>
    refine h.poolCall fun s hi => ?_
    obtain ⟨rfl, hcred⟩ := hworks s hi
    exact releaseCapacity_given hcred
  | release =>
    simp only [Market.step, commitRelease]
    split
    · exact h
    split
    · exact h
    · exact h

theorem SlotsReported.run (h : m.SlotsReported) (hkept : m.SlotsKept)
    (hint : ∀ a ∈ acts, a.Internal) (hclean : Along Market.step CleanSettle m acts)
    (hworks : Along Market.step CleanupWorks m acts) : (exec Market.step m acts).SlotsReported := by
  induction acts generalizing m with
  | nil => exact h
  | cons a _ ih =>
    have hnext := (hkept.step (hint a mem_cons_self) hclean.1).1
    exact ih (h.step hkept hworks.1) hnext (fun b hb => hint b (mem_cons_of_mem a hb))
      hclean.2 hworks.2

end Market

theorem needsRefund_of_held (h : s.Ends) (hheld : s.capacityReleased = false) :
    s.needsRefund := by
  have hopen : ¬ (s.settled ∨ s.refunded) := fun hended => by
    rw [h.mpr hended] at hheld
    cases hheld
  simp_all [needsRefund]

/-- No session exists and every counter is zero. -/
structure Market.Idle (m : Market F) : Prop where
  sessions : m.schedule.world.sessions = []
  pool : m.pool = []
  concurrency : ∀ credentialID, concurrency m.db credentialID = 0

theorem Market.Idle.slotsKept {m : Market F} (h : m.Idle) : m.SlotsKept where
  counted credentialID := by
    unfold slotsInUse
    rw [h.sessions, h.pool, h.concurrency]
    rfl
  fixed_ends := by
    rw [h.sessions]
    exact fun _ hs => absurd hs not_mem_nil
  pool_ends := by
    rw [h.pool]
    exact fun _ hs => absurd hs not_mem_nil

/-- **Concurrency slots.** In every run that settles no pool session after its
slot was given back otherwise, the counter of each credential is the number of
sessions that have a slot, no slot is given back twice, a `Prepare` succeeds
only when a slot is free, and a fixed-order session with a slot asks for a
refund. A pool session with a slot does so in every run in which its funding
has something to refund and the releases work. -/
theorem slots_counted [FloatOps F] (m : Market F) (acts : List (MarketAct F)) (hidle : m.Idle)
    (hinternal : ∀ a ∈ acts, a.Internal) (hclean : Along step CleanSettle m acts) :
    let m' := exec step m acts
    (∀ credentialID, concurrency m'.db credentialID = m'.slotsInUse credentialID) ∧
    (∀ xs ys, acts = xs ++ ys → (exec step m xs).Stays m') ∧
    (∀ settings input now s db,
      prepareMarketplaceFixedOrderRelay settings m'.db input now = .ok (s, db) →
        m'.HasSlot s.credentialID) ∧
    (∀ settings better input s d,
      prepareMarketplacePoolRelay settings better m'.store input = .ok (s, d) →
        m'.HasSlot s.credentialID) ∧
    (∀ s ∈ m'.schedule.world.sessions, s.capacityReleased = false → s.needsRefund = true) ∧
    (Along step CleanupWorks m acts →
      ∀ s ∈ m'.pool, s.pool.capacityReleased = false → s.needsRefund = true) := by
  have hkept := (hidle.slotsKept.run hinternal hclean).1
  refine ⟨hkept.counted, ?_, ?_, ?_, ?_, ?_⟩
  · rintro xs ys rfl
    rw [along_append] at hclean
    have hmid := (hidle.slotsKept.run (fun a ha => hinternal a (mem_append_left ys ha)) hclean.1).1
    rw [exec_append]
    exact (hmid.run (fun a ha => hinternal a (mem_append_right xs ha)) hclean.2).2
  · intro settings input now s db hprepare credential hget
    rw [← hkept.counted]
    exact (prepare_takes hprepare).2.2.2 credential hget
  · intro settings better input s d hprepare credential hget
    rw [← hkept.counted]
    exact (poolPrepare_takes hprepare).2.2.2 credential hget
  · exact fun s hs => needsRefund_of_held (hkept.fixed_ends s hs)
  intro hworks
  refine SlotsReported.run ?_ hidle.slotsKept hinternal hclean hworks
  unfold SlotsReported
  rw [hidle.pool]
  exact fun _ hs => absurd hs not_mem_nil

/-! ### Two pool requests on one credential -/

def sampleIdle : Market ℚ where
  schedule := { world := { db := samplePoolDB.db } }

theorem sampleIdle_idle : sampleIdle.Idle := ⟨rfl, rfl, fun _ => rfl⟩

def samplePrepare (requestID : String) (funding : Option BillingSession) : MarketAct ℚ :=
  .poolPrepare samplePoolSettings (fun _ _ => true) ⟨3, "gpt", requestID, [1]⟩ funding true

def sampleFunding : BillingSession where
  relayInfo := {}
  funding := .wallet 10
  preConsumedQuota := 10
  tokenConsumed := 10

/-- Two requests are prepared, and the first one is refunded. -/
def sampleRequests : List (MarketAct ℚ) :=
  [samplePrepare "req-1" (some sampleFunding), samplePrepare "req-2" (some sampleFunding),
   .poolRefund 0 {} true]

/-- One slot is in use, and the session that has it asks for a refund. -/
theorem slots_counted_sample :
    let m := exec step sampleIdle sampleRequests
    concurrency m.db 1 = m.slotsInUse 1 ∧ m.slotsInUse 1 = 1 ∧
      m.pool.map (fun s => (s.pool.capacityReleased, s.needsRefund)) =
        [(true, false), (false, true)] ∧
      ∀ s ∈ m.pool, s.pool.capacityReleased = false → s.needsRefund = true := by
  have h := slots_counted sampleIdle sampleRequests sampleIdle_idle
    (by simp [sampleRequests, samplePrepare, MarketAct.Internal]) (by decide +kernel)
  exact ⟨h.1 1, by decide +kernel, by decide +kernel, h.2.2.2.2.2 (by decide +kernel)⟩

/-- **A slot given back twice.** The first of two requests is released and
settled afterwards: the counter says zero while the second request has a slot.
And a request without funding has a slot but asks for no refund. -/
theorem slot_given_back_twice :
    let m := exec step sampleIdle [samplePrepare "req-1" none, samplePrepare "req-2" none,
      .sessionRelease 0 true, .sessionSettle 0 {} 110]
    let free := exec step sampleIdle [samplePrepare "req-1" none]
    concurrency m.db 1 = 0 ∧ m.slotsInUse 1 = 1 ∧
      free.slotsInUse 1 = 1 ∧ free.pool.map (·.needsRefund) = [false] := by
  decide +kernel

end HermesToken.Marketplace
