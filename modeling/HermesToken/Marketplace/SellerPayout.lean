import HermesToken.Marketplace.Market

/-!
# What sellers are paid

Four operations credit a seller: the settlement of a fixed-order request, the
final settlement of an expired order, the settlement of a pool request, and the
release of settlements that were pending. Every step of the market PAYS in the
sense of `HermesToken.Lib.Payroll`, so a whole run does.
-/

namespace HermesToken.Marketplace

open Lib MarketplaceFixedOrderBillingSession Market

variable {F : Type} {st : MarketplaceSettlement F}

/-- The step pays the settlements that it makes available, leaves none pending that
was not, and keeps fee and income the two parts of the charge. -/
structure Paying (db db' : DB F) : Prop where
  pays : (db.settlements.map (·.requestID)).Nodup → payRule.Pays db.payroll db'.payroll
  pending : (pendingSettlements db'.settlements).Sublist (pendingSettlements db.settlements)
  fair : (∀ st ∈ db.settlements, Fair st) → ∀ st ∈ db'.settlements, Fair st

namespace Paying

variable {db db₁ db' : DB F}

theorem refl (db : DB F) : Paying db db := ⟨fun h => .refl h, .refl _, fun h => h⟩

theorem trans (h : Paying db db₁) (h' : Paying db₁ db') : Paying db db' :=
  ⟨fun huniq => (h.pays huniq).trans (h'.pays (h.pays huniq).unique), h'.pending.trans h.pending,
    fun hfair => h'.fair (h.fair hfair)⟩

theorem of_same (husers : db'.users = db.users) (hsettle : db'.settlements = db.settlements) :
    Paying db db' := by
  refine ⟨fun huniq => .of_same huniq hsettle ?_, by rw [hsettle], fun hfair => ?_⟩
  · unfold DB.payroll
    rw [husers]
  · rw [hsettle]
    exact hfair

theorem create (h : createReleasedMarketplaceSettlementTx db st now = .ok db')
    (hfair : 0 < st.buyerCharge → Fair st) : Paying db db' := by
  rcases createReleased_ok h with rfl | ⟨hpay, rfl⟩
  · exact refl _
  refine ⟨fun huniq => hpay.pays huniq now, ?_, fun hold st' hst' => ?_⟩
  · rw [DB.paySettlement_settlements, pendingSettlements, List.filter_append]
    simp [MarketplaceSettlement.released, pendingSettlements]
  rw [DB.paySettlement_settlements] at hst'
  rcases List.mem_append.mp hst' with hmem | hnew
  · exact hold st' hmem
  rw [List.mem_singleton.mp hnew]
  obtain ⟨hfee, hinc, hsum⟩ := hfair hpay.charge
  exact ⟨hfee, hinc, hsum⟩

/-- Tables that differ from paying ones in neither users nor settlements. -/
theorem then_same (h : Paying db db₁) (husers : db'.users = db₁.users)
    (hsettle : db'.settlements = db₁.settlements) : Paying db db' :=
  h.trans (of_same husers hsettle)

end Paying

variable [FloatOps F]

/-- The fee taken out of a charge leaves the income. -/
theorem fair_of_charge (hchg : 0 < st.buyerCharge) (rate : F)
    (hfee : st.platformFee = marketplacePlatformFeeFromBuyerCharge st.buyerCharge rate)
    (hinc : st.sellerIncome = st.buyerCharge - st.platformFee) : Fair st := by
  have hbound := feeFromBuyerCharge_bounds hchg.le rate
  rw [← hfee] at hbound
  exact ⟨hbound.1, by omega, by omega⟩

/-! ## Fixed orders -/

section

variable {db db' : DB F} {s s' : MarketplaceFixedOrderBillingSession F} {w : World F}
  {commits : Bool} {now : Int}

omit [FloatOps F] in
theorem paying_of_saveOrder (h : db' = db ∨ ∃ order, db' = db.saveOrder order) :
    Paying db db' := by
  rcases h with rfl | ⟨order, rfl⟩
  · exact .refl _
  · exact .of_same rfl rfl

theorem settleRecord_paying (h : s.settleRecord db latencyMS now = .ok db') :
    Paying db db' := by
  obtain ⟨order, latency, tx, credential, stats, _, htx, _, _, rfl⟩ := settleRecord_ok h
  have hcre := Paying.create htx fun hpos => fair_of_charge hpos s.platformFeeRateSnapshot rfl rfl
  have htx : Paying db tx := by
    refine .trans ?_ hcre
    exact .of_same rfl rfl
  exact (htx.trans (paying_of_saveOrder (closeExhausted_db tx order))).then_same rfl rfl

theorem settle_paying (s : MarketplaceFixedOrderBillingSession F) (db : DB F) (commits : Bool)
    (actualQuota latencyMS now : Int) :
    Paying db (s.settle db commits actualQuota latencyMS now).db := by
  unfold settle
  split
  · exact .refl _
  split
  · exact .refl _
  split
  · exact .refl _
  rename_i hresv
  split
  · exact .refl _
  rename_i hrec
  split
  · exact (paying_of_saveOrder (settleReserve_db hresv)).trans (settleRecord_paying hrec)
  · exact .refl _

omit [FloatOps F] in
theorem releaseCapacityTx_paying (h : s.releaseCapacityTx db = .ok db') : Paying db db' := by
  obtain ⟨credential, _, rfl⟩ := saveCapacity_ok h
  exact .of_same rfl rfl

omit [FloatOps F] in
theorem refund_paying (s : MarketplaceFixedOrderBillingSession F) (db : DB F) (commits : Bool) :
    Paying db (s.refund db commits).db := by
  unfold refund
  split
  · exact .refl _
  split
  · exact .refl _
  rename_i tx hrel
  have htx : Paying db tx := paying_of_saveOrder (releaseDeltaTx_db hrel)
  split
  · exact .refl _
  rename_i hcap
  split
  · split at hcap
    · cases hcap
      exact htx
    · exact htx.trans (releaseCapacityTx_paying hcap)
  · exact .refl _

theorem reserve_paying (s : MarketplaceFixedOrderBillingSession F) (db : DB F) (commits : Bool)
    (targetQuota : Int) : Paying db (s.reserve db commits targetQuota).db := by
  unfold reserve
  split
  · exact .refl _
  split
  · exact .refl _
  split
  · exact .refl _
  rename_i hresv
  split
  · obtain ⟨delta, -, hdlt⟩ := reserveTx_ok hresv
    exact paying_of_saveOrder (reserveDeltaTx_db hdlt)
  · exact .refl _

theorem prepare_paying
    (h : prepareMarketplaceFixedOrderRelay settings db input now = .ok (s, db')) :
    Paying db db' := by
  obtain ⟨order, credential, delta, -, -, -, -, hresv⟩ := prepareFixed_ok h
  have hslot : Paying db (db.saveUse credential (takeSlot
      (getOrCreateMarketplaceCredentialStatsForUpdate db credential.id))) := .of_same rfl rfl
  exact hslot.trans (paying_of_saveOrder (reserveDeltaTx_db hresv))

theorem expireTx_paying
    (h : expireMarketplaceFixedOrderTx db order now = .ok db') : Paying db db' := by
  rcases expireFixedOrder_ok h with ⟨_, rfl⟩ | ⟨_, tx, hfin, rfl⟩
  · exact .refl _
  unfold settleMarketplaceFixedOrderFinalTx at hfin
  split at hfin
  · cases hfin
    exact .of_same rfl rfl
  have hcre : Paying db tx := .create hfin
    fun hpos => fair_of_charge hpos order.platformFeeRateSnapshot rfl rfl
  exact hcre.then_same rfl rfl

theorem expire_paying :
    Paying w.db (w.expire commits copy now).1.db := by
  unfold World.expire
  split
  · exact .refl _
  · exact World.commit_rule (Q := fun w' => Paying w.db w'.db) (.refl _)
      fun db hok => expireTx_paying hok

end

/-- The operations that a payout is about, and those that prepare them. A
purchase and a probe refund move the quota of a user who BUYS, and `other`
stands for whatever else there is. -/
def Act.Sells : Act F → Prop
  | .run (.create ..) _ | .run (.probeRefund ..) _ | .run (.other ..) _ => False
  | _ => True

theorem fixed_paying (c : Schedule F) (hact : act.Sells) :
    Paying c.world.db (c.step act).world.db := by
  cases act with
  | run op commits =>
    cases op with
    | create | probeRefund | other => exact hact.elim
    | prepare =>
      exact World.openSession_rule (Q := fun w => Paying c.world.db w.db) (.refl _)
        fun s db hok => prepare_paying hok
    | reserve _ targetQuota =>
      exact World.call_rule (Q := fun w => Paying c.world.db w.db) (.refl _)
        fun s _ => reserve_paying s c.world.db commits targetQuota
    | settle _ actualQuota latencyMS now =>
      exact World.call_rule (Q := fun w => Paying c.world.db w.db) (.refl _)
        fun s _ => settle_paying s c.world.db commits actualQuota latencyMS now
    | refund =>
      exact World.call_rule (Q := fun w => Paying c.world.db w.db) (.refl _)
        fun s _ => refund_paying s c.world.db commits
    | detect =>
      refine World.commit_rule (Q := fun w => Paying c.world.db w.db) (.refl _) fun db hok => ?_
      obtain rfl := Except.ok.inj hok
      unfold recordMarketplaceFixedOrderRefundProbeCompletion
      split
      · exact .refl _
      split
      · exact .of_same rfl rfl
      · exact .refl _
    | getBuyer | expireDue => exact expire_paying
  | readGetBuyer | readExpireDue => exact .refl _
  | expireTx => exact expire_paying

/-! ## The pool -/

section

variable {d d' : PoolDB F}

omit [FloatOps F] in
theorem releaseCapacity_paying (s : MarketplacePoolRelaySession F) (d : PoolDB F) (commits : Bool) :
    Paying d.db (s.releaseCapacity d commits).2.db := by
  rcases releaseCapacity_cases s d commits with h | ⟨_, credential, _, h⟩ <;> rw [h]
  · exact .refl _
  · exact .of_same rfl rfl

theorem poolSession_paying (s : MarketplacePoolRelaySession F) (d : PoolDB F)
    (commits releases : Bool) (buyerCharge latencyMS now : Int) :
    Paying d.db (s.settle d commits releases buyerCharge latencyMS now).store.db := by
  unfold MarketplacePoolRelaySession.settle
  split
  · exact .refl _
  split
  · exact .refl _
  split
  · exact releaseCapacity_paying s d releases
  rename_i htx
  split
  · obtain ⟨credential, db₁, stats, _, _, hcre, _, _, rfl⟩ := settleTx_ok htx
    have hpaid : Paying d.db db₁ := .create hcre
      fun hpos => fair_of_charge hpos s.platformFeeRateSnapshot rfl rfl
    exact hpaid.then_same rfl rfl
  · exact releaseCapacity_paying s d releases

theorem poolSettle_paying (s : MarketplacePoolBillingSession F) (acc : Billing.Accounts)
    (d : PoolDB F) (w : PoolWrites) (actualQuota : Int) :
    Paying d.db (s.settle acc d w actualQuota).store.db := by
  simp only [MarketplacePoolBillingSession.settle]
  split
  · exact poolSession_paying ..
  split
  · exact releaseCapacity_paying ..
  · exact poolSession_paying ..

end

/-! ## Runs -/

def MarketAct.Sells : MarketAct F → Prop
  | .fixed act => act.Sells
  | _ => True

/-- The settlements that became available between two states. -/
def creditedSettlements (db db' : DB F) : List (MarketplaceSettlement F) :=
  payRule.gained db.settlements db'.settlements

section

variable {m : Market F}

omit [FloatOps F] in
theorem poolCall_paying (hf : ∀ s, Paying m.db (f s).2.db) : Paying m.db (m.poolCall i f).db := by
  unfold poolCall
  split
  · exact .refl _
  · exact hf _

omit [FloatOps F] in
theorem release_paying {db db' : DB F} {sellerUserID : Int}
    (hrel : releaseSellerAvailableMarketplaceSettlements settings db sellerUserID now limit clock =
      .ok (db', result)) (hfits : PendingFits db.settlements) : Paying db db' := by
  refine ⟨fun huniq => releaseSettlements_pays hrel huniq hfits, ?_, ?_⟩ <;>
    rcases releaseSettlements_ok hrel with rfl | rfl
  · exact .refl _
  · rw [DB.addUserQuota_settlements]
    exact pending_markSettlements
  · exact id
  · rw [DB.addUserQuota_settlements]
    exact fair_markSettlements

/-- **A step** pays what it makes available. A release adds the incomes up before
it credits them, which is where they have to fit. -/
theorem Market.paying_step (hsells : a.Sells) (hfits : PendingFits m.db.settlements) :
    Paying m.db (m.step a).db := by
  cases a with
  | fixed => exact fixed_paying m.schedule hsells
  | poolPrepare settings better input funding commits =>
    simp only [step, openPool]
    split
    · exact .refl _
    rename_i s d hprep
    obtain ⟨c, _, _, _, _, rfl⟩ := preparePool_ok hprep
    split
    · exact .of_same rfl rfl
    · exact .refl _
  | poolSettle _ acc w actualQuota =>
    exact poolCall_paying fun s => poolSettle_paying s acc m.store w actualQuota
  | poolRefund _ _ releases =>
    refine poolCall_paying fun s => ?_
    dsimp only
    rw [refund_records]
    exact releaseCapacity_paying s.pool m.store releases
  | sessionSettle _ w buyerCharge =>
    exact poolCall_paying fun s => poolSession_paying s.pool m.store w.commits w.releases
      buyerCharge w.latencyMS w.now
  | sessionRelease _ releases =>
    exact poolCall_paying fun s => releaseCapacity_paying s.pool m.store releases
  | release settings sellerUserID now limit clock commits =>
    simp only [step, commitRelease]
    split
    · exact .refl _
    rename_i hrel
    split
    · exact release_paying hrel hfits
    · exact .refl _

/-- **A run**, by the run rule: it pays as a whole. -/
theorem Market.paying_run (hsells : ∀ a ∈ acts, a.Sells) (hfits : PendingFits m.db.settlements) :
    Paying m.db (exec step m acts).db := by
  induction acts generalizing m with
  | nil => exact .refl _
  | cons a _ ih =>
    have hstep := paying_step (hsells a List.mem_cons_self) hfits
    exact hstep.trans (ih (fun b hb => hsells b (List.mem_cons_of_mem a hb))
      (hfits.mono hstep.pending))

/-- **Seller payout.** In every run from tables in which no seller's pending incomes
exceed 64 bits, each seller gets exactly the incomes of the settlements that become
available, no request id is credited by two parts of the run, request ids stay
unique, and fee and income stay the two parts of the charge. -/
theorem sellers_paid (m : Market F) (acts : List (MarketAct F)) (hsells : ∀ a ∈ acts, a.Sells)
    (hunique : (m.db.settlements.map (·.requestID)).Nodup)
    (hpending : PendingFits m.db.settlements) :
    let db := (exec step m acts).db
    (∀ seller, (db.users.get seller).map (·.quota) =
      ((m.db.users.get seller).map (·.quota)).map (· + keyedSum (·.sellerUserID) (·.sellerIncome)
        seller (creditedSettlements m.db db))) ∧
    (∀ xs ys, acts = xs ++ ys →
      ∀ st ∈ creditedSettlements m.db (exec step m xs).db,
      ∀ st' ∈ creditedSettlements (exec step m xs).db db, st.requestID ≠ st'.requestID) ∧
    (db.settlements.map (·.requestID)).Nodup ∧
    ((∀ st ∈ m.db.settlements, Fair st) → ∀ st ∈ db.settlements, Fair st) := by
  have hpaying := paying_run hsells hpending
  refine ⟨(hpaying.pays hunique).balance, ?_, (hpaying.pays hunique).unique, hpaying.fair⟩
  rintro xs ys rfl st hst st' hst'
  exact PayRule.Pays.gained_disjoint hst hst'

end

/-! ### A pool request of 110 and pending settlements -/

/-- A settlement of seller 2 that waits to be released. -/
def samplePending (requestID : String) (income : Int) : MarketplaceSettlement ℚ where
  requestID := requestID
  buyerUserID := 3
  sellerUserID := 2
  credentialID := 1
  sourceType := .poolFill
  sourceID := 0
  buyerCharge := income
  platformFee := 0
  platformFeeRateSnapshot := 0
  sellerIncome := income
  officialCost := income
  multiplierSnapshot := 1
  availableAt := 5

def sampleMarket (settlements : List (MarketplaceSettlement ℚ)) : Market ℚ where
  schedule := { world := { db := { samplePoolDB.db with settlements } } }

/-- A pool request is prepared and settled twice, and two releases are tried. -/
def sampleSales : List (MarketAct ℚ) :=
  [.poolPrepare samplePoolSettings (fun _ _ => true) ⟨3, "gpt", "req-1", [1]⟩ none true,
   .sessionSettle 0 { now := 10 } 110,
   .sessionSettle 0 { now := 11 } 110,
   .release samplePoolSettings 2 20 0 20 true,
   .release samplePoolSettings 2 21 0 21 true]

/-- Of the charge of 110 the seller gets 100, and 40 were pending. -/
theorem sellers_paid_sample :
    let m := sampleMarket [samplePending "req-0" 40]
    let db := (exec step m sampleSales).db
    (db.users.get 2).map (·.quota) = some 140 ∧
      keyedSum (·.sellerUserID) (·.sellerIncome) 2 (creditedSettlements m.db db) = 140 := by
  have h := sellers_paid (sampleMarket [samplePending "req-0" 40]) sampleSales
    (by simp [sampleSales, MarketAct.Sells]) (by decide) fun seller => by
      by_cases h : 2 = seller <;> simp [sampleMarket, samplePending, waitingSettlements,
        pendingSettlements, Market.db, h, maxInt64]
  have hquota : ((exec step (sampleMarket [samplePending "req-0" 40])
      sampleSales).db.users.get 2).map (·.quota) = some 140 := by decide +kernel
  have hstart : ((sampleMarket [samplePending "req-0" 40]).db.users.get 2).map (·.quota) =
      some 0 := by decide +kernel
  have hcredit := h.1 2
  rw [hquota] at hcredit
  refine ⟨hquota, ?_⟩
  exact (Int.zero_add _).symm.trans (Option.some.inj hcredit).symm

end HermesToken.Marketplace
