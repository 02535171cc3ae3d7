import HermesToken.Lib.Run
import HermesToken.Payment.CryptoStore

/-!
# Runs of the crypto payment store

The functions of the store executed one after the other, on a clock that
never goes back. For each of them, what it can have done to the store.
-/

namespace HermesToken.Payment

open Lib List

variable {rates : Rates} {evidence : CryptoTxEvidence}

/-- The operations on the store. -/
inductive CryptoOp where
  | create (input : CreateCryptoTopUpOrderInput)
  | expire (tradeNo : String)
  | record (transfer : CryptoObservedTransfer)
  | completeReady (network : String)
  | adminComplete (tradeNo reason : String) (evidence : CryptoTxEvidence)

/-- A transaction that fails leaves the store as it was. -/
def CryptoStore.commit (st : CryptoStore) : Except String CryptoStore → CryptoStore
  | .ok st' => st'
  | .error _ => st

def CryptoStore.apply (rates : Rates) (now : Int) (st : CryptoStore) : CryptoOp → CryptoStore
  | .create input => st.commit (st.createCryptoTopUpOrder now input)
  | .expire tradeNo => st.expireCryptoPaymentOrderIfNeeded now tradeNo
  | .record transfer => st.recordCryptoTransfer now transfer
  | .completeReady network => st.completeReadyCryptoOrders rates now network
  | .adminComplete tradeNo reason evidence =>
    st.commit (st.adminCompleteCryptoTopUp rates now tradeNo reason evidence)

structure CryptoWorld where
  store : CryptoStore := {}
  clock : Int := 0

/-- An operation some time after the one before. -/
structure CryptoAct where
  wait : Nat
  op : CryptoOp

/-- The time of the next operation. -/
def CryptoWorld.now (w : CryptoWorld) (act : CryptoAct) : Int := w.clock + act.wait

def CryptoWorld.step (rates : Rates) (w : CryptoWorld) (act : CryptoAct) : CryptoWorld where
  store := w.store.apply rates (w.now act) act.op
  clock := w.now act

/-! ## What an operation does -/

namespace CryptoStore

variable {st : CryptoStore} {now : Int}

/-- A created order is new, pending, and asks for an amount that no active
order asks for. -/
theorem createCryptoTopUpOrder_ok (h : st.createCryptoTopUpOrder now input = .ok st') :
    ∃ payAmount payBaseUnits suffix,
      cryptoPayAmountFromSuffix input.amount input.tokenDecimals suffix =
        .ok (payAmount, payBaseUnits) ∧
      st.collides (normalizeCryptoNetwork input.network) (trimSpace input.receiveAddress)
        payBaseUnits now = false ∧
      (∀ o ∈ st.orders, o.tradeNo ≠ input.tradeNo) ∧
      st' = st.insertOrder (st.newOrder now input payAmount payBaseUnits)
        (st.newTopUp now input suffix) := by
  simp only [createCryptoTopUpOrder, seq_ok, require_ok, exists_const] at h
  obtain ⟨_, h⟩ := h
  generalize input.suffixes = suffixes at h
  generalize 20 = attempts at h
  induction suffixes generalizing attempts with
  | nil => cases attempts <;> cases h
  | cons suffix rest ih =>
  cases attempts with
  | zero => cases h
  | succ attempts =>
  simp only [createAttempts] at h
  split at h
  · cases h
  rename_i hpay
  split at h
  · exact ih attempts h
  rename_i hfree
  split at h
  · cases h
  rename_i hnew
  cases h
  exact ⟨_, _, _, hpay, by simpa using hfree, by simpa using hnew, rfl⟩

theorem expireCryptoOrder_cases (now : Int) (tradeNo : String) :
    st.expireCryptoPaymentOrderIfNeeded now tradeNo = st ∨
      ∃ order ∈ st.orders, order.status = .pending ∧ order.expiresAt < now ∧
        st.expireCryptoPaymentOrderIfNeeded now tradeNo =
          st.saveOrder { order with status := .expired, updateTime := now } := by
  simp only [expireCryptoPaymentOrderIfNeeded]
  cases hfind : st.orderByTradeNo (trimSpace tradeNo) with
  | none => exact .inl rfl
  | some order =>
  simp only [CryptoPaymentOrder.expireIfNeeded]
  by_cases hkeep : order.status ≠ .pending ∨ order.isExpired now = false
  · exact .inl (by rw [if_pos hkeep])
  rw [if_neg hkeep]
  push Not at hkeep
  refine .inr ⟨order, orderByTradeNo_some hfind, hkeep.1, ?_, rfl⟩
  have hexp := hkeep.2
  simp only [CryptoPaymentOrder.isExpired] at hexp
  split at hexp
  · exact absurd rfl hexp
  · simpa using hexp

section

variable (st now) (transfer : CryptoObservedTransfer)

/-- The row of a recorded transfer is new, or the known one with its
confirmations brought up to date. -/
theorem observe_cases :
    ((∀ r ∈ st.transactions, r.key ≠ (transfer.row now).key) ∧
      st.observe now transfer = transfer.row now) ∨
    ∃ known ∈ st.transactions, known.key = (transfer.row now).key ∧
      st.observe now transfer =
        { known with confirmations := transfer.confirmations, updateTime := now } := by
  simp only [observe]
  cases hfind : st.transaction (transfer.row now).network (transfer.row now).txHash
      (transfer.row now).logIndex with
  | none => exact .inl ⟨fun r hr => transaction_none hfind hr, rfl⟩
  | some known =>
    obtain ⟨hmem, hkey⟩ := transaction_some hfind
    exact .inr ⟨known, hmem, hkey, rfl⟩

theorem observe_key : (st.observe now transfer).key = (transfer.row now).key := by
  rcases st.observe_cases now transfer with ⟨_, h⟩ | ⟨known, _, hkey, h⟩
  · rw [h]
  · rw [h]
    exact hkey

end

/-- The four ways the recording of a transfer can end. `saved` is its row. -/
theorem recordCryptoTransfer_cases (now : Int) (transfer : CryptoObservedTransfer) :
    let row := transfer.row now
    let paid := transfer.paidAt now
    let saved := st.observe now transfer
    st.recordCryptoTransfer now transfer = st.putTransaction saved ∧
        (saved.matchedOrderId ≠ 0 ∨
          (st.candidates row paid = [] ∧ st.tooLate row paid = [])) ∨
    (∃ order, saved.matchedOrderId = 0 ∧ st.candidates row paid = [order] ∧
      st.recordCryptoTransfer now transfer = (st.putTransaction saved).matchOrder
        (order.markDetected row.txHash row.logIndex now) saved) ∨
    (∃ o₁ o₂ rest, saved.matchedOrderId = 0 ∧ st.candidates row paid = o₁ :: o₂ :: rest ∧
      st.recordCryptoTransfer now transfer =
        (st.putTransaction saved).markCandidates (st.candidates row paid) now) ∨
    (∃ order ∈ st.tooLate row paid, saved.matchedOrderId = 0 ∧
      st.candidates row paid = [] ∧
      st.recordCryptoTransfer now transfer = (st.putTransaction saved).matchOrder
        (order.markLatePaid row.txHash row.logIndex now) saved) := by
  intro row paid saved
  have hrec : st.recordCryptoTransfer now transfer =
      (st.putTransaction saved).attributeTransfer now paid row saved := rfl
  rw [hrec]
  by_cases hm : saved.matchedOrderId = 0
  · have hfree : ¬ saved.matchedOrderId ≠ 0 := fun h => h hm
    simp only [attributeTransfer, if_neg hfree, candidates_putTransaction, tooLate_putTransaction]
    rcases hc : st.candidates row paid with _ | ⟨o₁, _ | ⟨o₂, rest⟩⟩
    · cases hl : latestExpired (st.tooLate row paid) with
      | none =>
        refine .inl ⟨rfl, .inr ⟨rfl, ?_⟩⟩
        cases ht : st.tooLate row paid with
        | nil => rfl
        | cons =>
          rw [ht] at hl
          simp only [latestExpired] at hl
          split at hl
          · cases hl
          · split at hl <;> cases hl
      | some order =>
        exact .inr (.inr (.inr ⟨order, latestExpired_mem hl, hm, rfl, rfl⟩))
    · exact .inr (.inl ⟨o₁, hm, rfl, rfl⟩)
    · exact .inr (.inr (.inl ⟨o₁, o₂, rest, hm, rfl, rfl⟩))
  · exact .inl ⟨by simp [attributeTransfer, hm], .inl hm⟩

/-- A completion finds an order that is not completed, closes or completes
it, and claims the transaction under its evidence's key; or it does nothing. -/
theorem completeCryptoTopUp_cases
    (h : st.completeCryptoTopUp rates now tradeNo evidence = .ok st') :
    st' = st ∨ ∃ order, st.orderByTradeNo tradeNo = some order ∧ order.status ≠ .success ∧
      cryptoEvidenceMatchesOrder order evidence ∧
      (st' = st.saveOrder (order.markClosed now) ∨
        ∃ tx c, claimTransaction order evidence now
            (st.transaction order.network evidence.txHash evidence.logIndex) = .ok tx ∧
          st' = st.completed (order.markSuccess evidence.txHash evidence.logIndex now) tx c) := by
  simp only [completeCryptoTopUp, seq_ok, require_ok, found_ok, return_ok, exists_const] at h
  obtain ⟨_, order, hord, done, hdone, rfl⟩ := h
  rcases completeCryptoTopUp_ok hdone with
    ⟨_, rfl⟩ | ⟨hs, hmat, rfl⟩ | ⟨hs, hmat, _, tx, _, _, _, htx, rfl⟩
  · exact .inl rfl
  · exact .inr ⟨order, hord, hs, hmat, .inl rfl⟩
  · exact .inr ⟨order, hord, hs, hmat, .inr ⟨tx, _, htx, rfl⟩⟩

theorem adminCompleteCryptoTopUp_ok
    (h : st.adminCompleteCryptoTopUp rates now tradeNo reason evidence = .ok st') :
    ∃ order, st.orderByTradeNo (trimSpace tradeNo) = some order ∧
      st.completeCryptoTopUp rates now (trimSpace tradeNo)
        { evidence with blockNumber := 0, blockTimestamp := 0, fromAddress := "" } = .ok st' := by
  simp only [adminCompleteCryptoTopUp, seq_ok, require_ok, found_ok, exists_const] at h
  obtain ⟨_, order, hord, hdone⟩ := h
  exact ⟨order, hord, hdone⟩

theorem readyTransaction_some (h : st.readyTransaction order = some tx) :
    st.transaction order.network tx.txHash tx.logIndex = some tx ∧
      tx.matchedOrderId = order.id := by
  simp only [readyTransaction] at h
  split at h
  · cases h
  rename_i hfind
  split at h
  · rename_i hready
    cases h
    obtain ⟨_, hhash, hidx⟩ : tx.network = order.network ∧
        tx.txHash = order.matchedTxHash ∧ tx.logIndex = order.matchedLogIndex := by
      simpa [CryptoPaymentTransaction.key] using (transaction_some hfind).2
    exact ⟨by rw [hhash, hidx]; exact hfind, hready.1⟩
  · cases h

/-- **The rule for `CompleteReadyCryptoOrders`**: what each completion from a
stored transaction keeps, the whole loop keeps. `known` is what is kept of the
orders that the loop has read. -/
theorem completeReady_rule (inv : CryptoStore → Prop)
    (known : CryptoStore → CryptoPaymentOrder → Prop)
    (hstep : ∀ st order tx st', inv st → known st order →
      st.readyTransaction order = some tx →
      st.completeCryptoTopUp rates now order.tradeNo (evidenceOf tx) = .ok st' →
      inv st' ∧ ∀ o, known st o → known st' o) (orders : List CryptoPaymentOrder) :
    ∀ st, inv st → (∀ o ∈ orders, known st o) → inv (completeReady rates now orders st) := by
  induction orders with
  | nil => exact fun st hst _ => hst
  | cons order rest ih =>
  intro st hst hknown
  have hrest : ∀ o ∈ rest, known st o := fun o ho => hknown o (by simp [ho])
  simp only [completeReady]
  cases hready : st.readyTransaction order with
  | none => exact ih st hst hrest
  | some tx =>
  simp only
  cases hdone : st.completeCryptoTopUp rates now order.tradeNo (evidenceOf tx) with
  | error e => exact hst
  | ok st' =>
    obtain ⟨hst', hkeep⟩ := hstep st order tx st' hst (hknown order (by simp)) hready hdone
    exact ih st' hst' fun o ho => hkeep o (hrest o ho)

/-! ## Keys

Every operation keeps the keys of the two tables unique. -/

/-- The primary keys and unique indexes. Order ids count up from one. -/
structure Keyed (st : CryptoStore) : Prop where
  keys : (st.transactions.map (·.key)).Nodup
  ids : (st.orders.map (·.id)).Nodup
  tradeNos : (st.orders.map (·.tradeNo)).Nodup
  range : ∀ o ∈ st.orders, 0 < o.id ∧ o.id ≤ st.orders.length

theorem keyed_empty : Keyed {} :=
  ⟨nodup_nil, nodup_nil, nodup_nil, by simp⟩

variable {order : CryptoPaymentOrder}

theorem Keyed.putTransaction (h : Keyed st) : Keyed (st.putTransaction tx) where
  keys := nodup_putTransaction h.keys
  ids := by simpa using h.ids
  tradeNos := by simpa using h.tradeNos
  range := by simpa using h.range

theorem Keyed.saveOrder (h : Keyed st) (hord : order ∈ st.orders)
    (hid : order'.id = order.id) (htrade : order'.tradeNo = order.tradeNo) :
    Keyed (st.saveOrder order') where
  keys := h.keys
  ids := by simpa [CryptoStore.saveOrder] using h.ids
  tradeNos := by
    have hsame : (st.saveOrder order').orders.map (·.tradeNo) = st.orders.map (·.tradeNo) := by
      refine map_saveRow _ fun o ho hkey => ?_
      rw [eq_of_key h.ids ho hord (hkey.trans hid), htrade]
    rw [hsame]
    exact h.tradeNos
  range := by
    intro o ho
    have hlen : (st.saveOrder order').orders.length = st.orders.length :=
      length_saveRow _ _
    rw [hlen]
    rcases mem_saveOrder.mp ho with ⟨ho, _⟩ | ⟨rfl, o₀, ho₀, hid₀⟩
    · exact h.range o ho
    · rw [← hid₀]
      exact h.range o₀ ho₀

theorem Keyed.insertOrder (h : Keyed st) (hid : order.id = st.orders.length + 1)
    (htrade : ∀ o ∈ st.orders, o.tradeNo ≠ order.tradeNo) :
    Keyed (st.insertOrder order topUp) where
  keys := h.keys
  ids := by
    simp only [CryptoStore.insertOrder, map_append, nodup_append]
    refine ⟨h.ids, by simp, ?_⟩
    intro id hmem id' hmem'
    obtain ⟨o, ho, rfl⟩ := mem_map.mp hmem
    simp only [map_cons, map_nil, mem_singleton] at hmem'
    have hle := (h.range o ho).2
    omega
  tradeNos := by
    simp only [CryptoStore.insertOrder, map_append, nodup_append]
    refine ⟨h.tradeNos, by simp, ?_⟩
    intro no hmem no' hmem'
    obtain ⟨o, ho, rfl⟩ := mem_map.mp hmem
    simp only [map_cons, map_nil, mem_singleton] at hmem'
    rw [hmem']
    exact htrade o ho
  range := by
    intro o ho
    simp only [CryptoStore.insertOrder, mem_append, mem_singleton] at ho
    simp only [CryptoStore.insertOrder, length_append, length_cons, length_nil]
    rcases ho with ho | rfl
    · have := h.range o ho
      omega
    · omega

theorem map_markCandidates {C : Type} (column : CryptoPaymentOrder → C)
    (hkeep : ∀ o, column (o.markAmbiguous now) = column o) (orders : List CryptoPaymentOrder) :
    (st.markCandidates orders now).orders.map column = st.orders.map column := by
  simp only [markCandidates, map_map]
  refine map_congr_left fun o _ => ?_
  by_cases ho : o ∈ orders <;> simp [ho, hkeep]

theorem Keyed.markCandidates (h : Keyed st) (orders : List CryptoPaymentOrder) :
    Keyed (st.markCandidates orders now) where
  keys := h.keys
  ids := by
    rw [map_markCandidates (·.id) fun _ => rfl]
    exact h.ids
  tradeNos := by
    rw [map_markCandidates (·.tradeNo) fun _ => rfl]
    exact h.tradeNos
  range := by
    intro o ho
    simp only [CryptoStore.markCandidates, mem_map, length_map] at ho ⊢
    obtain ⟨o₀, ho₀, rfl⟩ := ho
    by_cases hmem : o₀ ∈ orders <;>
      simpa [hmem, CryptoPaymentOrder.markAmbiguous] using h.range o₀ ho₀

theorem Keyed.completed (h : Keyed st) (hord : order ∈ st.orders)
    (hid : order'.id = order.id) (htrade : order'.tradeNo = order.tradeNo) :
    Keyed (st.completed order' tx c) := by
  have hsave : Keyed ((st.putTransaction tx).saveOrder order') :=
    h.putTransaction.saveOrder (by simpa using hord) hid htrade
  exact ⟨hsave.keys, hsave.ids, hsave.tradeNos, hsave.range⟩

end CryptoStore

/-! ## Sample inputs -/

/-- An order of 2 USDT and a suffix. -/
def sampleInput (suffix : Int) (tradeNo : String) : CreateCryptoTopUpOrderInput := {
  userID := 7, network := "bsc_erc20", amount := 2, receiveAddress := "0xaa",
  tokenContract := "0xcc", tokenDecimals := 6, suffixes := [suffix], tradeNo,
  requiredConfirmations := 15 }

/-- The transfer `0xab` to the address of such an order. -/
def sampleTransfer (amountBaseUnits : String) (blockTimestamp : Int) : CryptoObservedTransfer := {
  network := "bsc_erc20", txHash := "0xab", logIndex := 3, blockNumber := 1,
  blockTimestamp, fromAddress := "0xff", toAddress := "0xaa",
  tokenContract := "0xcc", tokenDecimals := 6, amount := "", amountBaseUnits,
  confirmations := 20 }

/-! ## The amount of an order -/

/-- The two amounts are rounded apart, and the suffix is added to both. -/
theorem cryptoPayAmountFromSuffix_ok
    (h : cryptoPayAmountFromSuffix amount decimals suffix = .ok (shown, units)) :
    ∃ s : ℕ, suffix = s ∧ newFromString shown = roundTo amount 6 + s / 10 ^ 6 ∧
      newFromString units =
        (roundTo amount decimals.toNat + s / 10 ^ 6) * 10 ^ decimals.toNat := by
  simp only [cryptoPayAmountFromSuffix, seq_ok, require_ok, exists_const] at h
  obtain ⟨⟨hamount, _⟩, ⟨hsuffix, -⟩, h⟩ := h
  cases h
  obtain ⟨s, rfl⟩ := Int.eq_ofNat_of_zero_le (zero_le_one.trans hsuffix)
  obtain ⟨n, hn⟩ : ∃ n, decimals.toNat = n + 6 := ⟨decimals.toNat - 6, by omega⟩
  have hscale : (cryptoPaymentSuffixScale : ℚ) = 10 ^ 6 := by norm_num [cryptoPaymentSuffixScale]
  have hfine : (s : ℚ) / 10 ^ 6 = (s * 10 ^ n : ℕ) / 10 ^ (n + 6) := by
    rw [Nat.cast_mul, Nat.cast_pow, pow_add, Nat.cast_ofNat]
    field_simp
  rw [hscale, hn, Int.cast_natCast]
  refine ⟨s, rfl, ?_, ?_⟩
  · rw [newFromString_stringFixed (by positivity), roundTo_add_natCast_div hamount.le]
  · rw [newFromString_stringFixed (by positivity), roundTo_mul_pow (by positivity), hfine,
      roundTo_add_natCast_div hamount.le]

/-- **An order shows the amount that it is matched by** exactly when the amount is
rounded to the same value by the display and by the token. No two suffixes ask
for the same amount. -/
theorem pay_amount_is_matched_amount (input : CreateCryptoTopUpOrderInput) :
    (∀ {st st' : CryptoStore} {now}, st.createCryptoTopUpOrder now input = .ok st' →
      ∃ order, st'.orders = st.orders ++ [order] ∧
        (newFromString order.payAmount * 10 ^ order.tokenDecimals.toNat =
            newFromString order.payAmountBaseUnits ↔
          roundTo input.amount 6 = roundTo input.amount input.tokenDecimals.toNat)) ∧
    ∀ {suffix₁ suffix₂ shown₁ shown₂ units₁ units₂},
      cryptoPayAmountFromSuffix input.amount input.tokenDecimals suffix₁ = .ok (shown₁, units₁) →
      cryptoPayAmountFromSuffix input.amount input.tokenDecimals suffix₂ = .ok (shown₂, units₂) →
      suffix₁ ≠ suffix₂ → units₁ ≠ units₂ := by
  have hpow : (10 : ℚ) ^ input.tokenDecimals.toNat ≠ 0 := by positivity
  constructor
  · intro st st' now h
    obtain ⟨shown, units, suffix, hpay, -, -, rfl⟩ := CryptoStore.createCryptoTopUpOrder_ok h
    obtain ⟨s, -, hshown, hunits⟩ := cryptoPayAmountFromSuffix_ok hpay
    refine ⟨_, rfl, ?_⟩
    change newFromString shown * 10 ^ input.tokenDecimals.toNat = newFromString units ↔ _
    rw [hshown, hunits, mul_left_inj' hpow, add_left_inj]
  · rintro suffix₁ suffix₂ shown₁ shown₂ units₁ _ h₁ h₂ hne rfl
    obtain ⟨s₁, rfl, -, hunits₁⟩ := cryptoPayAmountFromSuffix_ok h₁
    obtain ⟨s₂, rfl, -, hunits₂⟩ := cryptoPayAmountFromSuffix_ok h₂
    rw [hunits₁, mul_left_inj' hpow, add_right_inj] at hunits₂
    have hsame : s₁ = s₂ := by simpa using hunits₂
    exact hne (congrArg _ hsame)

theorem pay_amount_of_sample :
    let input := { sampleInput 1 "a" with tokenDecimals := 18 }
    (∃ st' order, ({} : CryptoStore).createCryptoTopUpOrder 0 input = .ok st' ∧
      st'.orders = [order] ∧ newFromString order.payAmount * 10 ^ order.tokenDecimals.toNat =
        newFromString order.payAmountBaseUnits) ∧
      "2000001000000000000" ≠ "2000002000000000000" := by
  intro input
  have hok : (({} : CryptoStore).createCryptoTopUpOrder 0 input).toOption.isSome := by
    decide +kernel
  obtain ⟨st', hcreate⟩ : ∃ st', ({} : CryptoStore).createCryptoTopUpOrder 0 input = .ok st' := by
    cases hcreate : ({} : CryptoStore).createCryptoTopUpOrder 0 input with
    | error => rw [hcreate] at hok; cases hok
    | ok st' => exact ⟨st', rfl⟩
  have hmatched := pay_amount_is_matched_amount input
  obtain ⟨order, hlist, horder⟩ := hmatched.1 hcreate
  have hone : cryptoPayAmountFromSuffix 2 18 1 = .ok ("2.000001", "2000001000000000000") := by
    decide +kernel
  have htwo : cryptoPayAmountFromSuffix 2 18 2 = .ok ("2.000002", "2000002000000000000") := by
    decide +kernel
  exact ⟨⟨_, order, hcreate, hlist, horder.mpr (by decide +kernel)⟩,
    hmatched.2 hone htwo (by decide)⟩

/-- With 18 decimals the seventh place is asked for and not shown. -/
theorem pay_amount_differs : ((({} : CryptoStore).createCryptoTopUpOrder 0 { sampleInput 1 "a" with
        amount := 10000001 / 10000000, tokenDecimals := 18 }).toOption.map fun st =>
      st.orders.map fun o => (o.payAmount, o.tokenDecimals, o.payAmountBaseUnits)) =
      some [("1.000001", 18, "1000001100000000000")] ∧
    newFromString "1.000001" * 10 ^ 18 ≠ newFromString "1000001100000000000" := by
  decide +kernel

end HermesToken.Payment
