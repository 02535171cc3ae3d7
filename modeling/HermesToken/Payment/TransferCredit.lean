import HermesToken.Payment.CryptoRun

/-!
# One transfer, one credit

An on-chain transfer is identified by its network, its hash up to letter case
and surrounding spaces, and its log index. The database compares hashes
EXACTLY: recording trims them, a completion does not. As long as a hash is
written the same way wherever it names the same transfer, a credit is traced
to one row, and the row to one order.
-/

namespace HermesToken.Payment

open Lib CryptoStore CryptoPaymentTransaction List

variable {evidence : CryptoTxEvidence} {now : Int}

/-- A transaction hash up to letter case and surrounding spaces. -/
def normalHash (txHash : String) : String := toLower (trimSpace txHash)

/-- The identity of an on-chain transfer. -/
abbrev TransferId := String × String × Int

def transferId (network txHash : String) (logIndex : Int) : TransferId :=
  (network, normalHash txHash, logIndex)

def CryptoPaymentTransaction.transfer (tx : CryptoPaymentTransaction) : TransferId :=
  transferId tx.network tx.txHash tx.logIndex

def CryptoCredit.transfer (c : CryptoCredit) : TransferId :=
  transferId c.network c.txHash c.logIndex

def CryptoCredit.key (c : CryptoCredit) : String × String × Int :=
  (c.network, c.txHash, c.logIndex)

theorem transfer_eq_of_key {tx : CryptoPaymentTransaction} {c : CryptoCredit}
    (h : tx.key = c.key) : tx.transfer = c.transfer := by
  obtain ⟨hn, hh, hl⟩ : tx.network = c.network ∧ tx.txHash = c.txHash ∧
      tx.logIndex = c.logIndex := by
    simpa [key, CryptoCredit.key] using h
  simp only [transfer, CryptoCredit.transfer, hn, hh, hl]

/-- **Traced.** Every credit names a stored row that is matched to the
credited order; a transfer has one row and an order one credit. -/
structure Traced (st : CryptoStore) : Prop extends CryptoStore.Keyed st where
  one : ∀ r ∈ st.transactions, ∀ r' ∈ st.transactions,
    r.transfer = r'.transfer → r.key = r'.key
  networks : ∀ r ∈ st.transactions, normalizeCryptoNetwork r.network = r.network
  row : ∀ c ∈ st.credits, ∃ r ∈ st.transactions, r.key = c.key ∧
    r.matchedOrderId = c.orderId
  order : ∀ c ∈ st.credits, ∃ o ∈ st.orders, o.id = c.orderId ∧ o.status = .success
  once : (st.credits.map (·.orderId)).Nodup

theorem traced_empty : Traced {} :=
  ⟨keyed_empty, by simp, by simp, by simp, by simp, nodup_nil⟩

variable {st : CryptoStore} {order order' : CryptoPaymentOrder}
  {tx : CryptoPaymentTransaction}

/-- A credited order is completed, so an order that is not has no credit. -/
theorem Traced.uncredited (h : Traced st) (hord : order ∈ st.orders)
    (hs : order.status ≠ .success) {c} (hc : c ∈ st.credits) :
    c.orderId ≠ order.id := by
  intro hid
  obtain ⟨o, ho, hoid, hsucc⟩ := h.order c hc
  have : o = order := eq_of_key h.ids ho hord (hoid.trans hid)
  exact hs (this ▸ hsucc)

/-- A credit of `st` keeps its row when a row is put that does not take the
match away. -/
theorem Traced.putTransaction (h : Traced st)
    (hkeep : ∀ r ∈ st.transactions, r.key = tx.key → r.matchedOrderId ≠ 0 →
      tx.matchedOrderId = r.matchedOrderId)
    (hone : ∀ r ∈ st.transactions, r.transfer = tx.transfer → r.key = tx.key)
    (hnet : normalizeCryptoNetwork tx.network = tx.network) :
    Traced (st.putTransaction tx) where
  toKeyed := h.toKeyed.putTransaction
  one := by
    intro r hr r' hr' hsame
    rcases mem_putTransaction.mp hr with ⟨hold, _⟩ | hnew <;>
      rcases mem_putTransaction.mp hr' with ⟨hold', _⟩ | hnew'
    · exact h.one r hold r' hold' hsame
    · subst hnew'
      exact hone r hold hsame
    · subst hnew
      exact (hone r' hold' hsame.symm).symm
    · rw [hnew, hnew']
  networks := by
    intro r hr
    rcases mem_putTransaction.mp hr with ⟨hold, _⟩ | hnew
    · exact h.networks r hold
    · rw [hnew]
      exact hnet
  row := by
    intro c hc
    rw [putTransaction_credits] at hc
    obtain ⟨r, hr, hkey, hmatch⟩ := h.row c hc
    by_cases hsame : r.key = tx.key
    · -- the row was replaced; it was matched, so the new one is too
      obtain ⟨o, ho, _, _⟩ := h.order c hc
      have hpos := (h.range o ho).1
      have htx := hkeep r hr hsame (by omega)
      exact ⟨tx, mem_putTransaction.mpr (.inr rfl), hsame.symm.trans hkey, htx.trans hmatch⟩
    · exact ⟨r, mem_putTransaction.mpr (.inl ⟨hr, hsame⟩), hkey, hmatch⟩
  order := by simpa using h.order
  once := by simpa using h.once

theorem Traced.saveOrder (h : Traced st) (hord : order ∈ st.orders)
    (hs : order.status ≠ .success) (hid : order'.id = order.id)
    (htrade : order'.tradeNo = order.tradeNo) : Traced (st.saveOrder order') where
  toKeyed := h.toKeyed.saveOrder hord hid htrade
  one := h.one
  networks := h.networks
  row := h.row
  order := by
    intro c hc
    obtain ⟨o, ho, hoid, hsucc⟩ := h.order c hc
    have hne := h.uncredited hord hs hc
    refine ⟨o, mem_saveOrder.mpr (.inl ⟨ho, ?_⟩), hoid, hsucc⟩
    rw [hoid, hid]
    exact hne
  once := h.once

theorem Traced.insertOrder (h : Traced st) (hid : order.id = st.orders.length + 1)
    (htrade : ∀ o ∈ st.orders, o.tradeNo ≠ order.tradeNo) :
    Traced (st.insertOrder order topUp) where
  toKeyed := h.toKeyed.insertOrder hid htrade
  one := h.one
  networks := h.networks
  row := h.row
  order := by
    intro c hc
    obtain ⟨o, ho, hoid, hsucc⟩ := h.order c hc
    exact ⟨o, mem_append_left _ ho, hoid, hsucc⟩
  once := h.once

theorem Traced.markCandidates (h : Traced st) {orders}
    (hopen : ∀ o ∈ orders, o.status ≠ .success) (now : Int) :
    Traced (st.markCandidates orders now) where
  toKeyed := h.toKeyed.markCandidates orders
  one := h.one
  networks := h.networks
  row := h.row
  order := by
    intro c hc
    obtain ⟨o, ho, hoid, hsucc⟩ := h.order c hc
    refine ⟨o, mem_map.mpr ⟨o, ho, if_neg fun hmem => ?_⟩, hoid, hsucc⟩
    exact hopen o hmem hsucc
  once := h.once

theorem unmatched_ne_success (h : order.unmatched) : order.status ≠ .success := by
  intro hs
  simp [CryptoPaymentOrder.unmatched, hs] at h

/-- A completion that credits traces its credit to the row it claims. -/
theorem Traced.completed (h : Traced st) (hord : order ∈ st.orders) (hs : order.status ≠ .success)
    {c} (htx : claimTransaction order evidence now
      (st.transaction order.network evidence.txHash evidence.logIndex) = .ok tx)
    (hone : ∀ r ∈ st.transactions, r.transfer =
        transferId order.network evidence.txHash evidence.logIndex →
      r.key = (order.network, evidence.txHash, evidence.logIndex))
    (hnet : normalizeCryptoNetwork order.network = order.network) :
    Traced (st.completed (order.markSuccess evidence.txHash evidence.logIndex now) tx c) := by
  obtain ⟨hmatch, hrow⟩ := claimTransaction_ok htx
  have hkey : tx.key = (order.network, evidence.txHash, evidence.logIndex) := by
    rcases hrow with ⟨_, rfl⟩ | ⟨known, hknown, rfl, _⟩
    · rfl
    · exact (transaction_some hknown).2
  obtain ⟨hn, hh, hl⟩ : tx.network = order.network ∧ tx.txHash = evidence.txHash ∧
      tx.logIndex = evidence.logIndex := by
    simpa [key] using hkey
  have hmoves : tx.transfer =
      transferId order.network evidence.txHash evidence.logIndex := by
    simp only [transfer, hn, hh, hl]
  -- a row that is matched to another order would have refused the claim
  have hkeep : ∀ r ∈ st.transactions, r.key = tx.key → r.matchedOrderId ≠ 0 →
      tx.matchedOrderId = r.matchedOrderId := by
    intro r hr hsame hne
    rcases hrow with ⟨hnone, _⟩ | ⟨known, hknown, _, hfree⟩
    · exact absurd (hsame.trans hkey) (transaction_none hnone hr)
    obtain ⟨hmem, hknownKey⟩ := transaction_some hknown
    have hr' : r = known :=
      eq_of_key h.keys hr hmem ((hsame.trans hkey).trans hknownKey.symm)
    subst hr'
    rw [hmatch]
    exact (hfree.resolve_left hne).symm
  have hput : Traced (st.putTransaction tx) := by
    refine h.putTransaction hkeep (fun r hr hsame => ?_) (hn ▸ hnet)
    rw [hkey]
    exact hone r hr (hsame.trans hmoves)
  have hsave : Traced ((st.putTransaction tx).saveOrder
      (order.markSuccess evidence.txHash evidence.logIndex now)) :=
    hput.saveOrder (by simpa using hord) hs rfl rfl
  exact {
    toKeyed := by refine h.toKeyed.completed hord ?_ ?_ <;> rfl
    one := hsave.one
    networks := hsave.networks
    row := by
      intro c' hc'
      rcases mem_append.mp hc' with hold | hnew
      · exact hsave.row c' (by simpa [CryptoStore.saveOrder] using hold)
      · rw [mem_singleton.mp hnew]
        exact ⟨tx, mem_putTransaction.mpr (.inr rfl), rfl, hmatch⟩
    order := by
      intro c' hc'
      rcases mem_append.mp hc' with hold | hnew
      · exact hsave.order c' (by simpa [CryptoStore.saveOrder] using hold)
      rw [mem_singleton.mp hnew]
      exact ⟨_, mem_saveOrder.mpr (.inr ⟨rfl, order,
        by simpa [saveTopUp] using hord, rfl⟩), rfl, rfl⟩
    once := by
      simp only [CryptoStore.completed, map_append, nodup_append]
      refine ⟨h.once, by simp, ?_⟩
      intro id hmem id' hmem'
      obtain ⟨c', hc', rfl⟩ := mem_map.mp hmem
      rw [map_singleton, mem_singleton] at hmem'
      rw [hmem']
      exact h.uncredited hord hs hc' }

/-- A hash is written as in every stored row of the same transfer. -/
def HashExact (st : CryptoStore) (network txHash : String) (logIndex : Int) : Prop :=
  ∀ r ∈ st.transactions, r.transfer = transferId network txHash logIndex →
    r.key = (network, txHash, logIndex)

instance : Decidable (HashExact st chain txid index) :=
  inferInstanceAs (Decidable (∀ r ∈ st.transactions, _ → _))

theorem matches_network (h : cryptoEvidenceMatchesOrder order evidence) :
    normalizeCryptoNetwork evidence.network = order.network := by
  simp only [cryptoEvidenceMatchesOrder, Bool.and_eq_true, decide_eq_true_eq] at h
  exact h.1.1.1.1.1

theorem Traced.completeCryptoTopUp (h : Traced st)
    (hdone : st.completeCryptoTopUp rates now tradeNo evidence = .ok st')
    (hexact : HashExact st (normalizeCryptoNetwork evidence.network) evidence.txHash
      evidence.logIndex) : Traced st' := by
  rcases completeCryptoTopUp_cases hdone with
    rfl | ⟨order, hord, hs, hmat, rfl | ⟨tx, c, htx, rfl⟩⟩
  · exact h
  · exact h.saveOrder (orderByTradeNo_some hord) hs rfl rfl
  have hnet : normalizeCryptoNetwork order.network = order.network := by
    rw [← matches_network hmat]
    exact normalizeCryptoNetwork_idem
  rw [matches_network hmat] at hexact
  exact h.completed (orderByTradeNo_some hord) hs htx hexact hnet

theorem Traced.observe (h : Traced st) (now : Int) {transfer}
    (hexact : HashExact st (normalizeCryptoNetwork transfer.network)
      (trimSpace transfer.txHash) transfer.logIndex) :
    Traced (st.putTransaction (st.observe now transfer)) := by
  have hkey := st.observe_key now transfer
  obtain ⟨hn, hh, hl⟩ : (st.observe now transfer).network = (transfer.row now).network ∧
      (st.observe now transfer).txHash = (transfer.row now).txHash ∧
      (st.observe now transfer).logIndex = (transfer.row now).logIndex := by
    simpa [key] using hkey
  have hmoves : (st.observe now transfer).transfer = (transfer.row now).transfer := by
    simp only [CryptoPaymentTransaction.transfer, hn, hh, hl]
  refine h.putTransaction ?_ ?_ ?_
  · intro r hr hsame _
    rw [hkey] at hsame
    rcases st.observe_cases now transfer with ⟨hnew, _⟩ | ⟨known, hmem, hknown, hsaved⟩
    · exact absurd hsame (hnew r hr)
    · rw [hsaved, eq_of_key h.keys hr hmem (hsame.trans hknown.symm)]
  · intro r hr hsame
    rw [hkey]
    exact hexact r hr (hsame.trans hmoves)
  · rw [hn]
    exact normalizeCryptoNetwork_idem

/-- Matching an observed transfer that is free with an order that is open. -/
theorem Traced.matchOrder (h : Traced (st.putTransaction tx)) (hfree : tx.matchedOrderId = 0)
    (hord : order ∈ st.orders) (hopen : order.unmatched)
    (hid : order'.id = order.id) (htrade : order'.tradeNo = order.tradeNo) :
    Traced ((st.putTransaction tx).matchOrder order' tx) := by
  have htx : tx ∈ (st.putTransaction tx).transactions :=
    mem_putTransaction.mpr (.inr rfl)
  have hsave : Traced ((st.putTransaction tx).saveOrder order') :=
    h.saveOrder (by simpa using hord) (unmatched_ne_success hopen) hid htrade
  rw [matchOrder_eq]
  refine hsave.putTransaction ?_ ?_ (hsave.networks tx htx)
  · intro r hr hsame hne
    have : r = tx := eq_of_key hsave.keys hr htx hsame
    rw [this] at hne
    exact absurd hfree hne
  · exact fun r hr hsame => hsave.one r hr tx htx hsame

theorem Traced.recordCryptoTransfer (h : Traced st) {transfer}
    (hexact : HashExact st (normalizeCryptoNetwork transfer.network)
      (trimSpace transfer.txHash) transfer.logIndex) :
    Traced (st.recordCryptoTransfer now transfer) := by
  have hput := h.observe now hexact
  rcases st.recordCryptoTransfer_cases now transfer with
    ⟨hrec, _⟩ | ⟨order, hfree, hcand, hrec⟩ | ⟨o₁, o₂, rest, _, _, hrec⟩ |
    ⟨order, hlate, hfree, _, hrec⟩ <;> rw [hrec]
  · exact hput
  · have hmem : order ∈ st.candidates (transfer.row now) (transfer.paidAt now) := by
      rw [hcand]
      exact mem_singleton.mpr rfl
    obtain ⟨hord, _, _, hopen⟩ := mem_candidates.mp hmem
    exact hput.matchOrder hfree hord hopen rfl rfl
  · refine hput.markCandidates (fun o ho => ?_) now
    exact unmatched_ne_success (mem_candidates.mp ho).2.2.2
  · obtain ⟨hord, _, _, hopen⟩ := mem_tooLate.mp hlate
    exact hput.matchOrder hfree hord hopen rfl rfl

/-! ## Every run -/

/-- A transfer that is recorded, and the evidence an administrator types,
write the hash as it is stored. -/
def HashesExact (st : CryptoStore) : CryptoOp → Prop
  | .record transfer =>
    HashExact st (normalizeCryptoNetwork transfer.network) (trimSpace transfer.txHash)
      transfer.logIndex
  | .adminComplete _ _ evidence =>
    HashExact st (normalizeCryptoNetwork evidence.network) evidence.txHash evidence.logIndex
  | _ => True

instance (st : CryptoStore) : (op : CryptoOp) → Decidable (HashesExact st op)
  | .record _ => inferInstanceAs (Decidable (HashExact ..))
  | .adminComplete _ _ _ => inferInstanceAs (Decidable (HashExact ..))
  | .create _ => isTrue trivial
  | .expire _ => isTrue trivial
  | .completeReady _ => isTrue trivial

theorem Traced.apply (h : Traced st) {rates op} (hexact : HashesExact st op) :
    Traced (st.apply rates now op) := by
  cases op with
  | create input =>
    simp only [CryptoStore.apply]
    cases hc : st.createCryptoTopUpOrder now input with
    | error => exact h
    | ok =>
      obtain ⟨_, _, _, _, _, hnew, rfl⟩ := createCryptoTopUpOrder_ok hc
      exact h.insertOrder rfl hnew
  | expire tradeNo =>
    simp only [CryptoStore.apply]
    rcases st.expireCryptoOrder_cases now tradeNo with
      heq | ⟨order, hord, hpend, _, heq⟩ <;> rw [heq]
    · exact h
    · exact h.saveOrder hord (by rw [hpend]; decide) rfl rfl
  | record => exact h.recordCryptoTransfer hexact
  | completeReady network =>
    refine completeReady_rule Traced (fun _ _ => True) ?_ _ st h (fun _ _ => trivial)
    intro st order tx st' hst _ hready hdone
    have htx := (transaction_some (readyTransaction_some hready).1).1
    refine ⟨hst.completeCryptoTopUp hdone ?_, fun _ _ => trivial⟩
    -- a stored row writes its own hash, and its network is normalised
    rw [show normalizeCryptoNetwork (evidenceOf tx).network = tx.network from hst.networks tx htx]
    exact fun r hr hsame => hst.one r hr tx htx hsame
  | adminComplete tradeNo reason evidence =>
    simp only [CryptoStore.apply]
    cases hc : st.adminCompleteCryptoTopUp rates now tradeNo reason evidence with
    | error => exact h
    | ok =>
      obtain ⟨_, _, hdone⟩ := adminCompleteCryptoTopUp_ok hc
      exact h.completeCryptoTopUp hdone hexact

/-- The credits of one transfer are one: they name one row, and the row is
matched to one order. -/
theorem Traced.nodup_transfers (h : Traced st) : (st.credits.map (·.transfer)).Nodup := by
  refine Nodup.map_on ?_ (Nodup.of_map _ h.once)
  intro c hc c' hc' hsame
  obtain ⟨r, hr, hkey, hord⟩ := h.row c hc
  obtain ⟨r', hr', hkey', hord'⟩ := h.row c' hc'
  have hrows : r.key = r'.key := by
    refine h.one r hr r' hr' ?_
    rw [transfer_eq_of_key hkey, transfer_eq_of_key hkey', hsame]
  have hr_eq : r = r' := eq_of_key h.keys hr hr' hrows
  exact eq_of_key h.once hc hc' (by rw [← hord, ← hord', hr_eq])

/-- **One transfer, one credit.** In every run that writes the hash of a
transfer as it is stored, no transfer is the evidence of two credits and no
order is credited twice. -/
theorem transfer_credited_once (rates : Rates) (clock : Int) (acts : List CryptoAct)
    (hacts : Along (CryptoWorld.step rates) (fun w act => HashesExact w.store act.op)
      { clock } acts) :
    let w := exec (CryptoWorld.step rates) { clock } acts
    (w.store.credits.map (·.transfer)).Nodup ∧ (w.store.credits.map (·.orderId)).Nodup := by
  have htraced : Traced (exec (CryptoWorld.step rates) { clock } acts).store :=
    Along.invariant (fun w : CryptoWorld => Traced w.store) (fun _ _ hw hexact => hw.apply hexact)
      traced_empty hacts
  exact ⟨htraced.nodup_transfers, htraced.once⟩

/-! A customer orders twice, and pays once. -/

/-- What the administrator types for an order of `amountBaseUnits`. -/
def sampleEvidence (txHash amountBaseUnits : String) : CryptoTxEvidence :=
  { network := "bsc_erc20", txHash, logIndex := 3, toAddress := "0xaa",
    tokenContract := "0xcc", amountBaseUnits, confirmations := 20 }

theorem transfer_credited_once_sample :
    let w := exec (CryptoWorld.step ⟨500⟩) { clock := 100 }
      [⟨0, .create (sampleInput 1 "A")⟩, ⟨5, .create (sampleInput 2 "B")⟩,
        ⟨9, .record (sampleTransfer "2000001" 105)⟩, ⟨1, .completeReady "bsc_erc20"⟩,
        ⟨2, .adminComplete "B" "paid" (sampleEvidence "0xab" "2000002")⟩]
    (w.store.credits.map (·.transfer)).Nodup ∧ (w.store.credits.map (·.orderId)).Nodup :=
  transfer_credited_once ⟨500⟩ 100 _ (by decide +kernel)

/-- The administrator types the hash of a credited transfer with a capital
letter and a space: the second order is credited for it as well. -/
theorem transfer_credited_twice :
    let w := exec (CryptoWorld.step ⟨500⟩) { clock := 100 }
      [⟨0, .create (sampleInput 1 "A")⟩, ⟨5, .create (sampleInput 2 "B")⟩,
        ⟨9, .record (sampleTransfer "2000001" 105)⟩, ⟨1, .completeReady "bsc_erc20"⟩,
        ⟨2, .adminComplete "B" "paid" (sampleEvidence " 0xAB" "2000002")⟩]
    w.store.credits.map (fun c => (c.orderId, c.transfer)) =
      [(1, ("bsc_erc20", "0xab", 3)), (2, ("bsc_erc20", "0xab", 3))] := by
  decide +kernel

end HermesToken.Payment
