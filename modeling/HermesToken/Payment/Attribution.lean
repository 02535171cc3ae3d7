import HermesToken.Payment.CryptoRun

/-!
# Which order a transfer is matched to

An amount is unique among the orders that are active when it is given out; it
is used again after they have expired. A transfer is matched later, when it is
recorded, among the orders that had not expired when it was PAID. The two
agree as long as no order for the amount was created after the transfer was
paid, and no later transfer took the order first.
-/

namespace HermesToken.Payment

open Lib CryptoStore CryptoPaymentOrder List

variable {row r : CryptoPaymentTransaction} {rates : Rates}

/-- The time a stored transfer counts as paid. -/
def CryptoPaymentTransaction.paid (tx : CryptoPaymentTransaction) : Int :=
  if tx.blockTimestamp > 0 then tx.blockTimestamp else tx.createTime

/-- What a transfer pays, and when. -/
def CryptoPaymentTransaction.payment (tx : CryptoPaymentTransaction) :
    String × String × String × String × Int :=
  (tx.network, tx.toAddress, tx.tokenContract, tx.amountBaseUnits, tx.paid)

namespace CryptoPaymentOrder

/-- What an order asks for, and when. No function changes it. -/
def terms (o : CryptoPaymentOrder) :
    Int × String × String × String × String × String × Int × Int :=
  (o.id, o.tradeNo, o.network, o.receiveAddress, o.tokenContract, o.payAmountBaseUnits,
    o.createTime, o.expiresAt)

/-- The transfer pays the order, between its creation and its expiry. -/
def PaidInLife (o : CryptoPaymentOrder) (tx : CryptoPaymentTransaction) : Prop :=
  o.paidBy tx = true ∧ o.createTime ≤ tx.paid ∧ tx.paid ≤ o.expiresAt

instance : Decidable (CryptoPaymentOrder.PaidInLife o tx) := inferInstanceAs (Decidable (_ ∧ _ ∧ _))

/-- The orders ask for the same amount at the same address. -/
def SameAmount (o o' : CryptoPaymentOrder) : Prop :=
  o.network = o'.network ∧ o.receiveAddress = o'.receiveAddress ∧
    o.payAmountBaseUnits = o'.payAmountBaseUnits

variable {o o' : CryptoPaymentOrder} {tx tx' : CryptoPaymentTransaction}

theorem paidBy_iff : o.paidBy tx ↔ o.network = tx.network ∧
    o.receiveAddress = tx.toAddress ∧ o.tokenContract = tx.tokenContract ∧
    o.payAmountBaseUnits = tx.amountBaseUnits := by
  simp [paidBy, and_assoc]

theorem terms_eq_iff : o'.terms = o.terms ↔ o'.id = o.id ∧ o'.tradeNo = o.tradeNo ∧
    o'.network = o.network ∧ o'.receiveAddress = o.receiveAddress ∧
    o'.tokenContract = o.tokenContract ∧ o'.payAmountBaseUnits = o.payAmountBaseUnits ∧
    o'.createTime = o.createTime ∧ o'.expiresAt = o.expiresAt := by
  simp [terms]

/-- Whether a transfer pays an order depends on its payment and the terms. -/
theorem paidInLife_congr (htrm : o'.terms = o.terms) (hpay : tx'.payment = tx.payment) :
    o'.PaidInLife tx' ↔ o.PaidInLife tx := by
  obtain ⟨_, _, hn, ha, hc, hu, hcre, hexp⟩ := terms_eq_iff.mp htrm
  obtain ⟨hn', ha', hc', hu', hpaid⟩ : tx'.network = tx.network ∧
      tx'.toAddress = tx.toAddress ∧ tx'.tokenContract = tx.tokenContract ∧
      tx'.amountBaseUnits = tx.amountBaseUnits ∧ tx'.paid = tx.paid := by
    simpa [CryptoPaymentTransaction.payment] using hpay
  simp only [PaidInLife, paidBy_iff, hn, ha, hc, hu, hcre, hexp, hn', ha', hc', hu', hpaid]

theorem sameAmount_of_paidBy (h : o.paidBy tx) (h' : o'.paidBy tx) :
    o.SameAmount o' := by
  obtain ⟨hn, ha, _, hu⟩ := paidBy_iff.mp h
  obtain ⟨hn', ha', _, hu'⟩ := paidBy_iff.mp h'
  exact ⟨hn.trans hn'.symm, ha.trans ha'.symm, hu.trans hu'.symm⟩

end CryptoPaymentOrder

/-! ## The invariant -/

/-- The order went to a transfer that was paid after its expiry, and no
recorded transfer pays it in its life. -/
def TakenLate (st : CryptoStore) (o : CryptoPaymentOrder) : Prop :=
  (∃ r ∈ st.transactions, r.matchedOrderId = o.id ∧ o.expiresAt < r.paid) ∧
    ∀ r ∈ st.transactions, ¬ o.PaidInLife r

/-- **Attributed.** An order is open as long as no recorded transfer pays it
in its life, and open orders for one amount live one after the other. -/
structure Attributed (clock : Int) (st : CryptoStore) : Prop extends CryptoStore.Keyed st where
  certain : ∀ o ∈ st.orders, o.status ≠ .ambiguous
  expired : ∀ o ∈ st.orders, o.status = .expired → o.expiresAt < clock
  life : ∀ o ∈ st.orders, o.createTime ≤ o.expiresAt
  separate : ∀ o ∈ st.orders, ∀ o' ∈ st.orders, o.id < o'.id → o.SameAmount o' →
    o.unmatched = true → o'.unmatched = true → o.expiresAt < o'.createTime
  unpaid : ∀ o ∈ st.orders, o.unmatched = true → ∀ r ∈ st.transactions,
    ¬ o.PaidInLife r ∧ r.matchedOrderId ≠ o.id
  taken : ∀ o ∈ st.orders, o.unmatched = false →
    (∃ r ∈ st.transactions, r.matchedOrderId = o.id ∧ o.PaidInLife r) ∨ TakenLate st o
  known : ∀ r ∈ st.transactions, r.matchedOrderId ≤ st.orders.length

theorem attributed_empty (clock : Int) : Attributed clock {} where
  toKeyed := keyed_empty
  certain := by simp
  expired := by simp
  life := by simp
  separate := by simp
  unpaid := by simp
  taken := by simp
  known := by simp

section

variable {clock now : Int} {st st' : CryptoStore} {order order' : CryptoPaymentOrder}
  {tx : CryptoPaymentTransaction}

theorem Attributed.mono (h : Attributed clock st) (hle : clock ≤ now) : Attributed now st where
  toKeyed := h.toKeyed
  certain := h.certain
  expired := by
    intro o ho hs
    have := h.expired o ho hs
    omega
  life := h.life
  separate := h.separate
  unpaid := h.unpaid
  taken := h.taken
  known := h.known

/-- The transfers of `st'` are those of `st`, up to what is not part of the
payment or the match. -/
structure SameRows (st st' : CryptoStore) : Prop where
  back : ∀ r' ∈ st'.transactions, ∃ r ∈ st.transactions, r.key = r'.key ∧
    r'.payment = r.payment ∧ r'.matchedOrderId = r.matchedOrderId
  forth : ∀ r ∈ st.transactions, ∃ r' ∈ st'.transactions, r'.payment = r.payment ∧
    r'.matchedOrderId = r.matchedOrderId

theorem sameRows_of_eq (h : st'.transactions = st.transactions) : SameRows st st' :=
  ⟨fun r hr => ⟨r, h ▸ hr, rfl, rfl, rfl⟩, fun r hr => ⟨r, h ▸ hr, rfl, rfl⟩⟩

theorem SameRows.trans (h : SameRows st₁ st₂) (h' : SameRows st₂ st₃) : SameRows st₁ st₃ where
  back := by
    intro r₃ hr₃
    obtain ⟨r₂, hr₂, hkey', hpay', hmat'⟩ := h'.back r₃ hr₃
    obtain ⟨r₁, hr₁, hkey, hpay, hmat⟩ := h.back r₂ hr₂
    exact ⟨r₁, hr₁, hkey.trans hkey', hpay'.trans hpay, hmat'.trans hmat⟩
  forth := by
    intro r₁ hr₁
    obtain ⟨r₂, hr₂, hpay, hmat⟩ := h.forth r₁ hr₁
    obtain ⟨r₃, hr₃, hpay', hmat'⟩ := h'.forth r₂ hr₂
    exact ⟨r₃, hr₃, hpay'.trans hpay, hmat'.trans hmat⟩

theorem sameRows_putTransaction (hkeys : (st.transactions.map (·.key)).Nodup)
    (hr : r ∈ st.transactions) (hkey : r.key = tx.key) (hpay : tx.payment = r.payment)
    (hmat : tx.matchedOrderId = r.matchedOrderId) :
    SameRows st (st.putTransaction tx) where
  back := by
    intro r' hr'
    rcases mem_putTransaction.mp hr' with ⟨hold, _⟩ | rfl
    · exact ⟨r', hold, rfl, rfl, rfl⟩
    · exact ⟨r, hr, hkey, hpay, hmat⟩
  forth := by
    intro r' hr'
    by_cases hsame : r'.key = tx.key
    · have : r' = r := eq_of_key hkeys hr' hr (hsame.trans hkey.symm)
      exact ⟨tx, mem_putTransaction.mpr (.inr rfl), this ▸ hpay, this ▸ hmat⟩
    · exact ⟨r', mem_putTransaction.mpr (.inl ⟨hr', hsame⟩), rfl, rfl⟩

theorem SameRows.takenLate (h : SameRows st st') (htrm : order'.terms = order.terms)
    (hlate : TakenLate st order) : TakenLate st' order' := by
  obtain ⟨hid, _, _, _, _, _, _, hexp⟩ := terms_eq_iff.mp htrm
  obtain ⟨⟨r, hr, hmat, hpaid⟩, hnone⟩ := hlate
  constructor
  · obtain ⟨r', hr', hpay, hmat'⟩ := h.forth r hr
    have hsame : r'.paid = r.paid := congrArg (fun p => p.2.2.2.2) hpay
    exact ⟨r', hr', by rw [hmat', hmat, hid], by rw [hexp, hsame]; exact hpaid⟩
  · intro r' hr' hlife
    obtain ⟨r, hr, _, hpay, _⟩ := h.back r' hr'
    exact hnone r hr ((paidInLife_congr htrm hpay).mp hlife)

section

variable (h : Attributed clock st)
include h

theorem Attributed.keep (hkeyed : st'.Keyed) (hlen : st'.orders.length = st.orders.length)
    (hrows : SameRows st st') (hords : ∀ o' ∈ st'.orders, o'.status ≠ .ambiguous ∧
      (o'.status = .expired → o'.expiresAt < clock) ∧
      ∃ o ∈ st.orders, o'.terms = o.terms ∧ o'.unmatched = o.unmatched) :
    Attributed clock st' where
  toKeyed := hkeyed
  certain := fun o' ho' => (hords o' ho').1
  expired := fun o' ho' => (hords o' ho').2.1
  life := by
    intro o' ho'
    obtain ⟨_, _, o, ho, htrm, _⟩ := hords o' ho'
    obtain ⟨_, _, _, _, _, _, hcre, hexp⟩ := terms_eq_iff.mp htrm
    rw [hcre, hexp]
    exact h.life o ho
  separate := by
    intro o₁' ho₁' o₂' ho₂' hlt hsame hopen₁ hopen₂
    obtain ⟨_, _, o₁, ho₁, htrm₁, hclass₁⟩ := hords o₁' ho₁'
    obtain ⟨_, _, o₂, ho₂, htrm₂, hclass₂⟩ := hords o₂' ho₂'
    obtain ⟨hid₁, _, hn₁, ha₁, _, hu₁, _, hexp₁⟩ :=
      terms_eq_iff.mp htrm₁
    obtain ⟨hid₂, _, hn₂, ha₂, _, hu₂, hcre₂, _⟩ :=
      terms_eq_iff.mp htrm₂
    simp only [CryptoPaymentOrder.SameAmount, hn₁, ha₁, hu₁, hn₂, ha₂, hu₂] at hsame
    rw [hexp₁, hcre₂]
    exact h.separate o₁ ho₁ o₂ ho₂ (by rw [← hid₁, ← hid₂]; exact hlt) hsame
      (hclass₁ ▸ hopen₁) (hclass₂ ▸ hopen₂)
  unpaid := by
    intro o' ho' hopen r' hr'
    obtain ⟨_, _, o, ho, htrm, hclass⟩ := hords o' ho'
    obtain ⟨r, hr, _, hpay, hmat⟩ := hrows.back r' hr'
    obtain ⟨hlife, hfree⟩ := h.unpaid o ho (hclass ▸ hopen) r hr
    have hid := (terms_eq_iff.mp htrm).1
    refine ⟨fun hin => hlife ((paidInLife_congr htrm hpay).mp hin), ?_⟩
    rw [hmat, hid]
    exact hfree
  taken := by
    intro o' ho' hclose
    obtain ⟨_, _, o, ho, htrm, hclass⟩ := hords o' ho'
    have hid := (terms_eq_iff.mp htrm).1
    rcases h.taken o ho (hclass ▸ hclose) with ⟨r, hr, hmat, hlife⟩ | hlate
    · obtain ⟨r', hr', hpay, hmat'⟩ := hrows.forth r hr
      refine .inl ⟨r', hr', by rw [hmat', hmat, hid], ?_⟩
      exact (paidInLife_congr htrm hpay).mpr hlife
    · exact .inr (hrows.takenLate htrm hlate)
  known := by
    intro r' hr'
    obtain ⟨r, hr, _, _, hmat⟩ := hrows.back r' hr'
    rw [hmat, hlen]
    exact h.known r hr

theorem Attributed.keepOrder (hkeyed : st'.Keyed) (hrows : SameRows st st')
    (hords : st'.orders = (st.saveOrder order').orders) (hord : order ∈ st.orders)
    (htrm : order'.terms = order.terms) (hclass : order'.unmatched = order.unmatched)
    (hcert : order'.status ≠ .ambiguous)
    (hexp : order'.status = .expired → order'.expiresAt < clock) : Attributed clock st' := by
  refine h.keep hkeyed ?_ hrows ?_
  · rw [hords]
    exact length_saveRow _ _
  intro o' ho'
  rw [hords] at ho'
  rcases mem_saveOrder.mp ho' with ⟨hold, _⟩ | ⟨rfl, _⟩
  · exact ⟨h.certain o' hold, h.expired o' hold, o', hold, rfl, rfl⟩
  · exact ⟨hcert, hexp, order, hord, htrm, hclass⟩

/-- A new transfer leaves an order that was taken with its transfer. -/
theorem Attributed.taken_put (hord : order ∈ st.orders) (hclose : order.unmatched = false)
    (hknown : ∀ r ∈ st.transactions, r.key = tx.key → r.matchedOrderId = 0)
    (hlate : TakenLate st order → ¬ order.PaidInLife tx) :
    (∃ r ∈ (st.putTransaction tx).transactions, r.matchedOrderId = order.id ∧
      order.PaidInLife r) ∨ TakenLate (st.putTransaction tx) order := by
  -- a row that is matched has another key than the new one
  have hstay : ∀ r ∈ st.transactions, r.matchedOrderId = order.id →
      r ∈ (st.putTransaction tx).transactions := by
    intro r hr hmat
    refine mem_putTransaction.mpr (.inl ⟨hr, fun hkey => ?_⟩)
    have := hknown r hr hkey
    have := (h.range order hord).1
    omega
  rcases h.taken order hord hclose with ⟨r, hr, hmat, hlife⟩ | hl
  · exact .inl ⟨r, hstay r hr hmat, hmat, hlife⟩
  have htx := hlate hl
  obtain ⟨⟨r, hr, hmat, hpaid⟩, hnone⟩ := hl
  refine .inr ⟨⟨r, hstay r hr hmat, hmat, hpaid⟩, fun r' hr' => ?_⟩
  rcases mem_putTransaction.mp hr' with ⟨hold, _⟩ | rfl
  · exact hnone r' hold
  · exact htx

/-- A transfer that pays no open order, and no order that was taken late. -/
theorem Attributed.seen (hfree : tx.matchedOrderId = 0)
    (hknown : ∀ r ∈ st.transactions, r.key = tx.key → r.matchedOrderId = 0)
    (hopen : ∀ o ∈ st.orders, o.unmatched → ¬ o.PaidInLife tx)
    (hlate : ∀ o ∈ st.orders, TakenLate st o → ¬ o.PaidInLife tx) :
    Attributed clock (st.putTransaction tx) where
  toKeyed := h.toKeyed.putTransaction
  certain := by simpa using h.certain
  expired := by simpa using h.expired
  life := by simpa using h.life
  separate := by simpa using h.separate
  unpaid := by
    intro o ho hunm r hr
    rw [putTransaction_orders] at ho
    rcases mem_putTransaction.mp hr with ⟨hold, _⟩ | rfl
    · exact h.unpaid o ho hunm r hold
    · have := (h.range o ho).1
      exact ⟨hopen o ho hunm, by omega⟩
  taken := by
    intro o ho hclose
    rw [putTransaction_orders] at ho
    exact h.taken_put ho hclose hknown (hlate o ho)
  known := by
    intro r hr
    rw [putTransaction_orders]
    rcases mem_putTransaction.mp hr with ⟨hold, _⟩ | rfl
    · exact h.known r hold
    · omega

/-- A transfer takes an open order: it pays it in its life, or after it, and
it pays no other open order and no order that was taken late. -/
theorem Attributed.take (hord : order ∈ st.orders) (htrm : order'.terms = order.terms)
    (hclose : order'.unmatched = false) (hcert : order'.status ≠ .ambiguous)
    (hmatch : tx.matchedOrderId = order.id)
    (hknown : ∀ r ∈ st.transactions, r.key = tx.key → r.matchedOrderId = 0)
    (hunpaid : ∀ r ∈ st.transactions, ¬ order.PaidInLife r)
    (hopen : ∀ o ∈ st.orders, o.unmatched → o.id ≠ order.id → ¬ o.PaidInLife tx)
    (hlate : ∀ o ∈ st.orders, TakenLate st o → ¬ o.PaidInLife tx)
    (hpaid : order.PaidInLife tx ∨ order.expiresAt < tx.paid) :
    Attributed clock ((st.putTransaction tx).saveOrder order') := by
  obtain ⟨hid, htrade, _, _, _, _, hcre, hexp⟩ := terms_eq_iff.mp htrm
  have hords : ∀ o, o ∈ ((st.putTransaction tx).saveOrder order').orders →
      (o ∈ st.orders ∧ o.id ≠ order.id) ∨ o = order' := by
    intro o ho
    rcases mem_saveOrder.mp ho with ⟨hold, hne⟩ | ⟨rfl, _⟩
    · exact .inl ⟨by simpa using hold, hid ▸ hne⟩
    · exact .inr rfl
  have htx : tx ∈ ((st.putTransaction tx).saveOrder order').transactions :=
    mem_putTransaction.mpr (.inr rfl)
  -- an unmatched order is an old one, and not the one that was taken
  have hold : ∀ o ∈ ((st.putTransaction tx).saveOrder order').orders, o.unmatched →
      o ∈ st.orders ∧ o.id ≠ order.id := by
    intro o ho hunm
    rcases hords o ho with hold | rfl
    · exact hold
    · rw [hclose] at hunm
      cases hunm
  exact {
    toKeyed := h.toKeyed.putTransaction.saveOrder (by simpa using hord) hid htrade
    certain := by
      intro o ho
      rcases hords o ho with ⟨hold, _⟩ | rfl
      · exact h.certain o hold
      · exact hcert
    expired := by
      intro o ho hs
      have hunm : o.unmatched := by simp [unmatched, hs]
      exact h.expired o (hold o ho hunm).1 hs
    life := by
      intro o ho
      rcases hords o ho with ⟨hold, _⟩ | rfl
      · exact h.life o hold
      · rw [hcre, hexp]
        exact h.life order hord
    separate := by
      intro o₁ ho₁ o₂ ho₂ hlt hsame hopen₁ hopen₂
      exact h.separate o₁ (hold o₁ ho₁ hopen₁).1 o₂ (hold o₂ ho₂ hopen₂).1 hlt hsame hopen₁ hopen₂
    unpaid := by
      intro o ho hunm r hr
      obtain ⟨hmem, hne⟩ := hold o ho hunm
      rcases mem_putTransaction.mp hr with ⟨hr, _⟩ | rfl
      · exact h.unpaid o hmem hunm r hr
      · exact ⟨hopen o hmem hunm hne, by rw [hmatch]; exact Ne.symm hne⟩
    taken := by
      intro o ho htaken
      rcases hords o ho with ⟨hmem, hne⟩ | rfl
      · exact h.taken_put hmem htaken hknown (hlate o hmem)
      rcases hpaid with hlife | hlate'
      · exact .inl ⟨tx, htx, hmatch.trans hid.symm, (paidInLife_congr htrm rfl).mpr hlife⟩
      refine .inr ⟨⟨tx, htx, hmatch.trans hid.symm, by rw [hexp]; exact hlate'⟩,
        fun r' hr' hlife => ?_⟩
      rw [paidInLife_congr htrm rfl] at hlife
      rcases mem_putTransaction.mp hr' with ⟨hr', _⟩ | rfl
      · exact hunpaid r' hr' hlife
      · have := hlife.2.2
        omega
    known := by
      have hlen : ((st.putTransaction tx).saveOrder order').orders.length =
          st.orders.length := by
        simp [saveOrder]
      intro r hr
      rw [hlen]
      rcases mem_putTransaction.mp hr with ⟨hr, _⟩ | rfl
      · exact h.known r hr
      · rw [hmatch]
        exact (h.range order hord).2 }

end

/-! ## Creating an order -/

theorem Attributed.expired_of_free (h : Attributed now st) {network receiveAddress units}
    (hfree : st.collides network receiveAddress units now = false) (hord : order ∈ st.orders)
    (hopen : order.unmatched) (hn : order.network = network)
    (ha : order.receiveAddress = receiveAddress) (hu : order.payAmountBaseUnits = units) :
    order.expiresAt < now := by
  by_contra hlive
  have hact : isActiveCryptoOrderStatus order.status = false := by
    simp only [collides, any_eq_false] at hfree
    simpa [hn, ha, hu, not_lt.mp hlive] using hfree order hord
  simp only [unmatched, Bool.decide_or, Bool.or_eq_true, decide_eq_true_eq] at hopen
  rcases hopen with hs | hs
  · rw [hs] at hact
    cases hact
  · exact hlive (h.expired order hord hs)

/-- A new order, when every transfer to its address was paid before. -/
theorem Attributed.insertOrder (h : Attributed now st) {input payAmount units topUp}
    (hfree : st.collides (normalizeCryptoNetwork input.network)
      (trimSpace input.receiveAddress) units now = false)
    (htrade : ∀ o ∈ st.orders, o.tradeNo ≠ input.tradeNo)
    (hpre : ∀ r ∈ st.transactions, r.network = normalizeCryptoNetwork input.network →
      r.toAddress = trimSpace input.receiveAddress →
      r.tokenContract = trimSpace input.tokenContract → r.paid < now) :
    Attributed now (st.insertOrder (st.newOrder now input payAmount units) topUp) := by
  have hords : ∀ o ∈ (st.insertOrder (st.newOrder now input payAmount units) topUp).orders,
      o ∈ st.orders ∨ o = st.newOrder now input payAmount units := by
    intro o ho
    simpa [CryptoStore.insertOrder] using ho
  exact {
    toKeyed := h.toKeyed.insertOrder rfl htrade
    certain := by
      intro o ho
      rcases hords o ho with hold | rfl
      · exact h.certain o hold
      · intro hs
        cases hs
    expired := by
      intro o ho hs
      rcases hords o ho with hold | rfl
      · exact h.expired o hold hs
      · cases hs
    life := by
      intro o ho
      rcases hords o ho with hold | rfl
      · exact h.life o hold
      · simp only [newOrder, expireMinutes]
        split <;> omega
    separate := by
      intro o₁ ho₁ o₂ ho₂ hlt hsame hopen₁ hopen₂
      rcases hords o₁ ho₁ with hold₁ | rfl <;> rcases hords o₂ ho₂ with hold₂ | rfl
      · exact h.separate o₁ hold₁ o₂ hold₂ hlt hsame hopen₁ hopen₂
      · exact h.expired_of_free hfree hold₁ hopen₁ hsame.1 hsame.2.1 hsame.2.2
      · -- the new order has the largest id
        have hle := (h.range o₂ hold₂).2
        simp only [newOrder] at hlt
        omega
      · omega
    unpaid := by
      intro o ho hopen r hr
      rcases hords o ho with hold | rfl
      · exact h.unpaid o hold hopen r hr
      have hle := h.known r hr
      refine ⟨fun hlife => ?_, by simp only [newOrder]; omega⟩
      obtain ⟨hn, ha, hc, _⟩ := paidBy_iff.mp hlife.1
      have hlt := hpre r hr hn.symm ha.symm hc.symm
      have hge : now ≤ r.paid := hlife.2.1
      omega
    taken := by
      intro o ho hclose
      rcases hords o ho with hold | rfl
      · exact h.taken o hold hclose
      · cases hclose
    known := by
      intro r hr
      have hle := h.known r hr
      simp only [CryptoStore.insertOrder, length_append, length_cons, length_nil]
      omega }

/-! ## Recording a transfer -/

/-- A step matches a transfer only with an order that it pays, after the
order's creation, and before its expiry or as a late payment. -/
def MatchedInLife (st st' : CryptoStore) : Prop :=
  ∀ r ∈ st'.transactions, ∀ o ∈ st'.orders, r.matchedOrderId = o.id →
    (∃ r₀ ∈ st.transactions, r₀.key = r.key ∧ r₀.matchedOrderId = o.id) ∨
    (o.paidBy r = true ∧ o.createTime ≤ r.paid ∧
      (r.paid ≤ o.expiresAt ∨ o.status = .latePaid))

theorem SameRows.matchedInLife (h : SameRows st st') : MatchedInLife st st' := by
  intro r hr o _ hmat
  obtain ⟨r₀, hr₀, hkey, _, hsame⟩ := h.back r hr
  exact .inl ⟨r₀, hr₀, hkey, by rw [← hsame, hmat]⟩

theorem matchedInLife_put (hrows : st'.transactions = (st.putTransaction tx).transactions)
    (htx : ∀ o ∈ st'.orders, tx.matchedOrderId = o.id →
      o.paidBy tx ∧ o.createTime ≤ tx.paid ∧
        (tx.paid ≤ o.expiresAt ∨ o.status = .latePaid)) :
    MatchedInLife st st' := by
  intro r hr o ho hmat
  rw [hrows] at hr
  rcases mem_putTransaction.mp hr with ⟨hold, _⟩ | rfl
  · exact .inl ⟨r, hold, rfl, hmat⟩
  · exact .inr (htx o ho hmat)

/-- The transfer is already matched; or it is reported as it is stored, no
open order for it was created after it was paid, and none that it pays in its
life went to a later transfer. -/
def RecordedInOrder (st : CryptoStore) (row : CryptoPaymentTransaction) : Prop :=
  (∃ known ∈ st.transactions, known.key = row.key ∧ known.matchedOrderId ≠ 0) ∨
  ((∀ known ∈ st.transactions, known.key = row.key → known.payment = row.payment) ∧
    (∀ o ∈ st.orders, o.unmatched = true → o.paidBy row = true → row.paid ≤ o.expiresAt →
      o.createTime ≤ row.paid) ∧
    ∀ o ∈ st.orders, o.PaidInLife row → ∀ r ∈ st.transactions, r.matchedOrderId = o.id →
      r.paid ≤ o.expiresAt)

instance : Decidable (RecordedInOrder st row) := inferInstanceAs (Decidable (_ ∨ (_ ∧ _ ∧ _)))

variable {transfer : CryptoObservedTransfer}

theorem observe_matched (hkeys : (st.transactions.map (·.key)).Nodup) (hr : r ∈ st.transactions)
    (hkey : r.key = (transfer.row now).key) :
    (st.observe now transfer).matchedOrderId = r.matchedOrderId := by
  rcases st.observe_cases now transfer with ⟨hnew, _⟩ | ⟨known, hmem, hknown, hsaved⟩
  · exact absurd hkey (hnew r hr)
  · rw [hsaved, eq_of_key hkeys hr hmem (hkey.trans hknown.symm)]

theorem observe_payment (hagree : ∀ known ∈ st.transactions, known.key = (transfer.row now).key →
      known.payment = (transfer.row now).payment) :
    (st.observe now transfer).payment = (transfer.row now).payment := by
  rcases st.observe_cases now transfer with ⟨_, hsaved⟩ | ⟨known, hmem, hknown, hsaved⟩
  · rw [hsaved]
  · rw [hsaved]
    exact hagree known hmem hknown

/-- A transfer that is already matched only gets its confirmations. -/
theorem observe_sameRows (hkeys : (st.transactions.map (·.key)).Nodup)
    (hmatch : (st.observe now transfer).matchedOrderId ≠ 0) :
    SameRows st (st.putTransaction (st.observe now transfer)) := by
  rcases st.observe_cases now transfer with ⟨_, hsaved⟩ | ⟨known, hmem, _, hsaved⟩
  · rw [hsaved] at hmatch
    exact absurd rfl hmatch
  · rw [hsaved]
    exact sameRows_putTransaction hkeys hmem rfl rfl rfl

/-- Two open orders are never candidates for one transfer. -/
theorem Attributed.candidates_unique (h : Attributed now st)
    (hpre : ∀ o ∈ st.orders, o.unmatched → o.paidBy row →
      row.paid ≤ o.expiresAt → o.createTime ≤ row.paid)
    (h₁ : o₁ ∈ st.candidates row row.paid) (h₂ : o₂ ∈ st.candidates row row.paid) :
    o₁.id = o₂.id := by
  obtain ⟨hmem₁, hpaid₁, hexp₁, hopen₁⟩ := mem_candidates.mp h₁
  obtain ⟨hmem₂, hpaid₂, hexp₂, hopen₂⟩ := mem_candidates.mp h₂
  have hcre₁ := hpre o₁ hmem₁ hopen₁ hpaid₁ hexp₁
  have hcre₂ := hpre o₂ hmem₂ hopen₂ hpaid₂ hexp₂
  rcases lt_trichotomy o₁.id o₂.id with hlt | heq | hlt
  · have := h.separate o₁ hmem₁ o₂ hmem₂ hlt
      (sameAmount_of_paidBy hpaid₁ hpaid₂) hopen₁ hopen₂
    omega
  · exact heq
  have := h.separate o₂ hmem₂ o₁ hmem₁ hlt (sameAmount_of_paidBy hpaid₂ hpaid₁) hopen₂ hopen₁
  omega

/-- A transfer is matched to an open order that it pays in its life, or that it
pays late while it pays no open order in its life. -/
theorem Attributed.matchOrder (h : Attributed now st) (hpay : saved.payment = row.payment)
    (hknown : ∀ r ∈ st.transactions, r.key = saved.key → r.matchedOrderId = 0)
    (hlate : ∀ o ∈ st.orders, TakenLate st o → ¬ o.PaidInLife row) (hord : order ∈ st.orders)
    (hunm : order.unmatched) (hpaidB : order.paidBy row)
    (htrm : order'.terms = order.terms) (hclose : order'.unmatched = false)
    (hcert : order'.status ≠ .ambiguous)
    (hopen : ∀ o ∈ st.orders, o.unmatched → o.id ≠ order.id → ¬ o.PaidInLife row)
    (hpaid : order.PaidInLife row ∨ (order.expiresAt < row.paid ∧ order'.status = .latePaid)) :
    Attributed now ((st.putTransaction saved).matchOrder order' saved) ∧
      MatchedInLife st ((st.putTransaction saved).matchOrder order' saved) := by
  obtain ⟨hid, _, hn, ha, hc, hu, hcre, hexp⟩ := terms_eq_iff.mp htrm
  set tx : CryptoPaymentTransaction := { saved with matchedOrderId := order'.id } with htx
  have htxpay : tx.payment = row.payment := hpay
  have htxp : tx.paid = row.paid := congrArg (fun p => p.2.2.2.2) htxpay
  have hlife : ∀ o : CryptoPaymentOrder, o.PaidInLife tx ↔ o.PaidInLife row := fun o =>
    paidInLife_congr rfl htxpay
  have hafter : order.createTime ≤ tx.paid := by
    have := h.life order hord
    rcases hpaid with hin | ⟨hlt, _⟩
    · exact ((hlife order).mpr hin).2.1
    · omega
  rw [matchOrder_eq_once]
  constructor
  · refine h.take hord htrm hclose hcert hid hknown
      (fun r hr => (h.unpaid order hord hunm r hr).1) ?_ ?_ ?_
    · exact fun o ho ho' hne => (hlife o).not.mpr (hopen o ho ho' hne)
    · exact fun o ho ho' => (hlife o).not.mpr (hlate o ho ho')
    rcases hpaid with hin | ⟨hlt, _⟩
    · exact .inl ((hlife order).mpr hin)
    · exact .inr (by rw [htxp]; exact hlt)
  refine matchedInLife_put rfl fun o ho hmat => ?_
  have ho' : o = order' := by
    rcases mem_saveOrder.mp ho with ⟨_, hne⟩ | ⟨heq, _⟩
    · exact absurd hmat.symm hne
    · exact heq
  subst ho'
  refine ⟨?_, by rw [hcre]; exact hafter, ?_⟩
  · rw [paidBy_iff] at hpaidB ⊢
    have hfield : tx.network = row.network ∧ tx.toAddress = row.toAddress ∧
        tx.tokenContract = row.tokenContract ∧ tx.amountBaseUnits = row.amountBaseUnits := by
      simp only [CryptoPaymentTransaction.payment, Prod.mk.injEq] at htxpay
      exact ⟨htxpay.1, htxpay.2.1, htxpay.2.2.1, htxpay.2.2.2.1⟩
    rw [hn, ha, hc, hu, hfield.1, hfield.2.1, hfield.2.2.1, hfield.2.2.2]
    exact hpaidB
  · rcases hpaid with hin | ⟨_, hs⟩
    · exact .inl (by rw [htxp, hexp]; exact hin.2.2)
    · exact .inr hs

/-- **Recording a transfer** in order keeps the invariant, and matches it to the
order that it pays. -/
theorem Attributed.record (h : Attributed now st) (hok : RecordedInOrder st (transfer.row now)) :
    Attributed now (st.recordCryptoTransfer now transfer) ∧
      MatchedInLife st (st.recordCryptoTransfer now transfer) := by
  have hkey := st.observe_key now transfer
  have hcs := st.recordCryptoTransfer_cases now transfer
  by_cases hm : (st.observe now transfer).matchedOrderId = 0
  · rcases hok with ⟨known, hmem, hknownKey, hmatch⟩ | ⟨hagree, hpre, hfst⟩
    · exact absurd (observe_matched h.keys hmem hknownKey ▸ hm) hmatch
    have hpay := observe_payment hagree
    have hknown : ∀ r ∈ st.transactions, r.key = (st.observe now transfer).key →
        r.matchedOrderId = 0 := fun r hr hsame =>
      (observe_matched h.keys hr (hsame.trans hkey)).symm.trans hm
    have hlate : ∀ o ∈ st.orders, TakenLate st o → ¬ o.PaidInLife (transfer.row now) := by
      rintro o ho ⟨⟨r, hr, hmat, _⟩, _⟩ hlife
      have := hfst o ho hlife r hr hmat
      omega
    -- an open order that is paid in its life is a candidate
    have hcand : ∀ o ∈ st.orders, o.unmatched → o.PaidInLife (transfer.row now) →
        o ∈ st.candidates (transfer.row now) (transfer.paidAt now) :=
      fun o ho hopen hlife => mem_candidates.mpr ⟨ho, hlife.1, hlife.2.2, hopen⟩
    rcases hcs with ⟨hrec, hnone⟩ | ⟨order, _, hone, hrec⟩ | ⟨o₁, o₂, rest, _, hmany, _⟩ |
      ⟨order, hlat, _, hnone, hrec⟩
    · rw [hrec]
      obtain ⟨hnil, _⟩ := hnone.resolve_left fun hne => hne hm
      refine ⟨h.seen hm hknown (fun o ho hopen => ?_) (fun o ho hl => ?_), ?_⟩
      · rw [paidInLife_congr rfl hpay]
        intro hlife
        have := hcand o ho hopen hlife
        rw [hnil] at this
        cases this
      · rw [paidInLife_congr rfl hpay]
        exact hlate o ho hl
      refine matchedInLife_put rfl fun o ho hmat => ?_
      rw [putTransaction_orders] at ho
      have := (h.range o ho).1
      omega
    · rw [hrec]
      have hmem : order ∈ st.candidates (transfer.row now) (transfer.paidAt now) := by
        rw [hone]
        exact mem_singleton.mpr rfl
      obtain ⟨hord, hpaidB, hexp, hopen⟩ := mem_candidates.mp hmem
      refine h.matchOrder hpay hknown hlate hord hopen hpaidB rfl rfl nofun ?_ ?_
      · intro o ho ho' hne hlife
        have := hcand o ho ho' hlife
        rw [hone, mem_singleton] at this
        exact hne (this ▸ rfl)
      · exact .inl ⟨hpaidB, hpre order hord hopen hpaidB hexp, hexp⟩
    · -- two candidates would live one after the other
      have hsub : ((st.candidates (transfer.row now) (transfer.paidAt now)).map (·.id)).Nodup :=
        Nodup.sublist (filter_sublist.map _) h.ids
      have hsame : o₁.id = o₂.id := by
        refine h.candidates_unique hpre ?_ ?_
        · exact hmany ▸ mem_cons_self
        · exact hmany ▸ mem_cons_of_mem _ mem_cons_self
      rw [hmany] at hsub
      simp [hsame] at hsub
    rw [hrec]
    obtain ⟨hord, hpaidB, hexp, hopen⟩ := mem_tooLate.mp hlat
    refine h.matchOrder hpay hknown hlate hord hopen hpaidB rfl rfl nofun ?_
      (.inr ⟨hexp, rfl⟩)
    intro o ho ho' _ hlife
    have := hcand o ho ho' hlife
    rw [hnone] at this
    cases this
  have hrows := observe_sameRows h.keys hm
  rcases hcs with ⟨hrec, _⟩ | ⟨_, hz, _⟩ | ⟨_, _, _, hz, _⟩ | ⟨_, _, hz, _⟩
  · rw [hrec]
    refine ⟨h.keep h.toKeyed.putTransaction (by simp) hrows fun o ho => ?_, hrows.matchedInLife⟩
    rw [putTransaction_orders] at ho
    exact ⟨h.certain o ho, h.expired o ho, o, ho, rfl, rfl⟩
  · exact absurd hz hm
  · exact absurd hz hm
  · exact absurd hz hm

/-! ## Completing an order -/

/-- The order that a completion finds is completed, or the transfer of the
evidence is the one it is matched to. -/
def OwnTransfer (st : CryptoStore) (tradeNo txHash : String) (logIndex : Int) : Prop :=
  ∀ o ∈ st.orderByTradeNo tradeNo, o.status = .success ∨
    ∃ r ∈ st.transaction o.network txHash logIndex, r.matchedOrderId = o.id

instance : Decidable (OwnTransfer st trade txHash logIndex) :=
  inferInstanceAs (Decidable (∀ o ∈ st.orderByTradeNo trade, _ ∨ _))

/-- Every order of `st` is in `st'`, with its terms. -/
def KeepsTerms (st st' : CryptoStore) : Prop :=
  ∀ o ∈ st.orders, ∃ o' ∈ st'.orders, o'.terms = o.terms

theorem keepsTerms_saveOrder (hids : (st.orders.map (·.id)).Nodup) (hord : order ∈ st.orders)
    (htrm : order'.terms = order.terms) : KeepsTerms st (st.saveOrder order') := by
  intro o ho
  have hid := (terms_eq_iff.mp htrm).1
  by_cases hsame : o.id = order'.id
  · have : o = order := eq_of_key hids ho hord (hsame.trans hid)
    exact ⟨order', mem_saveOrder.mpr (.inr ⟨rfl, o, ho, hsame⟩), this ▸ htrm⟩
  · exact ⟨o, mem_saveOrder.mpr (.inl ⟨ho, hsame⟩), rfl⟩

/-- A completion with an order's own transfer matches nothing. -/
theorem Attributed.complete (h : Attributed now st) {tradeNo evidence}
    (hdone : st.completeCryptoTopUp rates now tradeNo evidence = .ok st')
    (hown : OwnTransfer st tradeNo evidence.txHash evidence.logIndex) :
    Attributed now st' ∧ SameRows st st' ∧ KeepsTerms st st' := by
  rcases completeCryptoTopUp_cases hdone with
    rfl | ⟨order, hfind, hs, _, hst'⟩
  · exact ⟨h, sameRows_of_eq rfl, fun o ho => ⟨o, ho, rfl⟩⟩
  have hord := orderByTradeNo_some hfind
  obtain ⟨r, hr, hmat⟩ := (hown order hfind).resolve_left hs
  obtain ⟨hmem, _⟩ := transaction_some hr
  -- the order has its transfer, so it is not open
  have hclose : order.unmatched = false := by
    by_contra hopen
    exact (h.unpaid order hord (by simpa using hopen) r hmem).2 hmat
  rcases hst' with rfl | ⟨tx, c, htx, rfl⟩
  · have hrows : SameRows st (st.saveOrder (order.markClosed now)) := sameRows_of_eq rfl
    refine ⟨h.keepOrder (h.toKeyed.saveOrder hord ?_ ?_) hrows rfl hord ?_ ?_ ?_ ?_, hrows,
      keepsTerms_saveOrder h.ids hord rfl⟩
    · rfl
    · rfl
    · rfl
    · exact hclose.symm
    · intro hs
      cases hs
    · intro hs
      cases hs
  have hrows : SameRows st (st.putTransaction tx) := by
    rcases (claimTransaction_ok htx).2 with ⟨hnone, _⟩ | ⟨known, hknown, rfl, _⟩
    · rw [hr] at hnone
      cases hnone
    · cases hr.symm.trans hknown
      exact sameRows_putTransaction h.keys hmem rfl rfl hmat.symm
  have hrows' : SameRows st (st.completed
      (order.markSuccess evidence.txHash evidence.logIndex now) tx c) :=
    ⟨hrows.back, hrows.forth⟩
  have hords : (st.completed (order.markSuccess evidence.txHash evidence.logIndex now)
      tx c).orders = (st.saveOrder (order.markSuccess evidence.txHash evidence.logIndex
        now)).orders := by
    simp [completed, saveOrder, saveTopUp]
  have htrm := keepsTerms_saveOrder h.ids hord
    (show (order.markSuccess evidence.txHash evidence.logIndex now).terms = order.terms from rfl)
  refine ⟨h.keepOrder (h.toKeyed.completed hord ?_ ?_) hrows' hords hord ?_ ?_ ?_ ?_,
    hrows', fun o ho => hords ▸ htrm o ho⟩
  · rfl
  · rfl
  · rfl
  · exact hclose.symm
  · intro hs
    cases hs
  · intro hs
    cases hs

/-! ## Every run -/

/-- What an operation must meet: the transfers at a new order's address were
paid before, a transfer is recorded in order, and an administrator completes
an order with its own transfer. -/
def Orderly (w : CryptoWorld) (act : CryptoAct) : Prop :=
  match act.op with
  | .create input => ∀ r ∈ w.store.transactions,
    r.network = normalizeCryptoNetwork input.network →
    r.toAddress = trimSpace input.receiveAddress →
    r.tokenContract = trimSpace input.tokenContract → r.paid < w.now act
  | .record transfer => RecordedInOrder w.store (transfer.row (w.now act))
  | .adminComplete tradeNo _ evidence =>
    OwnTransfer w.store (trimSpace tradeNo) evidence.txHash evidence.logIndex
  | .expire _ => True
  | .completeReady _ => True

instance (w : CryptoWorld) : (act : CryptoAct) → Decidable (Orderly w act)
  | ⟨_, .create _⟩ => inferInstanceAs (Decidable (∀ r ∈ w.store.transactions, _ → _ → _ → _))
  | ⟨_, .record _⟩ => inferInstanceAs (Decidable (RecordedInOrder ..))
  | ⟨_, .adminComplete _ _ _⟩ => inferInstanceAs (Decidable (OwnTransfer ..))
  | ⟨_, .expire _⟩ => isTrue trivial
  | ⟨_, .completeReady _⟩ => isTrue trivial

theorem Attributed.completeReady (h : Attributed now st) {orders}
    (hords : ∀ o ∈ orders, o ∈ st.orders) :
    Attributed now (CryptoStore.completeReady rates now orders st) ∧
      SameRows st (CryptoStore.completeReady rates now orders st) := by
  -- an order that the loop has read is still stored, under its terms
  refine completeReady_rule (fun st' => Attributed now st' ∧ SameRows st st')
    (fun st' order => ∃ o ∈ st'.orders, o.terms = order.terms) ?_ orders st
    ⟨h, sameRows_of_eq rfl⟩ (fun o ho => ⟨o, hords o ho, rfl⟩)
  rintro st₁ order tx st₂ ⟨h₁, hrows₁⟩ ⟨o, ho, htrm⟩ hready hdone
  obtain ⟨hid, htrade, hn, _⟩ := terms_eq_iff.mp htrm
  obtain ⟨htx, hmat⟩ := readyTransaction_some hready
  have hown : OwnTransfer st₁ order.tradeNo tx.txHash tx.logIndex := by
    intro o' hfind
    have ho' : o' = o := by
      refine eq_of_key h₁.tradeNos (orderByTradeNo_some hfind) ho ?_
      rw [orderByTradeNo_tradeNo hfind, htrade]
    subst ho'
    exact .inr ⟨tx, by rw [hn]; exact htx, by rw [hid]; exact hmat⟩
  obtain ⟨h₂, hrows₂, hkeep⟩ := h₁.complete hdone hown
  refine ⟨⟨h₂, hrows₁.trans hrows₂⟩, ?_⟩
  rintro copy ⟨o₁, ho₁, htrm₁⟩
  obtain ⟨o₂, ho₂, htrm₂⟩ := hkeep o₁ ho₁
  exact ⟨o₂, ho₂, htrm₂.trans htrm₁⟩

theorem Attributed.step {w} (h : Attributed w.clock w.store) {act} (hok : Orderly w act) :
    Attributed (w.step rates act).clock (w.step rates act).store ∧
      MatchedInLife w.store (w.step rates act).store := by
  have hnow : Attributed (w.now act) w.store := by
    refine h.mono ?_
    simp only [CryptoWorld.now]
    omega
  have hsame : MatchedInLife w.store w.store := (sameRows_of_eq rfl).matchedInLife
  obtain ⟨wait, op⟩ := act
  cases op with
  | create input =>
    simp only [CryptoWorld.step, apply]
    cases hc : w.store.createCryptoTopUpOrder (w.now ⟨wait, .create input⟩) input with
    | error => exact ⟨hnow, hsame⟩
    | ok =>
      obtain ⟨_, _, _, _, hfree, htrade, rfl⟩ := createCryptoTopUpOrder_ok hc
      exact ⟨hnow.insertOrder hfree htrade hok, (sameRows_of_eq rfl).matchedInLife⟩
  | expire tradeNo =>
    simp only [CryptoWorld.step, apply]
    rcases w.store.expireCryptoOrder_cases (w.now ⟨wait, .expire tradeNo⟩)
      tradeNo with heq | ⟨order, hord, hpend, hdue, heq⟩ <;> rw [heq]
    · exact ⟨hnow, hsame⟩
    refine ⟨hnow.keepOrder (hnow.toKeyed.saveOrder hord rfl rfl) (sameRows_of_eq rfl) rfl
      hord rfl ?_ nofun (fun _ => hdue), (sameRows_of_eq rfl).matchedInLife⟩
    simp [unmatched, hpend]
  | record => exact hnow.record hok
  | completeReady =>
    obtain ⟨h', hrows⟩ := hnow.completeReady fun o ho => (mem_filter.mp ho).1
    exact ⟨h', hrows.matchedInLife⟩
  | adminComplete tradeNo reason evidence =>
    simp only [CryptoWorld.step, apply]
    cases hc : w.store.adminCompleteCryptoTopUp rates
        (w.now ⟨wait, .adminComplete tradeNo reason evidence⟩) tradeNo reason evidence with
    | error => exact ⟨hnow, hsame⟩
    | ok =>
      obtain ⟨_, _, hdone⟩ := adminCompleteCryptoTopUp_ok hc
      obtain ⟨h', hrows, _⟩ := hnow.complete hdone hok
      exact ⟨h', hrows.matchedInLife⟩

/-- The only recorded transfer that pays an order in its life has the order. -/
theorem Attributed.matched (h : Attributed clock st) (hord : order ∈ st.orders)
    (htx : tx ∈ st.transactions) (hlife : order.PaidInLife tx)
    (honly : ∀ r ∈ st.transactions, order.PaidInLife r → r = tx) :
    tx.matchedOrderId = order.id := by
  have hclose : order.unmatched = false := by
    by_contra hopen
    exact (h.unpaid order hord (by simpa using hopen) tx htx).1 hlife
  rcases h.taken order hord hclose with ⟨r, hr, hmat, hlife'⟩ | ⟨_, hnone⟩
  · exact honly r hr hlife' ▸ hmat
  · exact absurd hlife (hnone tx htx)

end

/-- **A transfer goes to the order it pays.** In every orderly run, the only
recorded transfer that pays an order in its life is matched to it and the
order is not ambiguous; and the next operation matches a transfer only with
an order in whose life it was paid, or as a late payment. -/
theorem transfer_attributed (rates : Rates) (clock : Int) (acts : List CryptoAct)
    (hacts : Along (CryptoWorld.step rates) Orderly { clock } acts) :
    let w := exec (CryptoWorld.step rates) { clock } acts
    (∀ o ∈ w.store.orders, ∀ r ∈ w.store.transactions, o.PaidInLife r →
      (∀ r' ∈ w.store.transactions, o.PaidInLife r' → r' = r) →
      r.matchedOrderId = o.id ∧ o.status ≠ .ambiguous) ∧
    ∀ act, Orderly w act → MatchedInLife w.store (w.step rates act).store := by
  intro w
  have hw : Attributed w.clock w.store :=
    Along.invariant (fun w : CryptoWorld => Attributed w.clock w.store)
      (fun _ _ hw hok => (hw.step hok).1) (attributed_empty clock) hacts
  refine ⟨fun o ho r hr hlife honly => ⟨hw.matched ho hr hlife honly, hw.certain o ho⟩, ?_⟩
  exact fun act hok => (hw.step hok).2

/-- An amount that is used again after the first order was paid. -/
theorem transfer_attributed_sample :
    let w := exec (CryptoWorld.step ⟨500⟩) { clock := 100 }
      [⟨0, .create (sampleInput 1 "A")⟩, ⟨90, .record (sampleTransfer "2000001" 150)⟩,
        ⟨1, .completeReady "bsc_erc20"⟩, ⟨700, .create (sampleInput 1 "B")⟩]
    (∀ o ∈ w.store.orders, ∀ r ∈ w.store.transactions, o.PaidInLife r →
      (∀ r' ∈ w.store.transactions, o.PaidInLife r' → r' = r) →
      r.matchedOrderId = o.id ∧ o.status ≠ .ambiguous) ∧
    ∀ act, Orderly w act → MatchedInLife w.store (w.step ⟨500⟩ act).store :=
  transfer_attributed ⟨500⟩ 100 _ (by decide +kernel)

/-- A transfer paid at 500 is recorded at 800, after an order for its amount
was created at 700. The order that it paid, alive from 0 to 600, becomes
ambiguous together with the new one; without the old one, the transfer is
matched to an order that did not exist when it was paid. -/
theorem transfer_misattributed :
    let late := exec (CryptoWorld.step ⟨500⟩) {}
      [⟨0, .create (sampleInput 1 "A")⟩, ⟨700, .create (sampleInput 1 "B")⟩,
        ⟨100, .record (sampleTransfer "2000001" 500)⟩]
    let early := exec (CryptoWorld.step ⟨500⟩) {}
      [⟨700, .create (sampleInput 1 "B")⟩, ⟨100, .record (sampleTransfer "2000001" 500)⟩]
    late.store.orders.map (fun o => (o.createTime, o.expiresAt, o.status)) =
        [(0, 600, .ambiguous), (700, 1300, .ambiguous)] ∧
      late.store.transactions.map (fun r => (r.paid, r.matchedOrderId)) = [(500, 0)] ∧
      early.store.orders.map (fun o => (o.id, o.createTime, o.status)) = [(1, 700, .detected)] ∧
      early.store.transactions.map (fun r => (r.paid, r.matchedOrderId)) = [(500, 1)] := by
  decide +kernel

end HermesToken.Payment
