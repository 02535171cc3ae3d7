import HermesToken.Lib.ReadCommitted
import HermesToken.Payment.CryptoStore

/-!
# The status of a crypto order under concurrent writers

A status query that expires an order, the recording of a transfer and a
completion, as concurrent transactions on ONE order row. Expiry, match and
completion save the whole row they have read; only the ambiguous mark is an
update of two columns. Nothing that a writer checked is checked again when it
writes.
-/

namespace HermesToken.Payment

open Lib Lib.ReadCommitted CryptoStore CryptoPaymentOrder Sys

variable {others : CryptoStore}

/-- A save of the whole row: every column is overwritten. -/
def saveWhole (row : CryptoPaymentOrder) : Change CryptoPaymentOrder Unit :=
  { apply := fun _ => row, effects := [] }

/-- The writers of an order row, with what they read of the other rows. -/
inductive OrderOp where
  | expire (now : Int)
  | record (observedAt : Int) (transfer : CryptoObservedTransfer) (others : CryptoStore)
  | complete (now : Int) (evidence : CryptoTxEvidence) (topUp : Option TopUp)
      (existing : Option CryptoPaymentTransaction)

/-- The store that a recording reads: the order, and the other rows. -/
def withOrder (order : CryptoPaymentOrder) (others : CryptoStore) : CryptoStore :=
  { others with orders := order :: others.orders }

/-- What `RecordCryptoTransfer` writes to the order. -/
def recordChange (observedAt : Int) (transfer : CryptoObservedTransfer) (others : CryptoStore)
    (order : CryptoPaymentOrder) : Option (Change CryptoPaymentOrder Unit) :=
  let st := withOrder order others
  let row := transfer.row observedAt
  let paidAt := transfer.paidAt observedAt
  if (st.observe observedAt transfer).matchedOrderId ≠ 0 then none
  else match st.candidates row paidAt with
    | [o] =>
      if o = order then some (saveWhole (order.markDetected row.txHash row.logIndex observedAt))
      else none
    | _ :: _ :: _ =>
      if order ∈ st.candidates row paidAt then
        some { apply := fun current => current.markAmbiguous observedAt, effects := [] }
      else none
    | [] => match latestExpired (st.tooLate row paidAt) with
      | some o =>
        if o = order then some (saveWhole (order.markLatePaid row.txHash row.logIndex observedAt))
        else none
      | none => none

def CryptoCompletion.order : CryptoCompletion → Option CryptoPaymentOrder
  | .already => none
  | .close order => some order
  | .credit order _ _ => some order

def orderChanges (rates : Rates) : Program OrderOp CryptoPaymentOrder Unit
  | .expire now, order => (order.expireIfNeeded now).map saveWhole
  | .record observedAt transfer others, order => recordChange observedAt transfer others order
  | .complete now evidence topUp existing, order =>
    match completeCryptoTopUp rates now evidence order topUp existing with
    | .ok done => done.order.map saveWhole
    | .error _ => none

/-! ## The recording of the store, seen from one row -/

/-- The row after a change, if there is one. -/
def changed (order : CryptoPaymentOrder) :
    Option (Change CryptoPaymentOrder Unit) → CryptoPaymentOrder
  | none => order
  | some change => change.apply order

/-- **The recording of the store refines the change of the row**: it leaves the
order as the change says. -/
theorem recordChange_store (observedAt : Int) (transfer : CryptoObservedTransfer)
    (hid : ∀ o ∈ others.orders, o.id ≠ order.id) :
    ((withOrder order others).recordCryptoTransfer observedAt transfer).orders.head? =
      some (changed order (recordChange observedAt transfer others order)) := by
  -- the order with the row's id is the row
  have hrow : ∀ o ∈ (withOrder order others).orders, o.id = order.id → o = order := by
    intro o ho hsame
    rcases List.mem_cons.mp ho with heq | hother
    · exact heq
    · exact absurd hsame (hid o hother)
  -- the row is the first of the store, and every write keeps its place
  have hput : ∀ tx, ((withOrder order others).putTransaction tx).orders.head? =
      some order := by
    simp [withOrder]
  have hsave : ∀ (o : CryptoPaymentOrder) (tx : CryptoPaymentTransaction),
      (((withOrder order others).putTransaction tx).matchOrder o tx).orders.head? =
        some (if order.id = o.id then o else order) := by
    simp [matchOrder, saveTransaction, saveOrder, saveRow,
      withOrder]
  have hmark : ∀ (orders : List CryptoPaymentOrder) (tx : CryptoPaymentTransaction),
      (((withOrder order others).putTransaction tx).markCandidates orders
        observedAt).orders.head? =
        some (if order ∈ orders then order.markAmbiguous observedAt else order) := by
    simp [markCandidates, withOrder]
  set st := withOrder order others with hst
  simp only [recordCryptoTransfer, attributeTransfer, recordChange,
    ← hst, candidates_putTransaction, tooLate_putTransaction]
  by_cases hm : (st.observe observedAt transfer).matchedOrderId ≠ 0
  · simp only [if_pos hm]
    exact hput _
  simp only [if_neg hm]
  rcases hc : st.candidates (transfer.row observedAt) (transfer.paidAt observedAt) with
    _ | ⟨o₁, _ | ⟨o₂, rest⟩⟩
  · cases hl : latestExpired
        (st.tooLate (transfer.row observedAt) (transfer.paidAt observedAt)) with
    | none => exact hput _
    | some o =>
      have ho := (mem_tooLate.mp (latestExpired_mem hl)).1
      simp only [hsave]
      by_cases hsame : o = order
      · rw [hsame]
        simp [changed, saveWhole, markLatePaid]
      · rw [if_neg hsame, if_neg fun h => hsame (hrow o ho h.symm)]
        rfl
  · have ho : o₁ ∈ st.orders := (mem_candidates.mp (hc ▸ List.mem_cons_self)).1
    simp only [hsave]
    by_cases hsame : o₁ = order
    · rw [hsame]
      simp [changed, saveWhole, markDetected]
    · rw [if_neg hsame, if_neg fun h => hsame (hrow o₁ ho h.symm)]
      rfl
  · simp only [hmark]
    by_cases hmem : order ∈ o₁ :: o₂ :: rest
    · simp only [if_pos hmem, changed]
    · simp only [if_neg hmem, changed]

/-! ## A matched order only goes on to success -/

theorem recordChange_of_matched (h : order.unmatched = false) :
    recordChange observedAt transfer others order = none := by
  have hcand : order ∉ (withOrder order others).candidates (transfer.row observedAt)
      (transfer.paidAt observedAt) := by
    intro hmem
    rw [(mem_candidates.mp hmem).2.2.2] at h
    cases h
  have hlate : order ∉ (withOrder order others).tooLate (transfer.row observedAt)
      (transfer.paidAt observedAt) := by
    intro hmem
    rw [(mem_tooLate.mp hmem).2.2.2] at h
    cases h
  simp only [recordChange]
  split
  · rfl
  split
  · rename_i hone
    rw [hone, List.mem_singleton] at hcand
    exact if_neg fun heq => hcand heq.symm
  · rfl
  split
  · rename_i hlast
    have hmem := latestExpired_mem hlast
    exact if_neg fun heq => hlate (by rwa [heq] at hmem)
  · rfl

/-- Every writer that changes an order that is not open completes it, and a
completed order is not changed. -/
theorem orderChanges_of_matched (hmatch : order.unmatched = false)
    (h : orderChanges rates op order = some change) :
    order.status ≠ .success ∧ (change.apply order).status = .success := by
  cases op with
  | expire =>
    have hpend : order.status ≠ .pending := by
      intro hs
      simp [unmatched, hs] at hmatch
    simp [orderChanges, expireIfNeeded, hpend] at h
  | record =>
    simp only [orderChanges, recordChange_of_matched hmatch] at h
    cases h
  | complete now evidence topUp existing =>
    simp only [orderChanges] at h
    split at h
    · rename_i hdone
      rcases completeCryptoTopUp_ok hdone with
        ⟨_, rfl⟩ | ⟨hs, _, rfl⟩ | ⟨hs, _, _, _, _, _, _, _, rfl⟩
      · cases h
      · cases h
        exact ⟨hs, rfl⟩
      · cases h
        exact ⟨hs, rfl⟩
    · cases h

variable {rates : Rates}

section

variable {s : Sys OrderOp CryptoPaymentOrder Unit} {acts : List (Act OrderOp)}
  (hheld : Sys.Held (orderChanges rates) s)
  (hfrs : Along (Sys.step (orderChanges rates)) (Sys.Fresh (orderChanges rates)) s acts)
include hheld hfrs

theorem success_stays (hs : s.row.status = .success) :
    (exec (step (orderChanges rates)) s acts).row.status = .success := by
  refine (serial_rule (fun row _ => row.status = .success) ?_ hheld hs hfrs).2
  intro op row _ change hchg hrow
  have hmatch : row.unmatched = false := by simp [unmatched, hrow]
  exact (orderChanges_of_matched hmatch hchg).2

theorem detected_stays (hs : s.row.status = .detected) :
    let row := (exec (step (orderChanges rates)) s acts).row
    row.status = .detected ∧ row.matchedTxHash = s.row.matchedTxHash ∨
      row.status = .success := by
  refine (serial_rule (fun row _ => row.status = .detected ∧
      row.matchedTxHash = s.row.matchedTxHash ∨ row.status = .success) ?_ hheld
    (.inl ⟨hs, rfl⟩) hfrs).2
  intro op row _ change hchg hrow
  have hmatch : row.unmatched = false := by
    rcases hrow with ⟨hrow, _⟩ | hrow <;> simp [unmatched, hrow]
  exact .inr (orderChanges_of_matched hmatch hchg).2

end

/-- **The status of a crypto order is monotone.** In every interleaving whose
writes find the row as it was read, an order that is completed stays
completed, and one that is detected keeps its transfer until it is completed:
it is never expired again. -/
theorem cryptoOrder_status_monotone (rates : Rates) (order : CryptoPaymentOrder)
    (xs ys : List (Act OrderOp))
    (hfresh : Along (Sys.step (orderChanges rates)) (Sys.Fresh (orderChanges rates))
      (Sys.start order) (xs ++ ys)) :
    let before := (exec (step (orderChanges rates)) (start order) xs).row
    let after := (exec (step (orderChanges rates)) (start order) (xs ++ ys)).row
    (before.status = .success → after.status = .success) ∧
      (before.status = .detected →
        after.status = .detected ∧ after.matchedTxHash = before.matchedTxHash ∨
          after.status = .success) := by
  intro before after
  obtain ⟨hxs, hys⟩ := along_append.mp hfresh
  have hheld := (serial_rule (fun _ _ => True) (fun _ _ _ _ _ _ => trivial)
    (held_start (orderChanges rates) order) trivial hxs).1
  have hafter : after = (exec (step (orderChanges rates))
      (exec (step (orderChanges rates)) (start order) xs) ys).row :=
    congrArg row (exec_append _ _ _ _)
  rw [hafter]
  exact ⟨fun hs => success_stays hheld hys hs, fun hs => detected_stays hheld hys hs⟩

/-- An order of 2000001 base units, alive from 0 to 600. -/
def sampleOrder : CryptoPaymentOrder := {
  id := 1, topUpId := 1, tradeNo := "A", userId := 7, network := "bsc_erc20",
  tokenContract := "0xcc", tokenDecimals := 6, receiveAddress := "0xaa",
  payAmount := "2.000001", payAmountBaseUnits := "2000001", expiresAt := 600,
  requiredConfirmations := 15, createTime := 0, updateTime := 0 }

/-- The transfer that pays it at 500. -/
def samplePayment : CryptoObservedTransfer := {
  network := "bsc_erc20", txHash := "0xab", logIndex := 3, blockNumber := 1,
  blockTimestamp := 500, fromAddress := "0xff", toAddress := "0xaa",
  tokenContract := "0xcc", tokenDecimals := 6, amount := "2.000001",
  amountBaseUnits := "2000001", confirmations := 20 }

def sampleOrderTopUp : TopUp :=
  { id := 1, userId := 7, amount := 2, money := 2, tradeNo := "A",
    paymentMethod := .cryptoUSDT, paymentProvider := .other "" }

/-- The transfer is recorded, and the order is completed with it. -/
def sampleRecord : OrderOp := .record 700 samplePayment {}

def sampleComplete : OrderOp :=
  .complete 710 (CryptoStore.evidenceOf (samplePayment.row 700)) (some sampleOrderTopUp) none

/-- Another order asks for the same amount, and the payment is ambiguous. -/
theorem recordChange_store_sample :
    let others : CryptoStore := { orders := [{ sampleOrder with id := 2 }] }
    ((withOrder sampleOrder others).recordCryptoTransfer 700 samplePayment).orders.head? =
      some (sampleOrder.markAmbiguous 700) :=
  (recordChange_store 700 samplePayment (by decide)).trans (by decide +kernel)

theorem cryptoOrder_status_monotone_sample :
    let prog := orderChanges ⟨500⟩
    let xs := [Act.read 0 (.expire 650), .write 0, .commit 0, .read 1 sampleRecord, .write 1,
      .commit 1]
    let ys := [Act.read 0 (.expire 705), .write 0, .read 1 sampleComplete, .write 1, .commit 1]
    let before := (exec (step prog) (start sampleOrder) xs).row
    let after := (exec (step prog) (start sampleOrder) (xs ++ ys)).row
    (before.status = .success → after.status = .success) ∧
      (before.status = .detected →
        after.status = .detected ∧ after.matchedTxHash = before.matchedTxHash ∨
          after.status = .success) :=
  cryptoOrder_status_monotone ⟨500⟩ sampleOrder _ _ (by decide +kernel)

/-- A status query reads the pending order at 650 and saves it as expired
later: after the transfer was recorded, and after the order was completed.
Both times the paid order is expired and its transfer forgotten. -/
theorem cryptoOrder_status_overwritten :
    let status := fun acts : List (Act OrderOp) =>
      let row := (exec (step (orderChanges ⟨500⟩)) (start sampleOrder) acts).row
      (row.status, row.matchedTxHash)
    let query := [Act.read 0 (.expire 650)]
    let record := [Act.read 1 sampleRecord, .write 1, .commit 1]
    let complete := [Act.read 2 sampleComplete, .write 2, .commit 2]
    let save := [Act.write 0, .commit 0]
    status (query ++ record) = (.detected, "0xab") ∧
      status (query ++ record ++ save) = (.expired, "") ∧
      status (query ++ record ++ complete) = (.success, "0xab") ∧
      status (query ++ record ++ complete ++ save) = (.expired, "") := by
  decide +kernel

end HermesToken.Payment
