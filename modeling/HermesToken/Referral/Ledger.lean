import HermesToken.Lib.Run
import HermesToken.Referral.Reversal

/-!
# The books of the settlements

The operations on settlement batches in any order: settlements of paid orders,
reversals of any batch, repairs and transfers of affiliate quota. A reversal
leaves nothing of a reward to take, so the next one has nothing to do; a repair
changes rewards, but only of batches that were not reversed.

The last point needs more than the statuses. A reversal passes over a record
without a reward and leaves its status, so a batch whose rewards were all
repaired to zero still reads as credited after its reversal and a repair of it
goes through. It changes nothing, since the batch is at its targets.
-/

namespace HermesToken.Referral

open Lib List
open Subscription

variable {st st' : Store} {batch : ReferralSettlementBatch} {b : Int}
  {new : List ReferralSettlementRecord} {result : RepairResult}

/-! ## The operations -/

/-- `elsewhere` is what the rest of the program does. -/
inductive LedgerOp where
  | settle (cfg : Settings) (fuel : Nat) (order : SubscriptionOrder) (plan : SubscriptionPlan)
  | reverse (batchID : Int)
  | repair (batchID : Int)
  | transfer (cfg : Settings) (userID quota : Int)
  | elsewhere (st : Store)

/-- The tables, the batches that were reversed, and what the reversals took
from every user. -/
structure Books where
  store : Store
  reversed : List Int := []
  taken : Int → Int := fun _ => 0

/-- A transaction that fails changes nothing. -/
def Books.commit {α : Type} (books : Books) : Except SubError (α × Store) → Books
  | .ok (_, st) => { books with store := st }
  | .error _ => books

def Books.step (books : Books) : LedgerOp → Books
  | .settle cfg fuel order plan => books.commit
      ((applySubscriptionReferralOnOrderSuccessTx cfg fuel order plan).run books.store)
  | .reverse batchID =>
    match (reverseReferralSettlementBatch batchID).run books.store with
    | .ok (_, st) =>
      { store := st
        reversed := batchID :: books.reversed
        taken := fun u => books.taken u + (affQuotaOf books.store u - affQuotaOf st u) }
    | .error _ => books
  | .repair batchID =>
    books.commit ((repairSubscriptionReferralSettlementBatchByID batchID).run books.store)
  | .transfer cfg userID quota =>
    books.commit ((transferAffQuotaToQuota cfg userID quota).run books.store)
  | .elsewhere st => { books with store := st }

def orderMoney? (st : Store) (id : Int) : Option ℚ := (st.orderByID? id).map (·.money)

/-- The rest of the program writes neither batches nor records, does not change
the money of an order, and leaves no negative affiliate quota. -/
structure Elsewhere (st st' : Store) : Prop where
  batches : st'.batches = st.batches
  records : st'.records = st.records
  nextRecordID : st'.nextRecordID = st.nextRecordID
  money : ∀ id money, orderMoney? st id = some money → orderMoney? st' id = some money
  aff : AffNonneg st'

def LedgerOp.Admitted (books : Books) : LedgerOp → Prop
  | .elsewhere st => Elsewhere books.store st
  | _ => True

/-! ## What holds of the books -/

/-- The rewards are those of the snapshots: a repair has nothing to do. -/
def AtTarget (st : Store) (batch : ReferralSettlementBatch) : Prop :=
  ∃ result, previewSubscriptionReferralSettlementBatchRepair batch (recordsOf st batch.id)
    (orderMoney? st batch.sourceId) = .ok result ∧ result.changed = false

/-- Nothing is left of the rewards of a batch, and its status says so. -/
def SettledBatch (st : Store) (b : Int) : Prop :=
  ∃ batch, st.batches.get b = some batch ∧ recordsOf st b ≠ [] ∧
    (∀ record ∈ recordsOf st b, Settled record) ∧
    batch.status = resolveReferralSettlementBatchStatus (recordsOf st b)

structure Ledger (books : Books) : Prop where
  ids : (books.store.records.map (·.id)).Nodup
  range : ∀ record ∈ books.store.records,
    0 < record.id ∧ record.id < books.store.nextRecordID ∧
      record.batchId < books.store.batches.nextID
  nextRecordID : 0 < books.store.nextRecordID
  aff : AffNonneg books.store
  sound : ∀ record ∈ books.store.records, SoundRecord record
  /-- A reward is positive until the batch is repaired. -/
  rewards : ∀ b batch, books.store.batches.get b = some batch →
    (∀ record ∈ recordsOf books.store b, 0 < record.rewardQuota) ∨ AtTarget books.store batch
  settled : ∀ b ∈ books.reversed, SettledBatch books.store b
  taken : ∀ u, books.taken u = reversedOf books.store u

variable {books : Books}

theorem AtTarget.elsewhere (h : AtTarget st batch)
    (hrecs : recordsOf st' batch.id = recordsOf st batch.id)
    (hmoney : ∀ id money, orderMoney? st id = some money → orderMoney? st' id = some money) :
    AtTarget st' batch := by
  obtain ⟨result, hprev, hcharge⟩ := h
  obtain ⟨immediate, money, -, hsome, -⟩ := preview_ok hprev
  refine ⟨result, ?_, hcharge⟩
  rw [hrecs, hmoney _ _ hsome, ← hsome]
  exact hprev

theorem Ledger.elsewhere (h : Ledger books) (hst : Elsewhere books.store st) :
    Ledger { books with store := st } := by
  have hof (b : Int) : recordsOf st b = recordsOf books.store b := by
    simp only [recordsOf, hst.records]
  constructor
  · rw [hst.records]
    exact h.ids
  · rw [hst.records, hst.nextRecordID, hst.batches]
    exact h.range
  · rw [hst.nextRecordID]
    exact h.nextRecordID
  · exact hst.aff
  · rw [hst.records]
    exact h.sound
  · intro b batch hbat
    rw [hst.batches] at hbat
    rw [hof]
    exact (h.rewards b batch hbat).imp_right fun hgoal =>
      hgoal.elsewhere (hof batch.id) hst.money
  · intro b hb
    unfold SettledBatch
    rw [hst.batches, hof]
    exact h.settled b hb
  · intro u
    rw [h.taken u, reversedOf, reversedOf, hst.records]

/-- What a settlement does to the tables: a batch with its records. -/
structure Settling (st st' : Store) (batch : ReferralSettlementBatch)
    (new : List ReferralSettlementRecord) : Prop where
  batches : ∀ b, st'.batches.get b =
    if b = st.batches.nextID then some { batch with id := b } else st.batches.get b
  nextBatchID : st'.batches.nextID = st.batches.nextID + 1
  orders : st'.orders = st.orders
  records : st'.records = st.records ++ new
  ids : (new.map (·.id)).Nodup
  range : ∀ record ∈ new, st.nextRecordID ≤ record.id ∧ record.id < st'.nextRecordID ∧
    record.batchId = st.batches.nextID
  rewards : ∀ record ∈ new, 0 < record.rewardQuota ∧ Fresh record
  nextRecordID : st.nextRecordID ≤ st'.nextRecordID
  aff : AffNonneg st → AffNonneg st'

theorem settling_foldl (cfg : Settings) (context : ReferralSettlementContext)
    (order : SubscriptionOrder) (st : Store) :
    Settling st ((rewards cfg st context order).foldl (recordReward st.batches.nextID)
        (st.insertBatch (settlementBatch cfg context order)))
      (settlementBatch cfg context order)
      (storedRecords st.batches.nextID st.nextRecordID (rewards cfg st context order)) := by
  have hnextR := nextRecordID_foldl_recordReward
    (st.insertBatch (settlementBatch cfg context order))
    (rewards cfg st context order) st.batches.nextID
  have hbats : (foldl (recordReward st.batches.nextID)
      (st.insertBatch (settlementBatch cfg context order)) (rewards cfg st context order)).batches
      = (st.insertBatch (settlementBatch cfg context order)).batches :=
    frame_foldl_recordReward (fun _ _ => rfl) (fun _ _ _ => rfl) _ _ _
  constructor
  · intro b
    rw [hbats]
    exact st.batches.get_insert (fun id => { settlementBatch cfg context order with id })
      (fun _ => rfl) b
  · rw [hbats]
    rfl
  · exact (frame_foldl_recordReward (fun _ _ => rfl) (fun _ _ _ => rfl) _ _ _ :
      Store.orders _ = Store.orders _)
  · exact records_foldl_recordReward ..
  · exact nodup_storedRecords ..
  · intro record hrec
    obtain ⟨hle, hlt, component, -, heq⟩ := mem_storedRecords hrec
    rw [hnextR]
    exact ⟨hle, hlt, by rw [heq]⟩
  · intro record hrec
    obtain ⟨-, -, component, hmem, heq⟩ := mem_storedRecords hrec
    have hpos := rewards_pos hmem
    have hfrs := settlementRecords_fresh (mem_filter.mp hmem).1
    rw [heq]
    exact ⟨hpos, hfrs⟩
  · rw [hnextR]
    exact Int.le_add_of_nonneg_right (Int.natCast_nonneg _)
  intro haff id user hget
  rw [user?_foldl_recordReward] at hget
  obtain ⟨old, hold, rfl⟩ := Option.map_eq_some_iff.mp hget
  have hold : 0 ≤ old.affQuota := haff id old hold
  exact add_nonneg hold (keyedSum_nonneg fun record hrec _ => (rewards_pos hrec).le)

theorem applyReferralTx_settling
    (h : (applySubscriptionReferralOnOrderSuccessTx cfg fuel order plan).run st =
      .ok (applied, st')) : st' = st ∨ ∃ batch new, Settling st st' batch new := by
  rcases applyReferralTx_ok h with hsame | ⟨context, rfl⟩
  · exact .inl hsame
  · exact .inr ⟨_, _, settling_foldl cfg context order st⟩

theorem Settling.recordsOf (h : Settling st st' batch new)
    (hbelow : ∀ record ∈ st.records, record.batchId < st.batches.nextID) (b : Int) :
    recordsOf st' b = if b = st.batches.nextID then new else Referral.recordsOf st b := by
  rw [Referral.recordsOf, h.records, filter_append]
  by_cases hb : b = st.batches.nextID
  · have hold : st.records.filter (·.batchId = b) = [] := by
      refine filter_eq_nil_iff.mpr fun record hrec => ?_
      have := hbelow record hrec
      simp
      omega
    have hnew : new.filter (·.batchId = b) = new := by
      refine filter_eq_self.mpr fun record hrec => ?_
      simp [(h.range record hrec).2.2, hb]
    rw [hold, hnew, if_pos hb, nil_append]
  have hnew : new.filter (·.batchId = b) = [] := by
    refine filter_eq_nil_iff.mpr fun record hrec => ?_
    simp [(h.range record hrec).2.2, Ne.symm hb]
  rw [hnew, if_neg hb, append_nil]
  rfl

/-- A settlement adds a batch of its own, with positive rewards. -/
theorem Ledger.settle (h : Ledger books) (hst : Settling books.store st batch new) :
    Ledger { books with store := st } := by
  have hof := hst.recordsOf fun record hrec => (h.range record hrec).2.2
  have hpos := h.nextRecordID
  have hnext := hst.nextRecordID
  have hnextB := hst.nextBatchID
  constructor
  · rw [hst.records, map_append, nodup_append]
    refine ⟨h.ids, hst.ids, fun a ha a' ha' => ?_⟩
    obtain ⟨record, hrec, rfl⟩ := mem_map.mp ha
    obtain ⟨record', hrec', rfl⟩ := mem_map.mp ha'
    have hlt := (h.range record hrec).2.1
    have hle := (hst.range record' hrec').1
    omega
  · intro record hrec
    rw [hst.records, mem_append] at hrec
    rcases hrec with hold | hnew
    · have := h.range record hold
      dsimp only
      omega
    · have := hst.range record hnew
      dsimp only
      omega
  · dsimp only
    omega
  · exact hst.aff h.aff
  · intro record hrec
    rw [hst.records, mem_append] at hrec
    rcases hrec with hold | hnew
    · exact h.sound record hold
    · obtain ⟨_, _, _⟩ := hst.rewards record hnew
      exact ⟨by omega, by omega, by omega⟩
  · intro b row hrow
    rw [hst.batches] at hrow
    rw [hof]
    split at hrow
    · rename_i hb
      rw [if_pos hb]
      exact .inl fun record hrec => (hst.rewards record hrec).1
    rename_i hb
    have hid : row.id = b := books.store.batches.key_get hrow
    rw [if_neg hb]
    refine (h.rewards b row hrow).imp_right fun hgoal => hgoal.elsewhere ?_ ?_
    · rw [hid, hof, if_neg hb]
    intro id money hmoney
    unfold orderMoney? Store.orderByID? at hmoney ⊢
    rw [hst.orders]
    exact hmoney
  · intro b hb
    obtain ⟨row, hrow, hrest⟩ := h.settled b hb
    have hne : b ≠ books.store.batches.nextID := ne_of_lt (books.store.batches.inRange hrow).2
    unfold SettledBatch
    rw [hst.batches, hof, if_neg hne, if_neg hne]
    exact ⟨row, hrow, hrest⟩
  intro u
  have hzero : keyedSum (·.beneficiaryUserId) (·.reversedQuota) u new = 0 := by
    refine sum_eq_zero fun value hvalue => ?_
    obtain ⟨record, hrec, rfl⟩ := mem_map.mp hvalue
    simp [(hst.rewards record hrec).2.1]
  rw [h.taken u, reversedOf, reversedOf, hst.records, keyedSum_append, hzero, add_zero]

theorem Ledger.rewards_other (h : Ledger books) (hbat : books.store.batches.get b = some batch)
    (hof : recordsOf st b = recordsOf books.store b) (hords : st.orders = books.store.orders) :
    (∀ record ∈ recordsOf st b, 0 < record.rewardQuota) ∨ AtTarget st batch := by
  have hid : batch.id = b := books.store.batches.key_get hbat
  rw [hof]
  refine (h.rewards b batch hbat).imp_right fun hgoal => hgoal.elsewhere ?_ ?_
  · rw [hid, hof]
  intro id money hmoney
  unfold orderMoney? Store.orderByID? at hmoney ⊢
  rw [hords]
  exact hmoney

theorem Ledger.reverse (h : Ledger books)
    (hrun : (reverseReferralSettlementBatch b).run books.store = .ok ((), st)) :
    Ledger
      { store := st
        reversed := b :: books.reversed
        taken := fun u => books.taken u + (affQuotaOf books.store u - affQuotaOf st u) } := by
  obtain ⟨batch, st₁, hbat, hne, hrev, hforms, hall, rfl⟩ :=
    reverseBatch_ok hrun h.ids (fun record hrec => h.sound record (mem_filter.mp hrec).1) h.aff
  have hid : batch.id = b := books.store.batches.key_get hbat
  generalize hstat : resolveReferralSettlementBatchStatus (recordsOf st₁ b) = status
  have hrows (b' : Int) : (st₁.saveBatch { batch with status }).batches.get b' =
      (books.store.batches.get b').map fun row =>
        if b = b' then { batch with status } else row := by
    simp only [Store.saveBatch, AutoTable.get_put, hrev.batches, hid]
  have hof (b' : Int) : recordsOf (st₁.saveBatch { batch with status }) b' =
      recordsOf st₁ b' := rfl
  have hne' : recordsOf st₁ b ≠ [] := by
    intro hnil
    rw [hnil, map_nil] at hforms
    exact hne (map_eq_nil_iff.mp hforms.symm)
  constructor
  · rw [show (st₁.saveBatch { batch with status }).records = st₁.records from rfl,
      hrev.ids]
    exact h.ids
  · intro record hrec
    have hkey : (record.id, record.batchId) ∈
        st₁.records.map fun r => (r.id, r.batchId) := mem_map_of_mem hrec
    rw [hrev.keys] at hkey
    obtain ⟨old, hold, heq⟩ := mem_map.mp hkey
    obtain ⟨hrecs, hbats⟩ := Prod.mk.inj heq
    have hrange := h.range old hold
    have hnext : (st₁.saveBatch { batch with status }).batches.nextID =
        books.store.batches.nextID := by
      simp only [Store.saveBatch, AutoTable.nextID_put, hrev.batches]
    rw [hnext, ← hrecs, ← hbats]
    exact ⟨hrange.1, hrev.nextRecordID ▸ hrange.2.1, hrange.2.2⟩
  · exact hrev.nextRecordID ▸ h.nextRecordID
  · exact hrev.aff h.aff
  · intro record hrec
    by_cases hb : record.batchId = b
    · exact (hall record (mem_filter.mpr ⟨hrec, by simpa using hb⟩)).1
    have hmem : record ∈ recordsOf st₁ record.batchId :=
      mem_filter.mpr ⟨hrec, by simp⟩
    rw [hrev.others _ hb] at hmem
    exact h.sound record (mem_filter.mp hmem).1
  · intro b' row hrow
    rw [hrows] at hrow
    obtain ⟨old, hold, rfl⟩ := Option.map_eq_some_iff.mp hrow
    by_cases hb : b = b'
    · subst hb
      rw [hbat] at hold
      cases hold
      rw [if_pos rfl, hof]
      rcases h.rewards b batch hbat with hpos | ⟨result, hprev, hcharge⟩
      · -- the rewards are among the columns that a reversal leaves alone
        refine .inl fun record hrec => ?_
        have hmem : creditedForm record ∈ (recordsOf st₁ b).map creditedForm :=
          mem_map_of_mem hrec
        rw [hforms] at hmem
        obtain ⟨old, hold, heq⟩ := mem_map.mp hmem
        have hrew : (creditedForm old).rewardQuota = (creditedForm record).rewardQuota := by
          rw [heq]
        rw [show record.rewardQuota = old.rewardQuota from hrew.symm]
        exact hpos old hold
      refine .inr ⟨result, ?_, hcharge⟩
      have hmoney : orderMoney? (st₁.saveBatch { batch with status }) batch.sourceId =
          orderMoney? books.store batch.sourceId := by
        simp only [orderMoney?, Store.orderByID?, Store.saveBatch, hrev.orders]
      rw [← hid] at hforms
      rw [hof, hmoney]
      exact (preview_reversed hforms _ _).trans hprev
    · rw [if_neg hb]
      exact h.rewards_other hold (hrev.others b' (Ne.symm hb)) hrev.orders
  · intro b' hb'
    unfold SettledBatch
    rw [hrows, hof]
    by_cases hb : b = b'
    · subst hb
      rw [hbat, Option.map_some, if_pos rfl]
      exact ⟨_, rfl, hne', fun record hrec => (hall record hrec).2, hstat.symm⟩
    obtain ⟨row, hrow, hrest⟩ :=
      h.settled b' ((mem_cons.mp hb').resolve_left (Ne.symm hb))
    rw [hrow, Option.map_some, if_neg hb, hrev.others b' (Ne.symm hb)]
    exact ⟨row, rfl, hrest⟩
  intro u
  have htaken := hrev.taken u
  have haff : affQuotaOf (st₁.saveBatch { batch with status }) u =
      affQuotaOf st₁ u := rfl
  have hreversed : reversedOf (st₁.saveBatch { batch with status }) u =
      reversedOf st₁ u := rfl
  have hold := h.taken u
  dsimp only
  omega

theorem Ledger.repair_reversed (h : Ledger books) (hb : b ∈ books.reversed)
    (hbat : books.store.batches.get b = some batch) (hnone : ∀ record ∈ recordsOf books.store b,
      record.reversedQuota = 0 ∧ record.debtQuota = 0)
    (hprev : previewSubscriptionReferralSettlementBatchRepair batch (recordsOf books.store b)
      (orderMoney? books.store batch.sourceId) = .ok result) : result.changed = false := by
  obtain ⟨-, -, hne, hset, -⟩ := h.settled b hb
  have hid : batch.id = b := books.store.batches.key_get hbat
  rcases h.rewards b batch hbat with hpos | ⟨result', hprev', hcharge⟩
  · -- nothing was reversed and nothing is left: there is no reward
    obtain ⟨record, hrec⟩ := exists_mem_of_ne_nil _ hne
    have hrew := hpos record hrec
    have hsum := hset record hrec
    unfold Settled at hsum
    rw [(hnone record hrec).1, (hnone record hrec).2] at hsum
    omega
  · rw [hid, hprev] at hprev'
    cases hprev'
    exact hcharge

theorem Ledger.repair (h : Ledger books)
    (hrun : (repairSubscriptionReferralSettlementBatchByID b).run books.store =
      .ok (result, st)) : Ledger { books with store := st } := by
  obtain ⟨batch, hbat, -, hnone, hprev, ⟨-, rfl⟩ | ⟨hcharge, haff, htabs⟩⟩ :=
    repairBatch_ok hrun h.aff
  · exact h
  simp only [bookTables, Prod.mk.injEq] at htabs
  obtain ⟨hrecs, hbats, hords, hnext⟩ := htabs
  have hid : batch.id = b := books.store.batches.key_get hbat
  have hnot : b ∉ books.reversed := by
    intro hb
    rw [h.repair_reversed hb hbat hnone hprev] at hcharge
    cases hcharge
  have hform := repairedRecord_eq result
  have hof (b' : Int) : recordsOf st b' =
      (recordsOf books.store b').map (repairedRecord result) := by
    simp only [recordsOf, hrecs, filter_map, Function.comp_def]
    congr 2
    funext record
    rw [hform record]
  -- the records of the result belong to the batch
  have hother : ∀ record ∈ books.store.records, record.batchId ≠ b →
      repairedRecord result record = record := by
    intro record hrec hne
    have hapart : ∀ r ∈ recordsOf books.store b, record.id ≠ r.id := by
      intro r hr heq
      obtain ⟨hr, hrb⟩ := mem_filter.mp hr
      rw [eq_of_key h.ids hrec hr heq] at hne
      exact hne (by simpa using hrb)
    obtain ⟨⟨immediate, himm, himmed⟩, hinvitee⟩ := preview_ids hprev
    refine repairedRecord_of_ne ?_ ?_
    · rw [← himmed]
      exact hapart immediate himm
    rcases hinvitee with _ | ⟨invitee, hinvitee, hinv⟩
    · have := (h.range record hrec).1
      omega
    · rw [← hinv]
      exact hapart invitee hinvitee
  have hofOt (b' : Int) (hb' : b' ≠ b) : recordsOf st b' = recordsOf books.store b' := by
    rw [hof]
    refine (map_congr_left fun record hrec => ?_).trans (map_id _)
    obtain ⟨hrec, hrb⟩ := mem_filter.mp hrec
    refine hother record hrec fun heq => hb' ?_
    rw [← heq]
    exact (by simpa using hrb : record.batchId = b').symm
  constructor
  · rw [hrecs, map_map]
    have hids : (fun r : ReferralSettlementRecord => r.id) ∘ repairedRecord result =
        fun r => r.id := by
      funext record
      rw [Function.comp_apply, hform record]
    rw [hids]
    exact h.ids
  · intro record hrec
    rw [hrecs] at hrec
    obtain ⟨old, hold, rfl⟩ := mem_map.mp hrec
    rw [hform old]
    rw [hnext, hbats]
    exact h.range old hold
  · rw [hnext]
    exact h.nextRecordID
  · exact haff
  · intro record hrec
    rw [hrecs] at hrec
    obtain ⟨old, hold, rfl⟩ := mem_map.mp hrec
    by_cases hb : old.batchId = b
    · exact (h.sound old hold).repaired (preview_nonneg hprev)
        (hnone old (mem_filter.mpr ⟨hold, by simpa using hb⟩))
    · rw [hother old hold hb]
      exact h.sound old hold
  · intro b' row hrow
    rw [hbats] at hrow
    by_cases hb : b' = b
    · subst hb
      rw [hbat] at hrow
      cases hrow
      have hof' : recordsOf books.store b' ⊆ books.store.records :=
        filter_subset_self _
      obtain ⟨result', hprev', hdone⟩ := preview_repaired hprev
        (h.ids.sublist (filter_sublist.map _))
        fun record hrec => (h.range record (hof' hrec)).1
      refine .inr ⟨result', ?_, hdone⟩
      have hmoney : orderMoney? st batch.sourceId = orderMoney? books.store batch.sourceId := by
        simp only [orderMoney?, Store.orderByID?, hords]
      rw [hid, hof, hmoney]
      exact hprev'
    · exact h.rewards_other hrow (hofOt b' hb) hords
  · intro b' hb'
    have hne : b' ≠ b := fun heq => hnot (heq ▸ hb')
    unfold SettledBatch
    rw [hbats, hofOt b' hne]
    exact h.settled b' hb'
  intro u
  rw [h.taken u, reversedOf, reversedOf, hrecs, keyedSum, keyedSum, map_map]
  congr 1
  refine map_congr_left fun record _ => ?_
  rw [Function.comp_apply, hform record]

/-- A transfer takes no more than there is. -/
theorem transferAffQuotaToQuota_elsewhere
    (h : (transferAffQuotaToQuota cfg userID quota).run st = .ok ((), st')) (haff : AffNonneg st) :
    Elsewhere st st' := by
  simp only [transferAffQuotaToQuota, Tx.run_lift_bind_ok, require_ok] at h
  obtain ⟨-, -, -, -, h⟩ := h
  rw [Tx.run_bind_of_ok (Tx.run_updateWhere ..)] at h
  cases hhas : (st.user? userID).any fun user => decide (quota ≤ user.affQuota) with
  | false =>
    rw [hhas] at h
    cases h
  | true =>
  rw [hhas] at h
  cases h
  rw [if_pos rfl]
  refine ⟨rfl, rfl, rfl, fun _ _ hmoney => hmoney, fun id user hget => ?_⟩
  rw [Store.user?_updateUser (f := fun user =>
    { user with affQuota := user.affQuota - quota, quota := user.quota + quota })
    (fun _ => ⟨rfl, rfl⟩)] at hget
  obtain ⟨old, hold, rfl⟩ := Option.map_eq_some_iff.mp hget
  split
  · rename_i hid
    rw [hid] at hold
    rw [hold, Option.any_some, decide_eq_true_eq] at hhas
    exact sub_nonneg.mpr hhas
  · exact haff id old hold

theorem Ledger.commit {α : Type} (h : Ledger books) {r : Except SubError (α × Store)}
    (hok : ∀ a st, r = .ok (a, st) → Ledger { books with store := st }) :
    Ledger (books.commit r) := by
  rcases r with e | ⟨a, st⟩
  · exact h
  · exact hok a st rfl

theorem Ledger.step (h : Ledger books) (op : LedgerOp) (hop : op.Admitted books) :
    Ledger (books.step op) := by
  cases op with
  | settle =>
    refine h.commit fun applied st hrun => ?_
    rcases applyReferralTx_settling hrun with rfl | ⟨batch, new, hst⟩
    · exact h
    · exact h.settle hst
  | reverse b =>
    simp only [Books.step]
    cases hrun : (reverseReferralSettlementBatch b).run books.store with
    | error => exact h
    | ok => exact h.reverse hrun
  | repair => exact h.commit fun result st hrun => h.repair hrun
  | transfer =>
    exact h.commit fun _ st hrun =>
      h.elsewhere (transferAffQuotaToQuota_elsewhere hrun h.aff)
  | elsewhere => exact h.elsewhere hop

theorem Ledger.start (hbats : ∀ b, st.batches.get b = none) (hrecs : st.records = [])
    (hnext : 0 < st.nextRecordID) (haff : AffNonneg st) : Ledger { store := st } := by
  constructor
  · rw [hrecs]
    exact nodup_nil
  · simp [hrecs]
  · exact hnext
  · exact haff
  · simp [hrecs]
  · intro b batch hbat
    rw [hbats] at hbat
    cases hbat
  · simp
  intro u
  rw [reversedOf, hrecs]
  rfl

/-- **The ledger of reversals**: in every run a record has been reversed at most
to its reward, a batch that was reversed has nothing left and can be reversed
again without effect, no affiliate quota is negative, and what the reversals
have taken, from every user and in all, is what the records say. -/
theorem referral_reversal_ledger (st : Store) (hbatches : ∀ b, st.batches.get b = none)
    (hrecords : st.records = []) (hnext : 0 < st.nextRecordID) (haff : AffNonneg st)
    (ops : List LedgerOp) (hops : Along Books.step LedgerOp.Admitted { store := st } ops) :
    let books := exec Books.step { store := st } ops
    (∀ record ∈ books.store.records, 0 ≤ record.reversedQuota ∧ 0 ≤ record.debtQuota ∧
      record.reversedQuota + record.debtQuota ≤ record.rewardQuota) ∧
    (∀ b ∈ books.reversed,
      (∀ record ∈ recordsOf books.store b,
        record.reversedQuota + record.debtQuota = record.rewardQuota) ∧
      (reverseReferralSettlementBatch b).run books.store = .ok ((), books.store)) ∧
    (∀ id user, books.store.user? id = some user → 0 ≤ user.affQuota) ∧
    (∀ u, books.taken u = keyedSum (·.beneficiaryUserId) (·.reversedQuota) u books.store.records) ∧
    ∀ users : Finset Int, (∀ record ∈ books.store.records, record.beneficiaryUserId ∈ users) →
      ∑ u ∈ users, books.taken u = (books.store.records.map (·.reversedQuota)).sum := by
  intro books
  have hledger : Ledger books :=
    hops.invariant Ledger (fun _ op h hop => h.step op hop)
      (Ledger.start hbatches hrecords hnext haff)
  refine ⟨fun record hrecord => ?_, fun b hb => ?_, hledger.aff, hledger.taken, ?_⟩
  · have hsound := hledger.sound record hrecord
    exact ⟨hsound.reversed, hsound.debt, hsound.le⟩
  · obtain ⟨batch, hbatch, hne, hsettled, hstatus⟩ := hledger.settled b hb
    exact ⟨hsettled, reverseBatch_again hbatch hne hsettled hstatus⟩
  intro users husers
  rw [Finset.sum_congr rfl fun u _ => hledger.taken u]
  exact sum_keyedSum husers

/-- An order is settled and repaired, user 2 moves 100 of 134 away, and the
batch is reversed twice. -/
def sampleLedgerOps : List LedgerOp :=
  [.settle sampleSettings 9 sampleOrder samplePlan, .repair 1, .transfer sampleSettings 2 100,
    .reverse 1, .reverse 1]

theorem referral_reversal_ledger_sample :
    let books := exec Books.step { store := { sampleReferrals with orders := [sampleOrder] } }
      sampleLedgerOps
    books.reversed = [1, 1] ∧
      books.store.records.map (fun record => (record.beneficiaryUserId, record.rewardQuota,
        record.reversedQuota, record.debtQuota)) =
        [(3, 75, 75, 0), (4, 25, 25, 0), (2, 134, 34, 100), (1, 66, 66, 0)] ∧
      (reverseReferralSettlementBatch 1).run books.store = .ok ((), books.store) ∧
      ∑ u ∈ ({1, 2, 3, 4} : Finset Int), books.taken u = 200 := by
  intro books
  have hreversed : books.reversed = [1, 1] := by decide +kernel
  have hrecords : books.store.records.map (fun record => (record.beneficiaryUserId,
      record.rewardQuota, record.reversedQuota, record.debtQuota)) =
      [(3, 75, 75, 0), (4, 25, 25, 0), (2, 134, 34, 100), (1, 66, 66, 0)] := by decide +kernel
  have haff : AffNonneg { sampleReferrals with orders := [sampleOrder] } := by
    intro id user huser
    have hnext : sampleReferrals.users.nextID = 5 := by decide +kernel
    have hzero : ∀ id ∈ [1, 2, 3, 4], (sampleReferrals.user? id).map (·.affQuota) = some 0 := by
      decide +kernel
    have huser : sampleReferrals.user? id = some user := huser
    obtain ⟨_, _⟩ := sampleReferrals.users.inRange (Store.user?_eq_some huser).1
    have hquota := hzero id (by simp only [mem_cons, not_mem_nil]; omega)
    rw [huser] at hquota
    exact le_of_eq (Option.some.inj hquota).symm
  obtain ⟨-, hsettled, -, -, _⟩ := referral_reversal_ledger
    { sampleReferrals with orders := [sampleOrder] } (fun _ => rfl) rfl (by decide) haff
    sampleLedgerOps ⟨trivial, trivial, trivial, trivial, trivial, trivial⟩
  refine ⟨hreversed, hrecords, (hsettled 1 (by rw [hreversed]; simp)).2, ?_⟩
  decide +kernel

end HermesToken.Referral
