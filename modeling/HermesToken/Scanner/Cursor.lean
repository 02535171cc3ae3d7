import HermesToken.Lib.Windows
import HermesToken.Payment.CryptoRun

/-!
# The cursor of a chain scanner

Each scanner of `service/crypto_payment` keeps the last block it has scanned.
A call of `ScanOnce` reads the cursor, asks its node for the blocks after it
up to the safe height, records what it finds and moves the cursor. This
module has what the scanners share: where a scan begins, the state they
change, and what a call may do to it.
-/

namespace HermesToken.Scanner

open Lib Payment CryptoStore List

variable {height : Int}

structure CryptoScannerState where
  network : String
  (lastScannedBlock lastFinalizedBlock : Int)

/-- The part of the configuration that the scanners read. -/
structure NetworkConfig where
  (contract receiveAddress : String)
  (decimals confirmations : Int)

def normalizedConfirmations (value fallback minimum : Int) : Int :=
  let value := if value ≤ 0 then fallback else value
  if value < minimum then minimum else value

/-- The entry of `GetEnabledCryptoPaymentNetworks` for a network whose
addresses are checked by `isValid`. -/
def NetworkConfig.ofSettings (isValid : String → Bool) (receiveAddress contract : String)
    (decimals confirmations fallback minimum : Int) : Option NetworkConfig :=
  if isValid receiveAddress && isValid contract then
    some
      { contract := trimSpace contract
        receiveAddress := trimSpace receiveAddress
        decimals := decimals
        confirmations := normalizedConfirmations confirmations fallback minimum }
  else none

/-- `[1-9A-HJ-NP-Za-km-z]`. -/
def isBase58 (c : Char) : Bool :=
  ('1' ≤ c && c ≤ '9') || ('A' ≤ c && c ≤ 'H') || ('J' ≤ c && c ≤ 'N') ||
    ('P' ≤ c && c ≤ 'Z') || ('a' ≤ c && c ≤ 'k') || ('m' ≤ c && c ≤ 'z')

structure ScanWorld where
  state : Option CryptoScannerState := none
  store : CryptoStore := {}

/-- `GetCryptoScannerState` as the scanners use it: a read that fails counts
as a scanner without a row. -/
def readState (stateError : Option String) (state : Option CryptoScannerState) :
    Option CryptoScannerState :=
  match stateError with
  | none => state
  | some _ => none

/-- The block a scan begins with: after the last one scanned, or, for a
scanner that has none, `lookback` blocks below the confirmed height. -/
def scanFrom (lookback confirmations height : Int) (state : Option CryptoScannerState) : Int :=
  let fromBlock := match state with
    | some s =>
      if s.lastScannedBlock > 0 then s.lastScannedBlock + 1 else height - confirmations - lookback
    | none => height - confirmations - lookback
  if fromBlock < 0 then 0 else fromBlock

/-- The last block that has its confirmations. -/
def maxSafe (confirmations height : Int) : Int := height - confirmations + 1

theorem scanFrom_nonneg (lookback confirmations height : Int)
    (state : Option CryptoScannerState) : 0 ≤ scanFrom lookback confirmations height state := by
  simp only [scanFrom]
  split <;> omega

theorem scanFrom_next (h : 0 < s.lastScannedBlock) :
    scanFrom lookback confirmations height (some s) = s.lastScannedBlock + 1 := by
  simp only [scanFrom, gt_iff_lt, if_pos h]
  exact if_neg (by omega)

/-- The blocks of a call that succeeded, and the height it was made at. -/
structure Scan where
  window : Window
  height : Int
  deriving DecidableEq

/-- What `ScanOnce` leaves, and what it returns: an error, or the blocks it
has scanned, if any were safe. -/
abbrev Outcome := ScanWorld × Except String (Option Scan)

/-- Every transfer that is recorded in `st` is recorded in `st'`. -/
def KeepsRows (st st' : CryptoStore) : Prop :=
  ∀ r ∈ st.transactions, ∃ r' ∈ st'.transactions, r'.key = r.key

/-- **What a call may do.** It forgets no transfer; the cursor moves only with
a success, to the end of a window that begins where the cursor says and ends
at a safe block. -/
structure Advances (lookback confirmations : Int) (w : ScanWorld) (out : Outcome) : Prop where
  keeps : KeepsRows w.store out.1.store
  idle : (∀ v, out.2 ≠ .ok (some v)) → out.1.state = w.state
  moved : ∀ v, out.2 = .ok (some v) →
    ∃ s, out.1.state = some s ∧ s.lastScannedBlock = v.window.hi
  lo : ∀ v, out.2 = .ok (some v) →
    v.window.lo = scanFrom lookback confirmations v.height w.state
  nonempty : ∀ v, out.2 = .ok (some v) → v.window.lo ≤ v.window.hi
  safe : ∀ v, out.2 = .ok (some v) → v.window.hi ≤ maxSafe confirmations v.height
  positive : ∀ v, out.2 = .ok (some v) → 1 ≤ maxSafe confirmations v.height → 0 < v.window.hi

/-! ## A call

The calls of the scanners have one form and differ in the values below. -/

/-- What a call is made of. `limit` is how far a window may reach beyond its
first block, `body` is the request for the blocks of a window and the loop
that records what was found. -/
structure ScanCall where
  network : String
  (lookback confirmations : Int)
  limit : Option Int
  urlError : Option String
  height : Except String Int
  stateError : Option String
  body : Int → Window → CryptoStore → CryptoStore × Except String Unit
  upsertError : Option String

/-- The blocks that a call at a height asks for. -/
def ScanCall.window (c : ScanCall) (height : Int) (state : Option CryptoScannerState) : Window :=
  let fromBlock := scanFrom c.lookback c.confirmations height state
  let maxSafe := maxSafe c.confirmations height
  let toBlock := match c.limit with
    | some n => if fromBlock + n > maxSafe then maxSafe else fromBlock + n
    | none => maxSafe
  ⟨fromBlock, toBlock⟩

/-- `ScanOnce`. -/
def ScanCall.run (c : ScanCall) (w : ScanWorld) : Outcome :=
  match c.urlError with
  | some e => (w, .error e)
  | none => match c.height with
    | .error e => (w, .error e)
    | .ok height =>
      let v := c.window height (readState c.stateError w.state)
      if v.hi < v.lo then (w, .ok none)
      else match c.body height v w.store with
        | (st, .error e) => ({ w with store := st }, .error e)
        | (st, .ok ()) => match c.upsertError with
          | some e => ({ w with store := st }, .error e)
          | none =>
            ({ state := some ⟨c.network, v.hi, maxSafe c.confirmations height⟩
               store := st }, .ok (some ⟨v, height⟩))

/-! ## Rows that stay -/

variable {st : CryptoStore}

theorem KeepsRows.refl (st : CryptoStore) : KeepsRows st st := fun r hr => ⟨r, hr, rfl⟩

theorem KeepsRows.trans (h : KeepsRows st st') (h' : KeepsRows st' st'') :
    KeepsRows st st'' := by
  intro r hr
  obtain ⟨r', hr', hkey⟩ := h r hr
  obtain ⟨r'', hr'', hkey'⟩ := h' r' hr'
  exact ⟨r'', hr'', hkey'.trans hkey⟩

theorem keepsRows_putTransaction (tx : CryptoPaymentTransaction) :
    KeepsRows st (st.putTransaction tx) := by
  intro r hr
  by_cases hkey : r.key = tx.key
  · exact ⟨tx, mem_putTransaction.mpr (.inr rfl), hkey.symm⟩
  · exact ⟨r, mem_putTransaction.mpr (.inl ⟨hr, hkey⟩), rfl⟩

theorem keepsRows_matchOrder :
    KeepsRows st ((st.putTransaction tx).matchOrder order tx) := by
  rw [matchOrder_eq_once]
  exact keepsRows_putTransaction { tx with matchedOrderId := order.id }

theorem keepsRows_record (st : CryptoStore) (now : Int) (transfer : CryptoObservedTransfer) :
    KeepsRows st (st.recordCryptoTransfer now transfer) ∧
      ∃ r ∈ (st.recordCryptoTransfer now transfer).transactions,
        r.key = (transfer.row now).key := by
  have hkey := st.observe_key now transfer
  rcases st.recordCryptoTransfer_cases now transfer with
    ⟨hrec, _⟩ | ⟨order, _, _, hrec⟩ | ⟨_, _, _, _, _, hrec⟩ | ⟨order, _, _, _, hrec⟩ <;>
    rw [hrec]
  · exact ⟨keepsRows_putTransaction _, _, mem_putTransaction.mpr (.inr rfl), hkey⟩
  · refine ⟨keepsRows_matchOrder, ?_⟩
    rw [matchOrder_eq_once]
    exact ⟨_, mem_putTransaction.mpr (.inr rfl), hkey⟩
  · exact ⟨keepsRows_putTransaction _, _, mem_putTransaction.mpr (.inr rfl), hkey⟩
  refine ⟨keepsRows_matchOrder, ?_⟩
  rw [matchOrder_eq_once]
  exact ⟨_, mem_putTransaction.mpr (.inr rfl), hkey⟩

open KeepsRows

theorem keepsRows_complete
    (h : st.completeCryptoTopUp rates now tradeNo evidence = .ok st') : KeepsRows st st' := by
  rcases completeCryptoTopUp_cases h with
    rfl | ⟨order, _, _, _, rfl | ⟨tx, c, _, rfl⟩⟩
  · exact refl _
  · exact refl _
  · exact keepsRows_putTransaction tx

/-- No operation of the store forgets a transfer. -/
theorem keepsRows_apply (rates : Rates) (now : Int) (op : CryptoOp) :
    KeepsRows st (st.apply rates now op) := by
  cases op with
  | create input =>
    simp only [apply]
    cases hc : st.createCryptoTopUpOrder now input with
    | error => exact refl _
    | ok =>
      obtain ⟨_, _, _, _, _, _, rfl⟩ := createCryptoTopUpOrder_ok hc
      exact refl _
  | expire tradeNo =>
    simp only [apply]
    rcases st.expireCryptoOrder_cases now tradeNo with
      heq | ⟨_, _, _, _, heq⟩ <;> rw [heq] <;> exact refl _
  | record transfer => exact (keepsRows_record st now transfer).1
  | completeReady =>
    refine completeReady_rule (KeepsRows st) (fun _ _ => True) ?_ _ st (refl _) (fun _ _ => trivial)
    intro st₁ order tx st₂ hst _ _ hdone
    exact ⟨hst.trans (keepsRows_complete hdone), fun _ _ => trivial⟩
  | adminComplete tradeNo reason evidence =>
    simp only [apply]
    cases hc : st.adminCompleteCryptoTopUp rates now tradeNo reason evidence with
    | error => exact refl _
    | ok =>
      obtain ⟨_, _, hdone⟩ := adminCompleteCryptoTopUp_ok hc
      exact keepsRows_complete hdone

/-- **No run of payments forgets a transfer** that was recorded. -/
theorem recorded_transfers_stay (rates : Rates) (w : CryptoWorld) (acts : List CryptoAct) :
    KeepsRows w.store (exec (CryptoWorld.step rates) w acts).store := by
  refine exec_invariant (KeepsRows w.store ∘ CryptoWorld.store) ?_ (KeepsRows.refl _) acts
  intro w₁ act hkept
  exact hkept.trans (keepsRows_apply rates _ act.op)

/-! ## The loop of a call -/

/-- What the database answers when a call records: the error of a recording,
if it fails, and the time. -/
structure Recorder where
  recordError : CryptoObservedTransfer → Option String
  observedAt : Int

def Recorder.recordTransfers (db : Recorder) :
    List CryptoObservedTransfer → CryptoStore → CryptoStore × Except String Unit
  | [], st => (st, .ok ())
  | transfer :: rest, st => match db.recordError transfer with
    | some e => (st, .error e)
    | none => db.recordTransfers rest (st.recordCryptoTransfer db.observedAt transfer)

/-- The loop over what the node has returned: `decode` gives the transfers of
an item that are to be recorded. What was recorded before an error stays. -/
def Recorder.recordItems {Item : Type} (db : Recorder)
    (decode : Item → Except String (List CryptoObservedTransfer)) :
    List Item → CryptoStore → CryptoStore × Except String Unit
  | [], st => (st, .ok ())
  | item :: rest, st => match decode item with
    | .error e => (st, .error e)
    | .ok transfers => match db.recordTransfers transfers st with
      | (st, .error e) => (st, .error e)
      | (st, .ok ()) => db.recordItems decode rest st

def Stored (st : CryptoStore) (network txHash : String) (logIndex : Int) : Prop :=
  ∃ r ∈ st.transactions, r.key = (normalizeCryptoNetwork network, trimSpace txHash, logIndex)

theorem Stored.mono (hkps : KeepsRows st st')
    (h : Stored st network txHash logIndex) : Stored st' network txHash logIndex := by
  obtain ⟨r, hr, hkey⟩ := h
  obtain ⟨r', hr', hkey'⟩ := hkps r hr
  exact ⟨r', hr', hkey'.trans hkey⟩

namespace Recorder

variable {Item : Type} (db : Recorder)
  (decode : Item → Except String (List CryptoObservedTransfer))

theorem recordTransfers_keeps (transfers : List CryptoObservedTransfer) (st : CryptoStore) :
    KeepsRows st (db.recordTransfers transfers st).1 := by
  induction transfers generalizing st with
  | nil => exact refl st
  | cons _ _ ih =>
    simp only [recordTransfers]
    split
    · exact refl st
    · exact (keepsRows_record _ _ _).1.trans (ih _)

theorem recordItems_keeps (items : List Item) (st : CryptoStore) :
    KeepsRows st (db.recordItems decode items st).1 := by
  induction items generalizing st with
  | nil => exact refl st
  | cons item rest ih =>
  simp only [recordItems]
  split
  · exact refl st
  rename_i transfers _
  have hkps := db.recordTransfers_keeps transfers st
  rcases hrec : db.recordTransfers transfers st with ⟨st₁, e | ⟨⟩⟩ <;> rw [hrec] at hkps
  · exact hkps
  · exact hkps.trans (ih st₁)

variable {db} {decode}

theorem recordTransfers_ok (h : db.recordTransfers transfers st = (st', .ok ())) :
    ∀ t ∈ transfers, Stored st' t.network t.txHash t.logIndex := by
  induction transfers generalizing st with
  | nil => exact nofun
  | cons _ rest ih =>
  intro t ht
  simp only [recordTransfers] at h
  split at h
  · cases h
  rcases mem_cons.mp ht with rfl | ht
  · -- its row is there now, and the rest of the loop keeps it
    have hkps := db.recordTransfers_keeps rest (st.recordCryptoTransfer db.observedAt t)
    rw [h] at hkps
    obtain ⟨r, hr, hkey⟩ := (keepsRows_record st db.observedAt t).2
    exact Stored.mono hkps ⟨r, hr, hkey⟩
  · exact ih h t ht

/-- **The loop lemma**: when the loop ends without an error, every item was
decoded and its transfers are stored. -/
theorem recordItems_ok (h : db.recordItems decode items st = (st', .ok ())) :
    ∀ item ∈ items, ∃ transfers, decode item = .ok transfers ∧
      ∀ t ∈ transfers, Stored st' t.network t.txHash t.logIndex := by
  induction items generalizing st with
  | nil => exact nofun
  | cons item rest ih =>
  intro item' hitem
  simp only [recordItems] at h
  split at h
  · cases h
  rename_i transfers hdec
  rcases hrec : db.recordTransfers transfers st with ⟨st₁, e | ⟨⟩⟩ <;>
    simp only [hrec] at h
  · cases h
  rcases mem_cons.mp hitem with rfl | hitem
  · refine ⟨transfers, hdec, fun t ht => ?_⟩
    have hkps := db.recordItems_keeps decode rest st₁
    rw [h] at hkps
    exact (recordTransfers_ok hrec t ht).mono hkps
  · exact ih h item' hitem

theorem recordItems_skip (h : ∀ item ∈ items, decode item = .ok []) :
    db.recordItems decode items st = (st, .ok ()) := by
  induction items with
  | nil => rfl
  | cons item _ ih =>
    simp only [recordItems, h item mem_cons_self, recordTransfers]
    exact ih fun item' hitem => h item' (mem_cons_of_mem _ hitem)

end Recorder

/-! ## What a call does -/

namespace ScanCall

variable {c : ScanCall}

/-- The call reads its cursor, keeps the recorded transfers, and its windows
can hold more than one block. -/
structure Sound (c : ScanCall) : Prop where
  state : c.stateError = none
  keeps : ∀ height v st, KeepsRows st (c.body height v st).1
  limit : ∀ n ∈ c.limit, 0 < n

/-- The three ways a call ends: nothing new is safe, an error, or a window
whose blocks have all gone through the body. -/
theorem run_cases (h : c.Sound) (w : ScanWorld) :
    (∃ height, c.height = .ok height ∧
      (c.window height w.state).hi < (c.window height w.state).lo ∧
      c.run w = (w, .ok none)) ∨
    (∃ st e, KeepsRows w.store st ∧ c.run w = ({ w with store := st }, .error e)) ∨
    ∃ height st, c.height = .ok height ∧
      (c.window height w.state).lo ≤ (c.window height w.state).hi ∧
      c.body height (c.window height w.state) w.store = (st, .ok ()) ∧
      c.run w =
        ({ state := some ⟨c.network, (c.window height w.state).hi,
             maxSafe c.confirmations height⟩
           store := st }, .ok (some ⟨c.window height w.state, height⟩)) := by
  simp only [run, h.state, readState]
  cases c.urlError with
  | some e => exact .inr (.inl ⟨w.store, e, refl _, rfl⟩)
  | none =>
  cases htop : c.height with
  | error e => exact .inr (.inl ⟨w.store, e, refl _, rfl⟩)
  | ok height =>
  simp only
  split
  · rename_i hlt
    exact .inl ⟨height, rfl, hlt, rfl⟩
  rename_i hle
  have hkps := h.keeps height (c.window height w.state) w.store
  rcases hbody : c.body height (c.window height w.state) w.store with ⟨st, e | ⟨⟩⟩ <;>
    rw [hbody] at hkps
  · exact .inr (.inl ⟨st, e, hkps, rfl⟩)
  cases c.upsertError with
  | some e => exact .inr (.inl ⟨st, e, hkps, rfl⟩)
  | none => exact .inr (.inr ⟨height, st, rfl, by omega, hbody, rfl⟩)

theorem run_of_body (hurl : c.urlError = none) (htop : c.height = .ok height)
    (hsta : c.stateError = none) (hle : (c.window height w.state).lo ≤ (c.window height w.state).hi)
    (hbody : c.body height (c.window height w.state) w.store = (st, .ok ()))
    (hups : c.upsertError = none) :
    c.run w =
      ({ state := some ⟨c.network, (c.window height w.state).hi,
           maxSafe c.confirmations height⟩
         store := st }, .ok (some ⟨c.window height w.state, height⟩)) := by
  simp only [run, hurl, htop, hsta, readState, if_neg (Int.not_lt.mpr hle), hbody, hups]

theorem window_bounds (h : c.Sound) (height : Int) (state : Option CryptoScannerState) :
    (c.window height state).hi ≤ maxSafe c.confirmations height ∧
      (1 ≤ maxSafe c.confirmations height → 0 < (c.window height state).hi) ∧
      ((c.window height state).lo ≤ maxSafe c.confirmations height →
        (c.window height state).lo ≤ (c.window height state).hi) := by
  have hlo := scanFrom_nonneg c.lookback c.confirmations height state
  simp only [window]
  cases hlim : c.limit with
  | none =>
    simp only
    omega
  | some n =>
    have hn := h.limit n hlim
    simp only
    split <;> omega

theorem run_advances (h : c.Sound) (w : ScanWorld) :
    Advances c.lookback c.confirmations w (c.run w) := by
  rcases run_cases h w with ⟨_, _, _, hrun⟩ | ⟨st, e, hkps, hrun⟩ |
    ⟨height, st, _, hle, hbody, hrun⟩ <;> rw [hrun]
  · exact ⟨refl _, fun _ => rfl, nofun, nofun, nofun, nofun, nofun⟩
  · exact ⟨hkps, fun _ => rfl, nofun, nofun, nofun, nofun, nofun⟩
  have hkps := h.keeps height (c.window height w.state) w.store
  rw [hbody] at hkps
  obtain ⟨hsafe, hpos, _⟩ := window_bounds h height w.state
  refine ⟨hkps, fun hnone => absurd rfl (hnone _), ?_, ?_, ?_, ?_, ?_⟩ <;> rintro v ⟨⟩
  · exact ⟨_, rfl, rfl⟩
  · rfl
  · exact hle
  · exact hsafe
  · exact hpos

/-- A call that has scanned a window was made at its height, and its body
ended without an error. -/
theorem run_scanned (h : c.Sound) (hv : (c.run w).2 = .ok (some v)) :
    c.height = .ok v.height ∧ v.window = c.window v.height w.state ∧
      c.body v.height v.window w.store = ((c.run w).1.store, .ok ()) := by
  rcases run_cases h w with ⟨_, _, _, hrun⟩ | ⟨_, _, _, hrun⟩ |
    ⟨height, st, htop, _, hbody, hrun⟩ <;> rw [hrun] at hv ⊢ <;> cases hv
  exact ⟨htop, rfl, hbody⟩

theorem run_height (h : c.Sound) (hok : ∃ r, (c.run w).2 = .ok r) :
    ∃ height, c.height = .ok height := by
  obtain ⟨r, hr⟩ := hok
  rcases run_cases h w with ⟨height, htop, _⟩ | ⟨_, _, _, hrun⟩ | ⟨height, _, htop, _⟩
  · exact ⟨height, htop⟩
  · rw [hrun] at hr
    cases hr
  · exact ⟨height, htop⟩

/-- A call that succeeds at a height at which its window begins with a safe
block has scanned it. -/
theorem run_scans (h : c.Sound) (htop : c.height = .ok height)
    (hsafe : (c.window height w.state).lo ≤ maxSafe c.confirmations height)
    (hok : ∃ r, (c.run w).2 = .ok r) : ∃ v, (c.run w).2 = .ok (some v) := by
  obtain ⟨r, hr⟩ := hok
  rcases run_cases h w with ⟨height', htop', _, hrun⟩ | ⟨_, _, _, hrun⟩ |
    ⟨height', st, htop', _, _, hrun⟩
  · obtain rfl : height = height' := by
      rw [htop] at htop'
      cases htop'
      rfl
    have := (window_bounds h height w.state).2.2 hsafe
    omega
  · rw [hrun] at hr
    cases hr
  · exact ⟨_, by rw [hrun]⟩

end ScanCall

/-! ## Runs

A run is a sequence of calls of one scanner, with any other operations on the
store between them. The history of the calls that have scanned blocks is kept
beside the world. -/

inductive ScanAct (Env : Type) where
  | scan (env : Env)
  | other (now : Int) (op : CryptoOp)

structure ScanRun where
  world : ScanWorld
  history : List Scan := []

/-- The run after a call: its scan, if there is one, is the newest. -/
def ScanRun.scanned (run : ScanRun) (out : Outcome) : ScanRun where
  world := out.1
  history := match out.2 with
    | .ok (some v) => v :: run.history
    | _ => run.history

def ScanRun.step {Env : Type} (rates : Rates) (scanOnce : Env → ScanWorld → Outcome)
    (run : ScanRun) : ScanAct Env → ScanRun
  | .scan env => run.scanned (scanOnce env run.world)
  | .other now op =>
    { run with world := { run.world with store := run.world.store.apply rates now op } }

def ScanRun.lastScannedBlock (run : ScanRun) : Option Int :=
  run.world.state.map (·.lastScannedBlock)

/-- **Followed.** The windows tile the chain up to the cursor, none goes past
the safe height, and what is `wanted` of a scanned block is in the store. -/
structure Followed (wanted : Int → CryptoStore → Prop) (confirmations : Int) (run : ScanRun) :
    Prop where
  tiled : Tiled (run.history.map (·.window))
  cursor : ∀ v ∈ run.history.head?, 0 < v.window.hi ∧
    ∃ s, run.world.state = some s ∧ s.lastScannedBlock = v.window.hi
  safe : ∀ v ∈ run.history, v.window.hi ≤ maxSafe confirmations v.height
  found : ∀ v ∈ run.history, ∀ b, v.window.Holds b → wanted b run.world.store

section

variable {wanted : Int → CryptoStore → Prop} {lookback confirmations : Int}

theorem followed_start (w : ScanWorld) : Followed wanted confirmations { world := w } :=
  ⟨trivial, nofun, nofun, nofun⟩

theorem Followed.other (hmono : ∀ b st st', KeepsRows st st' → wanted b st → wanted b st')
    (h : Followed wanted confirmations run) (rates : Rates) (now : Int) (op : CryptoOp) :
    Followed wanted confirmations
      { run with world := { run.world with store := run.world.store.apply rates now op } } where
  tiled := h.tiled
  cursor := h.cursor
  safe := h.safe
  found := fun v hv b hb => hmono b _ _ (keepsRows_apply rates now op) (h.found v hv b hb)

theorem Followed.next (h : Followed wanted confirmations run) (hu : u ∈ run.history.head?) :
    scanFrom lookback confirmations height run.world.state = u.window.hi + 1 := by
  obtain ⟨_, s, hs, hlast⟩ := h.cursor u hu
  rw [hs, scanFrom_next (by omega), hlast]

/-- **The step lemma**: a call that advances the cursor and, when it succeeds,
stores what is wanted of its window. -/
theorem Followed.scan (hmono : ∀ b st st', KeepsRows st st' → wanted b st → wanted b st')
    (h : Followed wanted confirmations run) (hadv : Advances lookback confirmations run.world out)
    (hsafe : ∀ v, out.2 = .ok (some v) → 1 ≤ maxSafe confirmations v.height)
    (hfound : ∀ v, out.2 = .ok (some v) → ∀ b, v.window.Holds b → wanted b out.1.store) :
    Followed wanted confirmations (run.scanned out) := by
  have hold : ∀ v ∈ run.history, ∀ b, v.window.Holds b → wanted b out.1.store :=
    fun v hv b hb => hmono b _ _ hadv.keeps (h.found v hv b hb)
  by_cases hout : ∃ v, out.2 = .ok (some v)
  · obtain ⟨v, hv⟩ := hout
    have hrun : run.scanned out = ⟨out.1, v :: run.history⟩ := by
      simp only [ScanRun.scanned, hv]
    rw [hrun]
    refine ⟨⟨hadv.nonempty v hv, ?_, h.tiled⟩, ?_, ?_, ?_⟩
    · intro u hu
      rw [head?_map] at hu
      obtain ⟨u', hu', rfl⟩ := Option.mem_map.mp hu
      rw [hadv.lo v hv]
      exact h.next hu'
    · intro u hu
      obtain rfl : v = u := by simpa using hu
      exact ⟨hadv.positive v hv (hsafe v hv), hadv.moved v hv⟩
    · intro u hu
      rcases mem_cons.mp hu with rfl | hu
      · exact hadv.safe u hv
      · exact h.safe u hu
    · intro u hu
      rcases mem_cons.mp hu with rfl | hu
      · exact hfound u hv
      · exact hold u hu
  have hnone : ∀ v, out.2 ≠ .ok (some v) := fun v hv => hout ⟨v, hv⟩
  have hrun : run.scanned out = ⟨out.1, run.history⟩ := by
    simp only [ScanRun.scanned]
  rw [hrun]
  refine ⟨h.tiled, ?_, h.safe, hold⟩
  simp only [hadv.idle hnone]
  exact h.cursor

/-- What is needed of a call: it is sound, its safe height is not 0 (a cursor
at 0 counts as none), and it stores what is wanted of the window that it scans. -/
structure Stores (wanted : Int → CryptoStore → Prop) (confirmations : Int) (c : ScanCall)
    (w : ScanWorld) : Prop where
  sound : c.Sound
  same : c.confirmations = confirmations
  nonzero : ∀ height, c.height = .ok height → maxSafe confirmations height ≠ 0
  found : ∀ v, (c.run w).2 = .ok (some v) → ∀ b, v.window.Holds b → wanted b (c.run w).1.store

theorem Followed.scanCall (hmono : ∀ b st st', KeepsRows st st' → wanted b st → wanted b st')
    (h : Followed wanted confirmations run) (hc : Stores wanted confirmations c run.world) :
    Followed wanted confirmations (run.scanned (c.run run.world)) := by
  have hadv := ScanCall.run_advances hc.sound run.world
  rw [hc.same] at hadv
  refine h.scan hmono hadv (fun v hv => ?_) hc.found
  have hlo := hadv.lo v hv
  have hnn := scanFrom_nonneg c.lookback confirmations v.height run.world.state
  have hle := hadv.nonempty v hv
  have hsafe := hadv.safe v hv
  have hne := hc.nonzero v.height (ScanCall.run_scanned hc.sound hv).1
  omega

/-- What is wanted of the blocks from the first scanned to the last is there. -/
theorem Followed.complete (h : Followed wanted confirmations run)
    (hfst : first ∈ run.history.getLast?) (hlo : first.window.lo ≤ b)
    (hlast : last ∈ run.lastScannedBlock) (hhi : b ≤ last) : wanted b run.world.store := by
  obtain ⟨newest, hnew⟩ : ∃ v, v ∈ run.history.head? := by
    cases hh : run.history with
    | nil =>
      rw [hh] at hfst
      cases hfst
    | cons v => exact ⟨v, rfl⟩
  obtain ⟨_, s, hs, _⟩ := h.cursor newest hnew
  have hlast' : last = newest.window.hi := by
    simp only [ScanRun.lastScannedBlock, hs, Option.map_some, Option.mem_def,
      Option.some.injEq] at hlast
    omega
  have hfst' : first.window ∈ (run.history.map (·.window)).getLast? := by
    rw [getLast?_map]
    exact Option.mem_map_of_mem _ hfst
  have hnew' : newest.window ∈ (run.history.map (·.window)).head? := by
    rw [head?_map]
    exact Option.mem_map_of_mem _ hnew
  obtain ⟨v, hv, hheld⟩ := h.tiled.covers hfst' hnew' hlo (by omega)
  obtain ⟨scan, hscan, rfl⟩ := mem_map.mp hv
  exact h.found scan hscan b hheld

end

end HermesToken.Scanner
