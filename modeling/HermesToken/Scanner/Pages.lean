import HermesToken.Scanner.Solana
import HermesToken.Scanner.Tron

/-!
# Scanners that read one page

The TRON and the Solana scanner read ONE page of what their node has and move
their cursor as if it were everything. As long as a page holds what the
scanner is to see, every confirmed transfer is recorded in the end. A burst
that is longer than a page is lost: its transfers lie behind the cursor, and
no later call asks for them.
-/

namespace HermesToken.Scanner

open Lib Payment Window List

variable {b : Int}

/-! ## When a page is enough -/

/-- The events of the window of a call fit on a page, its cursor was read, and
its safe height is not 0. -/
structure TronScanner.PageHolds (s : TronScanner) (chain : Int → List TronGridEvent)
    (env : TronEnv) (w : ScanWorld) : Prop where
  state : env.stateError = none
  nonzero : ∀ height, TronScanner.currentBlock env = .ok height →
    maxSafe s.config.confirmations height ≠ 0
  fits : ∀ height, TronScanner.currentBlock env = .ok height →
    (((s.call env).window height w.state).ascending chain).length ≤ 200

/-- The signatures from the first slot of the window of a call to the newest
slot fit on a page, its cursor was read, and its safe height is not 0. -/
structure SolanaScanner.PageHolds (s : SolanaScanner) (chain : Int → List SolanaSignatureInfo)
    (tip : Int) (env : SolanaEnv) (w : ScanWorld) : Prop where
  state : env.stateError = none
  nonzero : ∀ height, env.slot = .ok height → maxSafe s.config.confirmations height ≠ 0
  fits : ∀ height, env.slot = .ok height →
    (Window.descending ⟨((s.call env).window height w.state).lo, tip⟩ chain).length ≤ 100

/-- **A scanner whose pages suffice misses nothing.** In every endless run in
which calls keep succeeding, with any operations of the store between them,
every transfer to the receive address in a confirmed block that is not before
the first position of the scanner is recorded. -/
theorem pagedScanners_complete (rates : Rates) :
    (∀ (s : TronScanner) (chain : Int → List TronGridEvent) (w : ScanWorld)
      (acts : ℕ → ScanAct TronEnv),
      TronScanner.Numbered chain →
      (∀ n env, acts n = .scan env → TronScanner.Honest chain env) →
      (∀ n env, acts n = .scan env → s.PageHolds chain env (endless rates s.call w acts n).world) →
      KeepsSucceeding s.call acts (endless rates s.call w acts) →
      ∀ b, Confirmed s.call acts s.config.confirmations b →
        AfterFirst (endless rates s.call w acts) b →
        ∀ event ∈ chain b, s.ToReceiver event →
          ∃ n, Stored (endless rates s.call w acts n).world.store TronScanner.network
            event.transactionID event.eventIndex) ∧
    (∀ (s : SolanaScanner) (chain : Int → List SolanaSignatureInfo)
      (transaction : String → SolanaTransactionResult) (w : ScanWorld)
      (acts : ℕ → ScanAct SolanaEnv) (tip : ℕ → Int),
      SolanaScanner.Numbered chain →
      (∀ n env, acts n = .scan env → SolanaScanner.Honest chain transaction (tip n) env) →
      (∀ n env, acts n = .scan env →
        s.PageHolds chain (tip n) env (endless rates s.call w acts n).world) →
      KeepsSucceeding s.call acts (endless rates s.call w acts) →
      ∀ b, Confirmed s.call acts s.config.confirmations b →
        AfterFirst (endless rates s.call w acts) b →
        ∀ sig ∈ chain b, sig.err = none → ∀ index : ℕ, s.PaidBy transaction sig index →
          ∃ n, Stored (endless rates s.call w acts n).world.store SolanaScanner.network
            sig.signature index) := by
  constructor
  · intro s chain w acts hchain hhonest hpage hsucceed b hconfirmed hafter event hevent hto
    obtain ⟨n, hrecorded⟩ := eventually_stored
      TronScanner.BlockRecorded.mono
      (fun n env hact => ⟨s.call_sound (hpage n env hact).state, rfl, (hpage n env hact).nonzero,
        TronScanner.call_records hchain (hhonest n env hact) (hpage n env hact).state _
          (hpage n env hact).fits⟩)
      hsucceed hconfirmed hafter
    exact ⟨n, hrecorded event hevent hto⟩
  intro s chain transaction w acts tip hchain hhonest hpage hsucceed b hconfirmed hafter
    sig hsig herr index hpaid
  obtain ⟨n, hrecorded⟩ := eventually_stored
    SolanaScanner.BlockRecorded.mono
    (fun n env hact => ⟨s.call_sound (hpage n env hact).state, rfl, (hpage n env hact).nonzero,
      SolanaScanner.call_records hchain (hhonest n env hact) (hpage n env hact).state _
        (hpage n env hact).fits⟩)
    hsucceed hconfirmed hafter
  exact ⟨n, hrecorded sig hsig herr index hpaid⟩

/-! ## Calls at growing heights

Runs whose calls are made at the heights 110, 111, …, with 10 confirmations,
and all succeed. Each call after the first then scans one block. -/

/-- The stores of a run whose first two calls leave `st₀` and `st₁`. -/
def settlesAt (st₀ st₁ : CryptoStore) : ℕ → CryptoStore
  | 0 => st₀
  | _ + 1 => st₁

/-- The first call scans the blocks from `first` to 101, and call number `n`
leaves the store `st n`. -/
structure Paced (calls : ℕ → ScanCall) (first : Int) (st : ℕ → CryptoStore) : Prop where
  url : ∀ n, (calls n).urlError = none
  height : ∀ n, (calls n).height = .ok (110 + n)
  state : ∀ n, (calls n).stateError = none
  upsert : ∀ n, (calls n).upsertError = none
  nonempty : first ≤ 101
  firstWindow : (calls 0).window 110 none = ⟨first, 101⟩
  firstBody : (calls 0).body 110 ⟨first, 101⟩ {} = (st 0, .ok ())
  laterWindow : ∀ (n : ℕ) (row : CryptoScannerState), row.lastScannedBlock = 101 + n →
    (calls (n + 1)).window (110 + (n + 1 : ℕ)) (some row) = ⟨102 + n, 102 + n⟩
  laterBody : ∀ n : ℕ, (calls (n + 1)).body (110 + (n + 1 : ℕ)) ⟨102 + n, 102 + n⟩ (st n) =
    (st (n + 1), .ok ())

namespace Paced

variable {Env : Type} {call : Env → ScanCall} {env : ℕ → Env} {first : Int}
  {st : ℕ → CryptoStore}

theorem run_first (h : Paced (fun n => call (env n)) first st) :
    (call (env 0)).run {} = ({
      state := some ⟨(call (env 0)).network, 101, maxSafe (call (env 0)).confirmations 110⟩
      store := st 0 }, .ok (some ⟨⟨first, 101⟩, 110⟩)) := by
  have hwin : (call (env 0)).window 110 ({} : ScanWorld).state = ⟨first, 101⟩ := h.firstWindow
  have hbody : (call (env 0)).body 110 ((call (env 0)).window 110 ({} : ScanWorld).state)
      ({} : ScanWorld).store = (st 0, .ok ()) := by
    rw [hwin]
    exact h.firstBody
  have htop : (call (env 0)).height = .ok 110 := h.height 0
  have hrun := ScanCall.run_of_body (h.url 0) htop (h.state 0)
    (by rw [hwin]; exact h.nonempty) hbody (h.upsert 0)
  rw [hwin] at hrun
  exact hrun

theorem run_later (h : Paced (fun n => call (env n)) first st) {n : ℕ} {w : ScanWorld}
    {row : CryptoScannerState} (hstore : w.store = st n) (hsta : w.state = some row)
    (hlast : row.lastScannedBlock = 101 + n) :
    ∃ row' : CryptoScannerState, row'.lastScannedBlock = 101 + (n + 1 : ℕ) ∧
      (call (env (n + 1))).run w = ({ state := some row', store := st (n + 1) },
        .ok (some ⟨⟨102 + n, 102 + n⟩, 110 + (n + 1 : ℕ)⟩)) := by
  have hwin : (call (env (n + 1))).window (110 + (n + 1 : ℕ)) w.state =
      ⟨102 + n, 102 + n⟩ := by
    rw [hsta]
    exact h.laterWindow n row hlast
  have hbody : (call (env (n + 1))).body (110 + (n + 1 : ℕ))
      ((call (env (n + 1))).window (110 + (n + 1 : ℕ)) w.state) w.store =
        (st (n + 1), .ok ()) := by
    rw [hwin, hstore]
    exact h.laterBody n
  have hrun := ScanCall.run_of_body (h.url (n + 1)) (h.height (n + 1)) (h.state (n + 1))
    (by rw [hwin]) hbody (h.upsert (n + 1))
  rw [hwin] at hrun
  exact ⟨_, by push_cast; omega, hrun⟩

theorem after (rates : Rates) (h : Paced (fun n => call (env n)) first st) (n : ℕ) :
    let run := endless rates call {} (fun n => .scan (env n)) (n + 1)
    run.world.store = st n ∧
      (∃ row : CryptoScannerState, run.world.state = some row ∧ row.lastScannedBlock = 101 + n) ∧
      run.history.getLast? = some ⟨⟨first, 101⟩, 110⟩ := by
  induction n with
  | zero =>
    simp only [endless, stream, ScanRun.step, ScanRun.scanned, h.run_first]
    exact ⟨trivial, ⟨_, rfl, rfl⟩, rfl⟩
  | succ n ih =>
  obtain ⟨hstore, ⟨row, hsta, hlast⟩, hfst⟩ := ih
  obtain ⟨row', hlast', hrun⟩ := h.run_later hstore hsta hlast
  have hstep : endless rates call {} (fun n => .scan (env n)) (n + 1 + 1) =
      (endless rates call {} (fun n => .scan (env n)) (n + 1)).scanned
        ((call (env (n + 1))).run
          (endless rates call {} (fun n => .scan (env n)) (n + 1)).world) := rfl
  simp only [hstep, hrun, ScanRun.scanned]
  refine ⟨trivial, ⟨row', rfl, hlast'⟩, ?_⟩
  rw [getLast?_cons, hfst]
  rfl

section

variable (h : Paced (fun n => call (env n)) first st)
include h

theorem keepsSucceeding :
    KeepsSucceeding call (fun n => .scan (env n))
      (endless rates call {} (fun n => .scan (env n))) := by
  intro n
  refine ⟨n, le_refl n, env n, rfl, ?_⟩
  cases n with
  | zero => exact ⟨_, congrArg Prod.snd h.run_first⟩
  | succ n =>
    obtain ⟨hstore, ⟨row, hsta, hlast⟩, _⟩ := h.after rates n
    obtain ⟨row', _, hrun⟩ := h.run_later hstore hsta hlast
    exact ⟨_, congrArg Prod.snd hrun⟩

theorem afterFirst (hb : first ≤ b) :
    AfterFirst (endless rates call {} (fun n => .scan (env n))) b :=
  ⟨1, _, (h.after rates 0).2.2, hb⟩

/-- A block up to 102 has its 10 confirmations from the second call on. -/
theorem confirmed (hb : b ≤ 102) : Confirmed call (fun n => .scan (env n)) 10 b := by
  refine ⟨1, fun m hone e height hact htop => ?_⟩
  cases hact
  have hm := h.height m
  rw [htop] at hm
  cases hm
  simp only [maxSafe]
  omega

end

theorem nothing_stored (h : Paced (fun n => call (env n)) first (settlesAt {} {})) (n : ℕ) :
    ¬ Stored (endless rates call {} (fun n => .scan (env n)) n).world.store network txHash
      logIndex := by
  have hemp : (endless rates call {} (fun n => .scan (env n)) n).world.store = {} := by
    cases n with
    | zero => rfl
    | succ n =>
      rw [(h.after rates n).1]
      cases n <;> rfl
  rw [hemp]
  rintro ⟨row, hrow, -⟩
  cases hrow

end Paced

/-- A chain with something in the blocks 70 and 102 only. -/
def sampleBlocks {α : Type} (xs ys : List α) (b : Int) : List α :=
  if b = 70 then xs else if b = 102 then ys else []

theorem sampleBlocks_of_ne {α : Type} {xs ys : List α} (h : b ≠ 70) (h' : b ≠ 102) :
    sampleBlocks xs ys b = [] := by
  rw [sampleBlocks, if_neg h, if_neg h']

/-! ## TRON -/

namespace TronScanner

variable {early late : List TronGridEvent} {st₀ st₁ : CryptoStore}

def sampleScanner : TronScanner where
  rpcURL := "http://node"
  config :=
    { contract := "TUsdt", receiveAddress := "TReceiver", decimals := 6, confirmations := 10 }

def sampleTransfer (transactionID receiver : String) (blockNumber : Int) : TronGridEvent where
  transactionID := transactionID
  blockNumber := blockNumber
  blockTimestamp := blockNumber * 1000
  eventIndex := 1
  result := [("from", "TSender"), ("to", receiver), ("value", "5000000")]

/-- 200 transfers between others, and then one to the receiver. -/
def burst : List TronGridEvent :=
  List.replicate 200 (sampleTransfer "ab" "TOther" 70) ++ [sampleTransfer "cd" "TReceiver" 70]

/-- A node with these events in the blocks 70 and 102, at the height `110 + n`. -/
def sampleNode (early late : List TronGridEvent) (n : ℕ) : TronEnv where
  stateError := none
  nowBlock := .ok (110 + n)
  events := fun lo hi => .ok ((Window.ascending ⟨lo, hi⟩ (sampleBlocks early late)).take 200)
  db := { recordError := fun _ => none, observedAt := 1000 }
  upsertError := none

theorem sampleNode_honest (early late : List TronGridEvent) (n : ℕ) :
    Honest (sampleBlocks early late) (sampleNode early late n) := by
  rintro lo _ page ⟨⟩
  rfl

theorem numbered_sampleBlocks (hearly : ∀ event ∈ early, event.blockNumber = 70)
    (hlate : ∀ event ∈ late, event.blockNumber = 102) : Numbered (sampleBlocks early late) := by
  intro b event hevent
  simp only [sampleBlocks] at hevent
  split_ifs at hevent with hb hb'
  · exact hb ▸ hearly event hevent
  · exact hb' ▸ hlate event hevent
  · cases hevent

theorem sampleNode_paced
    (hfirst : sampleScanner.scanBlocks (sampleNode early late 0) 110 ⟨60, 101⟩ {} = (st₀, .ok ()))
    (hsecond : sampleScanner.scanBlocks (sampleNode early late 1) 111 ⟨102, 102⟩ st₀ =
      (st₁, .ok ())) :
    Paced (fun n => sampleScanner.call (sampleNode early late n)) 60 (settlesAt st₀ st₁) where
  url := fun _ => call_urlError (by decide +kernel)
  height := by
    intro n
    show currentBlock (sampleNode early late n) = _
    simp only [currentBlock, sampleNode, seq_ok, require_ok, return_ok, exists_const]
    exact ⟨_, rfl, by omega, rfl⟩
  state := fun _ => rfl
  upsert := fun _ => rfl
  nonempty := by decide
  firstWindow := rfl
  firstBody := hfirst
  laterWindow := by
    intro n row hrow
    have hfrom : scanFrom 40 10 (110 + (n + 1 : ℕ)) (some row) = 102 + n := by
      rw [scanFrom_next (by omega)]
      omega
    show Window.mk (scanFrom 40 10 (110 + (n + 1 : ℕ)) (some row)) _ = _
    simp only [hfrom, maxSafe, call, sampleScanner]
    rw [if_pos (by omega)]
    congr 1
    omega
  laterBody := by
    rintro (_ | n)
    · exact hsecond
    show sampleScanner.scanBlocks (sampleNode early late (n + 2)) _ _ st₁ = (st₁, _)
    have hempty : ascending ⟨102 + (n + 1 : ℕ), 102 + (n + 1 : ℕ)⟩ (sampleBlocks early late) = [] :=
      ascending_eq_nil fun b hb => by
        have := hb.1
        simp only at this
        exact sampleBlocks_of_ne (by omega) (by omega)
    have hevents : getTransferEvents (sampleNode early late (n + 2))
        ⟨102 + (n + 1 : ℕ), 102 + (n + 1 : ℕ)⟩ = .ok [] := by
      simp only [getTransferEvents, sampleNode, hempty]
      rfl
    simp only [scanBlocks, hevents]
    rfl

theorem burst_body :
    sampleScanner.scanBlocks (sampleNode burst [] 0) 110 ⟨60, 101⟩ {} = ({}, .ok ()) := by
  have hevents : getTransferEvents (sampleNode burst [] 0) ⟨60, 101⟩ =
      .ok (replicate 200 (sampleTransfer "ab" "TOther" 70)) := by
    decide +kernel
  simp only [scanBlocks, hevents]
  refine Recorder.recordItems_skip fun event hevent => ?_
  rw [eq_of_mem_replicate hevent]
  decide +kernel

/-- Two events fit on every page. -/
theorem sampleNode_pageHolds {event event' : TronGridEvent}
    (hpaced : Paced (fun n => sampleScanner.call (sampleNode [event] [event'] n)) 60
      (settlesAt st₀ st₁)) (rates : Rates) (n : ℕ) :
    sampleScanner.PageHolds (sampleBlocks [event] [event']) (sampleNode [event] [event'] n)
      (endless rates sampleScanner.call {} (fun n => .scan (sampleNode [event] [event'] n))
        n).world := by
  have hheight : ∀ height, currentBlock (sampleNode [event] [event'] n) = .ok height →
      height = 110 + n := by
    intro height h
    have hn := (hpaced.height n).symm.trans h
    cases hn
    rfl
  refine ⟨rfl, fun height h => ?_, fun height h => ?_⟩
  · rw [hheight height h]
    show (110 + (n : Int)) - 10 + 1 ≠ 0
    omega
  rw [hheight height h]
  cases n with
  | zero =>
    have hone : (ascending ⟨60, 101⟩ (sampleBlocks [event] [event'])).length = 1 := rfl
    exact hone.trans_le (by omega)
  | succ n =>
    obtain ⟨_, ⟨row, hstate, hlast⟩, _⟩ := hpaced.after rates n
    rw [hstate, hpaced.laterWindow n row hlast, ascending_self, sampleBlocks]
    split_ifs <;> simp

end TronScanner

/-! ## Solana -/

namespace SolanaScanner

variable {early late : List SolanaSignatureInfo} {st₀ st₁ : CryptoStore} {n : ℕ}

def sampleScanner : SolanaScanner where
  rpcURL := "http://node"
  config := { contract := "Usdt", receiveAddress := "Receiver", decimals := 6, confirmations := 10 }
  confirmed := by decide

def sampleSignature (signature : String) (slot : Int) : SolanaSignatureInfo where
  signature := signature
  slot := slot
  err := none

def sampleInstruction : SolanaInstruction where
  program := "spl-token"
  parsedType := "transferChecked"
  info := [("mint", .str "Usdt"), ("destination", .str "Receiver"), ("authority", .str "Sender"),
    ("tokenAmount", .obj [("amount", .str "5000000")])]

/-- The transactions other than "ab" are transfers to the receiver. -/
def sampleTransaction (signature : String) : SolanaTransactionResult where
  slot := 70
  blockTime := 700
  accountKeys := []
  instructions := if signature = "ab" then [] else [sampleInstruction]
  postTokenBalances := []
  innerInstructions := []

theorem paidBy_sample {sig : SolanaSignatureInfo} (h : sig.signature ≠ "ab") :
    sampleScanner.PaidBy sampleTransaction sig 0 := by
  refine ⟨sampleInstruction, ?_, "Receiver", {}, .inl rfl, .inr rfl, ⟨by decide, by decide⟩, rfl,
    by decide +kernel, .inr (by decide +kernel), .inr (.inl (by decide))⟩
  simp [SolanaTransactionResult.allInstructions, sampleTransaction, h]

/-- 100 transactions that mention the receiver, after a transfer to it. -/
def burst : List SolanaSignatureInfo :=
  List.replicate 100 (sampleSignature "ab" 70) ++ [sampleSignature "cd" 70]

section

variable (early late) (n)

/-- A node with these signatures in the slots 70 and 102, at the slot `110 + n`. -/
def sampleNode : SolanaEnv where
  stateError := none
  slot := .ok (110 + n)
  getSignatures := .ok ((Window.descending ⟨0, 110 + n⟩ (sampleBlocks early late)).take 100)
  getTransaction := fun signature => .ok (sampleTransaction signature)
  db := { recordError := fun _ => none, observedAt := 1000 }
  upsertError := none

theorem sampleNode_honest :
    Honest (sampleBlocks early late) sampleTransaction (110 + n) (sampleNode early late n) := by
  refine ⟨?_, ?_, ?_⟩
  · rintro _ ⟨⟩
    omega
  · rintro page ⟨⟩
    rfl
  · rintro signature tx ⟨⟩
    rfl

end

theorem numbered_sampleBlocks (hearly : ∀ sig ∈ early, sig.slot = 70)
    (hlate : ∀ sig ∈ late, sig.slot = 102) : Numbered (sampleBlocks early late) := by
  intro b sig hsig
  simp only [sampleBlocks] at hsig
  split_ifs at hsig with hb hb'
  · exact hb ▸ hearly sig hsig
  · exact hb' ▸ hlate sig hsig
  · cases hsig

/-- The signatures, newest first. -/
theorem descending_sampleBlocks (early late : List SolanaSignatureInfo) (n : ℕ) :
    descending ⟨0, 110 + n⟩ (sampleBlocks early late) = late ++ early := by
  have hnone : ∀ lo hi : Int, (∀ b, lo ≤ b → b ≤ hi → b ≠ 70 ∧ b ≠ 102) →
      descending ⟨lo, hi⟩ (sampleBlocks early late) = [] := fun lo hi h =>
    descending_eq_nil fun b hb => sampleBlocks_of_ne (h b hb.1 hb.2).1 (h b hb.1 hb.2).2
  have hlate : descending ⟨102, 102⟩ (sampleBlocks early late) = late := append_nil _
  have hearly : descending ⟨70, 70⟩ (sampleBlocks early late) = early := append_nil _
  rw [descending_split _ (show (0 : Int) ≤ 103 by omega) (by omega),
    hnone 103 (110 + n) (by omega), descending_split _ (show (0 : Int) ≤ 102 by omega) (by omega),
    show (103 : Int) - 1 = 102 by rfl, hlate,
    descending_split _ (show (0 : Int) ≤ 71 by omega) (by omega), hnone 71 (102 - 1) (by omega),
    descending_split _ (show (0 : Int) ≤ 70 by omega) (by omega),
    show (71 : Int) - 1 = 70 by rfl, hearly, hnone 0 (70 - 1) (by omega)]
  simp

theorem sampleNode_page :
    (sampleNode early late n).getSignatures = .ok ((late ++ early).take 100) := by
  simp only [sampleNode, descending_sampleBlocks]

theorem sampleNode_paced (hearly : ∀ sig ∈ early, sig.slot = 70)
    (hlate : ∀ sig ∈ late, sig.slot = 102)
    (hfirst : sampleScanner.scanBlocks (sampleNode early late 0) 110 ⟨0, 101⟩ {} = (st₀, .ok ()))
    (hsecond : sampleScanner.scanBlocks (sampleNode early late 1) 111 ⟨102, 102⟩ st₀ =
      (st₁, .ok ())) :
    Paced (fun n => sampleScanner.call (sampleNode early late n)) 0 (settlesAt st₀ st₁) where
  url := fun _ => call_urlError (by decide +kernel)
  height := fun _ => rfl
  state := fun _ => rfl
  upsert := fun _ => rfl
  nonempty := by decide
  firstWindow := rfl
  firstBody := hfirst
  laterWindow := by
    intro n row hrow
    have hfrom : scanFrom 500 10 (110 + (n + 1 : ℕ)) (some row) = 102 + n := by
      rw [scanFrom_next (by omega)]
      omega
    show Window.mk (scanFrom 500 10 (110 + (n + 1 : ℕ)) (some row)) _ = _
    simp only [hfrom, maxSafe, call, sampleScanner]
    congr 1
    omega
  laterBody := by
    rintro (_ | n)
    · exact hsecond
    show sampleScanner.scanBlocks (sampleNode early late (n + 2)) _ _ st₁ = (st₁, _)
    simp only [scanBlocks, sampleNode_page]
    refine Recorder.recordItems_skip fun sig hsig => ?_
    have hslot : sig.slot ≤ 102 := by
      rcases mem_append.mp (mem_of_mem_take hsig) with hsig | hsig
      · exact (hlate sig hsig).le
      · rw [hearly sig hsig]
        decide
    simp only [decodeItem]
    rw [if_pos (by omega)]
    rfl

theorem burst_body (n : ℕ) (window : Window) :
    sampleScanner.scanBlocks (sampleNode burst [] n) (110 + n) window {} = ({}, .ok ()) := by
  have hpage : ([] ++ burst).take 100 = replicate 100 (sampleSignature "ab" 70) := by decide +kernel
  simp only [scanBlocks, sampleNode_page, hpage]
  refine Recorder.recordItems_skip fun sig hsig => ?_
  rw [eq_of_mem_replicate hsig]
  simp only [decodeItem]
  split <;> rfl

theorem sampleNode_pageHolds {sig sig' : SolanaSignatureInfo}
    (hpaced : Paced (fun n => sampleScanner.call (sampleNode [sig] [sig'] n)) 0
      (settlesAt st₀ st₁)) (rates : Rates) (n : ℕ) :
    sampleScanner.PageHolds (sampleBlocks [sig] [sig']) (110 + n) (sampleNode [sig] [sig'] n)
      (endless rates sampleScanner.call {}
        (fun n => .scan (sampleNode [sig] [sig'] n)) n).world := by
  refine ⟨rfl, ?_, ?_⟩ <;> rintro _ ⟨⟩
  · show (110 + (n : Int)) - 10 + 1 ≠ 0
    omega
  cases n with
  | zero =>
    have htwo := congrArg length (descending_sampleBlocks [sig] [sig'] 0)
    exact htwo.trans_le (by simp)
  | succ n =>
    obtain ⟨_, ⟨row, hstate, hlast⟩, _⟩ := hpaced.after rates n
    rw [hstate, hpaced.laterWindow n row hlast]
    show (descending ⟨102 + n, 110 + (n + 1 : ℕ)⟩ (sampleBlocks [sig] [sig'])).length ≤ 100
    have hall := congrArg length (descending_sampleBlocks [sig] [sig'] (n + 1))
    rw [descending_split _ (show (0 : Int) ≤ 102 + n by omega) (by omega), length_append] at hall
    have htwo : ([sig'] ++ [sig]).length = 2 := rfl
    omega

end SolanaScanner

/-! ## Transfers alone, and a transfer in a burst -/

/-- One transfer in the window of the first call, and one in that of the second. -/
theorem pagedScanners_complete_sample :
    (let run := endless ⟨500⟩ TronScanner.sampleScanner.call {} fun n => .scan
       (TronScanner.sampleNode [TronScanner.sampleTransfer "cd" "TReceiver" 70]
         [TronScanner.sampleTransfer "ef" "TReceiver" 102] n)
     (∃ n, Stored (run n).world.store "tron_trc20" "cd" 1) ∧
      ∃ n, Stored (run n).world.store "tron_trc20" "ef" 1) ∧
    (let run := endless ⟨500⟩ SolanaScanner.sampleScanner.call {} fun n => .scan
       (SolanaScanner.sampleNode [SolanaScanner.sampleSignature "cd" 70]
         [SolanaScanner.sampleSignature "ef" 102] n)
     (∃ n, Stored (run n).world.store "solana" "cd" (0 : ℕ)) ∧
      ∃ n, Stored (run n).world.store "solana" "ef" (0 : ℕ)) := by
  constructor
  · have hfirst : TronScanner.sampleScanner.scanBlocks (TronScanner.sampleNode
        [TronScanner.sampleTransfer "cd" "TReceiver" 70]
        [TronScanner.sampleTransfer "ef" "TReceiver" 102] 0) 110 ⟨60, 101⟩ {} = (_, .ok ()) :=
      Prod.ext rfl (by decide +kernel)
    have hpaced := TronScanner.sampleNode_paced hfirst (Prod.ext rfl (by decide +kernel))
    have hstored := (pagedScanners_complete ⟨500⟩).1 TronScanner.sampleScanner
      (sampleBlocks [TronScanner.sampleTransfer "cd" "TReceiver" 70]
        [TronScanner.sampleTransfer "ef" "TReceiver" 102]) {} _
      (TronScanner.numbered_sampleBlocks (by decide) (by decide))
      (by
        rintro n env ⟨⟩
        exact TronScanner.sampleNode_honest _ _ n)
      (by
        rintro n env ⟨⟩
        exact TronScanner.sampleNode_pageHolds hpaced ⟨500⟩ n) hpaced.keepsSucceeding
    exact ⟨hstored 70 (hpaced.confirmed (by omega)) (hpaced.afterFirst (by omega))
        (TronScanner.sampleTransfer "cd" "TReceiver" 70) (by decide) (by decide +kernel),
      hstored 102 (hpaced.confirmed (by omega)) (hpaced.afterFirst (by omega))
        (TronScanner.sampleTransfer "ef" "TReceiver" 102) (by decide) (by decide +kernel)⟩
  have hfirst : SolanaScanner.sampleScanner.scanBlocks (SolanaScanner.sampleNode
      [SolanaScanner.sampleSignature "cd" 70] [SolanaScanner.sampleSignature "ef" 102] 0) 110
      ⟨0, 101⟩ {} = (_, .ok ()) := Prod.ext rfl (by decide +kernel)
  have hpaced := SolanaScanner.sampleNode_paced (by decide) (by decide) hfirst
    (Prod.ext rfl (by decide +kernel))
  have hstored := (pagedScanners_complete ⟨500⟩).2 SolanaScanner.sampleScanner
    (sampleBlocks [SolanaScanner.sampleSignature "cd" 70] [SolanaScanner.sampleSignature "ef" 102])
    SolanaScanner.sampleTransaction {} _ (fun n => 110 + n)
    (SolanaScanner.numbered_sampleBlocks (by decide) (by decide))
    (by
      rintro n env ⟨⟩
      exact SolanaScanner.sampleNode_honest _ _ n)
    (by
      rintro n env ⟨⟩
      exact SolanaScanner.sampleNode_pageHolds hpaced ⟨500⟩ n) hpaced.keepsSucceeding
  exact ⟨hstored 70 (hpaced.confirmed (by omega)) (hpaced.afterFirst (by omega))
      (SolanaScanner.sampleSignature "cd" 70) (by decide) rfl 0
      (SolanaScanner.paidBy_sample (by decide)),
    hstored 102 (hpaced.confirmed (by omega)) (hpaced.afterFirst (by omega))
      (SolanaScanner.sampleSignature "ef" 102) (by decide) rfl 0
      (SolanaScanner.paidBy_sample (by decide))⟩

/-- **A burst is lost.** The nodes are honest, every call succeeds and the
block of the transfer is confirmed at the first of them, but the transfer is
the 201st event of its window, or behind the 100 newest signatures, and is
never recorded. -/
theorem pagedScanners_lose_burst :
    (let s := TronScanner.sampleScanner
     let chain := sampleBlocks TronScanner.burst []
     let acts := fun n => ScanAct.scan (TronScanner.sampleNode TronScanner.burst [] n)
     let run := endless ⟨500⟩ s.call {} acts
     TronScanner.Numbered chain ∧
      (∀ n, TronScanner.Honest chain (TronScanner.sampleNode TronScanner.burst [] n)) ∧
      KeepsSucceeding s.call acts run ∧ Confirmed s.call acts s.config.confirmations 70 ∧
      AfterFirst run 70 ∧
      ∃ event ∈ chain 70, s.ToReceiver event ∧ ∀ n, ¬ Stored (run n).world.store
        TronScanner.network event.transactionID event.eventIndex) ∧
    (let s := SolanaScanner.sampleScanner
     let chain := sampleBlocks SolanaScanner.burst []
     let acts := fun n => ScanAct.scan (SolanaScanner.sampleNode SolanaScanner.burst [] n)
     let run := endless ⟨500⟩ s.call {} acts
     SolanaScanner.Numbered chain ∧
      (∀ n : ℕ, SolanaScanner.Honest chain SolanaScanner.sampleTransaction (110 + n)
        (SolanaScanner.sampleNode SolanaScanner.burst [] n)) ∧
      KeepsSucceeding s.call acts run ∧ Confirmed s.call acts s.config.confirmations 70 ∧
      AfterFirst run 70 ∧
      ∃ sig ∈ chain 70, sig.err = none ∧
        ∃ index : ℕ, s.PaidBy SolanaScanner.sampleTransaction sig index ∧
          ∀ n, ¬ Stored (run n).world.store SolanaScanner.network sig.signature index) := by
  constructor
  · have hpaced := TronScanner.sampleNode_paced TronScanner.burst_body rfl
    refine ⟨TronScanner.numbered_sampleBlocks (by decide +kernel) (by simp),
      TronScanner.sampleNode_honest _ _, hpaced.keepsSucceeding, hpaced.confirmed (by omega),
      hpaced.afterFirst (by omega), TronScanner.sampleTransfer "cd" "TReceiver" 70,
      by decide +kernel, by decide +kernel, ?_⟩
    exact fun n hstored => hpaced.nothing_stored n hstored
  have hslots : ∀ sig ∈ SolanaScanner.burst, sig.slot = 70 := by decide +kernel
  have hpaced := SolanaScanner.sampleNode_paced hslots (by simp)
    (SolanaScanner.burst_body 0 ⟨0, 101⟩) (SolanaScanner.burst_body 1 ⟨102, 102⟩)
  refine ⟨SolanaScanner.numbered_sampleBlocks hslots (by simp),
    SolanaScanner.sampleNode_honest _ _, hpaced.keepsSucceeding, hpaced.confirmed (by omega),
    hpaced.afterFirst (by omega), SolanaScanner.sampleSignature "cd" 70, by decide +kernel, rfl, 0,
    SolanaScanner.paidBy_sample (by decide), ?_⟩
  exact fun n hstored => hpaced.nothing_stored n hstored

end HermesToken.Scanner
