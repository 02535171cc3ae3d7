import HermesToken.Scanner.Progress

/-!
# The TRON scanner

`TronScanner.ScanOnce` asks for the transfer events of the contract in up to
201 blocks, by anyone to anyone. The answer is ONE page of at most 200 events,
the oldest of the range; the scanner does not ask for another, and moves its
cursor to the end of the range all the same.
-/

namespace HermesToken.Scanner

open Lib Payment

/-- `^T[1-9A-HJ-NP-Za-km-z]{33}$`. -/
def tronAddressPattern (s : String) : Bool :=
  match s.toList with
  | 'T' :: body => body.length = 33 && body.all isBase58
  | _ => false

def isValidTronAddress (address : String) : Bool := tronAddressPattern (trimSpace address)

def tronConfig (receiveAddress contract : String) (confirmations : Int) : Option NetworkConfig :=
  NetworkConfig.ofSettings isValidTronAddress receiveAddress contract 6 confirmations 20 10

structure TronGridEvent where
  transactionID : String
  (blockNumber blockTimestamp eventIndex : Int)
  result : List (String × String)
  deriving DecidableEq

/-- A field of the result; empty when it is absent. -/
def TronGridEvent.field (event : TronGridEvent) (key : String) : String :=
  (event.result.lookup key).getD ""

def decodeTronTransferEvent (event : TronGridEvent) (decimals : Int) :
    Except String CryptoObservedTransfer :=
  let value := trimSpace (event.field "value")
  if value = "" then .error "missing TRON transfer value"
  else .ok {
    network := ""
    txHash := event.transactionID
    logIndex := event.eventIndex
    blockNumber := event.blockNumber
    blockTimestamp := event.blockTimestamp.tdiv 1000
    fromAddress := trimSpace (event.field "from")
    toAddress := trimSpace (event.field "to")
    tokenContract := ""
    tokenDecimals := decimals
    amount := ""
    amountBaseUnits := value
    confirmations := 0 }

/-- What the node and the database answer during a call. -/
structure TronEnv where
  stateError : Option String
  nowBlock : Except String Int
  events : Int → Int → Except String (List TronGridEvent)
  db : Recorder
  upsertError : Option String

structure TronScanner where
  rpcURL : String
  config : NetworkConfig

namespace TronScanner

variable (s : TronScanner) (env : TronEnv)

def network : String := "tron_trc20"

def currentBlock (env : TronEnv) : Except String Int := do
  let number ← env.nowBlock
  require (number > 0) "TRON current block response missing block number"
  return number

/-- `getTransferEvents`: the page, without what is not in the range. -/
def getTransferEvents (v : Window) : Except String (List TronGridEvent) := do
  let data ← env.events v.lo v.hi
  return data.filter fun event => event.blockNumber ≥ v.lo && event.blockNumber ≤ v.hi

def decodeItem (currentBlock : Int) (event : TronGridEvent) :
    Except String (List CryptoObservedTransfer) := do
  let transfer ← decodeTronTransferEvent event s.config.decimals
  if equalFold transfer.toAddress s.config.receiveAddress = false then return []
  else return [{ transfer with
    network := network
    tokenContract := s.config.contract
    confirmations := currentBlock - transfer.blockNumber + 1 }]

def scanBlocks (currentBlock : Int) (v : Window) (st : CryptoStore) :
    CryptoStore × Except String Unit :=
  match getTransferEvents env v with
  | .error e => (st, .error e)
  | .ok events => env.db.recordItems (s.decodeItem currentBlock) events st

/-- `ScanOnce`. -/
def call : ScanCall where
  network := network
  lookback := 40
  confirmations := s.config.confirmations
  limit := some 200
  urlError := if trimSpace s.rpcURL = "" then some "TRON RPC URL is not configured" else none
  height := currentBlock env
  stateError := env.stateError
  body := s.scanBlocks env
  upsertError := env.upsertError

end TronScanner

/-! ## What a call records -/

namespace TronScanner

variable {s : TronScanner} {env : TronEnv} {chain : Int → List TronGridEvent}

def Numbered (chain : Int → List TronGridEvent) : Prop :=
  ∀ b, ∀ event ∈ chain b, event.blockNumber = b

/-- The upstream API answers with the first 200 events of the range. -/
def Honest (chain : Int → List TronGridEvent) (env : TronEnv) : Prop :=
  ∀ lo hi page, env.events lo hi = .ok page → page = (Window.ascending ⟨lo, hi⟩ chain).take 200

def ToReceiver (s : TronScanner) (event : TronGridEvent) : Prop :=
  equalFold (trimSpace (event.field "to")) s.config.receiveAddress = true

instance : Decidable (TronScanner.ToReceiver s event) := inferInstanceAs (Decidable (_ = true))

/-- Every transfer of a block to the receive address is recorded. -/
def BlockRecorded (s : TronScanner) (chain : Int → List TronGridEvent) (b : Int)
    (st : CryptoStore) : Prop :=
  ∀ event ∈ chain b, s.ToReceiver event →
    Stored st network event.transactionID event.eventIndex

theorem BlockRecorded.mono (b : Int) (st st' : CryptoStore) (hkps : KeepsRows st st')
    (h : s.BlockRecorded chain b st) : s.BlockRecorded chain b st' :=
  fun event hevent hto => (h event hevent hto).mono hkps

theorem decodeItem_ok {currentBlock event transfers}
    (h : s.decodeItem currentBlock event = .ok transfers) (hto : s.ToReceiver event) :
    ∃ t ∈ transfers, t.network = network ∧ t.txHash = event.transactionID ∧
      t.logIndex = event.eventIndex := by
  simp only [decodeItem, seq_ok] at h
  obtain ⟨transfer, hdec, h⟩ := h
  simp only [decodeTronTransferEvent] at hdec
  split at hdec
  · cases hdec
  cases hdec
  rw [if_neg (by rw [show _ = true from hto]; simp)] at h
  cases h
  exact ⟨_, List.mem_singleton.mpr rfl, rfl, rfl, rfl⟩

theorem call_urlError (h : trimSpace s.rpcURL ≠ "") : (s.call env).urlError = none := if_neg h

theorem call_sound (s : TronScanner) {env} (hsta : env.stateError = none) : (s.call env).Sound where
  state := hsta
  keeps := by
    intro height v st
    simp only [call, scanBlocks]
    split
    · exact KeepsRows.refl st
    · exact env.db.recordItems_keeps _ _ st
  limit := by
    rintro n ⟨⟩
    decide

/-- A call that succeeds has recorded its window, when the events of the
window fit on the page. -/
theorem call_records (hchain : Numbered chain) (hhonest : Honest chain env)
    (hsta : env.stateError = none) (w : ScanWorld)
    (hfits : ∀ height, (s.call env).height = .ok height →
      (((s.call env).window height w.state).ascending chain).length ≤ 200) :
    ∀ v, ((s.call env).run w).2 = .ok (some v) → ∀ b, v.window.Holds b →
      s.BlockRecorded chain b ((s.call env).run w).1.store := by
  intro v hv b hb event hevent hto
  obtain ⟨htop, hwin, hbody⟩ := ScanCall.run_scanned (s.call_sound hsta) hv
  have hpage : (v.window.ascending chain).length ≤ 200 := by
    rw [hwin]
    exact hfits v.height htop
  have hblks : s.scanBlocks env v.height v.window w.store =
      (((s.call env).run w).1.store, .ok ()) := hbody
  simp only [scanBlocks] at hblks
  split at hblks
  · cases congrArg Prod.snd hblks
  rename_i heven
  simp only [getTransferEvents, seq_ok, return_ok] at heven
  obtain ⟨page, hpage', rfl⟩ := heven
  -- the page is the whole range
  have hmem : event ∈ page := by
    rw [hhonest _ _ _ hpage', List.take_of_length_le hpage]
    exact Window.mem_ascending.mpr ⟨b, hb, hevent⟩
  obtain ⟨transfers, hdec, hstd⟩ := Recorder.recordItems_ok hblks event
    (List.mem_filter.mpr ⟨hmem, by simp [hchain b event hevent, hb.1, hb.2]⟩)
  obtain ⟨t, ht, hnet, hhash, hidx⟩ := decodeItem_ok hdec hto
  rw [← hnet, ← hhash, ← hidx]
  exact hstd t ht

end TronScanner

end HermesToken.Scanner
