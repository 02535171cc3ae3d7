import HermesToken.Scanner.Cursor

/-!
# The EVM scanners

`BSCScanner` and `PolygonScanner` are one scanner with two sets of values: a
call asks for the logs of up to 501 blocks, decodes them, records the
transfers to the receive address and moves the cursor to the end of the
window. An error at any step ends the call with the cursor where it was.
-/

namespace HermesToken.Scanner

open Lib Payment List

/-! ## Configuration -/

/-- `^0x[0-9a-fA-F]{40}$`. -/
def evmAddressPattern (s : String) : Bool :=
  match s.toList with
  | '0' :: 'x' :: body => body.length = 40 && body.all fun c => (hexDigit c).isSome
  | _ => false

def isValidEVMAddress (address : String) : Bool := evmAddressPattern (trimSpace address)

/-- A configuration with a receive address of the right form. -/
structure EvmConfig extends NetworkConfig where
  valid : evmAddressPattern receiveAddress = true

/-- The entry of `GetEnabledCryptoPaymentNetworks` for an EVM network. -/
def EvmConfig.ofSettings (receiveAddress contract : String)
    (decimals confirmations fallback minimum : Int) : Option EvmConfig :=
  if h : isValidEVMAddress receiveAddress = true ∧ isValidEVMAddress contract = true then
    some
      { contract := trimSpace contract
        receiveAddress := trimSpace receiveAddress
        decimals := decimals
        confirmations := normalizedConfirmations confirmations fallback minimum
        valid := h.1 }
  else none

def bscConfig (receiveAddress contract : String) (confirmations : Int) : Option EvmConfig :=
  EvmConfig.ofSettings receiveAddress contract 18 confirmations 15 8

def polygonConfig (receiveAddress contract : String) (confirmations : Int) : Option EvmConfig :=
  EvmConfig.ofSettings receiveAddress contract 6 confirmations 128 32

/-! ## Logs -/

def bscTransferTopic : String :=
  "0xddf252ad1be2c89b69c2b068fc378daa952ba7f163c4a11628f55a4df523b3ef"

structure BscRPCLog where
  address : String
  topics : List String
  (data blockNumber txHash logIndex : String)

def topicToEVMAddress (topic : String) : String :=
  let trimmed := (trimPrefix topic "0x").toList
  if trimmed.length < 40 then "0x" ++ toLower (String.ofList trimmed)
  else "0x" ++ toLower (String.ofList (trimmed.drop (trimmed.length - 40)))

def parseHexInt64 (value : String) : Except String Int :=
  let trimmed := trimPrefix value "0x"
  match parseHex trimmed with
  | none => .error ("strconv.ParseInt: parsing \"" ++ trimmed ++ "\": invalid syntax")
  | some n =>
    if -(2 ^ 63) ≤ n ∧ n < 2 ^ 63 then .ok n
    else .error ("strconv.ParseInt: parsing \"" ++ trimmed ++ "\": value out of range")

/-- `decodeBSCTransferLog`. The network, the time and the confirmations are
set by the caller. -/
def decodeBSCTransferLog (log : BscRPCLog) (decimals : Int) :
    Except String CryptoObservedTransfer :=
  match log.topics with
  | topic :: sender :: receiver :: _ => do
    require (toLower topic = bscTransferTopic) "not a transfer log"
    let amount ← found (parseHex (trimPrefix log.data "0x")) "invalid transfer amount"
    let blockNumber ← parseHexInt64 log.blockNumber
    let logIndex ← parseHexInt64 log.logIndex
    return {
      network := ""
      txHash := log.txHash
      logIndex := logIndex
      blockNumber := blockNumber
      blockTimestamp := 0
      fromAddress := topicToEVMAddress sender
      toAddress := topicToEVMAddress receiver
      tokenContract := log.address
      tokenDecimals := decimals
      amount := ""
      amountBaseUnits := toString amount
      confirmations := 0 }
  | _ => .error "not a transfer log"

/-- The filter of `eth_getLogs`: a block range, the contract, and the topics
by position. -/
structure LogFilter where
  (fromBlock toBlock : Int)
  address : String
  topics : List (Option String)

def getLogsFilter (config : NetworkConfig) (fromBlock toBlock : Int) : LogFilter where
  fromBlock := fromBlock
  toBlock := toBlock
  address := config.contract
  topics := [some bscTransferTopic, none,
    some ("0x000000000000000000000000" ++
      trimPrefix (toLower config.receiveAddress) "0x")]

/-- How a node reads a filter's topics: an absent one matches any, and hex
digits have no case. -/
def topicsMatch : List (Option String) → List String → Bool
  | [], _ => true
  | _ :: _, [] => false
  | none :: fs, _ :: ts => topicsMatch fs ts
  | some f :: fs, t :: ts => equalFold t f && topicsMatch fs ts

def LogFilter.accepts (f : LogFilter) (log : BscRPCLog) : Bool :=
  equalFold log.address f.address && topicsMatch f.topics log.topics

/-! ## The call -/

/-- A scanner: the values in which the two networks differ, and the node. -/
structure EvmScanner where
  (name network : String)
  lookback : Int
  rpcURL : String
  config : EvmConfig

def bscScanner (rpcURL : String) (config : EvmConfig) : EvmScanner :=
  { name := "BSC", network := "bsc_erc20", lookback := 30, rpcURL, config }

def polygonScanner (rpcURL : String) (config : EvmConfig) : EvmScanner :=
  { name := "Polygon", network := "polygon_pos", lookback := 60, rpcURL,
    config }

/-- What the node and the database answer during a call. A block's timestamp
is asked for once, so an answer is a function of the block. -/
structure EvmEnv where
  stateError : Option String
  blockNumber : Except String String
  getLogs : LogFilter → Except String (List BscRPCLog)
  getBlockByNumber : Int → Except String String
  db : Recorder
  upsertError : Option String

namespace EvmScanner

variable (s : EvmScanner) (env : EvmEnv)

def currentBlock (env : EvmEnv) : Except String Int := do
  let result ← env.blockNumber
  parseHexInt64 result

def blockTimestamp (blockNumber : Int) : Except String Int := do
  let timestamp ← env.getBlockByNumber blockNumber
  require (trimSpace timestamp ≠ "")
    (s.name ++ " block " ++ toString blockNumber ++ " response missing timestamp")
  parseHexInt64 timestamp

/-- The transfer that is recorded for a decoded log. -/
def observed (currentBlock timestamp : Int) (transfer : CryptoObservedTransfer) :
    CryptoObservedTransfer :=
  { transfer with
    network := s.network
    tokenContract := s.config.contract
    blockTimestamp := timestamp
    confirmations := currentBlock - transfer.blockNumber + 1 }

/-- What is recorded for a log: a transfer to another address is passed over. -/
def decodeItem (currentBlock : Int) (item : BscRPCLog) :
    Except String (List CryptoObservedTransfer) := do
  let transfer ← decodeBSCTransferLog item s.config.decimals
  if equalFold transfer.toAddress s.config.receiveAddress = false then return []
  else
    let timestamp ← s.blockTimestamp env transfer.blockNumber
    return [s.observed currentBlock timestamp transfer]

/-- The request for the logs of a window, and the loop. -/
def scanBlocks (currentBlock : Int) (v : Window) (st : CryptoStore) :
    CryptoStore × Except String Unit :=
  match env.getLogs (getLogsFilter s.config.toNetworkConfig v.lo v.hi) with
  | .error e => (st, .error e)
  | .ok logs => env.db.recordItems (s.decodeItem env currentBlock) logs st

def call : ScanCall where
  network := s.network
  lookback := s.lookback
  confirmations := s.config.confirmations
  limit := some 500
  urlError :=
    if trimSpace s.rpcURL = "" then some (s.name ++ " RPC URL is not configured") else none
  height := currentBlock env
  stateError := env.stateError
  body := s.scanBlocks env
  upsertError := env.upsertError

/-- `ScanOnce`. -/
def scanOnce (w : ScanWorld) : Outcome := (s.call env).run w

end EvmScanner

/-! ## The filter and the test of the loop agree -/

theorem map_toLower_idem (l : List Char) :
    (l.map Char.toLower).map Char.toLower = l.map Char.toLower := by
  rw [map_map]
  exact map_congr_left fun c _ => toLower_char_idem c

/-- The last 40 characters of a topic, whether or not its `0x` was cut off. -/
theorem topicToEVMAddress_eq (h : topic.toList.length = 66) :
    topicToEVMAddress topic = "0x" ++ String.ofList ((topic.toList.drop 26).map Char.toLower) := by
  by_cases hlead : "0x".toList.isPrefixOf topic.toList
  · have htrim : (trimPrefix topic "0x").toList = topic.toList.drop 2 := by
      simp only [trimPrefix, if_pos hlead, String.toList_ofList]
      rfl
    simp [topicToEVMAddress, htrim, h, toLower, drop_drop]
  · have htrim : (trimPrefix topic "0x").toList = topic.toList := by
      simp only [trimPrefix, if_neg hlead]
    simp [topicToEVMAddress, htrim, h, toLower]

/-- The topic is the address, padded with zeros to 32 bytes; hex digits have no
case. -/
def PaddedAddress (topic address : String) : Prop :=
  topic.toList.map Char.toLower =
    '0' :: 'x' :: replicate 24 '0' ++ (address.toList.drop 2).map Char.toLower

section

variable (hvalid : evmAddressPattern receiveAddress)
include hvalid

theorem evmAddress_chars :
    ∃ body, receiveAddress.toList = '0' :: 'x' :: body ∧ body.length = 40 := by
  simp only [evmAddressPattern] at hvalid
  split at hvalid
  · rename_i body hbody
    exact ⟨body, hbody, by simpa using (Bool.and_eq_true_iff.mp hvalid).1⟩
  · cases hvalid

/-- The topic of the filter matches the padded receive address and no other. -/
theorem equalFold_topic_iff (topic : String) :
    equalFold topic ("0x000000000000000000000000" ++
      trimPrefix (toLower receiveAddress) "0x") ↔ PaddedAddress topic receiveAddress := by
  obtain ⟨body, hbody, -⟩ := evmAddress_chars hvalid
  have htrim : (trimPrefix (toLower receiveAddress) "0x").toList = body.map Char.toLower := by
    simp [trimPrefix, toLower, hbody]
  have hchars : (toLower ("0x000000000000000000000000" ++
      trimPrefix (toLower receiveAddress) "0x")).toList =
      '0' :: 'x' :: replicate 24 '0' ++ (receiveAddress.toList.drop 2).map Char.toLower := by
    rw [toList_toLower, String.toList_append, map_append, htrim, map_toLower_idem, hbody]
    rfl
  rw [PaddedAddress, ← hchars, ← toList_toLower, String.toList_inj, equalFold, beq_iff_eq]

/-- A topic with the receive address passes the comparison of the loop. -/
theorem equalFold_of_topic (htopic : PaddedAddress topic receiveAddress) :
    equalFold (topicToEVMAddress topic) receiveAddress := by
  obtain ⟨body, hbody, hlen⟩ := evmAddress_chars hvalid
  have hlower : toLower receiveAddress =
      String.ofList ('0' :: 'x' :: body.map Char.toLower) := by
    simp only [toLower, hbody, map_cons]
    rfl
  have hchars : topic.toList.map Char.toLower =
      '0' :: 'x' :: replicate 24 '0' ++ body.map Char.toLower := by
    rw [htopic, hbody]
    rfl
  have hlen66 : topic.toList.length = 66 := by
    have h := congrArg length hchars
    rw [length_map, length_append, length_map, hlen] at h
    exact h
  have hlast : (topic.toList.drop 26).map Char.toLower = body.map Char.toLower := by
    rw [map_drop, hchars]
    rfl
  have hsame : toLower (topicToEVMAddress topic) = toLower receiveAddress := by
    apply String.toList_inj.mp
    simp only [topicToEVMAddress_eq hlen66, hlast, hlower, toList_toLower,
      String.toList_append, String.toList_ofList, map_append, map_toLower_idem]
    rfl
  simp only [equalFold, hsame, beq_self_eq_true]

end

/-- A `Transfer` event of the contract to the receive address, by the fields of
its log: the event, the sender and the receiver are its topics. -/
structure EvmScanner.ToReceiver (s : EvmScanner) (log : BscRPCLog) : Prop where
  contract : equalFold log.address s.config.contract = true
  topics : ∃ topic sender receiver rest, log.topics = topic :: sender :: receiver :: rest ∧
    equalFold topic bscTransferTopic = true ∧ PaddedAddress receiver s.config.receiveAddress

/-- The filter accepts the transfers to the receive address and no other logs. -/
theorem accepts_iff_toReceiver {s : EvmScanner} :
    (getLogsFilter s.config.toNetworkConfig lo hi).accepts log = true ↔ s.ToReceiver log := by
  have htopic := equalFold_topic_iff s.config.valid
  simp only [LogFilter.accepts, getLogsFilter, Bool.and_eq_true]
  constructor
  · rintro ⟨hcontract, h⟩
    rcases ht : log.topics with _ | ⟨topic, _ | ⟨sender, _ | ⟨receiver, rest⟩⟩⟩ <;>
      simp only [ht, topicsMatch, Bool.and_eq_true, Bool.false_eq_true, and_false] at h
    exact ⟨hcontract, topic, sender, receiver, rest, ht, h.1, (htopic _).mp h.2.1⟩
  · rintro ⟨hcontract, topic, sender, receiver, rest, ht, hevent, hreceiver⟩
    simp only [ht, topicsMatch, Bool.and_eq_true]
    exact ⟨hcontract, hevent, (htopic _).mpr hreceiver, trivial⟩

theorem decodeBSCTransferLog_ok (h : decodeBSCTransferLog log decimals = .ok transfer) :
    ∃ topic sender receiver rest, log.topics = topic :: sender :: receiver :: rest ∧
      transfer.txHash = log.txHash ∧ parseHexInt64 log.logIndex = .ok transfer.logIndex ∧
      transfer.toAddress = topicToEVMAddress receiver := by
  simp only [decodeBSCTransferLog] at h
  split at h
  · rename_i topic sender receiver rest htop
    simp only [seq_ok, require_ok, found_ok, return_ok, exists_const] at h
    obtain ⟨_, amount, _, block, _, logIndex, hidx, rfl⟩ := h
    exact ⟨topic, sender, receiver, rest, htop, rfl, hidx, rfl⟩
  · cases h

/-! ## The call -/

def Recorded (network : String) (st : CryptoStore) (log : BscRPCLog) : Prop :=
  ∃ logIndex, parseHexInt64 log.logIndex = .ok logIndex ∧
    Stored st network log.txHash logIndex

theorem Recorded.mono
    (hkps : KeepsRows st st') (h : Recorded network st log) : Recorded network st' log := by
  obtain ⟨logIndex, hidx, hstd⟩ := h
  exact ⟨logIndex, hidx, hstd.mono hkps⟩

namespace EvmScanner

variable {s : EvmScanner} {env : EvmEnv}

/-- A transfer to the receive address is not passed over. -/
theorem decodeItem_ok {currentBlock} {log : BscRPCLog} {transfers}
    (h : s.decodeItem env currentBlock log = .ok transfers) (hto : s.ToReceiver log) :
    ∃ t ∈ transfers, t.network = s.network ∧ t.txHash = log.txHash ∧
      parseHexInt64 log.logIndex = .ok t.logIndex := by
  simp only [decodeItem, seq_ok] at h
  obtain ⟨transfer, hdec, h⟩ := h
  obtain ⟨_, _, receiver, _, htop, hhash, hidx, haddr⟩ := decodeBSCTransferLog_ok hdec
  obtain ⟨_, _, receiver', _, htop', -, hpadded⟩ := hto.topics
  rw [htop] at htop'
  cases htop'
  have hfold := equalFold_of_topic s.config.valid hpadded
  rw [if_neg (by rw [haddr, hfold]; simp)] at h
  simp only [seq_ok, return_ok] at h
  obtain ⟨timestamp, _, rfl⟩ := h
  exact ⟨_, mem_singleton.mpr rfl, rfl, hhash, hidx⟩

theorem call_sound (s : EvmScanner) (hsta : env.stateError = none) : (s.call env).Sound where
  state := hsta
  keeps := by
    intro height v st
    simp only [call, scanBlocks]
    split
    · exact KeepsRows.refl st
    · exact env.db.recordItems_keeps _ _ st
  limit := by
    rintro n ⟨⟩
    decide

/-! ## Completeness -/

/-- The node's answers to a call: it returns every log of the requested blocks
that its filter accepts. The logs of a block never change. -/
def Honest (chain : Int → List BscRPCLog) (env : EvmEnv) : Prop :=
  ∀ filter logs, env.getLogs filter = .ok logs → ∀ b, filter.fromBlock ≤ b →
    b ≤ filter.toBlock → ∀ log ∈ chain b, filter.accepts log = true → log ∈ logs

/-- Every transfer of a block to the receive address is recorded. -/
def BlockRecorded (s : EvmScanner) (chain : Int → List BscRPCLog) (b : Int)
    (st : CryptoStore) : Prop :=
  ∀ log ∈ chain b, s.ToReceiver log → Recorded s.network st log

theorem BlockRecorded.mono (b : Int) (st st' : CryptoStore)
    (hkps : KeepsRows st st') (h : s.BlockRecorded chain b st) :
    s.BlockRecorded chain b st' :=
  fun log hlog hto => (h log hlog hto).mono hkps

theorem scanOnce_records {chain} (hhonest : Honest chain env)
    (hsta : env.stateError = none) (w : ScanWorld) :
    ∀ v, (s.scanOnce env w).2 = .ok (some v) → ∀ b, v.window.Holds b →
      s.BlockRecorded chain b (s.scanOnce env w).1.store := by
  intro v hv b hb log hlog hto
  obtain ⟨_, _, hbody⟩ := ScanCall.run_scanned (s.call_sound hsta) hv
  have hblks : s.scanBlocks env v.height v.window w.store =
      ((s.scanOnce env w).1.store, .ok ()) := hbody
  simp only [scanBlocks] at hblks
  split at hblks
  · cases congrArg Prod.snd hblks
  rename_i hlogs
  have hmem := hhonest _ _ hlogs b hb.1 hb.2 log hlog (accepts_iff_toReceiver.mpr hto)
  obtain ⟨transfers, hdec, hstd⟩ := Recorder.recordItems_ok hblks log hmem
  obtain ⟨t, ht, hnet, hhash, hidx⟩ := decodeItem_ok hdec hto
  exact ⟨t.logIndex, hidx, hnet ▸ hhash ▸ hstd t ht⟩

/-- The heights that the calls of a run have read. -/
def heights (acts : List (ScanAct EvmEnv)) : List Int :=
  acts.filterMap fun
    | .scan env => (currentBlock env).toOption
    | .other _ _ => none

theorem le_heights
    (hmono : (heights acts).Pairwise (· ≤ ·)) (hfst : ∀ h ∈ (heights acts).head?, bound ≤ h)
    (hh : h ∈ heights acts) : bound ≤ h := by
  cases hacts : heights acts with
  | nil =>
    rw [hacts] at hh
    cases hh
  | cons first =>
    rw [hacts] at hmono hfst hh
    have hle : bound ≤ first := hfst first rfl
    rcases mem_cons.mp hh with rfl | hrest
    · exact hle
    · have := (pairwise_cons.mp hmono).1 h hrest
      omega

/-- What every call of the run meets: it can read its cursor, the node is
honest, and the height is safe. -/
def CallOk (s : EvmScanner) (chain : Int → List BscRPCLog) : ScanAct EvmEnv → Prop
  | .scan env => env.stateError = none ∧ Honest chain env ∧
    ∀ h, currentBlock env = .ok h → maxSafe s.config.confirmations h ≠ 0
  | .other _ _ => True

theorem followed_step
    (h : Followed (s.BlockRecorded chain) s.config.confirmations run) (hok : s.CallOk chain act) :
    Followed (s.BlockRecorded chain) s.config.confirmations (run.step rates s.scanOnce act) := by
  cases act with
  | other now op => exact h.other BlockRecorded.mono rates now op
  | scan =>
    obtain ⟨hsta, hhonest, hsafe⟩ := hok
    exact h.scanCall BlockRecorded.mono
      ⟨s.call_sound hsta, rfl, hsafe, scanOnce_records hhonest hsta run.world⟩

/-- **The EVM scanners miss nothing.** For every sequence of calls, failing at
any request to the node, any recording or the upsert, at heights that do not
decrease from a first safe height of at least 1: the windows of the successful
calls follow one on the other and are disjoint, none goes past the safe height
of its call, and every transfer to the receive address from the first scanned
block to `LastScannedBlock` is recorded. `bscScanner` and `polygonScanner` are such scanners. -/
theorem evmScanner_complete (s : EvmScanner) (rates : Rates) (chain : Int → List BscRPCLog)
    (w : ScanWorld) (acts : List (ScanAct EvmEnv))
    (hstate : ∀ env, .scan env ∈ acts → env.stateError = none)
    (hhonest : ∀ env, .scan env ∈ acts → Honest chain env)
    (hheights : (heights acts).Pairwise (· ≤ ·))
    (hfirst : ∀ h ∈ (heights acts).head?, 1 ≤ h - s.config.confirmations + 1) :
    let run := exec (ScanRun.step rates s.scanOnce) { world := w } acts
    Tiled (run.history.map (·.window)) ∧
      (run.history.map (·.window)).Pairwise (fun newer older => older.hi < newer.lo) ∧
      (∀ v ∈ run.history, v.window.hi ≤ v.height - s.config.confirmations + 1) ∧
      ∀ first ∈ run.history.getLast?, ∀ last ∈ run.lastScannedBlock, ∀ b,
        first.window.lo ≤ b → b ≤ last → ∀ log ∈ chain b, s.ToReceiver log →
          Recorded s.network run.world.store log := by
  intro run
  have hcalls : ∀ act ∈ acts, s.CallOk chain act := by
    intro act hact
    cases act with
    | other => trivial
    | scan env =>
    refine ⟨hstate env hact, hhonest env hact, fun h hh => ?_⟩
    have hmem : h ∈ heights acts := mem_filterMap.mpr ⟨.scan env, hact, by simp only [hh]; rfl⟩
    have hle : s.config.confirmations ≤ h :=
      le_heights hheights (fun h' hh' => by have := hfirst h' hh'; omega) hmem
    simp only [maxSafe]
    omega
  have hfollowed : Followed (s.BlockRecorded chain) s.config.confirmations run :=
    Along.invariant _ (fun _ _ h hok => followed_step h hok) (followed_start w)
      (along_of_forall hcalls)
  exact ⟨hfollowed.tiled, hfollowed.tiled.disjoint, hfollowed.safe,
    fun first hmem last hlast b hlo hhi => hfollowed.complete hmem hlo hlast hhi⟩

/-! A transfer in block 40, scanned at height 50 after a call that failed. -/

def sampleConfig : EvmConfig where
  contract := "0x2222222222222222222222222222222222222222"
  receiveAddress := "0x1111111111111111111111111111111111111111"
  decimals := 18
  confirmations := 8
  valid := by decide

def sampleLogs : List (Int × BscRPCLog) :=
  [(40, { address := "0x2222222222222222222222222222222222222222"
          topics := [bscTransferTopic,
            "0x0000000000000000000000003333333333333333333333333333333333333333",
            "0x0000000000000000000000001111111111111111111111111111111111111111"]
          data := "0x1e8481", blockNumber := "0x28", txHash := "0xab", logIndex := "0x3" })]

def sampleChain (b : Int) : List BscRPCLog :=
  (sampleLogs.filter fun p => p.1 = b).map (·.2)

/-- A node that answers with all the logs of the range. -/
def sampleEnv (height : String) : EvmEnv where
  stateError := none
  blockNumber := .ok height
  getLogs := fun f => .ok
    ((sampleLogs.filter fun p => f.fromBlock ≤ p.1 ∧ p.1 ≤ f.toBlock).map (·.2))
  getBlockByNumber := fun _ => .ok "0x64"
  db := { recordError := fun _ => none, observedAt := 200 }
  upsertError := none

theorem sampleEnv_honest (height : String) : Honest sampleChain (sampleEnv height) := by
  intro filter logs hlogs b hlo hhi log hlog _
  cases hlogs
  obtain ⟨p, hp, rfl⟩ := mem_map.mp hlog
  obtain ⟨hmem, hb⟩ := mem_filter.mp hp
  have hb' : p.1 = b := by simpa using hb
  exact mem_map.mpr ⟨p, mem_filter.mpr ⟨hmem, by simp [hb', hlo, hhi]⟩, rfl⟩

/-- The call whose upsert fails records the transfer, the next one does so
again and moves the cursor. -/
theorem evmScanner_complete_sample :
    let s := bscScanner "http://node" sampleConfig
    let acts := [ScanAct.scan { sampleEnv "0x32" with upsertError := some "locked" },
      .scan (sampleEnv "0x32"), .scan (sampleEnv "0x3c")]
    let run := exec (ScanRun.step ⟨500⟩ s.scanOnce) { world := {} } acts
    Tiled (run.history.map (·.window)) ∧
      (run.history.map (·.window)).Pairwise (fun newer older => older.hi < newer.lo) ∧
      (∀ v ∈ run.history, v.window.hi ≤ v.height - s.config.confirmations + 1) ∧
      ∀ first ∈ run.history.getLast?, ∀ last ∈ run.lastScannedBlock, ∀ b,
        first.window.lo ≤ b → b ≤ last → ∀ log ∈ sampleChain b, s.ToReceiver log →
          Recorded s.network run.world.store log := by
  refine evmScanner_complete (bscScanner "http://node" sampleConfig) ⟨500⟩ sampleChain {} _ ?_ ?_
    (by decide +kernel) (by decide +kernel)
  · intro env henv
    simp only [mem_cons, ScanAct.scan.injEq, not_mem_nil, or_false] at henv
    rcases henv with rfl | rfl | rfl <;> rfl
  intro env henv
  simp only [mem_cons, ScanAct.scan.injEq, not_mem_nil, or_false] at henv
  rcases henv with rfl | rfl | rfl
  · exact sampleEnv_honest "0x32"
  · exact sampleEnv_honest "0x32"
  · exact sampleEnv_honest "0x3c"

example : (exec (ScanRun.step ⟨500⟩ (bscScanner "http://node" sampleConfig).scanOnce)
    { world := {} } [.scan (sampleEnv "0x32"), .scan (sampleEnv "0x3c")]).history =
      [⟨⟨44, 53⟩, 60⟩, ⟨⟨12, 43⟩, 50⟩] := by
  decide +kernel

end EvmScanner

end HermesToken.Scanner
