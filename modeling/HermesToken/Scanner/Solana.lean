import HermesToken.Scanner.Progress

/-!
# The Solana scanner

`SolanaScanner.ScanOnce` asks for the NEWEST 100 signatures of the receive
address, whatever its cursor is, reads the transactions of those that are in
its window and moves the cursor to the safe slot. A signature of the window
that is not among the newest 100 is passed by.
-/

namespace HermesToken.Scanner

open Lib Payment

/-! ## Configuration -/

/-- `^[1-9A-HJ-NP-Za-km-z]{32,44}$`. -/
def solanaAddressPattern (s : String) : Bool :=
  32 ≤ s.toList.length && s.toList.length ≤ 44 && s.toList.all isBase58

def isValidSolanaAddress (address : String) : Bool := solanaAddressPattern (trimSpace address)

def solanaConfig (receiveAddress contract : String) (confirmations : Int) :
    Option NetworkConfig :=
  NetworkConfig.ofSettings isValidSolanaAddress receiveAddress contract 6 confirmations 32 1

/-! ## What the node returns -/

structure SolanaSignatureInfo where
  signature : String
  slot : Int
  err : Option String
  deriving DecidableEq

/-- A value of a parsed instruction: a string, an object of such, or another. -/
inductive InfoValue where
  | str (value : String)
  | obj (fields : List (String × InfoValue))
  | other

structure SolanaInstruction where
  (program parsedType : String)
  info : List (String × InfoValue)

structure SolanaTokenBalance where
  accountIndex : Int
  (mint owner amount : String)

structure SolanaTransactionResult where
  (slot blockTime : Int)
  accountKeys : List String
  instructions : List SolanaInstruction
  postTokenBalances : List SolanaTokenBalance
  innerInstructions : List (List SolanaInstruction)

structure SolanaTokenAccountInfo where
  (mint owner amount : String := "")

/-! ## Decoding a transaction -/

def stringFromAny : Option InfoValue → String
  | some (.str value) => trimSpace value
  | _ => ""

def stringFromMap (values : List (String × InfoValue)) (key nestedKey : String) : String :=
  match values.lookup key with
  | some (.obj nested) => stringFromAny (nested.lookup nestedKey)
  | _ => ""

def firstNonEmpty : List String → String
  | [] => ""
  | value :: rest => if trimSpace value ≠ "" then trimSpace value else firstNonEmpty rest

/-- The account of a balance; one whose index is out of range has none. -/
def tokenAccount (accountKeys : List String) (balance : SolanaTokenBalance) :
    Option (String × SolanaTokenAccountInfo) :=
  if balance.accountIndex < 0 then none
  else accountKeys[balance.accountIndex.toNat]?.map fun pubkey =>
    (trimSpace pubkey,
      { mint := trimSpace balance.mint
        owner := trimSpace balance.owner
        amount := trimSpace balance.amount })

/-- The map of the accounts by address; the last balance of an address counts. -/
def tokenAccounts (tx : SolanaTransactionResult) : List (String × SolanaTokenAccountInfo) :=
  (tx.postTokenBalances.filterMap (tokenAccount tx.accountKeys)).reverse

section

variable (signature : String) (tx : SolanaTransactionResult) (receiveAddress mint : String)
  (decimals currentSlot : Int)

/-- The transfer of one instruction, if it is one to the receive address. -/
def decodeSolanaInstruction (index : Nat) (instruction : SolanaInstruction) :
    Option CryptoObservedTransfer :=
  let info := instruction.info
  let destination := stringFromAny (info.lookup "destination")
  let account := ((tokenAccounts tx).lookup destination).getD {}
  let transferMint := firstNonEmpty [stringFromAny (info.lookup "mint"), account.mint]
  let toAddress := firstNonEmpty [account.owner, destination]
  let amount := firstNonEmpty [stringFromAny (info.lookup "amount"),
    stringFromMap info "tokenAmount" "amount", account.amount]
  if instruction.program ≠ "spl-token" ∧ instruction.program ≠ "spl-token-2022" then none
  else if instruction.parsedType ≠ "transfer" ∧ instruction.parsedType ≠ "transferChecked" then none
  else if destination = "" then none
  else if equalFold transferMint mint = false then none
  else if equalFold toAddress receiveAddress = false ∧
      equalFold destination receiveAddress = false then none
  else if amount = "" then none
  else some {
    network := ""
    txHash := signature
    logIndex := index
    blockNumber := tx.slot
    blockTimestamp := tx.blockTime
    fromAddress := firstNonEmpty [stringFromAny (info.lookup "authority"),
      stringFromAny (info.lookup "source")]
    toAddress := toAddress
    tokenContract := mint
    tokenDecimals := decimals
    amount := ""
    amountBaseUnits := amount
    confirmations := if currentSlot ≥ tx.slot then currentSlot - tx.slot + 1 else 0 }

/-- The instructions in the order they are counted in. -/
def SolanaTransactionResult.allInstructions : List SolanaInstruction :=
  tx.instructions ++ tx.innerInstructions.flatten

/-- `decodeSolanaTokenTransfers`: it never fails. -/
def decodeSolanaTokenTransfers : List CryptoObservedTransfer :=
  tx.allInstructions.zipIdx.filterMap fun (instruction, index) =>
    decodeSolanaInstruction signature tx (trimSpace receiveAddress) (trimSpace mint) decimals
      currentSlot index instruction

end

/-! ## The call -/

/-- What the node and the database answer during a call. -/
structure SolanaEnv where
  stateError : Option String
  slot : Except String Int
  getSignatures : Except String (List SolanaSignatureInfo)
  getTransaction : String → Except String SolanaTransactionResult
  db : Recorder
  upsertError : Option String

/-- The scanner of a configured network (`solanaConfig`) asks for a confirmation
at least. -/
structure SolanaScanner where
  rpcURL : String
  config : NetworkConfig
  confirmed : 1 ≤ config.confirmations

namespace SolanaScanner

variable (s : SolanaScanner) (env : SolanaEnv)

def network : String := "solana"

/-- What is recorded for a signature: one of a failed transaction or outside
the window is passed over. -/
def decodeItem (currentSlot : Int) (v : Window) (sig : SolanaSignatureInfo) :
    Except String (List CryptoObservedTransfer) := do
  if sig.err ≠ none ∨ sig.slot < v.lo ∨ sig.slot > v.hi then return []
  else
    let tx ← env.getTransaction sig.signature
    let transfers := decodeSolanaTokenTransfers sig.signature tx s.config.receiveAddress
      s.config.contract s.config.decimals currentSlot
    return transfers.map fun t => { t with network }

def scanBlocks (currentSlot : Int) (v : Window) (st : CryptoStore) :
    CryptoStore × Except String Unit :=
  match env.getSignatures with
  | .error e => (st, .error e)
  | .ok signatures => env.db.recordItems (s.decodeItem env currentSlot v) signatures st

/-- `ScanOnce`: its window reaches to the safe slot. -/
def call : ScanCall where
  network := network
  lookback := 500
  confirmations := s.config.confirmations
  limit := none
  urlError := if trimSpace s.rpcURL = "" then some "Solana RPC URL is not configured" else none
  height := env.slot
  stateError := env.stateError
  body := s.scanBlocks env
  upsertError := env.upsertError

end SolanaScanner

/-! ## What a call records -/

namespace SolanaScanner

variable {s : SolanaScanner} {env : SolanaEnv} {chain : Int → List SolanaSignatureInfo}
  {transaction : String → SolanaTransactionResult}

section

variable (chain)

def Numbered : Prop :=
  ∀ b, ∀ sig ∈ chain b, sig.slot = b

/-- The node answers with the newest 100 signatures up to its newest slot
`tip`, and with the transaction of a signature. -/
def Honest (transaction : String → SolanaTransactionResult) (tip : Int) (env : SolanaEnv) : Prop :=
  (∀ height, env.slot = .ok height → 0 ≤ height ∧ height ≤ tip) ∧
  (∀ page, env.getSignatures = .ok page → page = (Window.descending ⟨0, tip⟩ chain).take 100) ∧
  ∀ signature tx, env.getTransaction signature = .ok tx → tx = transaction signature

end

/-- The instruction moves tokens of the contract to the receive address, by its
fields: the mint and the owner of the account it pays to are those of the balances
where it does not name them. -/
structure PaysReceiver (s : SolanaScanner) (tx : SolanaTransactionResult)
    (instruction : SolanaInstruction) (destination : String)
    (account : SolanaTokenAccountInfo) : Prop where
  program : instruction.program = "spl-token" ∨ instruction.program = "spl-token-2022"
  parsedType : instruction.parsedType = "transfer" ∨ instruction.parsedType = "transferChecked"
  named : stringFromAny (instruction.info.lookup "destination") = destination ∧ destination ≠ ""
  balance : ((tokenAccounts tx).lookup destination).getD {} = account
  mint : equalFold (firstNonEmpty [stringFromAny (instruction.info.lookup "mint"), account.mint])
    (trimSpace s.config.contract) = true
  receiver : equalFold (firstNonEmpty [account.owner, destination])
      (trimSpace s.config.receiveAddress) = true ∨
    equalFold destination (trimSpace s.config.receiveAddress) = true
  amount : stringFromAny (instruction.info.lookup "amount") ≠ "" ∨
    stringFromMap instruction.info "tokenAmount" "amount" ≠ "" ∨ trimSpace account.amount ≠ ""

/-- Instruction number `index` of the signature's transaction pays the receiver. -/
def PaidBy (s : SolanaScanner) (transaction : String → SolanaTransactionResult)
    (sig : SolanaSignatureInfo) (index : ℕ) : Prop :=
  let tx := transaction sig.signature
  ∃ instruction, tx.allInstructions[index]? = some instruction ∧
    ∃ destination account, s.PaysReceiver tx instruction destination account

/-- Every transfer of a slot to the receive address is recorded. -/
def BlockRecorded (s : SolanaScanner) (chain : Int → List SolanaSignatureInfo)
    (transaction : String → SolanaTransactionResult) (b : Int) (st : CryptoStore) : Prop :=
  ∀ sig ∈ chain b, sig.err = none → ∀ index : ℕ, s.PaidBy transaction sig index →
    Stored st network sig.signature index

theorem BlockRecorded.mono (b : Int) (st st' : CryptoStore) (hkps : KeepsRows st st')
    (h : s.BlockRecorded chain transaction b st) : s.BlockRecorded chain transaction b st' :=
  fun sig hsig herr index hpaid => (h sig hsig herr index hpaid).mono hkps

theorem stringFromAny_trimmed (value : Option InfoValue) :
    trimSpace (stringFromAny value) = stringFromAny value := by
  unfold stringFromAny
  split
  · simp only [trimSpace_eq, String.toList_ofList, trimmed_idem]
  · rfl

theorem stringFromMap_trimmed (values : List (String × InfoValue)) (key nestedKey : String) :
    trimSpace (stringFromMap values key nestedKey) = stringFromMap values key nestedKey := by
  unfold stringFromMap
  split
  · exact stringFromAny_trimmed _
  · rfl

theorem firstNonEmpty_ne : firstNonEmpty values ≠ "" ↔ ∃ value ∈ values, trimSpace value ≠ "" := by
  induction values with
  | nil => simp [firstNonEmpty]
  | cons value rest ih =>
    rw [firstNonEmpty]
    by_cases hblank : trimSpace value = "" <;> simp [hblank, ih]

/-- **The decoder lists the transfers**: an instruction is decoded, under its
signature and its number, exactly when it pays the receiver. -/
theorem decodeSolanaInstruction_iff {index : ℕ} :
    (∃ t, decodeSolanaInstruction signature tx (trimSpace s.config.receiveAddress)
        (trimSpace s.config.contract) s.config.decimals slot index instruction = some t ∧
      t.txHash = signature ∧ t.logIndex = index) ↔
      ∃ destination account, s.PaysReceiver tx instruction destination account := by
  let destination := stringFromAny (instruction.info.lookup "destination")
  let account := ((tokenAccounts tx).lookup destination).getD {}
  have hamount : firstNonEmpty [stringFromAny (instruction.info.lookup "amount"),
      stringFromMap instruction.info "tokenAmount" "amount", account.amount] ≠ "" ↔
      stringFromAny (instruction.info.lookup "amount") ≠ "" ∨
        stringFromMap instruction.info "tokenAmount" "amount" ≠ "" ∨
        trimSpace account.amount ≠ "" := by
    rw [firstNonEmpty_ne]
    simp [stringFromAny_trimmed, stringFromMap_trimmed]
  simp only [decodeSolanaInstruction]
  constructor
  · rintro ⟨t, h, -⟩
    generalize (if slot ≥ tx.slot then slot - tx.slot + 1 else 0) = confirmations at h
    split_ifs at h with hprogram htype hnamed hmint hreceiver hsome
    refine ⟨destination, account, by_contra fun hne => hprogram (not_or.mp hne),
      by_contra fun hne => htype (not_or.mp hne), ⟨rfl, hnamed⟩, rfl, eq_true_of_ne_false hmint,
      by_contra fun hne => ?_, hamount.mp hsome⟩
    obtain ⟨howner, hother⟩ := not_or.mp hne
    exact hreceiver ⟨eq_false_of_ne_true howner, eq_false_of_ne_true hother⟩
  · rintro ⟨_, _, hprogram, htype, ⟨rfl, hnamed⟩, rfl, hmint, hreceiver, hsome⟩
    rw [if_neg fun hne => hprogram.elim hne.1 hne.2, if_neg fun hne => htype.elim hne.1 hne.2,
      if_neg hnamed, if_neg (ne_false_of_eq_true hmint),
      if_neg fun hne => hreceiver.elim (ne_true_of_eq_false hne.1) (ne_true_of_eq_false hne.2),
      if_neg (hamount.mpr hsome)]
    exact ⟨_, rfl, rfl, rfl⟩

theorem decodeItem_ok
    (h : s.decodeItem env currentSlot v sig = .ok recorded) (herr : sig.err = none)
    (hslot : v.Holds sig.slot) :
    ∃ tx, env.getTransaction sig.signature = .ok tx ∧
      recorded = (decodeSolanaTokenTransfers sig.signature tx s.config.receiveAddress
        s.config.contract s.config.decimals currentSlot).map
          fun t => { t with network } := by
  have hin : ¬ (sig.err ≠ none ∨ sig.slot < v.lo ∨ sig.slot > v.hi) := by
    have := hslot.1
    have := hslot.2
    rintro (hne | _ | _)
    · exact hne herr
    · omega
    · omega
  simp only [decodeItem, if_neg hin, seq_ok, return_ok] at h
  obtain ⟨tx, htx, hrecord⟩ := h
  exact ⟨tx, htx, hrecord.symm⟩

theorem call_urlError (h : trimSpace s.rpcURL ≠ "") : (s.call env).urlError = none := if_neg h

theorem call_sound (s : SolanaScanner) (hsta : env.stateError = none) : (s.call env).Sound where
  state := hsta
  keeps := by
    intro height v st
    simp only [call, scanBlocks]
    split
    · exact KeepsRows.refl st
    · exact env.db.recordItems_keeps _ _ st
  limit := nofun

/-- A call that succeeds has recorded its window, when the signatures from its
first slot to the newest one fit on the page. -/
theorem call_records (hchain : Numbered chain)
    (hhonest : Honest chain transaction tip env) (hsta : env.stateError = none) (w : ScanWorld)
    (hfits : ∀ height, env.slot = .ok height → (Window.descending
      ⟨((s.call env).window height w.state).lo, tip⟩ chain).length ≤ 100) :
    ∀ v, ((s.call env).run w).2 = .ok (some v) → ∀ b, v.window.Holds b →
      s.BlockRecorded chain transaction b ((s.call env).run w).1.store := by
  intro v hv b hb sig hsig herr index hpaid
  obtain ⟨hheight, hwin, hbody⟩ := ScanCall.run_scanned (s.call_sound hsta) hv
  obtain ⟨htop, hpages, htxs⟩ := hhonest
  have hadv := ScanCall.run_advances (s.call_sound hsta) w
  have hlo : 0 ≤ v.window.lo := by
    rw [hadv.lo v hv]
    exact scanFrom_nonneg _ _ _ _
  have hle := hadv.nonempty v hv
  have hhi : v.window.hi ≤ tip := by
    have hsafe : v.window.hi ≤ v.height - s.config.confirmations + 1 := hadv.safe v hv
    have := s.confirmed
    have := (htop v.height hheight).2
    omega
  have hblks : s.scanBlocks env v.height v.window w.store =
      (((s.call env).run w).1.store, .ok ()) := hbody
  simp only [scanBlocks] at hblks
  split at hblks
  · cases congrArg Prod.snd hblks
  rename_i page hpage
  have hlen : (Window.descending ⟨v.window.lo, tip⟩ chain).length ≤ 100 := by
    rw [hwin]
    exact hfits v.height hheight
  -- the signatures of the window are among the newest
  have hmem : sig ∈ page := by
    rw [hpages page hpage, Window.descending_split chain hlo (by omega),
      List.take_append, List.take_of_length_le hlen]
    refine List.mem_append_left _ (Window.mem_descending.mpr ⟨b, ⟨hb.1, ?_⟩, hsig⟩)
    exact Int.le_trans hb.2 hhi
  obtain ⟨recorded, hdec, hstd⟩ := Recorder.recordItems_ok hblks sig hmem
  obtain ⟨tx, htx, rfl⟩ := decodeItem_ok hdec herr (by rw [hchain b sig hsig]; exact hb)
  obtain rfl := htxs _ _ htx
  obtain ⟨instruction, hnumber, hpays⟩ := hpaid
  obtain ⟨t, hdecoded, hhash, hindex⟩ := decodeSolanaInstruction_iff.mpr hpays
  have hlisted : t ∈ decodeSolanaTokenTransfers sig.signature (transaction sig.signature)
      s.config.receiveAddress s.config.contract s.config.decimals v.height :=
    List.mem_filterMap.mpr
      ⟨(instruction, index), List.mem_zipIdx_iff_getElem?.mpr hnumber, hdecoded⟩
  rw [← hhash, ← hindex]
  exact hstd { t with network } (List.mem_map.mpr ⟨t, hlisted, rfl⟩)

end SolanaScanner

end HermesToken.Scanner
