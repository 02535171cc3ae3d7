import HermesToken.Lib.Blocks
import HermesToken.Lib.GoString
import HermesToken.Lib.Run
import HermesToken.Relay.Consume

/-!
# OpenAI chunks as a Claude stream

`StreamResponseOpenAI2Claude` of `service/convert.go`, which turns the chunks of
an OpenAI stream into the events of a Claude stream, one chunk at a time, and
the order of events a client of Claude relies on.
-/

namespace HermesToken.Relay

open Lib Blocks Function

/-! ## Claude streams -/

inductive ContentBlock where
  | text
  | thinking
  | toolUse (id name : String)

inductive BlockDelta where
  | text (text : String)
  | thinking (text : String)
  | inputJson (partialJson : String)

/-- The kind of delta a block takes. -/
def ContentBlock.fits : ContentBlock → BlockDelta → Bool
  | .text, .text _ => true
  | .thinking, .thinking _ => true
  | .toolUse _ _, .inputJson _ => true
  | _, _ => false

abbrev ClaudeBlockEvent := BlockEvent Int ContentBlock BlockDelta

structure ClaudeUsage where
  (inputTokens outputTokens cacheCreationInputTokens cacheReadInputTokens : Int)
  /-- The five-minute and the one-hour part of the cache creation. -/
  cacheCreation : Option (Int × Int)

inductive ClaudeEvent where
  | messageStart (id model : String) (inputTokens : Int)
  | block (event : ClaudeBlockEvent)
  | messageDelta (stopReason : String) (usage : ClaudeUsage)
  | messageStop

/-- What a client knows after an event that may come: the blocks, once the
message has started. -/
def ClaudeEvent.step :
    Option (Blocks Int ContentBlock) → ClaudeEvent → Option (Option (Blocks Int ContentBlock))
  | none, .messageStart .. => some (some Blocks.empty)
  | some b, .block event => (b.step ContentBlock.fits event).map some
  | some b, .messageDelta .. => some (some b)
  | some b, .messageStop => some (some b)
  | _, _ => none

/-- The events are the beginning of a Claude stream: the message starts first and
once, and the blocks keep the order of blocks. -/
def ValidPrefix (events : List ClaudeEvent) : Prop :=
  (events.foldlM ClaudeEvent.step none).isSome = true

/-! ## Chunks -/

structure ToolCall where
  index : Option Int := none
  (id name arguments : String := "")

/-- A choice of a chunk. A field the chunk does not have is empty. -/
structure Choice where
  (content reasoning : String := "")
  toolCalls : List ToolCall := []
  finishReason : String := ""

structure Chunk where
  (id model : String := "")
  choices : List Choice := []
  usage : Option Usage := none

inductive LastMessageType where
  | none | text | tools | thinking
deriving DecidableEq

structure ClaudeConvertInfo where
  lastMessagesType : LastMessageType := .none
  index : Int := 0
  usage : Option Usage := none
  finishReason : String := ""
  done : Bool := false
  (toolCallBaseIndex toolCallMaxIndexOffset : Int := 0)

/-- `NormalizeCacheCreationSplit`. -/
def normalizeCacheCreationSplit (totalTokens tokens5m tokens1h : Int) : Int × Int :=
  (tokens5m + max (totalTokens - tokens5m - tokens1h) 0, tokens1h)

/-- `buildClaudeUsageFromOpenAIUsage`. -/
def buildClaudeUsageFromOpenAIUsage (usage : Usage) : ClaudeUsage :=
  let (tokens5m, tokens1h) := normalizeCacheCreationSplit
    usage.promptTokensDetails.cachedCreationTokens
    usage.claudeCacheCreation5mTokens usage.claudeCacheCreation1hTokens
  { inputTokens := usage.promptTokens
    outputTokens := usage.completionTokens
    cacheCreationInputTokens := usage.promptTokensDetails.cachedCreationTokens
    cacheReadInputTokens := usage.promptTokensDetails.cachedTokens
    cacheCreation := if 0 < tokens5m || 0 < tokens1h then some (tokens5m, tokens1h) else none }

/-- `OpenAIFinishReasonToClaudeStopReason`. -/
def stopReasonOpenAI2Claude (finishReason : String) : String :=
  match toLower finishReason with
  | "stop" => "end_turn"
  | "stop_sequence" => "stop_sequence"
  | "length" => "max_tokens"
  | "max_tokens" => "max_tokens"
  | "content_filter" => "refusal"
  | "tool_calls" => "tool_use"
  | _ => finishReason

/-! ## The conversion -/

/-- The events of one tool call: a name opens the block, arguments add to it. -/
def ToolCall.events (call : ToolCall) (idx : Int) : List ClaudeBlockEvent :=
  (if call.name ≠ "" then [.start idx (.toolUse call.id call.name)] else []) ++
    if call.arguments ≠ "" then [.delta idx (.inputJson call.arguments)] else []

namespace ClaudeConvertInfo

variable (info : ClaudeConvertInfo)

/-- The indices of the blocks that are taken to be open. -/
def openIndices : List Int :=
  match info.lastMessagesType with
  | .text | .thinking => [info.index]
  | .tools => (List.range (info.toolCallMaxIndexOffset + 1).toNat).map fun offset : Nat =>
      info.toolCallBaseIndex + offset
  | .none => []

/-- `stopOpenBlocks`. -/
def stopOpenBlocks : List ClaudeBlockEvent := info.openIndices.map .stop

/-- `stopOpenBlocksAndAdvance`. -/
def stopOpenBlocksAndAdvance : List ClaudeBlockEvent × ClaudeConvertInfo :=
  match info.lastMessagesType with
  | .none => ([], info)
  | .tools => (info.stopOpenBlocks, { info with
      lastMessagesType := .none
      index := info.toolCallBaseIndex + info.toolCallMaxIndexOffset + 1
      toolCallBaseIndex := 0
      toolCallMaxIndexOffset := 0 })
  | .text | .thinking => (info.stopOpenBlocks, { info with
      lastMessagesType := .none
      index := info.index + 1 })

/-- A text or a thinking delta, in a new block if another kind came last. -/
def writeDelta (type : LastMessageType) (block : ContentBlock) (delta : BlockDelta) :
    List ClaudeBlockEvent × ClaudeConvertInfo :=
  if info.lastMessagesType ≠ type then
    let (stops, info) := info.stopOpenBlocksAndAdvance
    (stops ++ [.start info.index block, .delta info.index delta],
      { info with lastMessagesType := type })
  else ([.delta info.index delta], info)

/-- The events of the tool calls from the `i`-th on, and their largest offset. -/
def toolCallEvents (base : Int) : List ToolCall → Nat → Int → List ClaudeBlockEvent × Int
  | [], _, maxOffset => ([], maxOffset)
  | call :: rest, i, maxOffset =>
    let offset := call.index.getD i
    let (events, maxOffset) := toolCallEvents base rest (i + 1) (max maxOffset offset)
    (call.events (base + offset) ++ events, maxOffset)

def writeToolCalls (toolCalls : List ToolCall) : List ClaudeBlockEvent × ClaudeConvertInfo :=
  let (stops, info) :=
    if info.lastMessagesType ≠ .tools then
      let (stops, info) := info.stopOpenBlocksAndAdvance
      (stops, { info with toolCallBaseIndex := info.index, toolCallMaxIndexOffset := 0 })
    else ([], info)
  let base := info.toolCallBaseIndex
  let (events, maxOffset) := toolCallEvents base toolCalls 0 info.toolCallMaxIndexOffset
  (stops ++ events, { info with
    lastMessagesType := .tools
    toolCallMaxIndexOffset := maxOffset
    index := base + maxOffset })

/-- The delta of a later chunk. -/
def writeChoice (choice : Choice) : List ClaudeBlockEvent × ClaudeConvertInfo :=
  if choice.toolCalls ≠ [] then info.writeToolCalls choice.toolCalls
  else if choice.reasoning ≠ "" then
    info.writeDelta .thinking .thinking (.thinking choice.reasoning)
  else if choice.content ≠ "" then info.writeDelta .text .text (.text choice.content)
  else ([], info)

/-- The end of the message; there is no message delta without a usage. -/
def closeMessage (usage : Option Usage) (stopReason : String) : List ClaudeEvent :=
  info.stopOpenBlocks.map .block ++
    (usage.map fun usage =>
      .messageDelta stopReason (buildClaudeUsageFromOpenAIUsage usage)).toList ++ [.messageStop]

/-- The tool call of the first chunk, which always opens the block 0. -/
def firstToolCall (choice : Choice) : List ClaudeBlockEvent × ClaudeConvertInfo :=
  match choice.toolCalls with
  | [] => ([], info)
  | call :: _ =>
    (.start 0 (.toolUse call.id call.name) ::
      (if call.arguments ≠ "" then [.delta 0 (.inputJson call.arguments)] else []),
      { info with
        lastMessagesType := .tools
        toolCallBaseIndex := 0
        toolCallMaxIndexOffset := 0 })

/-- A text or a thinking delta of the first chunk, always in a new block. -/
def firstDelta (type : LastMessageType) (block : ContentBlock) (delta : BlockDelta) :
    List ClaudeBlockEvent × ClaudeConvertInfo :=
  let (stops, info) :=
    if info.lastMessagesType ≠ type then info.stopOpenBlocksAndAdvance else ([], info)
  (stops ++ [.start info.index block, .delta info.index delta],
    { info with lastMessagesType := type })

def writeFirstChoice (choice : Choice) : List ClaudeBlockEvent × ClaudeConvertInfo :=
  let (tool, info) := info.firstToolCall choice
  let (delta, info) :=
    if choice.reasoning ≠ "" then info.firstDelta .thinking .thinking (.thinking choice.reasoning)
    else if choice.content ≠ "" then info.firstDelta .text .text (.text choice.content)
    else ([], info)
  (tool ++ delta, info)

def firstChunk (estimatePromptTokens : Int) (chunk : Chunk) :
    List ClaudeEvent × ClaudeConvertInfo :=
  let start := .messageStart chunk.id chunk.model estimatePromptTokens
  match chunk.choices with
  | [] => ([start], info)
  | choice :: _ =>
    let (events, info) := info.writeFirstChoice choice
    if choice.finishReason ≠ "" then
      let info := { info with finishReason := choice.finishReason }
      (start :: events.map .block ++ info.closeMessage (chunk.usage.or info.usage)
        (stopReasonOpenAI2Claude info.finishReason), { info with done := true })
    else (start :: events.map .block, info)

/-- A later chunk. A finish reason without a usage only leaves its mark, and a
chunk without choices closes the message when there is a usage. -/
def laterChunk (chunk : Chunk) : List ClaudeEvent × ClaudeConvertInfo :=
  match chunk.choices with
  | [] => match chunk.usage.or info.usage with
    | none => ([], info)
    | some usage =>
      let stopReason := stopReasonOpenAI2Claude info.finishReason
      (info.closeMessage (some usage) (if stopReason = "" then "end_turn" else stopReason),
        { info with done := true })
  | choice :: _ =>
    if choice.finishReason ≠ "" then
      let info := { info with finishReason := choice.finishReason }
      if chunk.usage.isNone then ([], info)
      else
        let (events, info) := info.writeChoice choice
        (events.map .block ++ info.closeMessage (chunk.usage.or info.usage)
          (stopReasonOpenAI2Claude info.finishReason), { info with done := true })
    else
      let (events, info) := info.writeChoice choice
      (events.map .block, info)

/-- `StreamResponseOpenAI2Claude`. -/
def streamResponseOpenAI2Claude (estimatePromptTokens : Int) (sendResponseCount : Nat)
    (chunk : Chunk) : List ClaudeEvent × ClaudeConvertInfo :=
  if info.done then ([], info)
  else if sendResponseCount = 1 then info.firstChunk estimatePromptTokens chunk
  else info.laterChunk chunk

end ClaudeConvertInfo

/-- A conversion, with all it has sent to the client. -/
structure Converter where
  sendResponseCount : Nat := 0
  info : ClaudeConvertInfo := {}
  events : List ClaudeEvent := []

/-- `HandleStreamFormat` with `handleClaudeFormat`. -/
def Converter.handleStreamFormat (estimatePromptTokens : Int) (st : Converter) (chunk : Chunk) :
    Converter :=
  let sendResponseCount := st.sendResponseCount + 1
  let info := if chunk.usage.isSome then { st.info with usage := chunk.usage } else st.info
  let (events, info) :=
    info.streamResponseOpenAI2Claude estimatePromptTokens sendResponseCount chunk
  { sendResponseCount, info, events := st.events ++ events }

/-! ## The blocks behind a conversion -/

/-- The kinds of blocks that are open in a state. -/
def LastMessageType.Holds : LastMessageType → ContentBlock → Prop
  | .text, .text => True
  | .thinking, .thinking => True
  | .tools, .toolUse _ _ => True
  | _, _ => False

/-- The first index no block has had. -/
def ClaudeConvertInfo.next (info : ClaudeConvertInfo) : Int :=
  match info.lastMessagesType with
  | .none => info.index
  | .text | .thinking => info.index + 1
  | .tools => info.toolCallBaseIndex + info.toolCallMaxIndexOffset + 1

/-- The blocks are as the conversion takes them to be. -/
structure Shape (info : ClaudeConvertInfo) (b : Blocks Int ContentBlock) : Prop where
  opened : ∀ i ∈ info.openIndices, ∃ kind, b i = .opened kind ∧ info.lastMessagesType.Holds kind
  fresh : ∀ i, info.next ≤ i → b i = .fresh
  offset : 0 ≤ info.toolCallMaxIndexOffset

/-- The events lead from the blocks `b` to blocks as the state takes them to
be. -/
def Leads (b : Blocks Int ContentBlock) (out : List ClaudeBlockEvent × ClaudeConvertInfo) : Prop :=
  ∃ b', b.run ContentBlock.fits out.1 = some b' ∧ Shape out.2 b'

/-- The tool call opens the next index with its name, or goes to an open one. -/
def ToolCall.Fits (call : ToolCall) (opened : Nat) (offset : Int) : Prop :=
  if call.name ≠ "" then offset = opened else 0 ≤ offset ∧ offset < opened

instance : Decidable (ToolCall.Fits call opened offset) :=
  inferInstanceAs (Decidable (if call.name ≠ "" then _ else _))

/-- How many tool calls are open after one more. -/
def ToolCall.opened (call : ToolCall) (opened : Nat) : Nat :=
  if call.name ≠ "" then opened + 1 else opened

/-- The tool calls open their indices one by one, each with its name, and
otherwise go to open ones. -/
def ToolsInOrder : Nat → Nat → List ToolCall → Prop
  | _, _, [] => True
  | opened, i, call :: rest =>
    call.Fits opened (call.index.getD i) ∧ ToolsInOrder (call.opened opened) (i + 1) rest

instance ToolsInOrder.decidable :
    ∀ opened i calls, Decidable (ToolsInOrder opened i calls)
  | _, _, [] => isTrue trivial
  | opened, i, call :: rest =>
    have := ToolsInOrder.decidable (call.opened opened) (i + 1) rest
    inferInstanceAs (Decidable (_ ∧ _))

def ClaudeConvertInfo.openTools (info : ClaudeConvertInfo) : Nat :=
  if info.lastMessagesType = .tools then (info.toolCallMaxIndexOffset + 1).toNat else 0

/-- The tool calls of a later chunk are in order, unless they are left out. -/
def InOrder (st : Converter) (chunk : Chunk) : Prop :=
  st.sendResponseCount ≠ 0 → st.info.done = false → ∀ choice ∈ chunk.choices.head?,
    (choice.finishReason ≠ "" → chunk.usage.isSome = true) →
    ToolsInOrder st.info.openTools 0 choice.toolCalls

instance : Decidable (InOrder st chunk) :=
  inferInstanceAs (Decidable (_ → _ → ∀ _ ∈ _, _ → ToolsInOrder _ _ _))

open ContentBlock

open ClaudeConvertInfo

section

variable {info : ClaudeConvertInfo} {b : Blocks Int ContentBlock}

theorem ClaudeConvertInfo.mem_openIndices_tools (h : info.lastMessagesType = .tools) :
    i ∈ info.openIndices ↔ info.toolCallBaseIndex ≤ i ∧
      i ≤ info.toolCallBaseIndex + info.toolCallMaxIndexOffset := by
  simp only [openIndices, h, List.mem_map, List.mem_range]
  constructor
  · rintro ⟨offset, _, rfl⟩
    omega
  · rintro ⟨_, _⟩
    exact ⟨(i - info.toolCallBaseIndex).toNat, by omega, by omega⟩

theorem ClaudeConvertInfo.openIndices_nodup : info.openIndices.Nodup := by
  unfold openIndices
  split
  · exact List.nodup_singleton _
  · exact List.nodup_singleton _
  · refine List.nodup_range.map fun x y h => ?_
    simpa using h
  · exact List.nodup_nil

theorem ClaudeConvertInfo.lt_next (h : i ∈ info.openIndices) : i < info.next := by
  cases htype : info.lastMessagesType with
  | tools =>
    have hi := (mem_openIndices_tools htype).mp h
    simp only [next, htype]
    omega
  | none => simp [openIndices, htype] at h
  | text | thinking =>
    simp only [openIndices, htype, List.mem_singleton] at h
    simp only [next, htype]
    omega

/-- The open blocks may be closed, and no index is used by it. -/
theorem Shape.stops (h : Shape info b) :
    ∃ b', b.run fits info.stopOpenBlocks = some b' ∧ ∀ i, info.next ≤ i → b' i = .fresh := by
  obtain ⟨b', hrun, hsame⟩ := run_stops info.openIndices_nodup fun i hi =>
    (h.opened i hi).imp fun _ hkind => hkind.1
  refine ⟨b', hrun, fun i hi => ?_⟩
  rw [hsame i fun hmem => absurd (info.lt_next hmem) (by omega)]
  exact h.fresh i hi

/-- Between two kinds of blocks nothing is open. -/
theorem Shape.advance (h : Shape info b) :
    Leads b info.stopOpenBlocksAndAdvance ∧
      info.stopOpenBlocksAndAdvance.2.lastMessagesType = .none := by
  obtain ⟨b', hrun, hfrs⟩ := h.stops
  cases htype : info.lastMessagesType with
  | none =>
    simp only [stopOpenBlocksAndAdvance, htype]
    exact ⟨⟨b, rfl, h⟩, trivial⟩
  | tools =>
    simp only [next, htype] at hfrs
    simp only [stopOpenBlocksAndAdvance, htype]
    exact ⟨⟨b', hrun, fun i hi => (List.not_mem_nil hi).elim, hfrs, Int.le_refl 0⟩, trivial⟩
  | text | thinking =>
    simp only [next, htype] at hfrs
    simp only [stopOpenBlocksAndAdvance, htype]
    exact ⟨⟨b', hrun, fun i hi => (List.not_mem_nil hi).elim, hfrs, h.offset⟩, trivial⟩

theorem Shape.opens (h : Shape info b) (hnone : info.lastMessagesType = .none)
    (htype : type = .text ∨ type = .thinking)
    (hblock : type.Holds block) (hfits : block.fits delta) :
    Leads b ([.start info.index block, .delta info.index delta],
      { info with lastMessagesType := type }) := by
  have hnext : info.next = info.index := by simp only [next, hnone]
  have hopen : update b info.index (.opened block) info.index = .opened block :=
    update_self ..
  refine ⟨update b info.index (.opened block), ?_, ?_, ?_, h.offset⟩
  · rw [run_start (h.fresh _ (by omega)), run_delta hopen hfits, run_nil]
  · intro i hi
    obtain rfl : i = info.index := by
      rcases htype with rfl | rfl <;> simpa [openIndices] using hi
    exact ⟨block, hopen, hblock⟩
  intro i hi
  have hlt : info.index < i := by
    rcases htype with rfl | rfl <;> simp only [next] at hi <;> omega
  rw [update_of_ne (by omega)]
  exact h.fresh i (by omega)

theorem Leads.trans {out next info} (h : Leads b out)
    (hnext : ∀ b', Shape out.2 b' → Leads b' (next, info)) : Leads b (out.1 ++ next, info) := by
  obtain ⟨b', hrun, hshape⟩ := h
  obtain ⟨b'', hrun', hshape'⟩ := hnext b' hshape
  exact ⟨b'', (run_append hrun).trans hrun', hshape'⟩

theorem Shape.writeDelta (h : Shape info b) {type} (htype : type = .text ∨ type = .thinking) {block}
    (hblock : type.Holds block) {delta} (hfits : block.fits delta)
    (honly : ∀ kind, type.Holds kind → kind.fits delta) :
    Leads b (info.writeDelta type block delta) := by
  simp only [ClaudeConvertInfo.writeDelta]
  split
  · exact h.advance.1.trans fun b' hshape => hshape.opens h.advance.2 htype hblock hfits
  rename_i hsame
  obtain rfl : info.lastMessagesType = type := not_not.mp hsame
  obtain ⟨kind, hkind, hheld⟩ := h.opened info.index (by
    rcases htype with htype | htype <;> simp [openIndices, htype])
  exact ⟨b, by rw [run_delta hkind (honly kind hheld), run_nil], h⟩

/-- The blocks from `base` on: the first `opened` of them are tools, the others
are fresh. -/
structure ToolBlocks (base : Int) (opened : Nat) (b : Blocks Int ContentBlock) : Prop where
  tools : ∀ j : Nat, j < opened → ∃ id name, b (base + j) = .opened (.toolUse id name)
  fresh : ∀ i, base + opened ≤ i → b i = .fresh

theorem ToolBlocks.call (h : ToolBlocks base opened b)
    {call : ToolCall} (hfits : call.Fits opened offset) :
    ∃ b', b.run fits (call.events (base + offset)) = some b' ∧
      ToolBlocks base (call.opened opened) b' := by
  simp only [ToolCall.Fits, ToolCall.events, ToolCall.opened] at hfits ⊢
  by_cases hname : call.name ≠ ""
  · rw [if_pos hname] at hfits
    subst hfits
    have hself : update b (base + opened) (.opened (.toolUse call.id call.name))
        (base + opened) = .opened (.toolUse call.id call.name) := update_self ..
    rw [if_pos hname, if_pos hname]
    refine ⟨update b (base + opened) (.opened (.toolUse call.id call.name)), ?_,
      ⟨fun j hj => ?_, fun k hk => ?_⟩⟩
    · rw [List.singleton_append, run_start (h.fresh _ (by omega))]
      split
      · rw [run_delta hself rfl, run_nil]
      · rfl
    · by_cases hlast : j = opened
      · subst hlast
        exact ⟨_, _, hself⟩
      · rw [update_of_ne (by omega)]
        exact h.tools j (by omega)
    · rw [update_of_ne (by omega)]
      exact h.fresh k (by omega)
  rw [if_neg hname] at hfits
  obtain ⟨id, name, hopen⟩ := h.tools offset.toNat (by omega)
  rw [Int.toNat_of_nonneg hfits.1] at hopen
  rw [if_neg hname, if_neg hname, List.nil_append]
  refine ⟨b, ?_, h⟩
  split
  · rw [run_delta hopen rfl, run_nil]
  · rfl

/-- **The tool calls**: in order, they keep to open blocks. The loop is followed
with the number of blocks it has opened, which its largest offset is one less
than. -/
theorem ToolBlocks.run {base : Int} : ∀ {calls : List ToolCall} {i opened : Nat} {maxOffset : Int}
    {b : Blocks Int ContentBlock}, ToolBlocks base opened b → ToolsInOrder opened i calls →
    maxOffset = max 0 (opened - 1 : Int) →
    ∃ b' opened', b.run fits
        (toolCallEvents base calls i maxOffset).1 = some b' ∧
      ToolBlocks base opened' b' ∧ opened ≤ opened' ∧ (calls ≠ [] → 0 < opened') ∧
      (toolCallEvents base calls i maxOffset).2 = max 0 (opened' - 1 : Int)
  | [], _, opened, _, b, h, _, hmax =>
    ⟨b, opened, rfl, h, Nat.le_refl _, fun hne => absurd rfl hne, hmax⟩
  | call :: rest, i, opened, maxOffset, b, h, hord, hmax => by
    obtain ⟨hfits, hrest⟩ := hord
    obtain ⟨b₁, hrun₁, hblks₁⟩ := h.call hfits
    have hopens : opened ≤ call.opened opened ∧ 0 < call.opened opened ∧
        max maxOffset (call.index.getD i) = max 0 (call.opened opened - 1 : Int) := by
      simp only [ToolCall.Fits, ToolCall.opened] at hfits ⊢
      by_cases hname : call.name ≠ ""
      · rw [if_pos hname] at hfits ⊢
        omega
      · rw [if_neg hname] at hfits ⊢
        omega
    obtain ⟨b₂, opened₂, hrun₂, hblks₂, _, -, hmax₂⟩ := hblks₁.run hrest hopens.2.2
    refine ⟨b₂, opened₂, ?_, hblks₂, by omega, fun _ => by omega, hmax₂⟩
    exact (run_append hrun₁).trans hrun₂

variable (h : Shape info b)
include h

theorem Shape.writeToolCalls {calls} (hne : calls ≠ [])
    (hord : ToolsInOrder info.openTools 0 calls) : Leads b (info.writeToolCalls calls) := by
  -- the loop from the blocks of the tools that are open already
  have hloop : ∀ (info : ClaudeConvertInfo) (b : Blocks Int ContentBlock) (opened : Nat),
      ToolBlocks info.toolCallBaseIndex opened b → ToolsInOrder opened 0 calls →
      info.toolCallMaxIndexOffset = max 0 (opened - 1 : Int) →
      Leads b ((toolCallEvents info.toolCallBaseIndex calls 0
          info.toolCallMaxIndexOffset).1, { info with
        lastMessagesType := .tools
        toolCallMaxIndexOffset := (toolCallEvents info.toolCallBaseIndex calls 0
          info.toolCallMaxIndexOffset).2
        index := info.toolCallBaseIndex + (toolCallEvents
          info.toolCallBaseIndex calls 0 info.toolCallMaxIndexOffset).2 }) := by
    intro info b opened hblks hord hmax
    obtain ⟨b', opened', hrun, hblks', -, hpos, _⟩ := hblks.run hord hmax
    have hpos := hpos hne
    have hoffs : 0 ≤ (toolCallEvents info.toolCallBaseIndex calls 0
      info.toolCallMaxIndexOffset).2 := by omega
    refine ⟨b', hrun, fun i hi => ?_, fun i hi => ?_, hoffs⟩
    · obtain ⟨hlow, hhigh⟩ := (mem_openIndices_tools rfl).mp hi
      dsimp only at hlow hhigh
      obtain ⟨id, name, hopen⟩ := hblks'.tools (i - info.toolCallBaseIndex).toNat (by omega)
      rw [show info.toolCallBaseIndex + ((i - info.toolCallBaseIndex).toNat : Int) = i by omega]
        at hopen
      exact ⟨_, hopen, trivial⟩
    · simp only [next] at hi
      exact hblks'.fresh i (by omega)
  simp only [openTools] at hord
  simp only [ClaudeConvertInfo.writeToolCalls]
  by_cases htype : info.lastMessagesType = .tools
  · rw [if_pos htype] at hord
    have hoffs := h.offset
    simp only [htype, ne_eq, not_true_eq_false, if_false, List.nil_append]
    refine hloop info b _ ⟨fun j hj => ?_, fun i hi => ?_⟩ hord (by omega)
    · obtain ⟨kind, hkind, hheld⟩ := h.opened (info.toolCallBaseIndex + j)
        ((mem_openIndices_tools htype).mpr (by omega))
      rw [htype] at hheld
      cases kind with
      | toolUse id name => exact ⟨id, name, hkind⟩
      | text | thinking => exact hheld.elim
    · refine h.fresh i ?_
      simp only [next, htype]
      omega
  rw [if_neg htype] at hord
  simp only [ne_eq, htype, not_false_eq_true, if_true]
  refine h.advance.1.trans fun b' hshape => ?_
  have hnone := h.advance.2
  generalize info.stopOpenBlocksAndAdvance.2 = info at hshape hnone ⊢
  refine hloop { info with toolCallBaseIndex := info.index, toolCallMaxIndexOffset := 0 } b' 0
    ⟨fun j hj => absurd hj (Nat.not_lt_zero j), fun i hi => hshape.fresh i ?_⟩ hord rfl
  simp only [next, hnone]
  dsimp only at hi
  omega

theorem Shape.writeChoice (hord : ToolsInOrder info.openTools 0 choice.toolCalls) :
    Leads b (info.writeChoice choice) := by
  simp only [ClaudeConvertInfo.writeChoice]
  split
  · rename_i hne
    exact h.writeToolCalls hne hord
  split
  · refine h.writeDelta (.inr rfl) ?_ rfl fun kind hkind => ?_
    · trivial
    cases kind with
    | thinking => rfl
    | text | toolUse => exact hkind.elim
  split
  · refine h.writeDelta (.inl rfl) ?_ rfl fun kind hkind => ?_
    · trivial
    cases kind with
    | text => rfl
    | thinking | toolUse => exact hkind.elim
  · exact ⟨b, rfl, h⟩

theorem Shape.firstToolCall (hnone : info.lastMessagesType = .none) (hidx : info.index = 0)
    (choice : Choice) : Leads b (info.firstToolCall choice) := by
  simp only [ClaudeConvertInfo.firstToolCall]
  split
  · exact ⟨b, rfl, h⟩
  rename_i call _ _
  have hnext : info.next = 0 := by simp only [next, hnone, hidx]
  have hself : update b 0 (.opened (.toolUse call.id call.name)) 0 =
      .opened (.toolUse call.id call.name) := update_self ..
  refine ⟨update b 0 (.opened (.toolUse call.id call.name)), ?_, fun i hi => ?_,
    fun i hi => ?_, Int.le_refl 0⟩
  · rw [run_start (h.fresh 0 (by omega))]
    split
    · rw [run_delta hself rfl, run_nil]
    · rfl
  · obtain ⟨hlow, hhigh⟩ := (mem_openIndices_tools rfl).mp hi
    dsimp only at hlow hhigh
    obtain rfl : i = 0 := by omega
    exact ⟨_, hself, trivial⟩
  · simp only [next] at hi
    rw [update_of_ne (by omega)]
    exact h.fresh i (by omega)

theorem Shape.firstDelta {type} (hne : info.lastMessagesType ≠ type)
    (htype : type = .text ∨ type = .thinking) {block} (hblock : type.Holds block)
    {delta} (hfits : block.fits delta) :
    Leads b (info.firstDelta type block delta) := by
  simp only [ClaudeConvertInfo.firstDelta, if_pos hne]
  exact h.advance.1.trans fun b' hshape => hshape.opens h.advance.2 htype hblock hfits

theorem Shape.writeFirstChoice (hnone : info.lastMessagesType = .none) (hidx : info.index = 0)
    (choice : Choice) : Leads b (info.writeFirstChoice choice) := by
  have htype : (info.firstToolCall choice).2.lastMessagesType = .none ∨
      (info.firstToolCall choice).2.lastMessagesType = .tools := by
    simp only [ClaudeConvertInfo.firstToolCall]
    split
    · exact .inl hnone
    · exact .inr rfl
  have htool := h.firstToolCall hnone hidx choice
  simp only [ClaudeConvertInfo.writeFirstChoice]
  refine htool.trans fun b' hshape => ?_
  split
  · refine hshape.firstDelta ?_ (.inr rfl) ?_ rfl
    · rcases htype with htype | htype <;> rw [htype] <;> decide
    · trivial
  split
  · refine hshape.firstDelta ?_ (.inl rfl) ?_ rfl
    · rcases htype with htype | htype <;> rw [htype] <;> decide
    · trivial
  · exact ⟨b', rfl, hshape⟩

end

/-! ## Valid streams -/

/-- A client that knows the blocks `b` takes the events, and unless the message
is done its blocks are as the conversion takes them to be. -/
def Sends (b : Blocks Int ContentBlock) (out : List ClaudeEvent × ClaudeConvertInfo) : Prop :=
  ∃ b', out.1.foldlM ClaudeEvent.step (some b) = some (some b') ∧
    (out.2.done = false → Shape out.2 b')

open ClaudeEvent

section

variable {b b' : Blocks Int ContentBlock}

theorem foldlM_block (h : b.run fits events = some b') :
    (events.map ClaudeEvent.block).foldlM ClaudeEvent.step (some b) = some (some b') := by
  induction events generalizing b with
  | nil =>
    obtain rfl := Option.some.inj h
    rfl
  | cons _ _ ih =>
    simp only [run, List.foldlM_cons, Option.bind_eq_bind, Option.bind_eq_some_iff] at h
    obtain ⟨b₁, hstep, hrest⟩ := h
    simp only [List.map_cons, List.foldlM_cons, ClaudeEvent.step, hstep, Option.map_some]
    exact ih hrest

theorem foldlM_block_append (h : b.run fits events = some b') :
    (events.map block ++ rest).foldlM step (some b) = rest.foldlM step (some b') := by
  rw [List.foldlM_append, foldlM_block h]
  rfl

/-- A message may be closed at any time. -/
theorem Shape.closeMessage (h : Shape info b) (usage : Option Usage) (stopReason : String) :
    ∃ b', (info.closeMessage usage stopReason).foldlM step (some b) = some (some b') := by
  obtain ⟨b', hrun, -⟩ := h.stops
  refine ⟨b', ?_⟩
  rw [ClaudeConvertInfo.closeMessage, List.append_assoc, foldlM_block_append hrun]
  cases usage with
  | none | some => rfl

theorem Leads.close (h : Leads b out) (usage : Option Usage) (stopReason : String) :
    Sends b (out.1.map .block ++ out.2.closeMessage usage stopReason,
      { out.2 with done := true }) := by
  obtain ⟨b', hrun, hshape⟩ := h
  obtain ⟨b'', hclose⟩ := hshape.closeMessage usage stopReason
  exact ⟨b'', (foldlM_block_append hrun).trans hclose, fun hdone => by cases hdone⟩

theorem Leads.sends (h : Leads b out) : Sends b (out.1.map .block, out.2) := by
  obtain ⟨b', hrun, hshape⟩ := h
  exact ⟨b', foldlM_block hrun, fun _ => hshape⟩

theorem Shape.laterChunk (h : Shape info b)
    (hord : ∀ choice ∈ chunk.choices.head?,
      (choice.finishReason ≠ "" → chunk.usage.isSome) →
      ToolsInOrder info.openTools 0 choice.toolCalls) : Sends b (info.laterChunk chunk) := by
  simp only [ClaudeConvertInfo.laterChunk]
  split
  · split
    · exact ⟨b, rfl, fun _ => h⟩
    · obtain ⟨b', hclose⟩ := h.closeMessage _ _
      exact ⟨b', hclose, fun hdone => by cases hdone⟩
  rename_i choice _ hchcs
  have hhead : choice ∈ chunk.choices.head? := by rw [hchcs]; rfl
  split
  · have hmark : Shape { info with finishReason := choice.finishReason } b := { h with }
    split
    · exact ⟨b, rfl, fun _ => hmark⟩
    rename_i husg
    rw [← Option.not_isSome, Bool.not_eq_true', Bool.not_eq_false] at husg
    exact (hmark.writeChoice (hord choice hhead fun _ => husg)).close _ _
  · rename_i hfin
    exact (h.writeChoice (hord choice hhead fun hne => absurd hne hfin)).sends

/-- **The first chunk** starts the message. -/
theorem firstChunk_sends {info : ClaudeConvertInfo} (hnone : info.lastMessagesType = .none)
    (hidx : info.index = 0) (hoffs : 0 ≤ info.toolCallMaxIndexOffset)
    (estimatePromptTokens : Int) (chunk : Chunk) :
    ∃ b, (info.firstChunk estimatePromptTokens chunk).1.foldlM step none =
        some (some b) ∧
      ((info.firstChunk estimatePromptTokens chunk).2.done = false →
        Shape (info.firstChunk estimatePromptTokens chunk).2 b) := by
  have hemp : Shape info empty := by
    refine ⟨fun i hi => ?_, fun _ _ => rfl, hoffs⟩
    simp [openIndices, hnone] at hi
  simp only [firstChunk]
  split
  · exact ⟨empty, rfl, fun _ => hemp⟩
  rename_i choice _ _
  have hfst := hemp.writeFirstChoice hnone hidx choice
  split
  · obtain ⟨b', hrun, hshape⟩ := hfst
    have hmark : Leads empty ((info.writeFirstChoice choice).1,
        { (info.writeFirstChoice choice).2 with finishReason := choice.finishReason }) :=
      ⟨b', hrun, { hshape with }⟩
    exact hmark.close _ _
  · exact hfst.sends

end

/-- The events of a conversion so far: none, or a valid stream with the blocks
the conversion takes to be there. -/
def Follows (st : Converter) : Prop :=
  st.sendResponseCount = 0 ∧ st.info = {} ∧ st.events = [] ∨
    st.sendResponseCount ≠ 0 ∧ ∃ b, st.events.foldlM ClaudeEvent.step none = some (some b) ∧
      (st.info.done = false → Shape st.info b)

/-- **A chunk** adds what may come next. -/
theorem Follows.handleStreamFormat {st : Converter} (h : Follows st)
    (estimatePromptTokens : Int) (hord : InOrder st chunk) :
    Follows (st.handleStreamFormat estimatePromptTokens chunk) := by
  refine .inr ⟨Nat.succ_ne_zero _, ?_⟩
  simp only [Converter.handleStreamFormat, streamResponseOpenAI2Claude]
  generalize hinfo : (if chunk.usage.isSome then { st.info with usage := chunk.usage }
    else st.info) = info
  obtain ⟨hcnt, hstart, heven⟩ | ⟨hcnt, b, hvalid, hshape⟩ := h
  · rw [hcnt, heven]
    have hsame : info.done = false ∧ info.lastMessagesType = .none ∧ info.index = 0 ∧
        0 ≤ info.toolCallMaxIndexOffset := by
      rw [← hinfo, hstart]
      split <;> exact ⟨rfl, rfl, rfl, Int.le_refl 0⟩
    simp only [hsame.1, Bool.false_eq_true, if_false, if_true]
    exact firstChunk_sends hsame.2.1 hsame.2.2.1 hsame.2.2.2 estimatePromptTokens chunk
  have hdone : info.done = st.info.done := by rw [← hinfo]; split <;> rfl
  have hone : ¬ st.sendResponseCount + 1 = 1 := by omega
  split
  · rename_i hend
    exact ⟨b, by rw [List.append_nil]; exact hvalid,
      fun hopen => absurd hend (by rw [hopen]; decide)⟩
  rename_i hopen
  rw [Bool.not_eq_true] at hopen
  have hshape : Shape info b := by
    have hshape := hshape (hdone.symm.trans hopen)
    rw [← hinfo]
    split
    · exact { hshape with }
    · exact hshape
  have htools : info.openTools = st.info.openTools := by rw [← hinfo]; split <;> rfl
  obtain ⟨b', hrun, hnext⟩ := hshape.laterChunk fun choice hchc husg => by
    rw [htools]
    exact hord hcnt (hdone.symm.trans hopen) choice hchc husg
  refine ⟨b', ?_, hnext⟩
  rw [List.foldlM_append, hvalid]
  exact hrun

/-- **A converted stream is a Claude stream**, for all chunks whose tool calls
open their indices in order. -/
theorem claude_stream_valid (estimatePromptTokens : Int) {chunks : List Chunk}
    (horder : Along (Converter.handleStreamFormat estimatePromptTokens) InOrder {} chunks) :
    ValidPrefix (exec (Converter.handleStreamFormat estimatePromptTokens) {} chunks).events := by
  have h : Follows (exec (Converter.handleStreamFormat estimatePromptTokens) {} chunks) :=
    Along.invariant Follows (fun _ _ h => h.handleStreamFormat estimatePromptTokens)
      (.inl ⟨rfl, rfl, rfl⟩) horder
  obtain ⟨-, -, hevents⟩ | ⟨-, b, hvalid, -⟩ := h
  · rw [hevents]
    rfl
  · simp [ValidPrefix, hvalid]

/-- Thinking, text and two tool calls at once, with the usage in a chunk of its
own. -/
def sampleChunks : List Chunk :=
  [ { choices := [{}] }, { choices := [{ reasoning := "r" }] }, { choices := [{ content := "t" }] },
    { choices := [{ toolCalls := [{ id := "a", name := "f" }, { id := "b", name := "g" }] }] },
    { choices := [{ toolCalls := [{ index := some 1, arguments := "x" }] }] },
    { choices := [{ toolCalls := [{ index := some 0, arguments := "y" }] }] },
    { choices := [{ finishReason := "tool_calls" }] }, { usage := some {} } ]

theorem claude_stream_valid_sample :
    Along (Converter.handleStreamFormat 7) InOrder {} sampleChunks ∧
      ValidPrefix (exec (Converter.handleStreamFormat 7) {} sampleChunks).events :=
  have horder : Along (Converter.handleStreamFormat 7) InOrder {} sampleChunks := by
    decide +kernel
  ⟨horder, claude_stream_valid 7 horder⟩

/-- A name that is sent again opens its block a second time, and a gap in the
indices closes a block that was never opened. -/
theorem claude_stream_invalid :
    ¬ ValidPrefix (exec (Converter.handleStreamFormat 7) {}
      [ { choices := [{}] },
        { choices := [{ toolCalls := [{ index := some 0, id := "a", name := "f" }] }] },
        { choices := [{ toolCalls := [{ index := some 0, id := "a", name := "f" }] }] } ]).events ∧
      ¬ ValidPrefix (exec (Converter.handleStreamFormat 7) {}
        [ { choices := [{}] },
          { choices := [{ toolCalls := [{ index := some 0, id := "a", name := "f" }] }] },
          { choices := [{ toolCalls := [{ index := some 2, id := "b", name := "g" }] }] },
          { choices := [{ content := "t" }] } ]).events := by
  unfold ValidPrefix
  decide +kernel

end HermesToken.Relay
