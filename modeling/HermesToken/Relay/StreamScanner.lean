import HermesToken.Lib.GoString
import HermesToken.Lib.Run
import HermesToken.Relay.Attempts

/-!
# The stream scanner

`StreamScannerHandler` of `relay/helper/stream_scanner.go` as a machine of four
processes: the scanner and the handler goroutine with the buffered channel
between them, the ping goroutine with the writer it starts, and the wait loop
with its cleanup. An action is one step of one of them, or the client going
away; one that is not enabled changes nothing. The timers fire whenever an
action says so. A goroutine leaves the wait group before it recovers from a panic
and closes the stop channel, so the cleanup may end in between.
-/

namespace HermesToken.Relay

open Lib

/-! ## Lines -/

inductive LineKind where
  | skip
  | data (text : String)
  | done

def lineKind (line : String) : LineKind :=
  let text := line.toList
  if text.length < 6 then .skip
  else if text.take 5 ≠ "data:".toList && text.take 6 ≠ "[DONE]".toList then .skip
  else
    let data := trimSpace (String.ofList (text.drop 5))
    if data = "" then .skip
    else if "[DONE]".toList <+: data.toList then .done
    else .data data

/-- The data of the lines before the end of the stream. -/
def dataLines : List String → List String
  | [] => []
  | line :: rest => match lineKind line with
    | .skip => dataLines rest
    | .data text => text :: dataLines rest
    | .done => []

/-! ## The processes -/

/-- `SetEndReason`: the first reason stays. -/
def StreamEndReason.set (old new : StreamEndReason) : StreamEndReason :=
  if old = .none then new else old

inductive ScannerPhase where
  | reading
  | checking (line : String)
  | passed (line : String)
  | sending (data : String)
  | closing (panicked : Bool)
  | finishing (panicked : Bool)
  /-- After `wg.Done`. -/
  | recovering (panicked : Bool)
  | exited
deriving DecidableEq

inductive HandlerPhase where
  | waiting
  | received (data : String)
  /-- In the data handler, which may have asked to stop. -/
  | calling (data : String) (stopped : Bool)
  | leaving (panicked : Bool)
  /-- After `wg.Done`. -/
  | recovering (panicked : Bool)
  | exited
deriving DecidableEq

inductive PingPhase where
  | idle | writing | recovering | exited

/-- The goroutine that writes one ping. -/
inductive WriterPhase where
  | none | locking | writing
  | answered (failed : Bool)

inductive WaitPhase where
  | waiting
  /-- The first chunk is overdue, and none was seen. -/
  | expired
  | leaving | cleanup | returned
deriving DecidableEq

/-- The goroutine has left the wait group. -/
def ScannerPhase.isDone : ScannerPhase → Bool
  | .recovering _ | .exited => true
  | _ => false

@[inherit_doc ScannerPhase.isDone]
def HandlerPhase.isDone : HandlerPhase → Bool
  | .recovering _ | .exited => true
  | _ => false

@[inherit_doc ScannerPhase.isDone]
def PingPhase.isDone : PingPhase → Bool
  | .recovering | .exited => true
  | _ => false

/-- `calls` lists the data of the calls of the data handler that have begun,
and `quit` says whether one of them asked to stop or panicked. -/
structure StreamState where
  lines : List String
  firstChunkTimer : Bool
  scanner : ScannerPhase := .reading
  handler : HandlerPhase := .waiting
  ping : PingPhase := .idle
  writer : WriterPhase := .none
  wait : WaitPhase := .waiting
  dataChan : List String := []
  (dataClosed stopped cancelled clientGone writeMutex firstTokenSeen : Bool := false)
  receivedResponseCount : Nat := 0
  endReason : StreamEndReason := .none
  calls : List String := []
  quit : Bool := false

/-- The case a `select` of the scanner takes. -/
inductive ScanCase where
  | stop | cancel | client | pass
deriving DecidableEq

inductive ScannerAct where
  | scan
  /-- `Scan` returns false: the end of the body or an error. -/
  | scanEnd (failed : Bool)
  | check (branch : ScanCase)
  | process
  | send
  | giveUp
  | close
  | done
  | exit
  | panic
deriving DecidableEq

inductive HandlerAct where
  | receive
  | rangeEnd
  | call
  /-- `Stop` or `Done` of the stream result. -/
  | ask (reason : StreamEndReason)
  | callEnd
  | panic
  | done
  | exit
deriving DecidableEq

inductive PingAct where
  | tick
  | writerLock
  | writerEnd (failed : Bool)
  | answer
  | sendTimeout
  | leave
  | panic
  | recover
deriving DecidableEq

inductive WaitAct where
  | timeout
  | stopSeen
  | clientSeen
  | firstChunk
  | expire
  | leave
  | joined
  | waitTimeout
deriving DecidableEq

inductive StreamAct where
  | scanner (act : ScannerAct)
  | handler (act : HandlerAct)
  | ping (act : PingAct)
  | wait (act : WaitAct)
  | clientLeaves
deriving DecidableEq

namespace StreamState

variable (st : StreamState)

/-- The capacity of `dataChan`. -/
def dataChanSize : Nat := 10

def scannerStep : ScannerAct → StreamState
  | .scan => match st.scanner, st.lines with
    | .reading, line :: rest => { st with lines := rest, scanner := .checking line }
    | _, _ => st
  | .scanEnd failed => match st.scanner with
    | .reading =>
      if failed then
        { st with scanner := .closing false, endReason := st.endReason.set .scannerErr }
      else if st.lines = [] then
        { st with scanner := .closing false, endReason := st.endReason.set .eof }
      else st
    | _ => st
  | .check branch => match st.scanner with
    | .checking line => match branch with
      | .stop => if st.stopped then { st with scanner := .closing false } else st
      | .cancel => if st.cancelled then { st with scanner := .closing false } else st
      | .client =>
        if st.clientGone then
          { st with scanner := .closing false, endReason := st.endReason.set .clientGone }
        else st
      | .pass =>
        if st.stopped || st.cancelled || st.clientGone then st
        else { st with scanner := .passed line }
    | _ => st
  | .process => match st.scanner with
    | .passed line => match lineKind line with
      | .skip => { st with scanner := .reading }
      | .data text => { st with
          scanner := .sending text
          firstTokenSeen := true
          receivedResponseCount := st.receivedResponseCount + 1 }
      | .done => { st with scanner := .closing false, endReason := st.endReason.set .done }
    | _ => st
  | .send => match st.scanner with
    | .sending data =>
      if st.dataChan.length < dataChanSize then
        { st with scanner := .reading, dataChan := st.dataChan ++ [data] }
      else st
    | _ => st
  | .giveUp => match st.scanner with
    | .sending _ =>
      if st.stopped || st.cancelled then { st with scanner := .closing false } else st
    | _ => st
  | .close => match st.scanner with
    | .closing panicked => { st with scanner := .finishing panicked, dataClosed := true }
    | _ => st
  | .done => match st.scanner with
    | .finishing panicked => { st with scanner := .recovering panicked }
    | _ => st
  | .exit => match st.scanner with
    | .recovering panicked => { st with
        scanner := .exited
        stopped := true
        endReason := if panicked then st.endReason.set .panic else st.endReason }
    | _ => st
  | .panic => match st.scanner with
    | .reading | .checking _ | .passed _ | .sending _ => { st with scanner := .closing true }
    | _ => st

def handlerStep : HandlerAct → StreamState
  | .receive => match st.handler, st.dataChan with
    | .waiting, data :: rest => { st with handler := .received data, dataChan := rest }
    | _, _ => st
  | .rangeEnd => match st.handler, st.dataChan with
    | .waiting, [] => if st.dataClosed then { st with handler := .leaving false } else st
    | _, _ => st
  | .call => match st.handler with
    | .received data =>
      if st.writeMutex then st
      else { st with
        handler := .calling data false
        writeMutex := true
        calls := st.calls ++ [data] }
    | _ => st
  | .ask reason => match st.handler with
    | .calling data _ =>
      if reason = .handlerStop || reason = .done then
        { st with
          handler := .calling data true
          quit := true
          endReason := st.endReason.set reason }
      else st
    | _ => st
  | .callEnd => match st.handler with
    | .calling _ stopped => { st with
        handler := if stopped then .leaving false else .waiting
        writeMutex := false
        quit := st.quit || stopped }
    | _ => st
  -- a panic leaves the mutex locked
  | .panic => match st.handler with
    | .calling _ _ => { st with handler := .leaving true, quit := true }
    | _ => st
  | .done => match st.handler with
    | .leaving panicked => { st with handler := .recovering panicked }
    | _ => st
  | .exit => match st.handler with
    | .recovering panicked => { st with
        handler := .exited
        stopped := true
        endReason := if panicked then st.endReason.set .panic else st.endReason }
    | _ => st

/-- The ping goroutine. `pingEnabled` is the switch of the regular pings; without
it the pings end with the first token. -/
def pingStep (pingEnabled : Bool) : PingAct → StreamState
  | .tick => match st.ping with
    | .idle =>
      if !pingEnabled && st.firstTokenSeen then { st with ping := .exited }
      else { st with ping := .writing, writer := .locking }
    | _ => st
  | .writerLock => match st.writer with
    | .locking => if st.writeMutex then st else { st with writer := .writing, writeMutex := true }
    | _ => st
  | .writerEnd failed => match st.writer with
    | .writing => { st with writer := .answered failed, writeMutex := false }
    | _ => st
  | .answer => match st.ping, st.writer with
    | .writing, .answered failed =>
      if failed then { st with ping := .exited, endReason := st.endReason.set .pingFail }
      else { st with ping := .idle, writer := .none }
    | _, _ => st
  | .sendTimeout => match st.ping with
    | .writing => { st with ping := .exited, endReason := st.endReason.set .pingFail }
    | _ => st
  -- while idle it also leaves after its longest duration, at any time
  | .leave => match st.ping with
    | .idle => { st with ping := .exited }
    | .writing => if st.stopped || st.cancelled then { st with ping := .exited } else st
    | _ => st
  | .panic => match st.ping with
    | .idle | .writing => { st with ping := .recovering }
    | _ => st
  | .recover => match st.ping with
    | .recovering => { st with
        ping := .exited
        stopped := true
        endReason := st.endReason.set .panic }
    | _ => st

/-- The wait loop and the deferred cleanup, which first cancels the context and
closes the stop channel. -/
def waitStep : WaitAct → StreamState
  | .timeout => match st.wait with
    | .waiting => { st with wait := .leaving, endReason := st.endReason.set .timeout }
    | _ => st
  | .stopSeen => match st.wait with
    | .waiting => if st.stopped then { st with wait := .leaving } else st
    | _ => st
  | .clientSeen => match st.wait with
    | .waiting =>
      if st.clientGone then { st with wait := .leaving, endReason := st.endReason.set .clientGone }
      else st
    | _ => st
  | .firstChunk => match st.wait with
    | .waiting =>
      if st.firstChunkTimer then
        { st with
          firstChunkTimer := false
          wait := if st.firstTokenSeen then .waiting else .expired }
      else st
    | _ => st
  | .expire => match st.wait with
    | .expired => { st with wait := .leaving, endReason := st.endReason.set .firstChunkTimeout }
    | _ => st
  | .leave => match st.wait with
    | .leaving => { st with wait := .cleanup, cancelled := true, stopped := true }
    | _ => st
  | .joined => match st.wait with
    | .cleanup =>
      if st.scanner.isDone && st.handler.isDone && st.ping.isDone then { st with wait := .returned }
      else st
    | _ => st
  -- five seconds have passed
  | .waitTimeout => match st.wait with
    | .cleanup => { st with wait := .returned }
    | _ => st

def step (pingEnabled : Bool) (st : StreamState) : StreamAct → StreamState
  | .scanner act => st.scannerStep act
  | .handler act => st.handlerStep act
  | .ping act => st.pingStep pingEnabled act
  | .wait act => st.waitStep act
  | .clientLeaves => { st with clientGone := true }

/-- What the attempt leaves of its stream. -/
def outcome : StreamOutcome where
  isStream := true
  endReason := st.endReason
  receivedResponseCount := st.receivedResponseCount

end StreamState

/-- `StreamScannerHandler` at its beginning. `keepalive` is off only for a
request that disables pings. -/
def streamScannerHandler (lines : List String) (firstChunkTimeoutSeconds : Nat)
    (keepalive : Bool) : StreamState where
  lines := lines
  firstChunkTimer := 0 < firstChunkTimeoutSeconds
  ping := if keepalive then .idle else .exited

/-! ## The books of a stream -/

theorem StreamEndReason.set_eq {old new reason : StreamEndReason} (h : old.set new = reason) :
    old = reason ∨ new = reason := by
  unfold StreamEndReason.set at h
  split at h
  · exact .inr h
  · exact .inl h

section

variable (st : StreamState)

/-- The data of the lines the scanner has still to send, while it is scanning. -/
def StreamState.ahead : Option (List String) :=
  match st.scanner with
  | .reading => some (dataLines st.lines)
  | .checking line | .passed line => some (dataLines (line :: st.lines))
  | .sending data => some (data :: dataLines st.lines)
  | _ => none

/-- What the handler has taken and not passed on yet. -/
def HandlerPhase.held : HandlerPhase → List String
  | .received data => [data]
  | _ => []

/-- The data that has left the scanner, in order. -/
def StreamState.sent : List String :=
  st.calls ++ st.handler.held ++ st.dataChan

def HandlerPhase.Gone : HandlerPhase → Prop
  | .leaving _ | .recovering _ | .exited => True
  | _ => False

instance : DecidablePred HandlerPhase.Gone
  | .leaving _ | .recovering _ | .exited => isTrue trivial
  | .waiting | .received _ | .calling _ _ => isFalse id

/-- The scanner may still send something without looking at the stop channel. -/
def ScannerPhase.Loaded : ScannerPhase → Prop
  | .passed _ | .sending _ => True
  | _ => False

instance : DecidablePred ScannerPhase.Loaded
  | .passed _ | .sending _ => isTrue trivial
  | .reading | .checking _ | .closing _ | .finishing _ | .recovering _ | .exited => isFalse id

/-- The handler is through: it is gone, or it waits and nothing is on the way. -/
def StreamState.Idle : Prop :=
  st.handler.Gone ∨ st.handler = .waiting ∧ st.dataChan = [] ∧ ¬ st.scanner.Loaded

instance : DecidablePred StreamState.Idle :=
  fun _ => inferInstanceAs (Decidable (_ ∨ _))

def StreamState.Overdue : Prop :=
  st.wait = .expired ∨ st.endReason = .firstChunkTimeout

instance : DecidablePred StreamState.Overdue :=
  fun _ => inferInstanceAs (Decidable (_ ∨ _))

def StreamState.takesData : Bool :=
  match st.scanner with
  | .passed line => match lineKind line with
    | .data _ => true
    | _ => false
  | _ => false

end

/-- The books of a stream that began with the lines `input`. -/
structure StreamBooks (input : List String) (st : StreamState) : Prop where
  ahead : ∀ rest, st.ahead = some rest → st.sent ++ rest = dataLines input
  complete : st.endReason = .done ∨ st.endReason = .eof →
    st.quit = true ∨ st.ahead = none ∧ st.sent = dataLines input
  closed : st.dataClosed = true → st.ahead = none
  gone : st.handler.Gone → st.quit = true ∨ st.dataChan = [] ∧ st.dataClosed = true
  cleanup : st.wait = .cleanup → st.stopped = true
  returned : st.wait = .returned → st.stopped = true ∧ st.Idle
  unseen : st.firstTokenSeen = false → st.sent = [] ∧ st.receivedResponseCount = 0 ∧
    ∀ data, st.scanner ≠ .sending data
  overdue : st.Overdue → st.firstTokenSeen = false

/-- No data line comes once the first chunk was found overdue. -/
def FirstChunkInTime (st : StreamState) (act : StreamAct) : Prop :=
  act = .scanner .process → st.takesData = true → ¬ st.Overdue

/-- The five seconds of the cleanup are enough for the handler. -/
def HandledInTime (st : StreamState) (act : StreamAct) : Prop :=
  act = .wait .waitTimeout → st.Idle

instance : Decidable (FirstChunkInTime st act) := inferInstanceAs (Decidable (_ → _ → _))

instance : Decidable (HandledInTime st act) := inferInstanceAs (Decidable (_ → _))

open StreamState

open HandlerPhase

namespace StreamBooks

variable {input : List String} {st : StreamState}

theorem start (lines : List String) (seconds : Nat) (keepalive : Bool) :
    StreamBooks lines (streamScannerHandler lines seconds keepalive) where
  ahead rest h := by cases h; rfl
  complete h := by rcases h with h | h <;> cases h
  closed h := by cases h
  gone h := h.elim
  cleanup h := by cases h
  returned h := by cases h
  unseen _ := ⟨rfl, rfl, fun _ h => by cases h⟩
  overdue h := by rcases h with h | h <;> cases h

variable (h : StreamBooks input st)
include h

/-- A reason that is neither a normal end nor a late first chunk changes
nothing in the books. -/
theorem ends {reason : StreamEndReason} (hdone : reason ≠ .done) (heof : reason ≠ .eof)
    (hintime : reason ≠ .firstChunkTimeout) :
    StreamBooks input { st with endReason := st.endReason.set reason } :=
  { h with
    complete := by
      intro hend
      refine h.complete (hend.imp (fun hend => ?_) fun hend => ?_)
      · exact (StreamEndReason.set_eq hend).resolve_right hdone
      · exact (StreamEndReason.set_eq hend).resolve_right heof
    overdue := by
      intro hover
      refine h.overdue (hover.imp id fun hend => ?_)
      exact (StreamEndReason.set_eq hend).resolve_right hintime }

theorem stop : StreamBooks input { st with stopped := true } := { h with
  cleanup := fun _ => rfl
  returned := fun hwait => ⟨rfl, (h.returned hwait).2⟩ }

theorem close (phase : ScannerPhase) (hphase : ¬ phase.Loaded)
    (hnone : { st with scanner := phase }.ahead = none) :
    StreamBooks input { st with scanner := phase } :=
  { h with
    ahead := by
      intro rest hrest
      rw [hnone] at hrest
      cases hrest
    complete := fun hend => (h.complete hend).imp id fun hsent => ⟨hnone, hsent.2⟩
    closed := fun _ => hnone
    returned := by
      intro hwait
      obtain ⟨hstop, hidle⟩ := h.returned hwait
      exact ⟨hstop, hidle.imp id fun hidle => ⟨hidle.1, hidle.2.1, hphase⟩⟩
    unseen := by
      intro hseen
      obtain ⟨hsent, hcnt, -⟩ := h.unseen hseen
      refine ⟨hsent, hcnt, ?_⟩
      rintro data rfl
      exact hphase trivial }

/-- A scanner that goes on with the same lines ahead. It comes past its look at
the stop channel only while that is open. -/
theorem scan {lines phase} (hahead : { st with lines, scanner := phase }.ahead = st.ahead)
    (hload : phase.Loaded → st.stopped = false) (hsend : ∀ data, phase ≠ .sending data) :
    StreamBooks input { st with lines, scanner := phase } :=
  { h with
    ahead := fun rest hrest => h.ahead rest (hahead ▸ hrest)
    complete := fun hend => (h.complete hend).imp id fun hsent => ⟨hahead.trans hsent.1, hsent.2⟩
    closed := fun hclose => hahead.trans (h.closed hclose)
    returned := by
      intro hwait
      obtain ⟨hstop, hidle⟩ := h.returned hwait
      refine ⟨hstop, hidle.imp id fun hidle => ⟨hidle.1, hidle.2.1, fun hphase => ?_⟩⟩
      have hopen : st.stopped = false := hload hphase
      rw [hopen] at hstop
      cases hstop
    unseen := fun hseen => ⟨(h.unseen hseen).1, (h.unseen hseen).2.1, hsend⟩ }

theorem finish (hahead : st.ahead = some []) (reason : StreamEndReason)
    (hreason : reason ≠ .firstChunkTimeout) :
    StreamBooks input
      { st with scanner := .closing false, endReason := st.endReason.set reason } := by
  have hsent : st.sent = dataLines input := by simpa using h.ahead [] hahead
  have hclose := h.close (.closing false) id rfl
  exact { hclose with
    complete := fun _ => .inr ⟨rfl, hsent⟩
    overdue := fun hover => h.overdue (hover.imp id fun hend =>
      (StreamEndReason.set_eq hend).resolve_right hreason) }

theorem send (hscan : st.scanner = .sending data) :
    StreamBooks input { st with scanner := .reading, dataChan := st.dataChan ++ [data] } := by
  have hahead : st.ahead = some (data :: dataLines st.lines) := by
    simp only [StreamState.ahead, hscan]
  have hopen : st.ahead ≠ none := by simp [hahead]
  exact { h with
    ahead := by
      rintro rest hrest
      cases hrest
      simpa [sent] using h.ahead _ hahead
    complete := fun hend => (h.complete hend).imp id fun hsent => absurd hsent.1 hopen
    closed := fun hclose => absurd (h.closed hclose) hopen
    gone := fun hgone => (h.gone hgone).imp id fun hemp => absurd (h.closed hemp.2) hopen
    returned := by
      intro hwait
      obtain ⟨hstop, hidle⟩ := h.returned hwait
      refine ⟨hstop, .inl (hidle.resolve_right fun hidle => hidle.2.2 ?_)⟩
      rw [hscan]
      trivial
    unseen := fun hseen => absurd hscan ((h.unseen hseen).2.2 data) }

/-- A data line is counted before it is sent. -/
theorem count (hscan : st.scanner = .passed line)
    (hkind : lineKind line = .data text) (hintime : ¬ st.Overdue) :
    StreamBooks input { st with
      scanner := .sending text
      firstTokenSeen := true
      receivedResponseCount := st.receivedResponseCount + 1 } := by
  have hahead : st.ahead = some (text :: dataLines st.lines) := by
    simp only [StreamState.ahead, hscan, dataLines, hkind]
  exact { h with
    ahead := fun rest hrest => h.ahead rest (hahead.trans hrest)
    complete := fun hend => (h.complete hend).imp id fun hsent => by
      rw [hahead] at hsent
      cases hsent.1
    closed := fun hclose => by
      have hnone := h.closed hclose
      rw [hahead] at hnone
      cases hnone
    returned := by
      intro hwait
      obtain ⟨hstop, hidle⟩ := h.returned hwait
      refine ⟨hstop, .inl (hidle.resolve_right fun hidle => hidle.2.2 ?_)⟩
      rw [hscan]
      trivial
    unseen := fun hseen => by cases hseen
    overdue := fun hover => absurd hover hintime }

theorem scannerStep (act : ScannerAct) (hintime : FirstChunkInTime st (.scanner act)) :
    StreamBooks input (st.scannerStep act) := by
  cases act with simp only [StreamState.scannerStep]
  | scan =>
    split
    · rename_i hscan hlines
      refine h.scan ?_ False.elim (fun _ hphase => by cases hphase)
      simp only [StreamState.ahead, hscan, hlines]
    · exact h
  | scanEnd failed =>
    split
    · rename_i hscan
      split
      · exact (h.close (.closing false) id rfl).ends (by decide) (by decide) (by decide)
      split
      · rename_i hlines
        refine h.finish ?_ .eof (by decide)
        simp only [StreamState.ahead, hscan, hlines, dataLines]
      · exact h
    · exact h
  | check branch =>
    split
    · rename_i hscan
      have hclose := h.close (.closing false) id rfl
      split
      · split
        · exact hclose
        · exact h
      · split
        · exact hclose
        · exact h
      · split
        · exact hclose.ends (by decide) (by decide) (by decide)
        · exact h
      split
      · exact h
      rename_i hopen
      refine h.scan ?_ (fun _ => ?_) (fun _ hphase => by cases hphase)
      · simp only [StreamState.ahead, hscan]
      · simp only [Bool.or_eq_true, not_or, Bool.not_eq_true] at hopen
        exact hopen.1.1
    · exact h
  | process =>
    split
    · rename_i hscan
      split
      · rename_i hkind
        refine h.scan ?_ False.elim (fun _ hphase => by cases hphase)
        simp only [StreamState.ahead, hscan, dataLines, hkind]
      · rename_i hkind
        refine h.count hscan hkind (hintime rfl ?_)
        simp only [takesData, hscan, hkind]
      · rename_i hkind
        refine h.finish ?_ .done (by decide)
        simp only [StreamState.ahead, hscan, dataLines, hkind]
    · exact h
  | send =>
    split
    · rename_i hscan
      split
      · exact h.send hscan
      · exact h
    · exact h
  | giveUp =>
    split
    · split
      · exact h.close (.closing false) id rfl
      · exact h
    · exact h
  | close =>
    split
    · rename_i panicked hscan
      have hclose := h.close (.finishing panicked) id rfl
      exact { hclose with
        closed := fun _ => rfl
        gone := fun hgone => (h.gone hgone).imp id fun hemp => ⟨hemp.1, rfl⟩ }
    · exact h
  | done =>
    split
    · rename_i panicked _
      exact h.close (.recovering panicked) id rfl
    · exact h
  | exit =>
    split
    · rename_i panicked hscan
      have hexit := (h.close .exited id rfl).stop
      cases panicked with
      | false => exact hexit
      | true => exact hexit.ends (by decide) (by decide) (by decide)
    · exact h
  | panic =>
    split
    · exact h.close (.closing true) id rfl
    · exact h.close (.closing true) id rfl
    · exact h.close (.closing true) id rfl
    · exact h.close (.closing true) id rfl
    · exact h

/-- A handler that changes its phase and passes on what it held. -/
theorem handle {phase dataChan calls mutex quit}
    (hsent : { st with handler := phase, dataChan, calls }.sent = st.sent)
    (hquit : st.quit = true → quit = true)
    (hgone : phase.Gone → quit = true ∨ dataChan = [] ∧ st.dataClosed = true)
    (hidle : st.Idle → phase.Gone) :
    StreamBooks input { st with handler := phase, dataChan, calls, writeMutex := mutex, quit } :=
  { h with
    ahead := fun rest hrest => (congrArg (· ++ rest) hsent).trans (h.ahead rest hrest)
    complete := fun hend => (h.complete hend).imp hquit fun hall => ⟨hall.1, hsent.trans hall.2⟩
    gone := hgone
    returned := fun hwait => ⟨(h.returned hwait).1, .inl (hidle (h.returned hwait).2)⟩
    unseen := fun hseen => ⟨hsent.trans (h.unseen hseen).1, (h.unseen hseen).2⟩ }

theorem handlerStep (act : HandlerAct) : StreamBooks input (st.handlerStep act) := by
  -- in a call, or just before it, the handler is not idle
  have hbusy : ∀ {phase : HandlerPhase}, st.handler = phase → ¬ phase.Gone → phase ≠ .waiting →
      ¬ st.Idle := by
    rintro _ rfl hgone hwaiting (hidle | hidle)
    · exact hgone hidle
    · exact hwaiting hidle.1
  cases act with simp only [StreamState.handlerStep]
  | receive =>
    split
    · rename_i data rest hhand hchan
      refine h.handle ?_ id False.elim ?_
      · simp [sent, held, hhand, hchan]
      rintro (hidle | hidle)
      · rw [hhand] at hidle
        exact hidle
      · rw [hchan] at hidle
        cases hidle.2.1
    · exact h
  | rangeEnd =>
    split
    · rename_i hhand hchan
      split
      · rename_i hclose
        refine h.handle ?_ id (fun _ => .inr ⟨hchan, hclose⟩) fun _ => trivial
        simp [sent, held, hhand]
      · exact h
    · exact h
  | call =>
    split
    · rename_i data hhand
      split
      · exact h
      refine h.handle ?_ id False.elim fun hidle =>
        absurd hidle (hbusy hhand id (fun hphase => by cases hphase))
      simp [sent, held, hhand]
    · exact h
  | ask reason =>
    split
    · rename_i data stopped hhand
      split
      · rename_i hreason
        have hintime : reason ≠ .firstChunkTimeout := by
          rintro rfl
          revert hreason
          decide
        have hasked : StreamBooks input
            { st with handler := .calling data true, quit := true } := by
          refine h.handle ?_ (fun _ => rfl) (fun _ => .inl rfl) fun hidle =>
            absurd hidle (hbusy hhand id (fun hphase => by cases hphase))
          simp [sent, held, hhand]
        exact { hasked with
          complete := fun _ => .inl rfl
          overdue := fun hover => h.overdue (hover.imp id fun hend =>
            (StreamEndReason.set_eq hend).resolve_right hintime) }
      · exact h
    · exact h
  | callEnd =>
    split
    · rename_i data stopped hhand
      have hidle := hbusy hhand id (fun hphase => by cases hphase)
      cases stopped with
      | true =>
        refine h.handle ?_ (fun _ => by simp) (fun _ => .inl (by simp)) fun hi => absurd hi hidle
        simp [sent, held, hhand]
      | false =>
        refine h.handle ?_ (fun hquit => by simp [hquit]) False.elim fun hi => absurd hi hidle
        simp [sent, held, hhand]
    · exact h
  | panic =>
    split
    · rename_i data stopped hhand
      refine h.handle ?_ (fun _ => rfl) (fun _ => .inl rfl) fun _ => trivial
      simp [sent, held, hhand]
    · exact h
  | done =>
    split
    · rename_i panicked hhand
      refine h.handle ?_ id (fun _ => h.gone (by rw [hhand]; trivial)) fun _ => trivial
      simp [sent, held, hhand]
    · exact h
  | exit =>
    split
    · rename_i panicked hhand
      have hexit : StreamBooks input { st with handler := .exited } := by
        refine h.handle ?_ id (fun _ => h.gone (by rw [hhand]; trivial)) fun _ => trivial
        simp [sent, held, hhand]
      cases panicked with
      | false => exact hexit.stop
      | true => exact hexit.stop.ends (by decide) (by decide) (by decide)
    · exact h

/-- **A step of the ping goroutine**, which neither sends nor handles data. -/
theorem pingStep (pingEnabled : Bool) (act : PingAct) :
    StreamBooks input (st.pingStep pingEnabled act) := by
  have hping : ∀ (ping : PingPhase) (writer : WriterPhase) (writeMutex : Bool),
      StreamBooks input { st with ping, writer, writeMutex } := fun _ _ _ => { h with }
  cases act with
  | tick =>
    simp only [StreamState.pingStep]
    split
    · split
      · exact hping _ _ _
      · exact hping _ _ _
    · exact h
  | writerLock =>
    simp only [StreamState.pingStep]
    split
    · split
      · exact h
      · exact hping _ _ _
    · exact h
  | writerEnd =>
    simp only [StreamState.pingStep]
    split
    · exact hping _ _ _
    · exact h
  | answer =>
    simp only [StreamState.pingStep]
    split
    · split
      · exact (hping .exited _ _).ends (by decide) (by decide) (by decide)
      · exact hping _ _ _
    · exact h
  | sendTimeout =>
    simp only [StreamState.pingStep]
    split
    · exact (hping .exited _ _).ends (by decide) (by decide) (by decide)
    · exact h
  | leave =>
    simp only [StreamState.pingStep]
    split
    · exact hping _ _ _
    · split
      · exact hping _ _ _
      · exact h
    · exact h
  | panic =>
    simp only [StreamState.pingStep]
    split
    · exact hping _ _ _
    · exact hping _ _ _
    · exact h
  | recover =>
    simp only [StreamState.pingStep]
    split
    · exact (hping .exited st.writer st.writeMutex).stop.ends (by decide) (by decide) (by decide)
    · exact h

theorem leaving : StreamBooks input { st with wait := .leaving } := { h with
  cleanup := fun hwait => by cases hwait
  returned := fun hwait => by cases hwait
  overdue := fun hover => h.overdue (hover.imp (fun hwait => by cases hwait) id) }

theorem waitStep (act : WaitAct) (hhandled : HandledInTime st (.wait act)) :
    StreamBooks input (st.waitStep act) := by
  cases act with simp only [StreamState.waitStep]
  | timeout =>
    split
    · exact h.leaving.ends (by decide) (by decide) (by decide)
    · exact h
  | stopSeen =>
    split
    · split
      · exact h.leaving
      · exact h
    · exact h
  | clientSeen =>
    split
    · split
      · exact h.leaving.ends (by decide) (by decide) (by decide)
      · exact h
    · exact h
  | firstChunk =>
    split
    · rename_i hwait
      split
      · cases hseen : st.firstTokenSeen with
        | true =>
          exact { h with
            cleanup := fun hwait => by cases hwait
            returned := fun hwait => by cases hwait
            unseen := fun hunseen => h.unseen (hseen.trans hunseen)
            overdue := fun hover => hseen.symm.trans
              (h.overdue (hover.imp (fun hwait => by cases hwait) id)) }
        | false =>
          exact { h with
            cleanup := fun hwait => by cases hwait
            returned := fun hwait => by cases hwait
            unseen := fun _ => h.unseen hseen
            overdue := fun _ => rfl }
      · exact h
    · exact h
  | expire =>
    split
    · rename_i hwait
      exact { h.leaving with
        complete := fun hend => h.complete (hend.imp
          (fun hend => (StreamEndReason.set_eq hend).resolve_right (by decide))
          (fun hend => (StreamEndReason.set_eq hend).resolve_right (by decide)))
        overdue := fun _ => h.overdue (.inl hwait) }
    · exact h
  | leave =>
    split
    · exact { h with
        cleanup := fun _ => rfl
        returned := fun hwait => by cases hwait
        overdue := fun hover => h.overdue (hover.imp (fun hwait => by cases hwait) id) }
    · exact h
  | joined =>
    split
    · rename_i hwait
      split
      · rename_i hdone
        have hgone : st.handler.Gone := by
          cases hhand : st.handler <;> simp_all [HandlerPhase.isDone, HandlerPhase.Gone]
        exact { h with
          cleanup := fun hwait => by cases hwait
          returned := fun _ => ⟨h.cleanup hwait, .inl hgone⟩
          overdue := fun hover => h.overdue (hover.imp (fun hwait => by cases hwait) id) }
      · exact h
    · exact h
  | waitTimeout =>
    split
    · rename_i hwait
      exact { h with
        cleanup := fun hwait => by cases hwait
        returned := fun _ => ⟨h.cleanup hwait, hhandled rfl⟩
        overdue := fun hover => h.overdue (hover.imp (fun hwait => by cases hwait) id) }
    · exact h

theorem step (pingEnabled : Bool) (act : StreamAct)
    (hok : FirstChunkInTime st act ∧ HandledInTime st act) :
    StreamBooks input (StreamState.step pingEnabled st act) := by
  cases act with
  | scanner act => exact h.scannerStep act hok.1
  | handler act => exact h.handlerStep act
  | ping act => exact h.pingStep pingEnabled act
  | wait act => exact h.waitStep act hok.2
  | clientLeaves => exact { h with }

end StreamBooks

/-! ## What a stream delivers -/

/-- **Delivery of a stream**, for every interleaving in which no data line comes
once the first chunk was found overdue, and in which the cleanup waits long
enough for the handler: a stream that ends for its first chunk has handled
nothing, and its attempt is tried again; no call of the data handler is left
when `StreamScannerHandler` has returned; and after a normal end the data of
all lines has been handled, each once and in order. -/
theorem stream_delivers (lines : List String) (seconds : Nat) (keepalive pingEnabled : Bool)
    {run : List StreamAct} (hok : Along (StreamState.step pingEnabled)
      (fun st act => FirstChunkInTime st act ∧ HandledInTime st act)
      (streamScannerHandler lines seconds keepalive) run) :
    let st := exec (StreamState.step pingEnabled) (streamScannerHandler lines seconds keepalive) run
    (st.endReason = .firstChunkTimeout → st.calls = [] ∧
      ∀ (settings : RelaySettings) (req : RelayRequest) (a : Attempt) (channel : Nat)
        (relay : RelayState) (response : Response), a.answer = .ok response →
        a.stream = st.outcome →
        ∃ err, (settings.handle req a channel relay).1 = some err ∧ err.Retryable) ∧
    (st.wait = .returned → ∀ data stopped, st.handler ≠ .calling data stopped) ∧
    (st.wait = .returned → st.endReason = .done ∨ st.endReason = .eof → st.quit = false →
      st.calls = dataLines lines) := by
  intro st
  have h : StreamBooks lines st := Along.invariant (StreamBooks lines)
    (fun _ act hbooks hstep => hbooks.step pingEnabled act hstep) (.start ..) hok
  refine ⟨fun hend => ?_, fun hwait data stopped hcall => ?_, fun hwait hend hquit => ?_⟩
  · obtain ⟨hsent, hcount, -⟩ := h.unseen (h.overdue (.inr hend))
    refine ⟨(List.append_eq_nil_iff.mp (List.append_eq_nil_iff.mp hsent).1).1, ?_⟩
    intro settings req a channel relay response hanswer hstream
    simp only [RelaySettings.handle, hanswer, hstream]
    exact firstChunkTimeout_retryable rfl hend hcount
  · rcases (h.returned hwait).2 with hidle | hidle
    · rw [hcall] at hidle
      exact hidle
    · rw [hcall] at hidle
      cases hidle.1
  obtain ⟨-, hsent⟩ := (h.complete hend).resolve_left (by simp [hquit])
  -- the handler holds nothing, and the channel is empty
  have hdrained : st.handler.held = [] ∧ st.dataChan = [] := by
    rcases (h.returned hwait).2 with hgone | ⟨hwaiting, hempty, -⟩
    · refine ⟨?_, ((h.gone hgone).resolve_left (by simp [hquit])).1⟩
      revert hgone
      cases st.handler <;> simp [HandlerPhase.held, HandlerPhase.Gone]
    · exact ⟨by rw [hwaiting]; rfl, hempty⟩
  simpa [StreamState.sent, hdrained] using hsent

/-- The scanner takes one line as far as the channel. -/
def sampleSend : List StreamAct :=
  [.scanner .scan, .scanner (.check .pass), .scanner .process, .scanner .send]

/-- Two data lines and the end mark, with the second line handled during the
cleanup. -/
def sampleStreamRun : List StreamAct :=
  sampleSend ++ [.handler .receive, .handler .call, .handler .callEnd] ++ sampleSend ++
  [.scanner .scan, .scanner (.check .pass), .scanner .process, .scanner .close, .scanner .done,
    .scanner .exit, .wait .stopSeen, .wait .leave, .ping .leave, .handler .receive,
    .handler .call, .handler .callEnd, .handler .rangeEnd, .handler .done, .wait .joined]

theorem stream_delivers_sample :
    Along (StreamState.step true) (fun st act => FirstChunkInTime st act ∧ HandledInTime st act)
      (streamScannerHandler ["data: one", "data: two", "data: [DONE]"] 60 true)
      sampleStreamRun ∧
    (exec (StreamState.step true)
      (streamScannerHandler ["data: one", "data: two", "data: [DONE]"] 60 true)
      sampleStreamRun).calls = dataLines ["data: one", "data: two", "data: [DONE]"] :=
  ⟨by decide +kernel, (stream_delivers ["data: one", "data: two", "data: [DONE]"] 60 true true
    (by decide +kernel)).2.2 (by decide +kernel) (.inl (by decide +kernel)) (by decide +kernel)⟩

/-- The first chunk comes between the look at `firstTokenSeen` and the end
reason. -/
def sampleLateChunk : List StreamAct :=
  [.wait .firstChunk] ++ sampleSend ++ [.handler .receive, .handler .call, .wait .expire]

/-- The first of two lines is still being handled when the cleanup gives up. -/
def sampleSlowHandler : List StreamAct :=
  sampleSend ++ [.handler .receive, .handler .call] ++ sampleSend ++
  [.scanner (.scanEnd false), .scanner .close, .scanner .done, .scanner .exit,
    .wait .stopSeen, .wait .leave, .wait .waitTimeout]

/-- Without the two conditions each part fails: a late first chunk reaches the
handler of a stream that ends for its first chunk, and no error is made of it;
and a handler that needs more than five seconds is still at work, with a line
to come, when `StreamScannerHandler` returns. -/
theorem stream_delivery_races :
    (∃ (lines : List String) (seconds : Nat) (run : List StreamAct),
      let st := exec (StreamState.step true) (streamScannerHandler lines seconds true) run
      st.endReason = .firstChunkTimeout ∧ st.calls ≠ [] ∧ st.outcome.error seconds = none) ∧
    ∃ (lines : List String) (seconds : Nat) (run : List StreamAct),
      let st := exec (StreamState.step true) (streamScannerHandler lines seconds true) run
      st.wait = .returned ∧ (∃ data, st.handler = .calling data false) ∧
        st.endReason = .eof ∧ st.quit = false ∧ st.calls ≠ dataLines lines := by
  refine ⟨⟨["data: one"], 60, sampleLateChunk, ?_⟩,
    ⟨["data: one", "data: two"], 0, sampleSlowHandler, ?_⟩⟩
  · refine ⟨by decide +kernel, by decide +kernel, if_neg (by decide +kernel)⟩
  · refine ⟨by decide +kernel, ⟨"one", by decide +kernel⟩, by decide +kernel, by decide +kernel,
      by decide +kernel⟩

end HermesToken.Relay
