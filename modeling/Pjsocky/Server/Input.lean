import Pjsocky.Framing.Buffer

/-!
# Reading from the control connection

`handleConnInput` is `handle_conn_input` of `server.c`, with the two things it
does to the rest of the server as a parameter: `handle_line` for a complete line
and the error event for an oversized one. `serve` is what the server loop does to
one connection: a call each time it selects readable, until one asks to drop it.

The result lists the lines that were handled; a handler that records its calls has
the same list (`serve_recording`). `serve_lines` says that however the kernel cuts
the stream, the lines handled are those of the reference splitter, up to the first
overflow.
-/

namespace Pjsocky

open Support Support.LineSplit

/-- What `handle_conn_input` calls, acting on the rest of the server. The number is
the position of the line among those of one call. -/
structure LineHandler (σ : Type) where
  /-- `handle_line`, on the connection as it stands after the extraction. -/
  handleLine : Nat → Framing → Bytes → σ → Status × σ
  /-- `push_error_event` for a line that exceeds the maximum length. -/
  pushOversized : Framing → σ → σ

/-- The outcome of reading: the status, the new states, and as a record the lines
that were handled and the number of oversize events pushed. -/
structure InputResult (σ : Type) where
  status : Status
  framing : Framing
  state : σ
  delivered : List Bytes
  oversized : Nat

variable {σ : Type} (handler : LineHandler σ)

/-- The `for (;;)` loop of `handle_conn_input`. Each extraction consumes a byte, so
one more iteration than buffered bytes suffices. -/
def drain : Nat → Nat → Framing → σ → InputResult σ
  | 0, _, framing, state => ⟨.success, framing, state, [], 0⟩
  | fuel + 1, index, framing, state =>
      match framing.extractLine with
      | (.pending, framing) => ⟨.success, framing, state, [], 0⟩
      | (.tooBig, framing) =>
          ⟨.etoobig, framing, handler.pushOversized framing state, [], 1⟩
      | (.line ref, framing) =>
          let line := framing.line ref
          let (status, state) := handler.handleLine index framing line state
          if status = .success then
            let later := drain fuel (index + 1) framing state
            { later with delivered := line :: later.delivered }
          else ⟨status, framing, state, [line], 0⟩

/-- `handle_conn_input`. -/
def handleConnInput (outcome : RecvOutcome) (framing : Framing) (state : σ) : InputResult σ :=
  match framing.fill outcome with
  | (.epending, framing) => ⟨.success, framing, state, [], 0⟩
  | (.success, framing) => drain handler (framing.len + 1) 0 framing state
  | (status, framing) => ⟨status, framing, state, [], 0⟩

/-- The calls of `handle_conn_input` on one connection, up to the first that asks
to drop it. -/
def serve : List RecvOutcome → Framing → σ → InputResult σ
  | [], framing, state => ⟨.success, framing, state, [], 0⟩
  | outcome :: rest, framing, state =>
      let now := handleConnInput handler outcome framing state
      if now.status = .success then
        let later := serve rest now.framing now.state
        { later with
          delivered := now.delivered ++ later.delivered
          oversized := now.oversized + later.oversized }
      else now

/-- A read that returns data returns between one byte and the free capacity; the
only failure is a spurious wakeup. -/
def Chunk (framing : Framing) : RecvOutcome → Prop
  | .received bytes => bytes ≠ [] ∧ bytes.length ≤ maxLine - framing.len
  | .failed status => isWouldBlock status = true

/-- Every read made before the connection is dropped is a chunk. -/
def Chunked : List RecvOutcome → Framing → σ → Prop
  | [], _, _ => True
  | outcome :: rest, framing, state =>
      Chunk framing outcome ∧
        let now := handleConnInput handler outcome framing state
        now.status = .success → Chunked rest now.framing now.state

/-- The bytes of the stream, in the order the kernel gave them. -/
def received : List RecvOutcome → Bytes
  | [] => []
  | .received bytes :: rest => bytes ++ received rest
  | .failed _ :: rest => received rest

/-- `handle_line` always keeps the connection. -/
def LineHandler.Keeps : Prop :=
  ∀ index framing line state, (handler.handleLine index framing line state).1 = .success

variable {handler}

/-- An extraction takes the first of the complete lines. -/
theorem completeLines_extractLine {framing next : Framing} {ref : LineRef}
    (extraction : framing.extractLine = (.line ref, next)) :
    completeLines lineFeed framing.unconsumed =
      next.line ref :: completeLines lineFeed next.unconsumed := by
  by_cases member : lineFeed ∈ framing.unconsumed
  · obtain ⟨line, rest, absent, content⟩ := exists_cut member
    obtain ⟨found, extracted, same, isLine, isRest, -⟩ :=
      Framing.extractLine_line absent content
    obtain ⟨sameRef, sameNext⟩ := Prod.mk.inj (same.symm.trans extraction)
    cases sameRef
    cases sameNext
    rw [content, completeLines_cut absent, isLine, isRest]
  · by_cases room : framing.len < maxLine
    · rw [Framing.extractLine_pending member room] at extraction
      cases extraction
    · rw [Framing.extractLine_tooBig member (Nat.le_of_not_lt room)] at extraction
      cases extraction

section Rule

variable {kept dropped : σ → Prop} {sock timeout : Nat} {lines : List Bytes}
  (line : ∀ index (framing : Framing) text state,
    framing.sock = sock → framing.writeTimeoutMsec = timeout → lines[index]? = some text →
    kept state →
    let result := handler.handleLine index framing text state
    if result.1 = .success then kept result.2 else dropped result.2)
  (oversized : ∀ (framing : Framing) state,
    framing.sock = sock → framing.writeTimeoutMsec = timeout → kept state →
    dropped (handler.pushOversized framing state))

include line oversized

/-- The rule for the drain loop: what every call it makes keeps as long as the
connection is kept, and what holds once it is to be dropped. The lines handled are
the complete lines of the buffer in order, and the connection's socket and deadline
stay what they are. -/
theorem drain_rule {fuel index : Nat} {framing : Framing} {state : σ}
    (sameSock : framing.sock = sock) (sameTimeout : framing.writeTimeoutMsec = timeout)
    (buffered : completeLines lineFeed framing.unconsumed = lines.drop index)
    (holds : kept state) :
    let result := drain handler fuel index framing state
    (if result.status = .success then kept result.state else dropped result.state) ∧
      result.framing.sock = sock ∧ result.framing.writeTimeoutMsec = timeout := by
  induction fuel generalizing index framing state with
  | zero => simp [drain, holds, sameSock, sameTimeout]
  | succ fuel ih =>
      have sockKept := framing.extractLine_sock
      have timeoutKept := framing.extractLine_writeTimeoutMsec
      unfold drain
      split <;> rename_i next extraction <;> rw [extraction] at sockKept timeoutKept <;>
        simp only [sameSock, sameTimeout] at sockKept timeoutKept
      · simp [holds, sockKept, timeoutKept]
      · simp [oversized next state sockKept timeoutKept holds, sockKept, timeoutKept]
      · rename_i ref
        rw [completeLines_extractLine extraction] at buffered
        have first : lines[index]? = some (next.line ref) := by
          rw [← List.head?_drop, ← buffered, List.head?_cons]
        have others : completeLines lineFeed next.unconsumed = lines.drop (index + 1) := by
          rw [← List.tail_drop, ← buffered, List.tail_cons]
        have handled := line index next (next.line ref) state sockKept timeoutKept first holds
        simp only at handled ⊢
        split at handled
        · rename_i keeps
          simpa [keeps] using ih sockKept timeoutKept others handled
        · rename_i drops
          simp [drops, handled, sockKept, timeoutKept]

/-- The rule for `handle_conn_input`. -/
theorem handleConnInput_rule (weaken : ∀ state, kept state → dropped state)
    {outcome : RecvOutcome} {framing : Framing} {state : σ} (sameSock : framing.sock = sock)
    (sameTimeout : framing.writeTimeoutMsec = timeout)
    (buffered : completeLines lineFeed (framing.fill outcome).2.unconsumed = lines)
    (holds : kept state) :
    let result := handleConnInput handler outcome framing state
    (if result.status = .success then kept result.state else dropped result.state) ∧
      result.framing.sock = sock ∧ result.framing.writeTimeoutMsec = timeout := by
  have sockKept := framing.fill_sock outcome
  have timeoutKept := framing.fill_writeTimeoutMsec outcome
  unfold handleConnInput
  rcases filling : framing.fill outcome with ⟨status, next⟩
  rw [filling] at sockKept timeoutKept buffered
  simp only [sameSock, sameTimeout] at sockKept timeoutKept
  cases status with
  | epending => simp [holds, sockKept, timeoutKept]
  | success => exact drain_rule line oversized sockKept timeoutKept buffered holds
  | _ => simp [weaken state holds, sockKept, timeoutKept]

end Rule

section Recording

/-- The same handler, with a record of its calls: the lines it was given and how often it was
to report an oversized one. -/
def LineHandler.recording (handler : LineHandler σ) : LineHandler (σ × List Bytes × Nat) where
  handleLine index framing line state :=
    let result := handler.handleLine index framing line state.1
    (result.1, result.2, state.2.1 ++ [line], state.2.2)
  pushOversized framing state := (handler.pushOversized framing state.1, state.2.1, state.2.2 + 1)

/-- A result in which the record shows the calls it reports. -/
def InputResult.recorded (result : InputResult σ) (lines : List Bytes) (oversized : Nat) :
    InputResult (σ × List Bytes × Nat) where
  status := result.status
  framing := result.framing
  state := (result.state, lines ++ result.delivered, oversized + result.oversized)
  delivered := result.delivered
  oversized := result.oversized

theorem drain_recording (fuel index : Nat) (framing : Framing) (state : σ) (lines : List Bytes)
    (oversized : Nat) :
    drain handler.recording fuel index framing (state, lines, oversized) =
      (drain handler fuel index framing state).recorded lines oversized := by
  induction fuel generalizing index framing state lines with
  | zero => simp [drain, InputResult.recorded]
  | succ fuel ih =>
      unfold drain
      rcases framing.extractLine with ⟨extraction, next⟩
      cases extraction with
      | pending => simp [InputResult.recorded]
      | tooBig => simp [LineHandler.recording, InputResult.recorded]
      | line ref =>
          dsimp only [LineHandler.recording]
          split
          · rw [← LineHandler.recording, ih]
            simp [InputResult.recorded]
          · simp [InputResult.recorded]

theorem handleConnInput_recording (outcome : RecvOutcome) (framing : Framing) (state : σ)
    (lines : List Bytes) (oversized : Nat) :
    handleConnInput handler.recording outcome framing (state, lines, oversized) =
      (handleConnInput handler outcome framing state).recorded lines oversized := by
  unfold handleConnInput
  split
  · simp [InputResult.recorded]
  · exact drain_recording _ _ _ _ _ _
  · simp [InputResult.recorded]

/-- What a result reports is what the handler was called with. -/
theorem serve_recording (outcomes : List RecvOutcome) (framing : Framing) (state : σ)
    (lines : List Bytes) (oversized : Nat) :
    serve handler.recording outcomes framing (state, lines, oversized) =
      (serve handler outcomes framing state).recorded lines oversized := by
  induction outcomes generalizing framing state lines oversized with
  | nil => simp [serve, InputResult.recorded]
  | cons outcome rest ih =>
      have now := @handleConnInput_recording σ handler outcome framing state lines oversized
      by_cases keeps : (handleConnInput handler outcome framing state).status = .success
      · simp [serve, now, InputResult.recorded, keeps, ih, Nat.add_assoc]
      · simp [serve, now, InputResult.recorded, keeps]

end Recording

/-- What both calls keep, `handle_conn_input` keeps. -/
theorem handleConnInput_invariant {kept : σ → Prop}
    (line : ∀ index framing text state, kept state →
      kept (handler.handleLine index framing text state).2)
    (oversized : ∀ framing state, kept state → kept (handler.pushOversized framing state))
    (outcome : RecvOutcome) (framing : Framing) {state : σ} (holds : kept state) :
    kept (handleConnInput handler outcome framing state).state := by
  have ruled := @handleConnInput_rule σ handler kept kept framing.sock framing.writeTimeoutMsec _
    (fun index framing text state _ _ _ holds => by simpa using line index framing text state holds)
    (fun framing state _ _ holds => oversized framing state holds) (fun _ holds => holds) outcome
    framing state rfl rfl rfl holds
  simpa using ruled.1

/-- Draining delivers the complete lines of the buffer; it then keeps the
unfinished tail, or drops a full buffer that has none. -/
theorem drain_lines (keeps : handler.Keeps) {fuel index : Nat} {framing : Framing} {state : σ}
    (enough : framing.len < fuel) :
    let result := drain handler fuel index framing state
    result.delivered = completeLines lineFeed framing.unconsumed ∧
      if (unfinished lineFeed framing.unconsumed).length < maxLine then
        result.status = .success ∧ result.oversized = 0 ∧
          result.framing.unconsumed = unfinished lineFeed framing.unconsumed
      else result.status = .etoobig ∧ result.oversized = 1 := by
  induction fuel generalizing index framing state with
  | zero => omega
  | succ fuel ih =>
      by_cases member : lineFeed ∈ framing.unconsumed
      · obtain ⟨line, rest, absent, content⟩ := exists_cut member
        obtain ⟨ref, extracted, extraction, isLine, isRest, shorter⟩ :=
          Framing.extractLine_line absent content
        have kept := keeps index extracted line state
        have later := @ih (index + 1) extracted
          (handler.handleLine index extracted line state).2 (by omega)
        rw [isRest] at later
        rw [content, completeLines_cut absent, unfinished_cut]
        simpa [drain, extraction, isLine, kept] using later
      · rw [completeLines_of_not_mem member, unfinished_of_not_mem member]
        by_cases room : framing.len < maxLine
        · simp [drain, Framing.extractLine_pending member room, room]
        · simp [drain, Framing.extractLine_tooBig member (Nat.le_of_not_lt room), room]

/-- A spurious wakeup handles nothing and keeps the buffered bytes. -/
theorem handleConnInput_wouldBlock {framing : Framing} {state : σ} {status : Failure}
    (blocked : isWouldBlock status = true) (room : framing.len < maxLine) :
    handleConnInput handler (.failed status) framing state =
      ⟨.success, framing.reclaim, state, [], 0⟩ := by
  simp [handleConnInput, Framing.fill_wouldBlock blocked room]

/-- A chunk is handled as the buffered tail followed by it. -/
theorem handleConnInput_received (keeps : handler.Keeps) {framing : Framing} {state : σ}
    {chunk : Bytes} (nonempty : chunk ≠ []) (room : framing.len + chunk.length ≤ maxLine) :
    let result := handleConnInput handler (.received chunk) framing state
    let buffered := framing.unconsumed ++ chunk
    result.delivered = completeLines lineFeed buffered ∧
      if (unfinished lineFeed buffered).length < maxLine then
        result.status = .success ∧ result.oversized = 0 ∧
          result.framing.unconsumed = unfinished lineFeed buffered
      else result.status = .etoobig ∧ result.oversized = 1 := by
  obtain ⟨filled, filling, content⟩ := Framing.fill_received nonempty room
  have drained := @drain_lines σ handler keeps (filled.len + 1) 0 filled state (by omega)
  rw [content] at drained
  simpa only [handleConnInput, filling] using drained

/-- What the reads of one connection come to, after the stream `seen` has been
read without overflow and only its unfinished tail is still buffered. -/
private theorem serve_after (keeps : handler.Keeps) {outcomes : List RecvOutcome}
    {framing : Framing} {state : σ} {seen : Bytes}
    (tail : framing.unconsumed = unfinished lineFeed seen)
    (fits : firstOverflow lineFeed maxLine seen = none)
    (chunked : Chunked handler outcomes framing state) :
    let result := serve handler outcomes framing state
    let stream := seen ++ received outcomes
    completeLines lineFeed seen ++ result.delivered =
        completeLines lineFeed (admitted lineFeed maxLine stream) ∧
      if firstOverflow lineFeed maxLine stream = none then
        result.status = .success ∧ result.oversized = 0 ∧
          result.framing.unconsumed = unfinished lineFeed stream
      else result.status = .etoobig ∧ result.oversized = 1 := by
  induction outcomes generalizing framing state seen with
  | nil => simp [serve, received, fits, admitted_of_none fits, tail]
  | cons outcome rest ih =>
      obtain ⟨isChunk, continues⟩ := chunked
      have short : framing.len < maxLine := by
        have below := firstOverflow_eq_none.mp fits seen.length (Nat.le_refl _)
        rwa [List.take_length, ← tail, Framing.length_unconsumed] at below
      cases outcome with
      | failed status =>
          have idle := @handleConnInput_wouldBlock σ handler framing state status isChunk short
          rw [idle] at continues
          have kept : framing.reclaim.unconsumed = unfinished lineFeed seen := by
            rw [Framing.reclaim_unconsumed, tail]
          simpa [serve, received, idle] using ih kept fits (continues rfl)
      | received chunk =>
          have room : framing.len + chunk.length ≤ maxLine := by
            have bounded : chunk.length ≤ maxLine - framing.len := isChunk.2
            omega
          obtain ⟨delivered, outcome⟩ :=
            @handleConnInput_received σ handler keeps framing state chunk isChunk.1 room
          have tailRoom : (unfinished lineFeed seen).length + chunk.length ≤ maxLine := by
            rwa [← tail, Framing.length_unconsumed]
          rw [tail] at delivered outcome
          have lines := completeLines_append lineFeed seen chunk
          rw [← delivered] at lines
          rw [← unfinished_append] at outcome
          simp only [serve, received, ← List.append_assoc]
          split at outcome
          · rename_i below
            obtain ⟨kept, quiet, buffered⟩ := outcome
            have fitsNow := firstOverflow_append_eq_none fits tailRoom below
            have later := ih buffered fitsNow (continues kept)
            simpa [kept, quiet, lines] using later
          · rename_i reached
            obtain ⟨dropped, once⟩ := outcome
            have overflow := firstOverflow_append_eq_some (received rest) fits tailRoom
              (Nat.le_of_not_lt reached)
            have cut : admitted lineFeed maxLine (seen ++ chunk ++ received rest) =
                seen ++ chunk := by
              rw [admitted, overflow, Option.getD_some, List.take_left]
            rw [cut, lines, overflow]
            simp [dropped, once]

/-- The reads of a fresh connection. -/
private theorem serve_fresh (keeps : handler.Keeps) (stale : Framing)
    (sock writeTimeoutMsec : Nat) (state : σ) (outcomes : List RecvOutcome)
    (chunked : Chunked handler outcomes (stale.init sock writeTimeoutMsec) state) :
    let result := serve handler outcomes (stale.init sock writeTimeoutMsec) state
    let overflow := firstOverflow lineFeed maxLine (received outcomes)
    result.delivered = completeLines lineFeed (admitted lineFeed maxLine (received outcomes)) ∧
      result.oversized = (if overflow = none then 0 else 1) ∧
      result.status = (if overflow = none then .success else .etoobig) ∧
      (overflow = none → result.framing.unconsumed = unfinished lineFeed (received outcomes)) := by
  obtain ⟨lines, verdict⟩ := @serve_after σ handler keeps outcomes
    (stale.init sock writeTimeoutMsec) state [] (by simp) (by decide) chunked
  simp only [completeLines_nil, List.nil_append] at lines verdict
  refine ⟨lines, ?_⟩
  split at verdict
  · rename_i fits
    simp [fits, verdict]
  · rename_i overflows
    simp [overflows, verdict]

theorem drain_reachable {fuel index : Nat} {framing : Framing} {state : σ}
    (reachable : framing.Reachable) :
    (drain handler fuel index framing state).framing.Reachable := by
  induction fuel generalizing index framing state with
  | zero => exact reachable
  | succ fuel ih =>
      have extracted := reachable.extractLine
      unfold drain
      split <;> rename_i next extraction <;> rw [extraction] at extracted
      · exact extracted
      · exact extracted
      · simp only
        split
        · exact ih extracted
        · exact extracted

/-- A connection only ever fills its buffer and extracts lines from it. -/
theorem serve_reachable {outcomes : List RecvOutcome} {framing : Framing} {state : σ}
    (reachable : framing.Reachable) :
    (serve handler outcomes framing state).framing.Reachable := by
  have once : ∀ outcome framing (state : σ), Framing.Reachable framing →
      (handleConnInput handler outcome framing state).framing.Reachable := by
    intro outcome framing state reachable
    have filled := reachable.fill outcome
    unfold handleConnInput
    split <;> rename_i next filling <;> rw [filling] at filled
    · exact filled
    · exact drain_reachable filled
    · exact filled
  induction outcomes generalizing framing state with
  | nil => exact reachable
  | cons outcome rest ih =>
      have next := once outcome framing state reachable
      simp only [serve]
      split
      · exact ih next
      · exact next

/-- Framing refines the reference splitter, whatever the chunking: on a fresh
connection the handled lines, the oversize events and the verdict depend on the
stream alone, and what stays buffered is its unfinished tail. -/
theorem serve_lines (keeps : handler.Keeps) (stale : Framing) (sock writeTimeoutMsec : Nat)
    (state : σ) (outcomes : List RecvOutcome)
    (chunked : Chunked handler outcomes (stale.init sock writeTimeoutMsec) state) :
    let result := serve handler outcomes (stale.init sock writeTimeoutMsec) state
    let stream := received outcomes
    let overflow := firstOverflow lineFeed maxLine stream
    result.delivered = completeLines lineFeed (admitted lineFeed maxLine stream) ∧
      result.oversized = (if overflow = none then 0 else 1) ∧
      result.status = (if overflow = none then .success else .etoobig) ∧
      (result.status = .success →
        result.framing.unconsumed = unfinished lineFeed stream ∧
          lineFeed ∉ result.framing.unconsumed ∧ result.framing.len < maxLine) ∧
      (result.framing.Reachable ∧
        ∀ framing, Framing.Reachable framing → framing.start + framing.len ≤ maxLine) ∧
      ∀ (otherStale : Framing) (otherSock otherTimeout : Nat) (otherState : σ)
        (others : List RecvOutcome),
        Chunked handler others (otherStale.init otherSock otherTimeout) otherState →
        received others = stream →
        let other := serve handler others (otherStale.init otherSock otherTimeout) otherState
        other.delivered = result.delivered ∧ other.oversized = result.oversized ∧
          other.status = result.status := by
  obtain ⟨lines, events, verdict, buffered⟩ :=
    serve_fresh keeps stale sock writeTimeoutMsec state outcomes chunked
  refine ⟨lines, events, verdict, ?_, ⟨serve_reachable (.init _ _ _), fun _ => (·.inBounds)⟩, ?_⟩
  · intro succeeded
    have fits : firstOverflow lineFeed maxLine (received outcomes) = none := by
      by_contra overflows
      rw [verdict, if_neg overflows] at succeeded
      cases succeeded
    have tail := buffered fits
    have below := firstOverflow_eq_none.mp fits _ (Nat.le_refl _)
    rw [List.take_length, ← tail, Framing.length_unconsumed] at below
    refine ⟨tail, ?_, below⟩
    rw [tail]
    exact not_mem_unfinished lineFeed _
  · intro otherStale otherSock otherTimeout otherState others otherChunked same
    obtain ⟨otherLines, otherEvents, otherVerdict, -⟩ :=
      serve_fresh keeps otherStale otherSock otherTimeout otherState others otherChunked
    rw [same] at otherLines otherEvents otherVerdict
    exact ⟨otherLines.trans lines.symm, otherEvents.trans events.symm,
      otherVerdict.trans verdict.symm⟩

/-- A reader that ignores every line. -/
def ignoringHandler : LineHandler Unit :=
  ⟨fun _ _ _ state => (.success, state), fun _ state => state⟩

theorem serve_lines_two_chunks :
    (serve ignoringHandler
      [.received [104, 10, 105], .failed ⟨.fromOs eagain, by decide⟩, .received [106, 10, 107]]
      (Framing.init ⟨0, 0, 5, 7, fun _ => 255⟩ 3 5000) ()).delivered = [[104], [105, 106]] := by
  have lines := (@serve_lines Unit ignoringHandler (fun _ _ _ _ => rfl)
    ⟨0, 0, 5, 7, fun _ => 255⟩ 3 5000 ()
    [.received [104, 10, 105], .failed ⟨.fromOs eagain, by decide⟩, .received [106, 10, 107]]
    ⟨⟨by decide, by decide⟩, fun _ => ⟨(by decide : isWouldBlock (.fromOs eagain) = true),
      fun _ => ⟨⟨by decide, by decide⟩, fun _ => trivial⟩⟩⟩).1
  exact lines.trans (by decide)

end Pjsocky
