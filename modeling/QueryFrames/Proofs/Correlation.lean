import QueryFrames.Proofs.Requests
import QueryFrames.Worker.Conversation

/-! How responses find their requests. A response is given to at most one request, the one that is in the table under
its id, and no request is given two; from then on its outcome is settled but for the write of its own line. -/

namespace QueryFrames

/-! ### What a response leaves open -/

/-- What the write of the line of a request came to, if the event tells. -/
def ClientEvent.writeResult? (ticket : Nat) : ClientEvent → Option (Except IoFault Unit)
  | written t => if t = ticket then some (.ok ()) else none
  | writeFailed t fault => if t = ticket then some (.error fault) else none
  | _ => none

namespace Client

variable {client : Client} {seconds : Nat} {events rest : List ClientEvent} {event : ClientEvent} {id : String}
  {t : Nat} {phase : Phase} {response : Response} {outcome : Except WorkerError Json}

/-- An event gives the request of a ticket its response: a line of output that carries the id of the request, or the
end of the output, while the table holds the id. -/
inductive Gives (client : Client) (ticket : Nat) : ClientEvent → Response → Prop where
  | line {text : String} {response : Response} (hreading : client.readerEnded = false)
      (hline : Response.ofLine? text = some response) (hpending : (response.id, ticket) ∈ client.pending) :
      Gives client ticket (.line text) response
  | readerEnded {id : String} (hreading : client.readerEnded = false) (hpending : (id, ticket) ∈ client.pending) :
      Gives client ticket .readerEnded (.workerExited id)

theorem Gives.mem_pending (h : client.Gives t event response) : (response.id, t) ∈ client.pending := by
  cases h with
  | line _ _ hpending => exact hpending
  | readerEnded _ hpending => exact hpending

theorem Gives.reading (h : client.Gives t event response) : client.readerEnded = false := by
  cases h with
  | line hreading _ _ => exact hreading
  | readerEnded hreading _ => exact hreading

theorem Gives.registered?_eq (h : client.Gives t event response) : event.registered? = none := by
  cases h <;> rfl

/-- The request that is given a response receives it. -/
theorem Gives.follow_eq (h : client.Gives t event response) :
    phase.follow client.timeoutSeconds (!client.readerEnded) response.id t event = phase.receive response := by
  cases h with
  | line hreading hline _ => simp [Phase.follow, hline, hreading]
  | readerEnded hreading _ => simp [Phase.follow, hreading, Response.workerExited]

/-! ### From one state to a later one -/

theorem after_append : after seconds (events ++ rest) = (after seconds events).run rest :=
  List.foldl_append

theorem getElem?_after_append_finished (h : (ClientEvent.registeredIds (events ++ rest)).Nodup)
    (ht : (after seconds events).tickets[t]? = some ⟨id, .finished outcome⟩) :
    (after seconds (events ++ rest)).tickets[t]? = some ⟨id, .finished outcome⟩ := by
  obtain ⟨_, hlater, rfl⟩ := exists_after_append (motive := (· = .finished outcome)) h ht rfl <| by
    rintro _ reading event rfl
    exact Phase.follow_finished outcome event
  exact hlater

theorem exists_not_open_after_append (h : (ClientEvent.registeredIds (events ++ rest)).Nodup)
    (ht : (after seconds events).tickets[t]? = some ⟨id, phase⟩) (hphase : ¬ phase.Open) :
    ∃ later, (after seconds (events ++ rest)).tickets[t]? = some ⟨id, later⟩ ∧ ¬ later.Open :=
  exists_after_append (motive := (¬ Phase.Open ·)) h ht hphase fun _ _ event hopen => Phase.not_open_follow hopen event

/-- What is given to a request finds it open, and is received. -/
theorem Gives.exists_ticket (h : (ClientEvent.registeredIds events).Nodup)
    (hgives : (after seconds events).Gives t event response) :
    ∃ phase, (after seconds events).tickets[t]? = some ⟨response.id, phase⟩ ∧ phase.Open ∧
      (after seconds (events ++ [event])).tickets[t]? = some ⟨response.id, phase.receive response⟩ := by
  obtain ⟨phase, ht, hopen⟩ := (matched_after h).exists_ticket hgives.mem_pending
  refine ⟨phase, ht, hopen, ?_⟩
  have hnew : ∀ i, event.registered? = some i → i ∉ (after seconds events).ids := by
    intro i hi
    rw [hgives.registered?_eq] at hi
    cases hi
  rw [after_concat, (matched_after h).getElem?_step hnew ht, hgives.follow_eq]

/-- Output changes a request only by what it gives to it. -/
theorem Matched.exists_gives_of_follow_ne (h : client.Matched) (ht : client.tickets[t]? = some ⟨id, phase⟩)
    (hevent : event = .readerEnded ∨ ∃ text, event = .line text)
    (hne : phase.follow client.timeoutSeconds (!client.readerEnded) id t event ≠ phase) :
    ∃ response, response.id = id ∧ client.Gives t event response := by
  -- What is not open takes no response, and keeps what it has.
  have hopen : phase.Open := by
    by_contra hopen
    refine hne ?_
    rcases hevent with rfl | ⟨text, rfl⟩
    · simp [Phase.follow, Phase.receive_of_not_open hopen]
    · cases hline : Response.ofLine? text <;> simp [Phase.follow, Phase.receive_of_not_open hopen, hline]
  have hpending : (id, t) ∈ client.pending := (h.mem_pending_of_ticket ht).mpr ⟨rfl, hopen⟩
  by_cases hreading : client.readerEnded = false
  swap
  · rcases hevent with rfl | ⟨text, rfl⟩
    · simp [Phase.follow, hreading] at hne
    · cases hline : Response.ofLine? text <;> simp [Phase.follow, hreading, hline] at hne
  rcases hevent with rfl | ⟨text, rfl⟩
  · exact ⟨_, rfl, .readerEnded hreading hpending⟩
  · cases hline : Response.ofLine? text with
    | none => simp [Phase.follow, hline] at hne
    | some response =>
        by_cases hid : response.id = id
        · exact ⟨response, hid, .line hreading hline (hid ▸ hpending)⟩
        · simp [Phase.follow, hline, hid] at hne

/-! ### Where outcomes come from -/

/-- An event of the run gave the response to the request of the ticket. -/
def Given (seconds : Nat) (events : List ClientEvent) (ticket : Nat) (response : Response) : Prop :=
  ∃ before event, before ++ [event] <+: events ∧ (after seconds before).Gives ticket event response

/-- The events of a run account for an outcome. -/
def Caused (seconds : Nat) (events : List ClientEvent) (ticket : Nat) (outcome : Except WorkerError Json) : Prop :=
  (∃ response, Given seconds events ticket response ∧ outcome = response.outcome) ∨
    (∃ fault, .writeFailed ticket fault ∈ events ∧ outcome = .error (.writeFailed fault)) ∨
    (.timedOut ticket ∈ events ∧ outcome = .error (.timeout seconds))

/-- What a request has received was given to it, and its outcome has a cause. -/
def Accounted (seconds : Nat) (events : List ClientEvent) (ticket : Nat) : Phase → Prop
  | .unwritten .empty | .waiting => True
  | .unwritten (.holds response) => Given seconds events ticket response
  | .unwritten .closed => False
  | .finished outcome => Caused seconds events ticket outcome

theorem Given.concat (h : Given seconds events t response) : Given seconds (events ++ [event]) t response := by
  obtain ⟨before, given, hpre, hgives⟩ := h
  exact ⟨before, given, hpre.trans (List.prefix_append _ _), hgives⟩

theorem Caused.concat (h : Caused seconds events t outcome) : Caused seconds (events ++ [event]) t outcome := by
  rcases h with ⟨response, hgiven, hresponse⟩ | ⟨fault, hfailed, hfault⟩ | ⟨htimed, htimeout⟩
  · exact .inl ⟨response, hgiven.concat, hresponse⟩
  · exact .inr (.inl ⟨fault, List.mem_append_left _ hfailed, hfault⟩)
  · exact .inr (.inr ⟨List.mem_append_left _ htimed, htimeout⟩)

theorem Accounted.concat (h : Accounted seconds events t phase) : Accounted seconds (events ++ [event]) t phase := by
  cases phase with
  | unwritten mailbox =>
      cases mailbox with
      | empty => trivial
      | holds response => exact Given.concat h
      | closed => exact h
  | waiting => trivial
  | finished outcome => exact Caused.concat h

theorem Accounted.receive (h : Accounted seconds events t phase) (hgiven : Given seconds events t response) :
    Accounted seconds events t (phase.receive response) := by
  cases phase with
  | unwritten mailbox =>
      cases mailbox with
      | empty => exact hgiven
      | holds _ => exact h
      | closed => exact h
  | waiting => exact .inl ⟨response, hgiven, rfl⟩
  | finished outcome => exact h

theorem Accounted.written (h : Accounted seconds events t phase) : Accounted seconds events t phase.written := by
  cases phase with
  | unwritten mailbox =>
      cases mailbox with
      | empty => trivial
      | holds response => exact .inl ⟨response, h, rfl⟩
      | closed => exact h.elim
  | waiting => trivial
  | finished outcome => exact h

theorem Accounted.fail {fault : IoFault} (h : Accounted seconds events t phase)
    (hfailed : .writeFailed t fault ∈ events) : Accounted seconds events t (phase.fail (.writeFailed fault)) := by
  cases phase with
  | finished outcome => exact h
  | _ => exact .inr (.inl ⟨fault, hfailed, rfl⟩)

theorem Accounted.timeOut (h : Accounted seconds events t phase) (htimed : .timedOut t ∈ events) :
    Accounted seconds events t (phase.timeOut seconds) := by
  cases phase with
  | waiting => exact .inr (.inr ⟨htimed, rfl⟩)
  | _ => exact h

theorem Accounted.step (h : Accounted seconds events t phase) (hids : (ClientEvent.registeredIds events).Nodup)
    (ht : (after seconds events).tickets[t]? = some ⟨id, phase⟩) (event : ClientEvent) :
    Accounted seconds (events ++ [event]) t
      (phase.follow (after seconds events).timeoutSeconds (!(after seconds events).readerEnded) id t event) := by
  have hlater : Accounted seconds (events ++ [event]) t phase := h.concat
  have hlast : event ∈ events ++ [event] := List.mem_append_right _ (List.mem_singleton_self _)
  have houtput (hevent : event = .readerEnded ∨ ∃ text, event = .line text) : Accounted seconds (events ++ [event]) t
      (phase.follow (after seconds events).timeoutSeconds (!(after seconds events).readerEnded) id t event) := by
    by_cases hsame :
        phase.follow (after seconds events).timeoutSeconds (!(after seconds events).readerEnded) id t event = phase
    · rwa [hsame]
    · obtain ⟨response, rfl, hgives⟩ := (matched_after hids).exists_gives_of_follow_ne ht hevent hsame
      rw [hgives.follow_eq]
      exact hlater.receive ⟨events, event, List.prefix_rfl, hgives⟩
  cases event with
  | register _ => exact hlater
  | written s =>
      rw [Phase.follow]
      split
      · exact hlater.written
      · exact hlater
  | writeFailed s fault =>
      rw [Phase.follow]
      split
      · next hs => exact hlater.fail (hs ▸ hlast)
      · exact hlater
  | line text => exact houtput (.inr ⟨text, rfl⟩)
  | readerEnded => exact houtput (.inl rfl)
  | timedOut s =>
      rw [Phase.follow, timeoutSeconds_after]
      split
      · next hs => exact hlater.timeOut (hs ▸ hlast)
      · exact hlater

theorem accounted_after (h : (ClientEvent.registeredIds events).Nodup)
    (ht : (after seconds events).tickets[t]? = some ⟨id, phase⟩) : Accounted seconds events t phase :=
  phase_induction (motive := fun events t _ phase => Accounted seconds events t phase) (fun _ _ => trivial)
    (fun _ event _ _ _ hids ht hphase => hphase.step (ClientEvent.nodup_of_append hids) ht event) h ht

/-! ### Correlation -/

theorem exists_ticket_of_outcome? (h : client.outcome? t = some outcome) :
    ∃ id, client.tickets[t]? = some ⟨id, .finished outcome⟩ := by
  cases ht : client.tickets[t]? with
  | none => simp [outcome?, phase?, ht] at h
  | some ticket =>
      obtain ⟨id, phase⟩ := ticket
      rw [outcome?_of_ticket ht] at h
      cases phase with
      | finished found => exact ⟨id, by rw [Option.some.inj h]⟩
      | _ => cases h

theorem outcome?_after_append (h : (ClientEvent.registeredIds (events ++ rest)).Nodup)
    (houtcome : (after seconds events).outcome? t = some outcome) :
    (after seconds (events ++ rest)).outcome? t = some outcome := by
  obtain ⟨id, ht⟩ := exists_ticket_of_outcome? houtcome
  exact outcome?_of_ticket (getElem?_after_append_finished h ht)

/-- Once a line has carried the id of a request, the request is not open any more. -/
theorem Gives.first {since : List ClientEvent} {text : String}
    (h : (ClientEvent.registeredIds (events ++ .register id :: since)).Nodup)
    (hgives : (after seconds (events ++ .register id :: since)).Gives (ClientEvent.registeredIds events).length
      (.line text) response) :
    response.id = id ∧ ∀ earlier found, .line earlier ∈ since → Response.ofLine? earlier = some found →
      found.id ≠ id := by
  obtain ⟨phase, ht, hopen, -⟩ := hgives.exists_ticket h
  obtain ⟨_, hregistered⟩ := exists_phase_after_register seconds events since id
  obtain ⟨hid, -⟩ := ticket_inj ht hregistered
  refine ⟨hid, ?_⟩
  rintro earlier found hearlier hfound rfl
  obtain ⟨front, back, rfl⟩ := List.append_of_mem hearlier
  obtain ⟨earlierPhase, hbefore⟩ := exists_phase_after_register seconds events front found.id
  -- Output was still read at the earlier line, so that line has closed the request, which cannot open again.
  have hsplit : events ++ .register found.id :: (front ++ .line earlier :: back) =
      (events ++ .register found.id :: front) ++ [.line earlier] ++ back := by simp
  have hreading := hgives.reading
  rw [hsplit] at h ht hreading
  rw [readerEnded_after, List.any_append, List.any_append, Bool.or_eq_false_iff, Bool.or_eq_false_iff] at hreading
  have hnext := getElem?_after_concat (ClientEvent.nodup_of_append h) hbefore
  have hfollow : earlierPhase.follow seconds (!false) found.id (ClientEvent.registeredIds events).length
      (.line earlier) = earlierPhase.receive found := by simp [Phase.follow, hfound]
  rw [hreading.1.1, hfollow] at hnext
  obtain ⟨later, hlater, hclosed⟩ := exists_not_open_after_append h hnext Phase.not_open_receive
  obtain ⟨-, rfl⟩ := ticket_inj ht hlater
  exact hclosed hopen

end Client

/-! ### From bytes to events -/

/-- A line of output as bytes. One that is not well formed is the end of the reading. -/
def ClientEvent.ofLine (bytes : List UInt8) : ClientEvent :=
  match Output.decode? bytes with
  | some text => .line text
  | none => .readerEnded

namespace Conversation

variable {conversation : Conversation} {client : Client} {bytes : List UInt8}

/-- What comes to a client of output, and of its end if the worker has closed it. -/
def outputEvents (conversation : Conversation) (bytes : List UInt8) : List ClientEvent :=
  let (lines, tail) := Output.splitLines (conversation.tail ++ bytes)
  let complete := lines.map Output.dropReturn
  if conversation.player.outputOpen then complete.map .ofLine
  else (complete ++ if tail = [] then [] else [tail]).map .ofLine ++ [.readerEnded]

theorem run_ofLine_of_readerEnded (h : client.readerEnded = true) (lines : List (List UInt8)) :
    client.run (lines.map .ofLine) = client := by
  induction lines with
  | nil => rfl
  | cons line lines ih =>
      have hstep : client.step (.ofLine line) = client := by
        rw [ClientEvent.ofLine]
        split <;> simp [Client.step, Client.deliver, Client.endReader, h]
      rw [List.map_cons, Client.run, List.foldl_cons, hstep]
      exact ih

/-- Lines after one that is not well formed are not read, and as events they change nothing. -/
theorem readLines_eq_run (client : Client) (lines : List (List UInt8)) :
    readLines client lines = client.run (lines.map .ofLine) := by
  induction lines generalizing client with
  | nil => rfl
  | cons line lines ih =>
      rw [readLines, List.map_cons, Client.run, List.foldl_cons, ClientEvent.ofLine]
      cases Output.decode? line with
      | some text => exact ih _
      | none =>
          have hended : (client.step .readerEnded).readerEnded = true := by
            have hcore := congrArg (·.2.2) (Client.core_endReader : client.endReader.core = _)
            exact hcore
          exact (run_ofLine_of_readerEnded hended lines).symm

theorem client_readOutput : (conversation.readOutput bytes).client =
    conversation.client.run (conversation.outputEvents bytes) := by
  rcases hsplit : Output.splitLines (conversation.tail ++ bytes) with ⟨lines, tail⟩
  cases hopen : conversation.player.outputOpen with
  | true => simp [readOutput, outputEvents, hsplit, hopen, readLines_eq_run]
  | false =>
      simp only [readOutput, outputEvents, hsplit, hopen, readLines_eq_run, Client.run, List.map_append,
        List.foldl_append, Bool.false_eq_true, if_false]
      rfl

theorem registeredIds_map_ofLine (lines : List (List UInt8)) : ClientEvent.registeredIds (lines.map .ofLine) = [] := by
  refine List.filterMap_eq_nil_iff.mpr fun event hevent => ?_
  obtain ⟨line, -, rfl⟩ := List.mem_map.mp hevent
  rw [ClientEvent.ofLine]
  split <;> rfl

theorem registeredIds_outputEvents : ClientEvent.registeredIds (conversation.outputEvents bytes) = [] := by
  rcases hsplit : Output.splitLines (conversation.tail ++ bytes) with ⟨lines, tail⟩
  cases hopen : conversation.player.outputOpen with
  | true => simpa [outputEvents, hsplit, hopen] using registeredIds_map_ofLine (lines.map Output.dropReturn)
  | false =>
      simp only [outputEvents, hsplit, hopen, ClientEvent.registeredIds_append, registeredIds_map_ofLine,
        Bool.false_eq_true, if_false]
      rfl

end Conversation

/-! ### Two requests, one answer -/

namespace Interleaved

def events : List ClientEvent :=
  [.register "a", .register "b", .written 0, .written 1]

/-- The worker has closed its output. -/
def conversation : Conversation :=
  ⟨Client.after 30 events, ⟨[], 0, [], true, false, false⟩, [], [], 0⟩

def output : List UInt8 :=
  Output.encode "\x7b\"id\":\"b\",\"success\":true\x7d\nnot a response"

end Interleaved

end QueryFrames
