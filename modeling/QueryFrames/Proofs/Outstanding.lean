import QueryFrames.Proofs.Correlation
import QueryFrames.Session.Alias

/-! The table of a client and the requests that are outstanding. Which those are is told by the events alone: a request
is outstanding from its registration until an event answers, drains, fails or times it out, and the table holds the
ids of these requests and of no others. -/

namespace QueryFrames

/-! ### Outstanding requests -/

namespace ClientEvent

theorem any_endsReader_iff {events : List ClientEvent} : events.any endsReader = true ↔ readerEnded ∈ events := by
  rw [List.any_eq_true]
  constructor
  · rintro ⟨event, hmem, hevent⟩
    cases event <;> first | exact hmem | cases hevent
  · exact fun hmem => ⟨_, hmem, rfl⟩

/-- No event since its registration has settled the request that was registered after others. A response only counts
while output is read, and a timeout once the line of the request has been written. -/
def Unsettled (before : List ClientEvent) (id : String) (since : List ClientEvent) : Prop :=
  ∀ earlier event, earlier ++ [event] <+: since →
    ¬ event.Settles (readerEnded ∉ before ++ earlier) (written (registeredIds before).length ∈ earlier) id
      (registeredIds before).length

/-- The request of an id has been registered and is not settled. -/
def Outstanding (events : List ClientEvent) (id : String) : Prop :=
  ∃ before since, events = before ++ register id :: since ∧ Unsettled before id since

variable {before since : List ClientEvent} {id : String} {event : ClientEvent}

theorem unsettled_nil : Unsettled before id [] := by
  intro earlier event hpre
  simp at hpre

theorem unsettled_concat : Unsettled before id (since ++ [event]) ↔ Unsettled before id since ∧
    ¬ event.Settles (readerEnded ∉ before ++ since) (written (registeredIds before).length ∈ since) id
      (registeredIds before).length := by
  constructor
  · intro h
    exact ⟨fun earlier event hpre => h earlier event (hpre.trans (List.prefix_append _ _)), h since event List.prefix_rfl⟩
  · rintro ⟨hsince, hlast⟩ earlier found hpre
    rcases List.prefix_concat_iff.mp hpre with heq | hpre
    · obtain ⟨rfl, hfound⟩ := List.append_inj' heq rfl
      obtain rfl : found = event := List.singleton_inj.mp hfound
      exact hlast
    · exact hsince earlier found hpre

end ClientEvent

/-- Only the write of its line makes a request wait. -/
theorem Phase.follow_eq_waiting_iff {phase : Phase} {seconds : Nat} {reading : Bool} {id : String} {t : Nat}
    {event : ClientEvent} (hopen : (phase.follow seconds reading id t event).Open) :
    phase.follow seconds reading id t event = .waiting ↔ phase = .waiting ∨ event = .written t := by
  obtain ⟨hphase, hsettles⟩ := open_follow.mp hopen
  cases event with
  | register _ => simp [follow]
  | written s =>
      by_cases hs : s = t
      · cases phase with
        | unwritten mailbox => cases mailbox <;> simp_all [follow, written, Open]
        | waiting => simp [follow, written, hs]
        | finished outcome => exact hphase.elim
      · simp [follow, hs]
  | writeFailed s fault => simp [follow, show s ≠ t from hsettles]
  | line text =>
      cases hline : Response.ofLine? text with
      | none => simp [follow, hline]
      | some response =>
          have hother : ¬ (reading = true ∧ response.id = id) := by
            rintro ⟨hreading, hid⟩
            exact hsettles ⟨hreading, response, hline, hid⟩
          simp [follow, hline, hother]
  | readerEnded => simp [follow, show ¬ reading = true from hsettles]
  | timedOut s =>
      by_cases hs : s = t
      · have hne : phase ≠ .waiting := fun hwaiting => hsettles ⟨hs, hwaiting⟩
        simp [follow, timeOut_of_ne_waiting hne]
      · simp [follow, hs]

theorem WorkerError.classify_ne_channelClosed (code message : String) : classify code message ≠ channelClosed := by
  unfold classify
  split <;> simp

theorem Response.outcome_ne_channelClosed (response : Response) : response.outcome ≠ .error .channelClosed := by
  rw [outcome]
  split
  · simp
  · split
    · exact fun h => WorkerError.classify_ne_channelClosed _ _ (Except.error.inj h)
    · simp

namespace Client

variable {seconds : Nat} {events : List ClientEvent} {id : String} {t : Nat}

/-- A request is open while it is unsettled, and it then waits if its line has been written. -/
theorem exists_phase_unsettled (seconds : Nat) {before since : List ClientEvent}
    (h : (ClientEvent.registeredIds (before ++ .register id :: since)).Nodup) :
    ∃ phase, (after seconds (before ++ .register id :: since)).tickets[(ClientEvent.registeredIds before).length]? =
        some ⟨id, phase⟩ ∧
      (phase.Open ↔ ClientEvent.Unsettled before id since) ∧
      (phase.Open → (phase = .waiting ↔ .written (ClientEvent.registeredIds before).length ∈ since)) := by
  -- That it waits is carried along because a timeout settles only a request that does.
  induction since using List.reverseRecOn with
  | nil =>
      exact ⟨_, getElem?_after_register h, by simp [Phase.Open, ClientEvent.unsettled_nil], by simp⟩
  | append_singleton since event ih =>
      rw [← List.cons_append, ← List.append_assoc] at h ⊢
      obtain ⟨phase, ht, hopen, hwaiting⟩ := ih (ClientEvent.nodup_of_append h)
      refine ⟨_, getElem?_after_concat h ht, ?_, ?_⟩
      · rw [Phase.open_follow, ClientEvent.unsettled_concat, ← hopen]
        refine and_congr_right fun hphase => not_congr ?_
        have hreading : (!(before ++ .register id :: since).any ClientEvent.endsReader) = true ↔
            .readerEnded ∉ before ++ since := by
          rw [Bool.not_eq_true', ← Bool.not_eq_true, ClientEvent.any_endsReader_iff]
          simp
        rw [propext hreading, propext (hwaiting hphase)]
      · intro hlater
        rw [Phase.follow_eq_waiting_iff hlater, hwaiting (Phase.open_follow.mp hlater).1]
        simp [eq_comm]

theorem mem_keys_pending_iff (h : (ClientEvent.registeredIds events).Nodup) :
    id ∈ Keyed.keys (after seconds events).pending ↔ ClientEvent.Outstanding events id := by
  constructor
  · intro hkey
    obtain ⟨t, hmem⟩ := Keyed.exists_of_mem_keys hkey
    obtain ⟨phase, ht, hopen⟩ := (matched_after h).exists_ticket hmem
    have hid := getElem?_ids ht
    rw [ids_after] at hid
    obtain ⟨before, since, rfl, rfl⟩ := ClientEvent.exists_register_of_getElem? hid
    obtain ⟨found, hfound, hunsettled, -⟩ := exists_phase_unsettled seconds h
    obtain ⟨-, rfl⟩ := ticket_inj ht hfound
    exact ⟨before, since, rfl, hunsettled.mp hopen⟩
  · rintro ⟨before, since, rfl, hunsettled⟩
    obtain ⟨phase, ht, hopen, -⟩ := exists_phase_unsettled seconds h
    exact Keyed.mem_keys_of_mem (((matched_after h).mem_pending_of_ticket ht).mpr ⟨rfl, hopen.mpr hunsettled⟩)

theorem Matched.pending_eq_nil {client : Client} (h : client.Matched)
    (hanswered : ∀ t < client.tickets.length, (client.outcome? t).isSome) : client.pending = [] := by
  refine List.eq_nil_iff_forall_not_mem.mpr ?_
  rintro ⟨id, t⟩ hmem
  obtain ⟨phase, ht, hopen⟩ := h.exists_ticket hmem
  have hsome := hanswered t (List.getElem?_eq_some_iff.mp ht).1
  rw [outcome?_of_ticket ht] at hsome
  cases phase with
  | finished outcome => exact hopen
  | _ => cases hsome

theorem outcome?_ne_channelClosed (h : (ClientEvent.registeredIds events).Nodup) :
    (after seconds events).outcome? t ≠ some (.error .channelClosed) := by
  intro houtcome
  obtain ⟨id, ht⟩ := exists_ticket_of_outcome? houtcome
  rcases accounted_after h ht with ⟨response, -, hresponse⟩ | ⟨fault, -, hfault⟩ | ⟨-, htimeout⟩
  · exact response.outcome_ne_channelClosed hresponse.symm
  · cases hfault
  · cases htimeout

/-- After the end of the output nothing answers a request any more. -/
theorem outcome_of_late {before since : List ClientEvent} {outcome : Except WorkerError Json}
    (h : (ClientEvent.registeredIds (before ++ .register id :: since)).Nodup) (hended : .readerEnded ∈ before)
    (houtcome : (after seconds (before ++ .register id :: since)).outcome? (ClientEvent.registeredIds before).length =
      some outcome) :
    (∃ fault, outcome = .error (.writeFailed fault)) ∨ outcome = .error (.timeout seconds) := by
  obtain ⟨_, ht⟩ := exists_ticket_of_outcome? houtcome
  rcases accounted_after h ht with ⟨response, ⟨earlier, event, hpre, hgives⟩, -⟩ | ⟨fault, -, hfault⟩ | ⟨-, htimeout⟩
  · have hreading := hgives.reading
    rw [readerEnded_after, ← Bool.not_eq_true, ClientEvent.any_endsReader_iff] at hreading
    have hearlier := (List.prefix_append earlier [event]).trans hpre
    rcases List.prefix_or_prefix_of_prefix hearlier (List.prefix_append before _) with ⟨rest, rfl⟩ | hbefore
    · -- Then the request had not been registered.
      have hids : (ClientEvent.registeredIds earlier).Nodup := ClientEvent.nodup_of_append (ClientEvent.nodup_of_append h)
      obtain ⟨phase, hticket, -⟩ := hgives.exists_ticket hids
      have hlt := (List.getElem?_eq_some_iff.mp hticket).1
      rw [length_tickets_after, ClientEvent.registeredIds_append, List.length_append] at hlt
      omega
    · exact absurd (hbefore.subset hended) hreading
  · exact .inl ⟨fault, hfault⟩
  · exact .inr htimeout

end Client

/-! ### Requests that are sent and timed -/

namespace Phase

variable {phase : Phase} {seconds : Nat} {reading : Bool} {id : String} {t : Nat} {event : ClientEvent}

/-- The line of the request has been written, or its write has failed. -/
def Sent : Phase → Prop
  | unwritten _ => False
  | _ => True

theorem sent_written : phase.written.Sent := by
  cases phase with
  | unwritten mailbox => cases mailbox <;> trivial
  | waiting => trivial
  | finished outcome => trivial

theorem sent_fail (error : WorkerError) : (phase.fail error).Sent := by
  cases phase <;> trivial

theorem Sent.receive {response : Response} (h : phase.Sent) : (phase.receive response).Sent := by
  cases phase with
  | unwritten mailbox => exact h.elim
  | waiting => trivial
  | finished outcome => trivial

theorem Sent.timeOut (h : phase.Sent) : ∃ outcome, phase.timeOut seconds = finished outcome := by
  cases phase with
  | unwritten mailbox => exact h.elim
  | waiting => exact ⟨_, rfl⟩
  | finished outcome => exact ⟨outcome, rfl⟩

theorem Sent.follow (h : phase.Sent) (event : ClientEvent) : (phase.follow seconds reading id t event).Sent := by
  have htimeOut : (phase.timeOut seconds).Sent := by
    obtain ⟨outcome, houtcome⟩ := h.timeOut
    rw [houtcome]
    trivial
  exact follow_cases event h sent_written sent_fail (fun _ => h.receive) htimeOut

theorem sent_follow_of_writeResult? (h : (event.writeResult? t).isSome) :
    (phase.follow seconds reading id t event).Sent := by
  cases event with
  | written s =>
      have hs : s = t := by simpa [ClientEvent.writeResult?] using h
      rw [Phase.follow, if_pos hs]
      exact sent_written
  | writeFailed s fault =>
      have hs : s = t := by simpa [ClientEvent.writeResult?] using h
      rw [Phase.follow, if_pos hs]
      exact sent_fail _
  | _ => cases h

end Phase

/-- A request that is written, or fails to be, and is given a limited time comes to an end. -/
theorem Client.isSome_outcome?_of_timedOut {seconds : Nat} {id : String} {t : Nat} {before mid rest : List ClientEvent}
    {write : ClientEvent} (hplace : (ClientEvent.registeredIds before).length = t)
    (hwrite : (write.writeResult? t).isSome)
    (h : (ClientEvent.registeredIds (before ++ [.register id] ++ [write] ++ mid ++ [.timedOut t] ++ rest)).Nodup) :
    ((after seconds (before ++ [.register id] ++ [write] ++ mid ++ [.timedOut t] ++ rest)).outcome? t).isSome := by
  subst hplace
  have htimed := ClientEvent.nodup_of_append h
  have hmid := ClientEvent.nodup_of_append htimed
  have hwritten := ClientEvent.nodup_of_append hmid
  have hregistered : (after seconds (before ++ [.register id])).tickets[_]? = _ :=
    getElem?_after_register (ClientEvent.nodup_of_append hwritten)
  have hsent := getElem?_after_concat hwritten hregistered
  obtain ⟨later, hlater, hlaterSent⟩ := exists_after_append (motive := Phase.Sent) hmid hsent
    (Phase.sent_follow_of_writeResult? hwrite) fun _ _ event hphase => hphase.follow event
  have hfinished := getElem?_after_concat htimed hlater
  obtain ⟨outcome, houtcome⟩ : ∃ outcome, later.timeOut seconds = .finished outcome := hlaterSent.timeOut
  rw [Phase.follow, if_pos rfl, houtcome] at hfinished
  rw [outcome?_of_ticket (getElem?_after_append_finished h hfinished)]
  rfl

/-! ### Conversations -/

namespace Conversation

variable {conversation : Conversation} {seconds : Nat} {events : List ClientEvent}

/-- The write of the line of a request. -/
def writeEvent (conversation : Conversation) (ticket : Nat) : ClientEvent :=
  if conversation.player.inputOpen then .written ticket else .writeFailed ticket .brokenPipe

/-- A number of requests are registered and written from a place on. -/
def sendEvents (conversation : Conversation) (place count : Nat) : List ClientEvent :=
  (List.range' place count).flatMap fun ticket =>
    [.register (requestId conversation.outputSize ticket), conversation.writeEvent ticket]

theorem requestId_injective (size : Nat) : Function.Injective (requestId size) := by
  intro first second h
  have htext := String.ext_iff.mp h
  simp only [requestId, String.toList_append, List.append_cancel_left_eq, List.append_cancel_right_eq] at htext
  exact eq_of_toString_eq (String.ext htext)

theorem registeredIds_sendEvents (place count : Nat) : ClientEvent.registeredIds (conversation.sendEvents place count) =
    (List.range' place count).map (requestId conversation.outputSize) := by
  have hregister (id : String) : (ClientEvent.register id).registered? = some id := rfl
  have hwrite (ticket : Nat) : (conversation.writeEvent ticket).registered? = none := by
    rw [writeEvent]
    split <;> rfl
  rw [ClientEvent.registeredIds, sendEvents, List.filterMap_flatMap, List.map_eq_flatMap]
  congr 1
  funext ticket
  rw [List.filterMap_cons_some (hregister _), List.filterMap_cons_none (hwrite ticket), List.filterMap_nil]

theorem send_eq (request : Request) : (conversation.send request).2 = { conversation with
    client := conversation.client.run (conversation.sendEvents conversation.client.tickets.length 1) } := by
  rw [send]
  cases hopen : conversation.player.inputOpen <;> simp [sendEvents, writeEvent, hopen, Client.run]

theorem sendAll_eq (requests : List Request) : (conversation.sendAll requests).2 = { conversation with
    client := conversation.client.run
      (conversation.sendEvents conversation.client.tickets.length requests.length) } := by
  induction requests generalizing conversation with
  | nil => rfl
  | cons request requests ih =>
      have hsplit : conversation.sendEvents conversation.client.tickets.length (requests.length + 1) =
          conversation.sendEvents conversation.client.tickets.length 1 ++
            conversation.sendEvents (conversation.client.tickets.length + 1) requests.length := by
        simp [sendEvents, List.range'_succ]
      have hrest : (conversation.sendAll (request :: requests)).2 = ((conversation.send request).2.sendAll requests).2 := rfl
      rw [hrest, ih, send_eq, List.length_cons, hsplit]
      dsimp only
      rw [Client.length_tickets_run, registeredIds_sendEvents, List.length_map, List.length_range']
      simp [Client.run, sendEvents, writeEvent]

/-- The client of the conversation has seen these events, in which requests were given the ids of their places, and
has answered all of them. -/
structure Traced (conversation : Conversation) (seconds : Nat) (events : List ClientEvent) : Prop where
  client_eq : conversation.client = .after seconds events
  ids_eq : ClientEvent.registeredIds events =
    (List.range conversation.client.tickets.length).map (requestId conversation.outputSize)
  answered : ∀ t < conversation.client.tickets.length, (conversation.client.outcome? t).isSome

/-- What happens to the client while requests are made together. -/
def exchangeEvents (conversation : Conversation) (requests : List Request) : List ClientEvent :=
  let place := conversation.client.tickets.length
  let sent := conversation.sendAll requests
  let heard := hearAll sent.2.player sent.1
  conversation.sendEvents place requests.length ++ { sent.2 with player := heard.1 }.outputEvents heard.2 ++
    (List.range' place requests.length).map .timedOut

theorem client_exchange (requests : List Request) : (conversation.exchange requests).2.client =
    conversation.client.run (conversation.exchangeEvents requests) := by
  have hsent : (conversation.sendAll requests).2.client = _ := congrArg Conversation.client (sendAll_eq requests)
  rw [exchange, exchangeEvents]
  dsimp only
  rw [client_readOutput]
  dsimp only
  rw [hsent]
  simp [Client.run]

theorem registeredIds_exchangeEvents (requests : List Request) :
    ClientEvent.registeredIds (conversation.exchangeEvents requests) =
      (List.range' conversation.client.tickets.length requests.length).map (requestId conversation.outputSize) := by
  have htimed (tickets : List Nat) : ClientEvent.registeredIds (tickets.map .timedOut) = [] :=
    List.filterMap_eq_nil_iff.mpr fun event hevent => by
      obtain ⟨ticket, -, rfl⟩ := List.mem_map.mp hevent
      rfl
  simp only [exchangeEvents, ClientEvent.registeredIds_append, registeredIds_sendEvents, registeredIds_outputEvents,
    htimed, List.append_nil]

theorem outputSize_readOutput (bytes : List UInt8) :
    (conversation.readOutput bytes).outputSize = conversation.outputSize := by
  rcases hsplit : Output.splitLines (conversation.tail ++ bytes) with ⟨lines, tail⟩
  cases hopen : conversation.player.outputOpen <;> simp [readOutput, hsplit, hopen]

theorem outputSize_exchange (requests : List Request) :
    (conversation.exchange requests).2.outputSize = conversation.outputSize := by
  have hsent : (conversation.sendAll requests).2.outputSize = _ := congrArg Conversation.outputSize (sendAll_eq requests)
  rw [exchange]
  dsimp only
  rw [outputSize_readOutput]
  exact hsent

theorem sendEvents_append (place first second : Nat) : conversation.sendEvents place (first + second) =
    conversation.sendEvents place first ++ conversation.sendEvents (place + first) second := by
  rw [sendEvents, ← List.range'_append_1, List.flatMap_append]
  rfl

theorem sendEvents_succ (place count : Nat) : conversation.sendEvents place (count + 1) =
    [.register (requestId conversation.outputSize place), conversation.writeEvent place] ++
      conversation.sendEvents (place + 1) count :=
  rfl

theorem Traced.nodup (h : conversation.Traced seconds events) : (ClientEvent.registeredIds events).Nodup := by
  rw [h.ids_eq]
  exact List.nodup_range.map (requestId_injective _)

theorem Traced.exchange (h : conversation.Traced seconds events) (requests : List Request) :
    (conversation.exchange requests).2.Traced seconds (events ++ conversation.exchangeEvents requests) := by
  have hclient : (conversation.exchange requests).2.client =
      .after seconds (events ++ conversation.exchangeEvents requests) := by
    rw [client_exchange, h.client_eq, Client.after_append]
  have hlength : (conversation.exchange requests).2.client.tickets.length =
      conversation.client.tickets.length + requests.length := by
    rw [client_exchange, Client.length_tickets_run, registeredIds_exchangeEvents, List.length_map, List.length_range']
  have hids : ClientEvent.registeredIds (events ++ conversation.exchangeEvents requests) =
      (List.range (conversation.exchange requests).2.client.tickets.length).map
        (requestId (conversation.exchange requests).2.outputSize) := by
    rw [ClientEvent.registeredIds_append, h.ids_eq, registeredIds_exchangeEvents, hlength, outputSize_exchange,
      ← List.map_append, List.range_eq_range', List.range_eq_range']
    rw [← List.range'_append_1, Nat.zero_add]
  have hnodup : (ClientEvent.registeredIds (events ++ conversation.exchangeEvents requests)).Nodup := by
    rw [hids]
    exact List.nodup_range.map (requestId_injective _)
  refine ⟨hclient, hids, fun t ht => ?_⟩
  rw [hclient]
  by_cases hearlier : t < conversation.client.tickets.length
  · obtain ⟨outcome, houtcome⟩ := Option.isSome_iff_exists.mp (h.answered t hearlier)
    rw [h.client_eq] at houtcome
    rw [Client.outcome?_after_append hnodup houtcome]
    rfl
  · obtain ⟨earlier, rfl⟩ := Nat.exists_eq_add_of_le (Nat.le_of_not_lt hearlier)
    obtain ⟨later, hlater⟩ : ∃ later, requests.length = earlier + (later + 1) :=
      ⟨requests.length - earlier - 1, by omega⟩
    -- The events around the request: its registration and write, and in the end its timeout.
    let place := conversation.client.tickets.length
    let sent := conversation.sendAll requests
    let heard := hearAll sent.2.player sent.1
    have hsplit : events ++ conversation.exchangeEvents requests =
        (events ++ conversation.sendEvents place earlier) ++
          [.register (requestId conversation.outputSize (place + earlier))] ++
          [conversation.writeEvent (place + earlier)] ++
          (conversation.sendEvents (place + earlier + 1) later ++ { sent.2 with player := heard.1 }.outputEvents heard.2 ++
            (List.range' place earlier).map .timedOut) ++
          [.timedOut (place + earlier)] ++ (List.range' (place + earlier + 1) later).map .timedOut := by
      simp [exchangeEvents, hlater, sendEvents_append, sendEvents_succ, ← List.range'_append_1, List.range'_succ,
        place, sent, heard]
    have hcount : (ClientEvent.registeredIds (events ++ conversation.sendEvents place earlier)).length =
        place + earlier := by
      simp [ClientEvent.registeredIds_append, h.ids_eq, registeredIds_sendEvents, place]
    have hwrite : ((conversation.writeEvent (place + earlier)).writeResult? (place + earlier)).isSome := by
      rw [writeEvent]
      split <;> simp [ClientEvent.writeResult?]
    rw [hsplit] at hnodup ⊢
    exact Client.isSome_outcome?_of_timedOut hcount hwrite hnodup

theorem Traced.start (script : Script) (arguments : List String) (seconds : Nat) :
    ∃ events, (Conversation.start script arguments seconds).Traced seconds events := by
  let waiting : Conversation := ⟨.fresh seconds, (Player.start script).advance.1, [], arguments, script.size⟩
  let events := waiting.outputEvents (Player.start script).advance.2
  have hclient : (Conversation.start script arguments seconds).client = .after seconds events := client_readOutput
  have hids : ClientEvent.registeredIds events = [] := registeredIds_outputEvents
  have hlength : (Conversation.start script arguments seconds).client.tickets.length = 0 := by
    rw [hclient, Client.length_tickets_after, hids, List.length_nil]
  refine ⟨events, hclient, ?_, fun t ht => ?_⟩
  · rw [hids, hlength, List.range_zero, List.map_nil]
  · rw [hlength] at ht
    exact absurd ht (Nat.not_lt_zero t)

/-- A conversation that has been started, and in which requests have been made any number of times. -/
inductive Reached : Conversation → Prop where
  | start (script : Script) (arguments : List String) (seconds : Nat) : Reached (.start script arguments seconds)
  | exchange {conversation : Conversation} (h : Reached conversation) (requests : List Request) :
      Reached (conversation.exchange requests).2

theorem Reached.traced (h : Reached conversation) : ∃ seconds events, conversation.Traced seconds events := by
  induction h with
  | start script arguments seconds => exact ⟨seconds, Traced.start script arguments seconds⟩
  | exchange _ requests ih =>
      obtain ⟨seconds, events, htraced⟩ := ih
      exact ⟨seconds, _, htraced.exchange requests⟩

theorem Reached.pending_eq_nil (h : Reached conversation) : conversation.client.pending = [] := by
  obtain ⟨seconds, events, htraced⟩ := h.traced
  have hmatched : conversation.client.Matched := htraced.client_eq ▸ Client.matched_after htraced.nodup
  exact hmatched.pending_eq_nil htraced.answered

theorem Reached.ne_channelClosed (h : Reached conversation) {requests : List Request} {outcome : Except WorkerError Json}
    (houtcome : outcome ∈ (conversation.exchange requests).1) : outcome ≠ .error .channelClosed := by
  obtain ⟨seconds, events, htraced⟩ := h.traced
  have hlater := htraced.exchange requests
  have houtcomes : (conversation.exchange requests).1 =
      (List.range' conversation.client.tickets.length requests.length).map fun ticket =>
        ((conversation.exchange requests).2.client.outcome? ticket).getD (.error .channelClosed) := rfl
  rw [houtcomes] at houtcome
  obtain ⟨ticket, hticket, rfl⟩ := List.mem_map.mp houtcome
  have hlt : ticket < (conversation.exchange requests).2.client.tickets.length := by
    rw [client_exchange, Client.length_tickets_run, registeredIds_exchangeEvents, List.length_map, List.length_range']
    exact (List.mem_range'_1.mp hticket).2
  obtain ⟨found, hfound⟩ := Option.isSome_iff_exists.mp (hlater.answered ticket hlt)
  rw [hfound, Option.getD_some]
  rw [hlater.client_eq] at hfound
  rintro rfl
  exact Client.outcome?_ne_channelClosed hlater.nodup hfound

end Conversation

/-! ### The table -/

namespace Client

/-- The table of a client is in step with the events it has seen. -/
structure Tabled (seconds : Nat) (events : List ClientEvent) : Prop where
  /-- The table holds the ids of the outstanding requests, each once. -/
  mem_keys_iff : ∀ id, id ∈ Keyed.keys (after seconds events).pending ↔ ClientEvent.Outstanding events id
  keys_nodup : (Keyed.keys (after seconds events).pending).Nodup
  /-- While no request is outstanding, or when each has its outcome, nothing is left in the table. -/
  eq_nil_of_settled : (∀ id, ¬ ClientEvent.Outstanding events id) → (after seconds events).pending = []
  eq_nil_of_answered : (∀ ticket < (ClientEvent.registeredIds events).length,
    ((after seconds events).outcome? ticket).isSome) → (after seconds events).pending = []
  /-- No request loses its channel. -/
  ne_channelClosed : ∀ ticket, (after seconds events).outcome? ticket ≠ some (.error .channelClosed)
  /-- A request that is registered after the end of the output is not answered. -/
  late : ∀ before id since outcome, events = before ++ .register id :: since → .readerEnded ∈ before →
    (after seconds events).outcome? (ClientEvent.registeredIds before).length = some outcome →
    (∃ fault, outcome = .error (.writeFailed fault)) ∨ outcome = .error (.timeout seconds)

theorem tabled_after {seconds : Nat} {events : List ClientEvent} (h : (ClientEvent.registeredIds events).Nodup) :
    Tabled seconds events ∧
      ∀ conversation : Conversation, conversation.Reached →
        conversation.client.pending = [] ∧
          ∀ requests, ∀ outcome ∈ (conversation.exchange requests).1, outcome ≠ .error .channelClosed := by
  have hmatched : (after seconds events).Matched := matched_after h
  refine ⟨⟨fun id => mem_keys_pending_iff h, hmatched.keys_nodup, ?_, ?_, fun ticket => outcome?_ne_channelClosed h, ?_⟩,
    fun conversation hreached => ⟨hreached.pending_eq_nil, fun _ _ => hreached.ne_channelClosed⟩⟩
  · intro hsettled
    refine List.eq_nil_iff_forall_not_mem.mpr ?_
    rintro ⟨id, ticket⟩ hmem
    exact hsettled id ((mem_keys_pending_iff h).mp (Keyed.mem_keys_of_mem hmem))
  · intro hanswered
    refine hmatched.pending_eq_nil fun ticket hticket => hanswered ticket ?_
    rwa [length_tickets_after] at hticket
  · rintro before id since outcome rfl hended houtcome
    exact outcome_of_late h hended houtcome

end Client

/-! ### A request that times out, one that is drained and one that comes too late -/

namespace Late

def events : List ClientEvent :=
  [.register "a", .written 0, .register "b", .timedOut 0, .readerEnded, .register "c", .written 2]

theorem outstanding_events : (ClientEvent.registeredIds events).Nodup ∧ ClientEvent.Outstanding events "c" ∧
    ¬ ClientEvent.Outstanding events "a" ∧ ¬ ClientEvent.Outstanding events "b" ∧
      (Client.after 30 (events ++ [.timedOut 2])).pending = [] := by
  have hnodup : (ClientEvent.registeredIds events).Nodup := by decide
  have hkeys : Keyed.keys (Client.after 30 events).pending = ["c"] := by decide
  obtain ⟨htabled, -⟩ : Client.Tabled 30 events ∧ _ := Client.tabled_after hnodup
  refine ⟨hnodup, (htabled.mem_keys_iff "c").mp ?_, (htabled.mem_keys_iff "a").not.mp ?_,
    (htabled.mem_keys_iff "b").not.mp ?_, ?_⟩
  · rw [hkeys]
    decide
  · rw [hkeys]
    decide
  · rw [hkeys]
    decide
  · decide

end Late

end QueryFrames
