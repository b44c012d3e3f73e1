import Mathlib.Data.List.Nodup
import QueryFrames.Proofs.Dedup
import QueryFrames.Worker.Client

/-! The requests of a client, each on its own. While all ids differ, the table holds exactly the requests that are
still open, each under its own id. What an event does to a request can then be told from that request alone: a
response that carries its id reaches it, and one that carries another never does. -/

namespace QueryFrames

/-! ### One request -/

namespace Phase

variable {phase : Phase} {response : Response} {seconds : Nat} {reading : Bool} {id : String} {ticket : Nat}

/-- Nothing has come for the request yet. -/
def Open : Phase → Prop
  | unwritten .empty | waiting => True
  | _ => False

/-- The request fails, unless it is finished. -/
def fail (error : WorkerError) : Phase → Phase
  | finished outcome => finished outcome
  | _ => finished (.error error)

/-- The request has waited for too long. -/
def timeOut (seconds : Nat) : Phase → Phase
  | waiting => finished (.error (.timeout seconds))
  | phase => phase

/-- What an event does to the request of an id and a ticket. Lines and the end of the output matter while output
is read. -/
def follow (seconds : Nat) (reading : Bool) (id : String) (ticket : Nat) (phase : Phase) : ClientEvent → Phase
  | .register _ => phase
  | .written t => if t = ticket then phase.written else phase
  | .writeFailed t fault => if t = ticket then phase.fail (.writeFailed fault) else phase
  | .line text =>
    match Response.ofLine? text with
    | some response => if reading = true ∧ response.id = id then phase.receive response else phase
    | none => phase
  | .readerEnded => if reading = true then phase.receive (.workerExited id) else phase
  | .timedOut t => if t = ticket then phase.timeOut seconds else phase

theorem receive_of_not_open (h : ¬ phase.Open) : phase.receive response = phase := by
  cases phase with
  | unwritten mailbox => cases mailbox <;> simp_all [Open, receive]
  | waiting => exact absurd trivial h
  | finished outcome => rfl

theorem not_open_receive : ¬ (phase.receive response).Open := by
  cases phase with
  | unwritten mailbox => cases mailbox <;> simp [Open, receive]
  | waiting => exact id
  | finished outcome => exact id

theorem open_written : phase.written.Open ↔ phase.Open := by
  cases phase with
  | unwritten mailbox => cases mailbox <;> simp [Open, written]
  | waiting => exact Iff.rfl
  | finished outcome => exact Iff.rfl

theorem not_open_fail (error : WorkerError) : ¬ (phase.fail error).Open := by
  cases phase <;> exact id

theorem timeOut_of_ne_waiting (h : phase ≠ .waiting) : phase.timeOut seconds = phase := by
  cases phase with
  | waiting => exact absurd rfl h
  | unwritten mailbox => rfl
  | finished outcome => rfl

/-- What holds of a phase and of all that can come of it holds of what follows. -/
theorem follow_cases {motive : Phase → Prop} (event : ClientEvent) (hsame : motive phase)
    (hwritten : motive phase.written) (hfail : ∀ error, motive (phase.fail error))
    (hreceive : ∀ response, motive (phase.receive response)) (htimeOut : motive (phase.timeOut seconds)) :
    motive (phase.follow seconds reading id ticket event) := by
  cases event with
  | register _ => exact hsame
  | written t =>
      rw [follow]
      split
      · exact hwritten
      · exact hsame
  | writeFailed t fault =>
      rw [follow]
      split
      · exact hfail _
      · exact hsame
  | line text =>
      rw [follow]
      split
      · split
        · exact hreceive _
        · exact hsame
      · exact hsame
  | readerEnded =>
      rw [follow]
      split
      · exact hreceive _
      · exact hsame
  | timedOut t =>
      rw [follow]
      split
      · exact htimeOut
      · exact hsame

/-- What is not open stays so. -/
theorem not_open_follow (h : ¬ phase.Open) (event : ClientEvent) :
    ¬ (phase.follow seconds reading id ticket event).Open := by
  have htimeOut : ¬ (phase.timeOut seconds).Open := by
    rwa [timeOut_of_ne_waiting]
    rintro rfl
    exact h trivial
  exact follow_cases (motive := (¬ Open ·)) event h (open_written.not.mpr h) not_open_fail (fun _ => not_open_receive)
    htimeOut

@[simp] theorem follow_finished (outcome : Except WorkerError Json) (event : ClientEvent) :
    (finished outcome).follow seconds reading id ticket event = finished outcome :=
  follow_cases (motive := (· = finished outcome)) event rfl rfl (fun _ => rfl) (fun _ => rfl) rfl

end Phase

namespace ClientEvent

/-- The id that an event registers. -/
def registered? : ClientEvent → Option String
  | register id => some id
  | _ => none

/-- The output ends. -/
def endsReader : ClientEvent → Bool
  | readerEnded => true
  | _ => false

/-- The ids that events register, in their order. -/
def registeredIds (events : List ClientEvent) : List String :=
  events.filterMap registered?

theorem registeredIds_append (events rest : List ClientEvent) :
    registeredIds (events ++ rest) = registeredIds events ++ registeredIds rest :=
  List.filterMap_append

theorem registeredIds_singleton (event : ClientEvent) : registeredIds [event] = event.registered?.toList := by
  cases event <;> rfl

theorem nodup_of_append {events rest : List ClientEvent} (h : (registeredIds (events ++ rest)).Nodup) :
    (registeredIds events).Nodup := by
  rw [registeredIds_append] at h
  exact h.of_append_left

theorem exists_register_of_getElem? {events : List ClientEvent} {id : String} {t : Nat}
    (h : (registeredIds events)[t]? = some id) :
    ∃ before since, events = before ++ register id :: since ∧ (registeredIds before).length = t := by
  induction events generalizing t with
  | nil => cases h
  | cons event events ih =>
      rw [← List.singleton_append, registeredIds_append, registeredIds_singleton] at h
      cases hevent : event.registered? with
      | none =>
          rw [hevent, Option.toList_none, List.nil_append] at h
          obtain ⟨before, since, rfl, rfl⟩ := ih h
          exact ⟨event :: before, since, rfl, by simp [registeredIds, hevent]⟩
      | some i =>
          obtain rfl : event = register i := by cases event <;> simp_all [registered?]
          cases t with
          | zero =>
              obtain rfl : i = id := Option.some.inj h
              exact ⟨[], events, rfl, rfl⟩
          | succ t =>
              obtain ⟨before, since, rfl, rfl⟩ := ih h
              exact ⟨register i :: before, since, rfl, rfl⟩

/-- The event answers, drains, fails or times out the request of an id and a ticket. Whether output is still read and
whether the request waits for its response is said beside it. -/
def Settles (reading waiting : Prop) (id : String) (ticket : Nat) : ClientEvent → Prop
  | line text => reading ∧ ∃ response, Response.ofLine? text = some response ∧ response.id = id
  | readerEnded => reading
  | writeFailed t _ => t = ticket
  | timedOut t => t = ticket ∧ waiting
  | register _ | written _ => False

end ClientEvent

theorem Phase.open_follow {phase : Phase} {seconds : Nat} {reading : Bool} {id : String} {t : Nat}
    {event : ClientEvent} :
    (phase.follow seconds reading id t event).Open ↔
      phase.Open ∧ ¬ event.Settles (reading = true) (phase = .waiting) id t := by
  by_cases hopen : phase.Open
  swap
  · simp only [hopen, false_and, iff_false]
    exact not_open_follow hopen event
  simp only [hopen, true_and]
  cases event with
  | register _ => simp [follow, ClientEvent.Settles, hopen]
  | written s =>
      have hwritten := open_written.mpr hopen
      simp only [follow, ClientEvent.Settles, not_false_eq_true, iff_true]
      split <;> assumption
  | writeFailed s fault =>
      by_cases hs : s = t <;> simp [follow, ClientEvent.Settles, hs, hopen, not_open_fail]
  | line text =>
      cases hline : Response.ofLine? text with
      | none => simp [follow, ClientEvent.Settles, hline, hopen]
      | some response =>
          by_cases hid : reading = true ∧ response.id = id <;>
            simp [follow, ClientEvent.Settles, hline, hid, hopen, not_open_receive]
  | readerEnded =>
      by_cases hreading : reading = true <;>
        simp [follow, ClientEvent.Settles, hreading, hopen, not_open_receive]
  | timedOut s =>
      by_cases hwaiting : phase = .waiting
      · subst hwaiting
        by_cases hs : s = t <;> simp [follow, ClientEvent.Settles, hs, timeOut, Open]
      · simp [follow, ClientEvent.Settles, hwaiting, hopen, timeOut_of_ne_waiting]

namespace Client

variable {client : Client} {event : ClientEvent} {id : String} {t place : Nat} {phase : Phase}

/-- The ids of the requests by their tickets. -/
def ids (client : Client) : List String :=
  client.tickets.map (·.id)

theorem getElem?_ids (ht : client.tickets[t]? = some ⟨id, phase⟩) : client.ids[t]? = some id := by
  rw [ids, List.getElem?_map, ht]
  rfl

theorem getElem?_onTicket (place : Nat) (change : Phase → Phase) (ht : client.tickets[t]? = some ⟨id, phase⟩) :
    (client.onTicket place change).tickets[t]? = some ⟨id, if place = t then change phase else phase⟩ := by
  rw [onTicket, List.getElem?_modify, ht]
  by_cases hp : place = t <;> simp [hp]

theorem ticket_inj {i : String} {other : Phase} (ht : client.tickets[t]? = some ⟨id, phase⟩)
    (hs : client.tickets[t]? = some ⟨i, other⟩) : id = i ∧ phase = other :=
  Ticket.mk.inj (Option.some.inj (ht.symm.trans hs))

theorem phase?_of_ticket (ht : client.tickets[t]? = some ⟨id, phase⟩) : client.phase? t = some phase := by
  rw [phase?, ht]
  rfl

theorem outcome?_of_ticket (ht : client.tickets[t]? = some ⟨id, phase⟩) : client.outcome? t = phase.outcome? := by
  rw [outcome?, phase?_of_ticket ht]
  rfl

/-- All ids differ, and the table holds the requests that are open, each under its id. -/
structure Matched (client : Client) : Prop where
  ids_nodup : client.ids.Nodup
  keys_nodup : (Keyed.keys client.pending).Nodup
  mem_pending_iff : ∀ id t, (id, t) ∈ client.pending ↔ ∃ phase, client.tickets[t]? = some ⟨id, phase⟩ ∧ phase.Open

theorem Matched.fresh (seconds : Nat) : (Client.fresh seconds).Matched where
  ids_nodup := List.nodup_nil
  keys_nodup := List.nodup_nil
  mem_pending_iff id t := by simp [Client.fresh]

theorem Matched.exists_ticket (h : client.Matched) (hmem : (id, t) ∈ client.pending) :
    ∃ phase, client.tickets[t]? = some ⟨id, phase⟩ ∧ phase.Open :=
  (h.mem_pending_iff id t).mp hmem

theorem Matched.eq_of_id_eq (h : client.Matched) {s : Nat} {other : Phase}
    (ht : client.tickets[t]? = some ⟨id, phase⟩) (hs : client.tickets[s]? = some ⟨id, other⟩) : s = t := by
  obtain ⟨hlt, -⟩ := List.getElem?_eq_some_iff.mp (getElem?_ids hs)
  exact (List.getElem?_inj hlt h.ids_nodup).mp ((getElem?_ids hs).trans (getElem?_ids ht).symm)

/-- The table holds the id of a request for this request only, and while it is open. -/
theorem Matched.mem_pending_of_ticket (h : client.Matched) (ht : client.tickets[t]? = some ⟨id, phase⟩) {s : Nat} :
    (id, s) ∈ client.pending ↔ s = t ∧ phase.Open := by
  rw [h.mem_pending_iff]
  constructor
  · rintro ⟨other, hs, hopen⟩
    obtain rfl := h.eq_of_id_eq ht hs
    obtain ⟨-, rfl⟩ := ticket_inj ht hs
    exact ⟨rfl, hopen⟩
  · rintro ⟨rfl, hopen⟩
    exact ⟨phase, ht, hopen⟩

theorem Matched.get?_of_open (h : client.Matched) (ht : client.tickets[t]? = some ⟨id, phase⟩) (hopen : phase.Open) :
    Keyed.get? id client.pending = some t :=
  (Keyed.get?_eq_some_iff h.keys_nodup).mpr ((h.mem_pending_of_ticket ht).mpr ⟨rfl, hopen⟩)

theorem Matched.not_mem_keys (h : client.Matched) (ht : client.tickets[t]? = some ⟨id, phase⟩) (hphase : ¬ phase.Open) :
    id ∉ Keyed.keys client.pending := by
  intro hkey
  obtain ⟨s, hs⟩ := Keyed.exists_of_mem_keys hkey
  exact hphase ((h.mem_pending_of_ticket ht).mp hs).2

theorem Matched.not_mem_keys_of_new (h : client.Matched) (hid : id ∉ client.ids) : id ∉ Keyed.keys client.pending := by
  intro hkey
  obtain ⟨t, ht⟩ := Keyed.exists_of_mem_keys hkey
  obtain ⟨phase, hticket, -⟩ := h.exists_ticket ht
  exact hid (List.mem_of_getElem? (getElem?_ids hticket))

/-! ### What the operations of a client do -/

theorem Matched.register_eq (h : client.Matched) (hid : id ∉ client.ids) :
    client.register id = { client with
      tickets := client.tickets ++ [⟨id, .unwritten .empty⟩]
      pending := client.pending ++ [(id, client.tickets.length)] } := by
  have hkey := h.not_mem_keys_of_new hid
  rw [register, forget, Keyed.get?_eq_none_iff.mpr hkey, Keyed.put_of_not_mem hkey]

/-- A request that is abandoned is finished with the error, and its id is not in the table. -/
theorem Matched.abandon_eq (h : client.Matched) (ht : client.tickets[t]? = some ⟨id, phase⟩)
    (hphase : ∀ outcome, phase ≠ .finished outcome) (error : WorkerError) :
    client.abandon t error =
      { client.onTicket t fun _ => .finished (.error error) with pending := Keyed.erase id client.pending } := by
  have hforget : (client.forget id).onTicket t (fun _ => .finished (.error error)) =
      { client.onTicket t fun _ => .finished (.error error) with pending := Keyed.erase id client.pending } := by
    by_cases hopen : phase.Open
    · rw [forget, h.get?_of_open ht hopen]
      simp [onTicket, List.modify_modify_eq, Function.comp_def]
    · have hkey := h.not_mem_keys ht hopen
      rw [forget, Keyed.get?_eq_none_iff.mpr hkey, Keyed.erase_of_not_mem hkey]
      rfl
  rw [abandon, ht]
  cases phase with
  | finished outcome => exact absurd rfl (hphase outcome)
  | unwritten mailbox => exact hforget
  | waiting => exact hforget

theorem abandon_of_finished {outcome : Except WorkerError Json} (ht : client.tickets[t]? = some ⟨id, .finished outcome⟩)
    (error : WorkerError) : client.abandon t error = client := by
  rw [abandon, ht]

theorem timeOut_of_ne_waiting (ht : client.phase? t ≠ some .waiting) : client.timeOut t = client := by
  rw [timeOut]
  split
  · next h => exact absurd h ht
  · rfl

/-- A line that holds a response finds the open request of its id. -/
theorem Matched.deliver_eq (h : client.Matched) (hreading : client.readerEnded = false) {text : String}
    {response : Response} (hline : Response.ofLine? text = some response)
    (ht : client.tickets[t]? = some ⟨response.id, phase⟩) (hopen : phase.Open) :
    client.deliver text = { client.onTicket t (.receive response) with
      pending := Keyed.erase response.id client.pending } := by
  simp [deliver, hreading, hline, h.get?_of_open ht hopen]

theorem deliver_of_not_mem {text : String}
    (h : ∀ response, client.readerEnded = false → Response.ofLine? text = some response →
      response.id ∉ Keyed.keys client.pending) : client.deliver text = client := by
  rw [deliver]
  split
  · rfl
  · next hreading =>
      split
      · rfl
      · next response hline =>
          rw [Keyed.get?_eq_none_iff.mpr (h response (by simpa using hreading) hline)]

/-- The end of the output reaches every request in a list of table entries. -/
theorem getElem?_foldl_receive {entries : List (String × Nat)} (ht : client.tickets[t]? = some ⟨id, phase⟩)
    (hid : ∀ i, (i, t) ∈ entries → i = id) (hopen : phase.Open → (id, t) ∈ entries) :
    (entries.foldl (fun client entry => client.onTicket entry.2 (.receive (.workerExited entry.1))) client).tickets[t]? =
      some ⟨id, phase.receive (.workerExited id)⟩ := by
  induction entries generalizing client phase with
  | nil =>
      rw [Phase.receive_of_not_open fun h => nomatch hopen h]
      exact ht
  | cons entry rest ih =>
      obtain ⟨i, s⟩ := entry
      have hstep := getElem?_onTicket s (.receive (.workerExited i)) ht
      have hrest : ∀ j, (j, t) ∈ rest → j = id := fun j hmem => hid j (List.mem_cons_of_mem _ hmem)
      by_cases hs : s = t
      · subst hs
        obtain rfl := hid i List.mem_cons_self
        rw [if_pos rfl] at hstep
        -- Whatever else the entries hold for the request finds it closed.
        have hreceived : ¬ (phase.receive (.workerExited i)).Open := Phase.not_open_receive
        rw [List.foldl_cons, ih hstep hrest fun h => absurd h hreceived, Phase.receive_of_not_open hreceived]
      · rw [if_neg hs] at hstep
        rw [List.foldl_cons]
        refine ih hstep hrest fun h => ?_
        exact (List.mem_cons.mp (hopen h)).resolve_left fun heq => hs (Prod.mk.inj heq).2.symm

theorem Matched.getElem?_abandon (h : client.Matched) (ht : client.tickets[t]? = some ⟨id, phase⟩) (place : Nat)
    (error : WorkerError) :
    (client.abandon place error).tickets[t]? = some ⟨id, if place = t then phase.fail error else phase⟩ := by
  cases hplace : client.tickets[place]? with
  | none =>
      have hne : place ≠ t := by
        rintro rfl
        cases ht.symm.trans hplace
      rw [abandon, hplace, if_neg hne]
      exact ht
  | some other =>
      obtain ⟨i, found⟩ := other
      have hsame : place = t → found = phase := by
        rintro rfl
        exact (ticket_inj hplace ht).2
      cases found with
      | finished outcome =>
          rw [abandon_of_finished hplace]
          split
          · next hp => rw [← hsame hp, Phase.fail, hsame hp, ht]
          · exact ht
      | _ =>
          rw [h.abandon_eq hplace (by simp), getElem?_onTicket place _ ht]
          split
          · next hp => simp [← hsame hp, Phase.fail]
          · rfl

theorem Matched.getElem?_timeOut (h : client.Matched) (ht : client.tickets[t]? = some ⟨id, phase⟩) (place : Nat) :
    (client.timeOut place).tickets[t]? =
      some ⟨id, if place = t then phase.timeOut client.timeoutSeconds else phase⟩ := by
  by_cases hwaiting : client.phase? place = some .waiting
  · rw [timeOut, hwaiting]
    dsimp only
    rw [h.getElem?_abandon ht]
    split
    · next hp =>
        subst hp
        rw [phase?_of_ticket ht] at hwaiting
        obtain rfl : phase = .waiting := Option.some.inj hwaiting
        rfl
    · rfl
  · rw [timeOut_of_ne_waiting hwaiting, ht]
    split
    · next hp =>
        subst hp
        rw [Phase.timeOut_of_ne_waiting]
        rintro rfl
        exact hwaiting (phase?_of_ticket ht)
    · rfl

theorem Matched.getElem?_deliver (h : client.Matched) (ht : client.tickets[t]? = some ⟨id, phase⟩) (text : String) :
    (client.deliver text).tickets[t]? =
      some ⟨id, phase.follow client.timeoutSeconds (!client.readerEnded) id t (.line text)⟩ := by
  rw [Phase.follow]
  by_cases hreading : client.readerEnded = false
  · cases hline : Response.ofLine? text with
    | none => rw [deliver_of_not_mem (by simp [hline]), ht]
    | some response =>
        dsimp only
        by_cases hkey : response.id ∈ Keyed.keys client.pending
        · obtain ⟨place, hplace⟩ := Keyed.exists_of_mem_keys hkey
          obtain ⟨found, hticket, hopen⟩ := (h.mem_pending_iff _ _).mp hplace
          rw [h.deliver_eq hreading hline hticket hopen, getElem?_onTicket place _ ht]
          by_cases hp : place = t
          · subst hp
            have hid : response.id = id := (ticket_inj hticket ht).1
            simp [hid, hreading]
          · have hid : response.id ≠ id := by
              rintro rfl
              exact hp (h.eq_of_id_eq ht hticket)
            simp [hid, hp]
        · rw [deliver_of_not_mem (by simpa [hline] using fun _ => hkey), ht]
          split
          · next hid =>
              rw [Phase.receive_of_not_open]
              intro hopen
              exact hkey (hid.2 ▸ Keyed.mem_keys_of_mem ((h.mem_pending_of_ticket ht).mpr ⟨rfl, hopen⟩))
          · rfl
  · rw [deliver_of_not_mem fun _ hr => absurd hr hreading, ht]
    cases Response.ofLine? text <;> simp [hreading]

theorem Matched.getElem?_endReader (h : client.Matched) (ht : client.tickets[t]? = some ⟨id, phase⟩) :
    client.endReader.tickets[t]? =
      some ⟨id, phase.follow client.timeoutSeconds (!client.readerEnded) id t .readerEnded⟩ := by
  rw [endReader, Phase.follow]
  split
  · next hended => simpa [hended] using ht
  · next hreading =>
      have hid : ∀ i, (i, t) ∈ client.pending → i = id := by
        intro i hmem
        obtain ⟨other, hticket, -⟩ := (h.mem_pending_iff i t).mp hmem
        exact (ticket_inj hticket ht).1
      have hreceived := getElem?_foldl_receive ht hid fun hopen => (h.mem_pending_iff _ _).mpr ⟨phase, ht, hopen⟩
      simpa [hreading] using hreceived

/-- An event changes a request as it would on its own. -/
theorem Matched.getElem?_step (h : client.Matched) (hfresh : ∀ i, event.registered? = some i → i ∉ client.ids)
    (ht : client.tickets[t]? = some ⟨id, phase⟩) :
    (client.step event).tickets[t]? =
      some ⟨id, phase.follow client.timeoutSeconds (!client.readerEnded) id t event⟩ := by
  cases event with
  | register i =>
      obtain ⟨hlt, -⟩ := List.getElem?_eq_some_iff.mp ht
      rw [step, h.register_eq (hfresh i rfl), Phase.follow, List.getElem?_append_left hlt]
      exact ht
  | written place => exact getElem?_onTicket place _ ht
  | writeFailed place fault => exact h.getElem?_abandon ht place _
  | line text => exact h.getElem?_deliver ht text
  | readerEnded => exact h.getElem?_endReader ht
  | timedOut place => exact h.getElem?_timeOut ht place

/-! ### What all events keep -/

/-- The ids of all requests, the timeout, and whether the output has ended. No operation on a request changes them. -/
def core (client : Client) : List String × Nat × Bool :=
  (client.ids, client.timeoutSeconds, client.readerEnded)

@[simp] theorem core_onTicket (place : Nat) (change : Phase → Phase) :
    (client.onTicket place change).core = client.core := by
  have hids : (client.onTicket place change).ids = client.ids := by
    refine List.ext_getElem? fun t => ?_
    rw [ids, ids, List.getElem?_map, List.getElem?_map, onTicket, List.getElem?_modify]
    cases client.tickets[t]? with
    | none => rfl
    | some ticket => by_cases hp : place = t <;> simp [hp]
  rw [core, hids]
  rfl

@[simp] theorem core_forget : (client.forget id).core = client.core := by
  rw [forget]
  split
  · exact core_onTicket _ _
  · rfl

@[simp] theorem core_abandon (place : Nat) (error : WorkerError) : (client.abandon place error).core = client.core := by
  rw [abandon]
  split
  · rfl
  · split
    · rfl
    · rw [core_onTicket, core_forget]

@[simp] theorem core_deliver (text : String) : (client.deliver text).core = client.core := by
  rw [deliver]
  split
  · rfl
  · split
    · rfl
    · split
      · rfl
      · exact core_onTicket _ _

@[simp] theorem core_timeOut (place : Nat) : (client.timeOut place).core = client.core := by
  rw [timeOut]
  split
  · exact core_abandon _ _
  · rfl

theorem core_endReader : client.endReader.core = (client.ids, client.timeoutSeconds, true) := by
  rw [endReader]
  split
  · next hended => rw [core, hended]
  · have hfold (entries : List (String × Nat)) (start : Client) :
        (entries.foldl (fun client entry => client.onTicket entry.2 (.receive (.workerExited entry.1))) start).core =
          start.core := by
      induction entries generalizing start with
      | nil => rfl
      | cons entry rest ih => rw [List.foldl_cons, ih, core_onTicket]
    have hcore := hfold client.pending client
    simp only [core, Prod.mk.injEq] at hcore
    exact congrArg₂ (fun ids seconds => (ids, seconds, true)) hcore.1 hcore.2.1

/-- A registration adds its id to those of all requests, and the end of the output is not forgotten. -/
theorem core_step : (client.step event).core =
    (client.ids ++ event.registered?.toList, client.timeoutSeconds, client.readerEnded || event.endsReader) := by
  have hkept {next : Client} (hnext : next.core = client.core) :
      next.core = (client.ids ++ [], client.timeoutSeconds, client.readerEnded || false) := by
    rw [hnext, core, List.append_nil, Bool.or_false]
  cases event with
  | register id =>
      have hcleared : (client.forget id).core = client.core := core_forget
      simp only [core, Prod.mk.injEq, ids] at hcleared
      simp [step, register, core, ids, hcleared, ClientEvent.registered?, ClientEvent.endsReader]
  | written place => exact hkept (core_onTicket _ _)
  | writeFailed place fault => exact hkept (core_abandon _ _)
  | line text => exact hkept (core_deliver _)
  | readerEnded => simpa [step, ClientEvent.registered?, ClientEvent.endsReader] using core_endReader
  | timedOut place => exact hkept (core_timeOut _)

theorem core_run {events : List ClientEvent} : (client.run events).core =
    (client.ids ++ ClientEvent.registeredIds events, client.timeoutSeconds,
      client.readerEnded || events.any ClientEvent.endsReader) := by
  induction events generalizing client with
  | nil => simp [run, core, ClientEvent.registeredIds]
  | cons event events ih =>
      have hstep : (client.step event).core = _ := core_step
      simp only [core, Prod.mk.injEq] at hstep
      obtain ⟨hids, hseconds, hended⟩ := hstep
      have hrest : (client.run (event :: events)).core = ((client.step event).run events).core := rfl
      rw [hrest, ih, hids, hseconds, hended, ← List.singleton_append, ClientEvent.registeredIds_append,
        ClientEvent.registeredIds_singleton, List.append_assoc, List.any_append, Bool.or_assoc]
      simp

theorem length_tickets_eq : client.tickets.length = client.ids.length :=
  (List.length_map _).symm

theorem length_tickets_run {events : List ClientEvent} :
    (client.run events).tickets.length = client.tickets.length + (ClientEvent.registeredIds events).length := by
  have hids : (client.run events).ids = _ := congrArg Prod.fst core_run
  rw [length_tickets_eq, length_tickets_eq, hids, List.length_append]

/-! ### What an event does to the table -/

theorem pending_forget_sublist : (client.forget id).pending.Sublist client.pending := by
  rw [forget]
  split
  · exact List.filter_sublist
  · exact List.Sublist.refl _

theorem pending_abandon_sublist (place : Nat) (error : WorkerError) :
    (client.abandon place error).pending.Sublist client.pending := by
  rw [abandon]
  split
  · exact List.Sublist.refl _
  · split
    · exact List.Sublist.refl _
    · exact pending_forget_sublist

/-- Events other than registrations only take entries out of the table. -/
theorem pending_step_sublist (hevent : event.registered? = none) :
    (client.step event).pending.Sublist client.pending := by
  cases event with
  | register id => cases hevent
  | written place => exact List.Sublist.refl _
  | writeFailed place fault => exact pending_abandon_sublist place _
  | line text =>
      rw [step, deliver]
      split
      · exact List.Sublist.refl _
      · split
        · exact List.Sublist.refl _
        · split
          · exact List.Sublist.refl _
          · exact List.filter_sublist
  | readerEnded =>
      rw [step, endReader]
      split
      · exact List.Sublist.refl _
      · exact List.nil_sublist _
  | timedOut place =>
      rw [step, timeOut]
      split
      · exact pending_abandon_sublist place _
      · exact List.Sublist.refl _

theorem Matched.mem_pending_abandon (h : client.Matched) {error : WorkerError} :
    (id, t) ∈ (client.abandon place error).pending ↔ (id, t) ∈ client.pending ∧ place ≠ t := by
  cases hplace : client.tickets[place]? with
  | none =>
      rw [abandon, hplace, and_iff_left_of_imp]
      rintro hmem rfl
      obtain ⟨phase, ht, -⟩ := h.exists_ticket hmem
      cases ht.symm.trans hplace
  | some found =>
      obtain ⟨i, phase⟩ := found
      by_cases hfinished : ∃ outcome, phase = .finished outcome
      · obtain ⟨outcome, rfl⟩ := hfinished
        rw [abandon_of_finished hplace, and_iff_left_of_imp]
        rintro hmem rfl
        obtain ⟨phase, ht, hopen⟩ := h.exists_ticket hmem
        obtain ⟨-, rfl⟩ := ticket_inj ht hplace
        exact hopen
      · rw [h.abandon_eq hplace fun outcome ho => hfinished ⟨outcome, ho⟩]
        refine Keyed.mem_erase.trans (and_congr_right fun hmem => not_congr ?_)
        obtain ⟨other, ht, -⟩ := h.exists_ticket hmem
        constructor
        · rintro rfl
          exact h.eq_of_id_eq ht hplace
        · rintro rfl
          exact (ticket_inj ht hplace).1

theorem mem_pending_deliver {text : String} : (id, t) ∈ (client.deliver text).pending ↔
    (id, t) ∈ client.pending ∧
      ¬ (client.readerEnded = false ∧ ∃ response, Response.ofLine? text = some response ∧ response.id = id) := by
  rw [deliver]
  split
  · next hended => simp [hended]
  · next hreading =>
      split
      · next hline => simp [hline]
      · next response hline =>
          split
          · next hkey =>
              have hid : (id, t) ∈ client.pending → response.id ≠ id := by
                rintro hmem rfl
                exact Keyed.get?_eq_none_iff.mp hkey (Keyed.mem_keys_of_mem hmem)
              simpa [hline, hreading] using hid
          · simp [hline, hreading, Keyed.mem_erase, eq_comm]

/-- An entry stays in the table until an event settles its request. -/
theorem Matched.mem_pending_step (h : client.Matched) (hevent : event.registered? = none) :
    (id, t) ∈ (client.step event).pending ↔ (id, t) ∈ client.pending ∧
      ¬ event.Settles (client.readerEnded = false) (client.phase? t = some .waiting) id t := by
  cases event with
  | register i => cases hevent
  | written place => exact (and_iff_left not_false).symm
  | writeFailed place fault => exact h.mem_pending_abandon
  | line text => exact mem_pending_deliver
  | readerEnded =>
      rw [step, endReader]
      split <;> simp_all [ClientEvent.Settles]
  | timedOut place =>
      by_cases hwaiting : client.phase? place = some .waiting
      · rw [step, timeOut, hwaiting]
        refine h.mem_pending_abandon.trans (and_congr_right fun _ => not_congr ?_)
        constructor
        · rintro rfl
          exact ⟨rfl, hwaiting⟩
        · exact And.left
      · rw [step, timeOut_of_ne_waiting hwaiting, and_iff_left]
        rintro ⟨rfl, ht⟩
        exact hwaiting ht

theorem settles_iff (ht : client.tickets[t]? = some ⟨id, phase⟩) :
    event.Settles (client.readerEnded = false) (client.phase? t = some .waiting) id t ↔
      event.Settles ((!client.readerEnded) = true) (phase = .waiting) id t := by
  rw [phase?_of_ticket ht, Option.some_inj, Bool.not_eq_true']

theorem Matched.register (h : client.Matched) (hid : id ∉ client.ids) : (client.register id).Matched := by
  have hcore : (client.step (.register id)).core = _ := core_step
  have hids : (client.register id).ids = client.ids ++ [id] := congrArg Prod.fst hcore
  refine ⟨?_, ?_, fun i t => ?_⟩
  · rw [hids, ← List.concat_eq_append]
    exact h.ids_nodup.concat hid
  · rw [h.register_eq hid, Keyed.keys_append]
    exact List.concat_eq_append ▸ h.keys_nodup.concat (h.not_mem_keys_of_new hid)
  · rw [h.register_eq hid, List.mem_append, h.mem_pending_iff, List.mem_singleton, Prod.mk.injEq]
    by_cases hlt : t < client.tickets.length
    · simp [List.getElem?_append_left hlt, Nat.ne_of_lt hlt]
    · have hnone : client.tickets[t]? = none := List.getElem?_eq_none (Nat.le_of_not_lt hlt)
      rw [hnone, List.getElem?_append_right (Nat.le_of_not_lt hlt), List.getElem?_singleton]
      by_cases ht : t = client.tickets.length
      · simp [ht, Phase.Open, eq_comm]
      · have hsub : t - client.tickets.length ≠ 0 := by omega
        simp [ht, hsub]

/-- While the ids stay distinct, an event keeps the table and the requests in step. -/
theorem Matched.step (h : client.Matched) (hfresh : ∀ i, event.registered? = some i → i ∉ client.ids) :
    (client.step event).Matched := by
  by_cases hevent : ∃ i, event = .register i
  · obtain ⟨i, rfl⟩ := hevent
    exact h.register (hfresh i rfl)
  have hnone : event.registered? = none := by
    cases event with
    | register i => exact absurd ⟨i, rfl⟩ hevent
    | _ => rfl
  have hids : (client.step event).ids = client.ids := by
    have hcore : (client.step event).core = _ := core_step
    rw [hnone, Option.toList_none, List.append_nil] at hcore
    exact congrArg Prod.fst hcore
  refine ⟨hids ▸ h.ids_nodup, h.keys_nodup.sublist ((pending_step_sublist hnone).map _), fun id t => ?_⟩
  rw [h.mem_pending_step hnone]
  constructor
  · rintro ⟨hmem, hsettles⟩
    obtain ⟨phase, ht, hopen⟩ := h.exists_ticket hmem
    rw [settles_iff ht] at hsettles
    exact ⟨_, h.getElem?_step hfresh ht, Phase.open_follow.mpr ⟨hopen, hsettles⟩⟩
  · rintro ⟨found, hfound, hopen⟩
    -- No event but a registration makes a ticket, so this one was there before.
    have hlt : t < client.tickets.length := by
      rw [length_tickets_eq, ← hids, ← length_tickets_eq]
      exact (List.getElem?_eq_some_iff.mp hfound).1
    have ht : client.tickets[t]? = some ⟨client.tickets[t].id, client.tickets[t].phase⟩ := List.getElem?_eq_getElem hlt
    obtain ⟨hid, hphase⟩ := ticket_inj (h.getElem?_step hfresh ht) hfound
    rw [← hphase, Phase.open_follow] at hopen
    rw [hid] at ht hopen
    exact ⟨(h.mem_pending_of_ticket ht).mpr ⟨rfl, hopen.1⟩, (settles_iff ht).not.mpr hopen.2⟩

/-! ### Runs -/

/-- The client after events, from the beginning. -/
def after (seconds : Nat) (events : List ClientEvent) : Client :=
  (fresh seconds).run events

variable {seconds : Nat} {events rest : List ClientEvent}

theorem after_concat : after seconds (events ++ [event]) = (after seconds events).step event := by
  rw [after, run, List.foldl_append]
  rfl

theorem core_after :
    (after seconds events).core = (ClientEvent.registeredIds events, seconds, events.any ClientEvent.endsReader) :=
  core_run

theorem ids_after : (after seconds events).ids = ClientEvent.registeredIds events :=
  congrArg Prod.fst core_after

theorem timeoutSeconds_after : (after seconds events).timeoutSeconds = seconds :=
  congrArg (·.2.1) core_after

theorem readerEnded_after : (after seconds events).readerEnded = events.any ClientEvent.endsReader :=
  congrArg (·.2.2) core_after

theorem length_tickets_after : (after seconds events).tickets.length = (ClientEvent.registeredIds events).length := by
  rw [length_tickets_eq, ids_after]

theorem new_of_nodup (h : (ClientEvent.registeredIds (events ++ [event])).Nodup) :
    ∀ i, event.registered? = some i → i ∉ (after seconds events).ids := by
  intro i hi hmem
  rw [ClientEvent.registeredIds_append, ClientEvent.registeredIds_singleton, hi] at h
  rw [ids_after] at hmem
  exact (List.nodup_append.mp h).2.2 i hmem i (List.mem_singleton_self i) rfl

/-- While all ids differ, every state of a client keeps the table and the requests in step. -/
theorem matched_after (h : (ClientEvent.registeredIds events).Nodup) : (after seconds events).Matched := by
  induction events using List.reverseRecOn with
  | nil => exact .fresh seconds
  | append_singleton events event ih =>
      rw [after_concat]
      exact (ih (ClientEvent.nodup_of_append h)).step (new_of_nodup h)

theorem getElem?_after_register (h : (ClientEvent.registeredIds (events ++ [.register id])).Nodup) :
    (after seconds (events ++ [.register id])).tickets[(ClientEvent.registeredIds events).length]? =
      some ⟨id, .unwritten .empty⟩ := by
  have hmatched : (after seconds events).Matched := matched_after (ClientEvent.nodup_of_append h)
  have hplace : (after seconds events).tickets.length = (ClientEvent.registeredIds events).length := length_tickets_after
  rw [after_concat, step, hmatched.register_eq (new_of_nodup h id rfl), ← hplace]
  exact List.getElem?_concat_length

theorem getElem?_after_concat (h : (ClientEvent.registeredIds (events ++ [event])).Nodup)
    (ht : (after seconds events).tickets[t]? = some ⟨id, phase⟩) :
    (after seconds (events ++ [event])).tickets[t]? =
      some ⟨id, phase.follow seconds (!events.any ClientEvent.endsReader) id t event⟩ := by
  have hstep := (matched_after (ClientEvent.nodup_of_append h)).getElem?_step (new_of_nodup h) ht
  rwa [timeoutSeconds_after, readerEnded_after, ← after_concat] at hstep

theorem exists_phase_after_register (seconds : Nat) (before since : List ClientEvent) (id : String) :
    ∃ phase, (after seconds (before ++ .register id :: since)).tickets[(ClientEvent.registeredIds before).length]? =
      some ⟨id, phase⟩ := by
  have hid : (after seconds (before ++ .register id :: since)).ids[(ClientEvent.registeredIds before).length]? =
      some id := by
    rw [ids_after, ClientEvent.registeredIds_append, List.getElem?_append_right (Nat.le_refl _), Nat.sub_self]
    rfl
  rw [ids, List.getElem?_map, Option.map_eq_some_iff] at hid
  obtain ⟨⟨_, phase⟩, ht, rfl⟩ := hid
  exact ⟨phase, ht⟩

/-- What every event keeps of a request lasts. -/
theorem exists_after_append {motive : Phase → Prop} (h : (ClientEvent.registeredIds (events ++ rest)).Nodup)
    (ht : (after seconds events).tickets[t]? = some ⟨id, phase⟩) (hphase : motive phase)
    (hfollow : ∀ phase reading event, motive phase → motive (phase.follow seconds reading id t event)) :
    ∃ later, (after seconds (events ++ rest)).tickets[t]? = some ⟨id, later⟩ ∧ motive later := by
  induction rest using List.reverseRecOn with
  | nil =>
      rw [List.append_nil]
      exact ⟨phase, ht, hphase⟩
  | append_singleton rest event ih =>
      rw [← List.append_assoc] at h ⊢
      obtain ⟨later, hlater, hmotive⟩ := ih (ClientEvent.nodup_of_append h)
      exact ⟨_, getElem?_after_concat h hlater, hfollow later _ event hmotive⟩

/-- A property of the phases of requests holds throughout a run if it holds of a request that has just been
registered and every event keeps it. -/
theorem phase_induction {motive : List ClientEvent → Nat → String → Phase → Prop}
    (hregister : ∀ before id, motive (before ++ [.register id]) (ClientEvent.registeredIds before).length id
      (.unwritten .empty))
    (hstep : ∀ before event t id phase, (ClientEvent.registeredIds (before ++ [event])).Nodup →
      (after seconds before).tickets[t]? = some ⟨id, phase⟩ → motive before t id phase →
      motive (before ++ [event]) t id
        (phase.follow (after seconds before).timeoutSeconds (!(after seconds before).readerEnded) id t event))
    (h : (ClientEvent.registeredIds events).Nodup) (ht : (after seconds events).tickets[t]? = some ⟨id, phase⟩) :
    motive events t id phase := by
  have hid := getElem?_ids ht
  rw [ids_after] at hid
  -- A ticket tells which event registered it; the induction is on the events since then.
  obtain ⟨before, since, rfl, rfl⟩ := ClientEvent.exists_register_of_getElem? hid
  clear hid
  induction since using List.reverseRecOn generalizing phase with
  | nil =>
      obtain ⟨-, rfl⟩ := ticket_inj (getElem?_after_register h) ht
      exact hregister before id
  | append_singleton since event ih =>
      obtain ⟨earlier, hearlier⟩ := exists_phase_after_register seconds before since id
      rw [← List.cons_append, ← List.append_assoc] at h ht ⊢
      have hbefore := ClientEvent.nodup_of_append h
      have hlater := (matched_after hbefore).getElem?_step (new_of_nodup h) hearlier
      rw [← after_concat] at hlater
      obtain ⟨-, rfl⟩ := ticket_inj hlater ht
      exact hstep _ event _ id earlier h hearlier (ih hbefore hearlier)

end Client

end QueryFrames
