import QueryFrames.Keyed
import QueryFrames.Worker.Message

/-!
The client's side of a conversation with a worker, as a machine that takes one event at a time. A request is
registered under its id before its line is written, and then waits; whichever response line first carries a
registered id answers the request and takes the id out of the table. A failed write, a timeout and the end of
the worker's output take ids out as well. Lines that hold no response, or one nobody waits for, change nothing.
-/

namespace QueryFrames

/-- What has come over the channel of a request whose line is still to be written. -/
inductive Mailbox where
  | empty
  | holds (response : Response)
  | closed

/-- How far a request has come. -/
inductive Phase where
  | unwritten (mailbox : Mailbox)
  | waiting
  | finished (outcome : Except WorkerError Json)

namespace Phase

/-- A response comes in. -/
def receive (response : Response) : Phase → Phase
  | unwritten .empty => unwritten (.holds response)
  | waiting => finished response.outcome
  | phase => phase

/-- The channel is dropped before a response came. -/
def close : Phase → Phase
  | unwritten .empty => unwritten .closed
  | waiting => finished (.error .channelClosed)
  | phase => phase

/-- The line has been written. -/
def written : Phase → Phase
  | unwritten .empty => waiting
  | unwritten (.holds response) => finished response.outcome
  | unwritten .closed => finished (.error .channelClosed)
  | phase => phase

/-- What became of the request, once something has. -/
def outcome? : Phase → Option (Except WorkerError Json)
  | finished outcome => some outcome
  | _ => none

end Phase

/-- A request under its id. -/
structure Ticket where
  id : String
  phase : Phase

/-- All requests made so far, the table of ids that are waited for, and whether output is still read. -/
structure Client where
  timeoutSeconds : Nat
  tickets : List Ticket
  pending : List (String × Nat)
  readerEnded : Bool

/-- What can happen to a client. A ticket is the place of a request among all that were made. -/
inductive ClientEvent where
  | register (id : String)
  | written (ticket : Nat)
  | writeFailed (ticket : Nat) (fault : IoFault)
  | line (text : String)
  | readerEnded
  | timedOut (ticket : Nat)

namespace Client

/-- A client that has made no request. -/
def fresh (timeoutSeconds : Nat) : Client := ⟨timeoutSeconds, [], [], false⟩

/-- Changes the phase of one ticket. -/
def onTicket (client : Client) (ticket : Nat) (change : Phase → Phase) : Client :=
  { client with
    tickets := client.tickets.modify ticket fun entry => { entry with phase := change entry.phase } }

/-- Takes an id out of the table; the channel that was registered under it is dropped. -/
def forget (client : Client) (id : String) : Client :=
  match Keyed.get? id client.pending with
  | some ticket => { client.onTicket ticket .close with pending := Keyed.erase id client.pending }
  | none => client

/-- The phase of a ticket. -/
def phase? (client : Client) (ticket : Nat) : Option Phase :=
  client.tickets[ticket]?.map (·.phase)

/-- What became of a ticket, once something has. -/
def outcome? (client : Client) (ticket : Nat) : Option (Except WorkerError Json) :=
  (client.phase? ticket).bind Phase.outcome?

/-- Registers a request; its ticket is the number of requests before it. -/
def register (client : Client) (id : String) : Client :=
  let cleared := client.forget id
  { cleared with
    tickets := cleared.tickets ++ [⟨id, .unwritten .empty⟩]
    pending := Keyed.put id cleared.tickets.length cleared.pending }

/-- Ends a request that has not finished; its id goes out of the table. -/
def abandon (client : Client) (ticket : Nat) (error : WorkerError) : Client :=
  match client.tickets[ticket]? with
  | none => client
  | some entry =>
    match entry.phase with
    | .finished _ => client
    | _ => (client.forget entry.id).onTicket ticket fun _ => .finished (.error error)

/-- A line of output comes in. -/
def deliver (client : Client) (text : String) : Client :=
  if client.readerEnded then client
  else
    match Response.ofLine? text with
    | none => client
    | some response =>
      match Keyed.get? response.id client.pending with
      | none => client
      | some ticket =>
        { client.onTicket ticket (.receive response) with
          pending := Keyed.erase response.id client.pending }

/-- The output ends, which it does once; every request in the table is answered that the worker is gone. -/
def endReader (client : Client) : Client :=
  if client.readerEnded then client
  else
    let answered := client.pending.foldl
      (fun client (id, ticket) => client.onTicket ticket (.receive (.workerExited id))) client
    { answered with pending := [], readerEnded := true }

/-- A request has waited for too long. -/
def timeOut (client : Client) (ticket : Nat) : Client :=
  match client.phase? ticket with
  | some .waiting => client.abandon ticket (.timeout client.timeoutSeconds)
  | _ => client

/-- One event. -/
def step (client : Client) : ClientEvent → Client
  | .register id => client.register id
  | .written ticket => client.onTicket ticket .written
  | .writeFailed ticket fault => client.abandon ticket (.writeFailed fault)
  | .line text => client.deliver text
  | .readerEnded => client.endReader
  | .timedOut ticket => client.timeOut ticket

/-- A sequence of events. -/
def run (client : Client) (events : List ClientEvent) : Client :=
  events.foldl step client

end Client

end QueryFrames
