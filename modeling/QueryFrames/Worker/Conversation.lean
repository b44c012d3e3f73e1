import QueryFrames.Worker.Client
import QueryFrames.Worker.Script

/-!
A client and a scripted worker in conversation. Requests that are made together are registered and written in
their order; then the worker plays, its output is read to the end of what it wrote, and whoever is still without
an answer has waited in vain.
-/

namespace QueryFrames

/-- Both sides, the output that is not yet a line, the arguments the worker was started with, and how many bytes it
may write of its own. -/
structure Conversation where
  client : Client
  player : Player
  tail : List UInt8
  arguments : List String
  outputSize : Nat

namespace Conversation

/-- The id of the request at a place. It is longer than everything a worker writes of its own, which therefore cannot
name a request that it has not read. -/
def requestId (outputSize place : Nat) : String :=
  "<" ++ toString place ++ String.ofList (List.replicate outputSize '.') ++ ">"

/-- Hands lines to the client; one that is not well formed ends its reading. -/
def readLines (client : Client) : List (List UInt8) → Client
  | [] => client
  | line :: lines =>
    match Output.decode? line with
    | some text => readLines (client.step (.line text)) lines
    | none => client.step .readerEnded

/-- Output comes in, and its end if the worker has closed it. -/
def readOutput (conversation : Conversation) (bytes : List UInt8) : Conversation :=
  let (lines, tail) := Output.splitLines (conversation.tail ++ bytes)
  let client := readLines conversation.client (lines.map Output.dropReturn)
  if conversation.player.outputOpen then { conversation with client, tail }
  else
    let client := readLines client (if tail = [] then [] else [tail])
    { conversation with client := client.step .readerEnded, tail := [] }

/-- A worker is started. -/
def start (script : Script) (arguments : List String) (timeoutSeconds : Nat) : Conversation :=
  let (player, bytes) := (Player.start script).advance
  readOutput ⟨.fresh timeoutSeconds, player, [], arguments, script.size⟩ bytes

/-- Registers and writes one request; the line that reached the worker, if it did. -/
def send (conversation : Conversation) (request : Request) : Option HeardLine × Conversation :=
  let ticket := conversation.client.tickets.length
  let id := requestId conversation.outputSize ticket
  let client := conversation.client.step (.register id)
  if conversation.player.inputOpen then
    (some ⟨id, request.line (placeMark ticket)⟩, { conversation with client := client.step (.written ticket) })
  else (none, { conversation with client := client.step (.writeFailed ticket .brokenPipe) })

/-- Sends requests one after the other. -/
def sendAll (conversation : Conversation) : List Request → List HeardLine × Conversation
  | [] => ([], conversation)
  | request :: requests =>
    let (line, conversation) := conversation.send request
    let (lines, conversation) := conversation.sendAll requests
    (line.toList ++ lines, conversation)

/-- Lets the worker read lines one after the other. -/
def hearAll (player : Player) : List HeardLine → Player × List UInt8
  | [] => (player, [])
  | line :: lines =>
    let (player, bytes) := player.hear line
    let (player, more) := hearAll player lines
    (player, bytes ++ more)

/-- Makes requests together and gives what became of each. -/
def exchange (conversation : Conversation) (requests : List Request) :
    List (Except WorkerError Json) × Conversation :=
  let first := conversation.client.tickets.length
  let tickets := List.range' first requests.length
  let (lines, conversation) := conversation.sendAll requests
  let (player, bytes) := hearAll conversation.player lines
  let conversation := { conversation with player }.readOutput bytes
  let client := conversation.client.run (tickets.map .timedOut)
  (tickets.map fun ticket => (client.outcome? ticket).getD (.error .channelClosed),
    { conversation with client })

/-- Makes one request. -/
def request (conversation : Conversation) (request : Request) : Except WorkerError Json × Conversation :=
  let (outcomes, conversation) := conversation.exchange [request]
  (outcomes.head?.getD (.error .channelClosed), conversation)

end Conversation

/-- Executes statements through a worker. -/
def Executor.worker (connection : Connection) : Executor Conversation := fun call conversation =>
  let (outcome, conversation) := conversation.request (connection.request call.sql (call.mode = .dryRun))
  (outcome.bind QueryResult.decode, conversation)

end QueryFrames
