import QueryFrames.Worker.Output

/-!
Scripted workers: programs that play a list of steps. A step reads a number of request lines, may close its
input, writes to its output, and then goes on, exits, closes its output, or falls silent. After its last step a
script keeps reading without a word.
-/

namespace QueryFrames

/-- A piece of output; in a text, `<id>` stands for the id of the newest request that was read, and `<id:k>` for the
id of the one at place `k`. -/
inductive Chunk where
  | text (value : String)
  | bytes (value : List UInt8)
deriving DecidableEq, Repr

/-- What follows a step. -/
inductive Sequel where
  | proceed
  | exit
  | closeOutput
  | sleep
deriving DecidableEq, Repr

/-- One step of a script. -/
structure ScriptStep where
  reads : Nat
  closesInput : Bool
  output : List Chunk
  sequel : Sequel
deriving DecidableEq, Repr

/-- A program a worker process can run. -/
abbrev Script := List ScriptStep

/-- How many bytes a piece of output has. -/
def Chunk.size : Chunk → Nat
  | .text value => value.utf8ByteSize
  | .bytes value => value.length

/-- How many bytes a script writes of its own, before marks are replaced. -/
def Script.size (script : Script) : Nat :=
  (script.flatMap (·.output)).foldl (fun total chunk => total + chunk.size) 0

/-- A request line that reaches a script: its id, and the line with the mark of its place for the id. -/
structure HeardLine where
  id : String
  line : String
deriving DecidableEq, Repr

/-- The mark of the newest request. -/
def newestMark : String := "<id>"

/-- The mark of the request at a place. -/
def placeMark (place : Nat) : String :=
  "<id:" ++ toString place ++ ">"

/-- A script being played: what is left of it, what it has read, and which ends are open. -/
structure Player where
  steps : Script
  readSinceStep : Nat
  heard : List HeardLine
  listening : Bool
  inputOpen : Bool
  outputOpen : Bool
deriving DecidableEq, Repr

namespace Player

/-- A script before its first step. -/
def start (script : Script) : Player where
  steps := script
  readSinceStep := 0
  heard := []
  listening := true
  inputOpen := true
  outputOpen := true

/-- The marks that stand for ids, with the ids. -/
def marks (player : Player) : List (List Char × List Char) :=
  let ids := player.heard.map (·.id.toList)
  (ids.getLast?.map ((newestMark.toList, ·))).toList ++ ids.mapIdx fun place id => ((placeMark place).toList, id)

/-- A text in which every mark is replaced; `passed` is how much of a mark is still to be passed over. -/
def fillIn (marks : List (List Char × List Char)) : Nat → List Char → List Char
  | _, [] => []
  | passed + 1, _ :: text => fillIn marks passed text
  | 0, c :: text =>
    match marks.find? (·.1.isPrefixOf (c :: text)) with
    | some (mark, id) => id ++ fillIn marks (mark.length - 1) text
    | none => c :: fillIn marks 0 text

/-- The bytes of a piece of output. -/
def chunkBytes (player : Player) : Chunk → List UInt8
  | .bytes value => value
  | .text value => Output.encode (String.ofList (fillIn player.marks 0 value.toList))

/-- What follows a step. -/
def follow (player : Player) : Sequel → Player
  | .proceed => player
  | .exit => { player with steps := [], listening := false, inputOpen := false, outputOpen := false }
  | .closeOutput => { player with outputOpen := false }
  | .sleep => { player with steps := [], listening := false }

/-- Plays every step that has read its lines, and gives what they write. -/
def play (player : Player) : Script → Player × List UInt8
  | [] => ({ player with steps := [] }, [])
  | step :: steps =>
    if player.readSinceStep < step.reads then ({ player with steps := step :: steps }, [])
    else
      let written := if player.outputOpen then step.output.flatMap player.chunkBytes else []
      let player := { player with readSinceStep := 0 }
      let player :=
        if step.closesInput then { player with inputOpen := false, listening := false } else player
      let player := player.follow step.sequel
      match step.sequel with
      | .proceed | .closeOutput =>
        let (player, more) := player.play steps
        (player, written ++ more)
      | .exit | .sleep => (player, written)

/-- Plays as far as the lines read so far allow. -/
def advance (player : Player) : Player × List UInt8 :=
  player.play player.steps

/-- A request line reaches the script. -/
def hear (player : Player) (line : HeardLine) : Player × List UInt8 :=
  if player.listening then
    { player with heard := player.heard ++ [line], readSinceStep := player.readSinceStep + 1 }.advance
  else (player, [])

end Player

end QueryFrames
