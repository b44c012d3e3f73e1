import QueryFrames.Session.Execution

/-!
An executor with prepared answers. Each rule names the end of the statements it is for, and may be for one mode
only or for a number of uses; the first rule that fits answers.
-/

namespace QueryFrames

/-- A prepared answer and the calls it is for. -/
structure CannedRule where
  ending : String
  mode : Option ExecutionMode
  uses : Option Nat
  answer : Except WorkerError QueryResult

namespace CannedRule

/-- Whether a rule is for a call and has a use left. -/
def fits (call : Call) (rule : CannedRule) : Bool :=
  rule.ending.toList.isSuffixOf call.sql.toList && rule.mode.all (· = call.mode) && rule.uses.all (0 < ·)

/-- The rule after one more use. -/
def used (rule : CannedRule) : CannedRule :=
  { rule with uses := rule.uses.map (· - 1) }

/-- The first rule that fits, and the rules after it was used. -/
def take? (call : Call) : List CannedRule → Option (CannedRule × List CannedRule)
  | [] => none
  | rule :: rules =>
    if rule.fits call then some (rule, rule.used :: rules)
    else (take? call rules).map fun (found, rules) => (found, rule :: rules)

end CannedRule

/-- Answers by rules; a call that no rule fits is an invalid query. -/
def Executor.canned : Executor (List CannedRule) := fun call rules =>
  match CannedRule.take? call rules with
  | some (rule, rules) => (rule.answer, rules)
  | none => (.error (.invalidQuery ("no canned result for: " ++ call.sql)), rules)

end QueryFrames
