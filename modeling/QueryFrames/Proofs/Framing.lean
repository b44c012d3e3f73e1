import QueryFrames.Proofs.JsonText
import QueryFrames.Worker.Message

/-! What a client writes for a request to execute a query. Whatever the connection and the query hold, it is one line,
and the line is the JSON text of the request, which a worker reads without loss. A line has one reading, so different
requests are written differently. -/

namespace QueryFrames

namespace Connection

variable (connection : Connection) (sql : String) (dryRun : Bool) (id : String)

/-- The parameters of a query in the order of their names. -/
def paramMembers : List (String × Json) :=
  [("connection_string", .string connection.connectionString), ("driver", .string connection.driver)] ++
    (if dryRun then [("dry_run", .bool true)] else []) ++ [("sql", .string sql)]

/-- A request to execute a query as a worker reads it. -/
def message : Json :=
  .object [("id", .string id), ("method", .string "query.execute"),
    ("params", .object (connection.paramMembers sql dryRun))]

theorem ordered_paramMembers : Json.Ordered (connection.paramMembers sql dryRun) := by
  cases dryRun with
  | false =>
      have hkeys : ["connection_string", "driver", "sql"].Pairwise (· < ·) := by decide
      exact hkeys
  | true =>
      have hkeys : ["connection_string", "driver", "dry_run", "sql"].Pairwise (· < ·) := by decide
      exact hkeys

theorem sortedMembers_paramMembers :
    Json.sortedMembers (connection.paramMembers sql dryRun) = connection.paramMembers sql dryRun := by
  cases dryRun <;> rfl

theorem sorted_params :
    (connection.params sql dryRun).sorted = .object (connection.paramMembers sql dryRun) := by
  apply congrArg Json.object
  refine Json.sortMembers_eq_of_perm ?_ (connection.ordered_paramMembers sql dryRun)
  cases dryRun with
  | false => exact .swap _ _ _
  | true => exact (List.Perm.swap _ _ _).trans (.cons _ (.cons _ (.swap _ _ _)))

theorem sorted_message : (connection.message sql dryRun id).sorted = connection.message sql dryRun id := by
  have hparams : Json.sorted (.object (connection.paramMembers sql dryRun)) =
      .object (connection.paramMembers sql dryRun) := by
    rw [Json.sorted, sortedMembers_paramMembers]
    exact congrArg Json.object (Json.sortMembers_eq_of_perm (.refl _) (connection.ordered_paramMembers sql dryRun))
  have hkeys : ["id", "method", "params"].Pairwise (· < ·) := by decide
  apply congrArg Json.object
  rw [Json.sortedMembers, Json.sortedMembers, Json.sortedMembers, Json.sortedMembers, hparams]
  exact Json.sortMembers_eq_of_perm (.refl _) hkeys

theorem numberless_message : (connection.message sql dryRun id).Numberless := by
  have hparams : Json.Numberless (.object (connection.paramMembers sql dryRun)) := by
    cases dryRun <;> exact .object (by simp [paramMembers, Json.Numberless.string, Json.Numberless.bool])
  exact .object (by simp [Json.Numberless.string, hparams])

theorem nesting_message : (connection.message sql dryRun id).nesting = 2 := by
  cases dryRun <;> rfl

theorem line_request : (connection.request sql dryRun).line id = (connection.message sql dryRun id).render := by
  rw [request, Request.line, sorted_params]
  rfl

theorem ofText?_line_request :
    Json.ofText? ((connection.request sql dryRun).line id) = some (connection.message sql dryRun id) := by
  have hdepth : (connection.message sql dryRun id).nesting ≤ Json.nestingLimit := by
    rw [nesting_message]
    decide
  rw [line_request, (connection.numberless_message sql dryRun id).ofText?_render hdepth, sorted_message]

theorem newline_not_mem_line_request : '\n' ∉ ((connection.request sql dryRun).line id).toList := by
  rw [line_request, Json.render, String.toList_ofList]
  intro hmem
  exact absurd ((connection.numberless_message sql dryRun id).printed _ hmem) (by decide)

theorem message_eq_iff {other : Connection} {otherSql : String} {otherDryRun : Bool} {otherId : String} :
    other.message otherSql otherDryRun otherId = connection.message sql dryRun id ↔
      other = connection ∧ otherSql = sql ∧ otherDryRun = dryRun ∧ otherId = id := by
  obtain ⟨driver, connectionString⟩ := connection
  obtain ⟨otherDriver, otherConnectionString⟩ := other
  cases dryRun <;> cases otherDryRun <;> simp [message, paramMembers] <;> grind

/-- A request to execute a query is written as one line and its line feed. The line reads back as the request, and no
two requests are written alike. -/
theorem written_request :
    (∃ line, (connection.request sql dryRun).written id = line ++ "\n" ∧ '\n' ∉ line.toList ∧
        Json.ofText? line = some (connection.message sql dryRun id)) ∧
      ∀ (other : Connection) (otherSql : String) (otherDryRun : Bool) (otherId : String),
        (other.request otherSql otherDryRun).written otherId = (connection.request sql dryRun).written id ↔
          other = connection ∧ otherSql = sql ∧ otherDryRun = dryRun ∧ otherId = id := by
  refine ⟨⟨(connection.request sql dryRun).line id, rfl, connection.newline_not_mem_line_request sql dryRun id,
    connection.ofText?_line_request sql dryRun id⟩, fun other otherSql otherDryRun otherId => ⟨fun h => ?_, ?_⟩⟩
  · have hline : (other.request otherSql otherDryRun).line otherId = (connection.request sql dryRun).line id :=
      String.append_left_inj _ |>.mp h
    have hread := connection.ofText?_line_request sql dryRun id
    rw [← hline, ofText?_line_request] at hread
    exact (connection.message_eq_iff sql dryRun id).mp (Option.some.inj hread)
  · rintro ⟨rfl, rfl, rfl, rfl⟩
    rfl

example : ((Connection.mk "duckdb" ":memory:").request "SELECT 'a\nb'" true).written "7" =
    "\x7b\"id\":\"7\",\"method\":\"query.execute\",\"params\":\x7b\"connection_string\":\":memory:\"," ++
      "\"driver\":\"duckdb\",\"dry_run\":true,\"sql\":\"SELECT 'a\\nb'\"\x7d\x7d\n" := by decide +kernel

end Connection

end QueryFrames
