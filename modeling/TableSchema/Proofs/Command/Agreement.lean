import TableSchema.Command.Basic
import TableSchema.Proofs.Build.Fates
import TableSchema.Proofs.Command.Output
import TableSchema.Proofs.Violation.Rendering

/-!
What `check` and `compile` answer about one build.

Both write one line, whatever the names and the values in it. They fail with the build, and then
say the same; when it succeeds, `check` tells an extract of what `compile` prints. A build that
fails has something to show: a violation or a declaration error.
-/

set_option autoImplicit false

namespace TableSchema

namespace Json

/-- What is told of a compiled namespace when only names and sizes are asked for: its name, and how
many tables it lists. -/
def extract? (entry : Json) : Option Json :=
  match entry.follow? ["name"], entry.follow? ["tables"] with
  | some name, some (.array tables) =>
    some (.object [("name", name), ("tables", .ofNat tables.length)])
  | _, _ => none

end Json

/-- A report is answered with one line more, in which the given value stands, and which ends where
the output ends. The line and the result both tell whether the build succeeded. -/
structure BuildReport.AnsweredBy (report : BuildReport) (before : List UInt8)
    (answer : Except CommandError Unit × Sink) (line : Json) : Prop where
  written : answer.2.written = before ++ Sink.bytesOf line.render ++ [Sink.lineEnd]
  single : Sink.lineEnd ∉ Sink.bytesOf line.render
  result : answer.1 = if report.isSuccess then .ok () else .error (.ofReport report)
  status : line.follow? ["status"] = some (.text "ok") ↔ report.isSuccess = true

/-- A line that tells all violations and all declaration errors of a report, in order, and at least
one of them. -/
structure BuildReport.ProblemsIn [Wording] (report : BuildReport) (line : Json) : Prop where
  violations : line.follow? ["details", "violations"] =
    some (.array (report.violations.map fun v => v.toJson.normalize))
  declarationErrors : line.follow? ["details", "declaration_errors"] =
    some (.array (report.declarationErrors.map fun e =>
      .object [("code", .text e.code), ("message", .text e.message)]))
  notSilent : report.violations ≠ [] ∨ report.declarationErrors ≠ []

namespace Build

theorem exists_problem_of_failed {options : BuildOptions} {lowered : List Lowering}
    {errors : List DeclarationError}
    (failed : (ofLowerings options lowered errors).value.isSuccess = false) :
    (ofLowerings options lowered errors).value.violations ≠ [] ∨
      (ofLowerings options lowered errors).value.declarationErrors ≠ [] := by
  rw [value_ofLowerings_eq_ofFates] at failed ⊢
  rw [or_iff_not_imp_right, not_not]
  intro silent
  have rejected : (BuildReport.ofFates errors (fates lowered)).failures ≠ [] := by
    simpa [BuildReport.isSuccess, silent] using failed
  obtain ⟨failure, member⟩ := List.exists_mem_of_ne_nil _ rejected
  obtain ⟨fate, met, told⟩ := List.mem_flatMap.1 member
  obtain ⟨one, _, fits⟩ := exists_fits_of_mem (fates_fit lowered) met
  obtain ⟨v, there⟩ := List.exists_mem_of_ne_nil _ (fits.isOf told).nonempty
  exact List.ne_nil_of_mem (List.mem_flatMap.2 ⟨failure, member, there⟩)

end Build

theorem BuildReport.plain_summary (report : BuildReport) : report.summary.Plain 3 := by
  refine Json.plain_object (List.forall_mem_singleton.2 ?_)
  refine Json.plain_array (List.forall_mem_map.2 fun ns _ => Json.plain_object ?_)
  simp only [List.forall_mem_cons]
  exact ⟨Json.plain_text 0 ns.name, Json.plain_ofNat 0 ns.tables.length, List.forall_mem_nil _⟩

theorem NormalNamespace.extract?_toJson (ns : NormalNamespace) :
    ns.toJson.normalize.extract? =
      some (.object [("name", .text ns.name), ("tables", .ofNat ns.tables.length)]) := by
  have tables : ns.toJson.normalize.follow? ["tables"] =
      some (.array (ns.tables.map fun table => table.toJson.normalize)) :=
    congrArg some (Json.normalize_array_map NormalTable.toJson ns.tables)
  have name : ns.toJson.normalize.follow? ["name"] = some (.text ns.name) := rfl
  simp only [Json.extract?, name, tables, List.length_map]

section Answers

variable [Wording]

theorem DeclarationError.normalize_toJson (e : DeclarationError) :
    e.toJson.normalize = .object [("code", .text e.code), ("message", .text e.message)] :=
  rfl

theorem DeclarationError.plain_toJson (e : DeclarationError) : e.toJson.Plain 1 := by
  refine Json.plain_object ?_
  simp only [List.forall_mem_cons]
  exact ⟨Json.plain_text 0 e.code, Json.plain_text 0 e.message, List.forall_mem_nil _⟩

namespace BuildReport

theorem plain_problems (report : BuildReport) : report.problems.Plain 3 := by
  have violations := List.forall_mem_map.2 fun v (_ : v ∈ report.violations) => v.plain_toJson 0
  have errors := List.forall_mem_map.2 fun e (_ : e ∈ report.declarationErrors) => e.plain_toJson
  refine Json.plain_object ?_
  simp only [List.forall_mem_cons]
  exact ⟨Json.plain_array violations, Json.plain_array errors, List.forall_mem_nil _⟩

def response (report : BuildReport) (data : BuildReport → Json) : Response :=
  if report.isSuccess then .ok (data report)
  else .error (CommandError.ofReport report).code report.problems

theorem respond_unlimited (report : BuildReport) (data : BuildReport → Json)
    (before : List UInt8) (failure : String) :
    report.respond data ⟨before, none, failure, none⟩ =
      (if report.isSuccess then .ok () else .error (.ofReport report),
        ⟨before ++ Sink.bytesOf (report.response data).text ++ [Sink.lineEnd], none, failure,
          none⟩) := by
  unfold respond response
  cases report.isSuccess <;> rfl

theorem plain_response_summary (report : BuildReport) :
    (report.response summary).toJson.Plain 4 := by
  unfold response
  split_ifs
  · refine Json.plain_object ?_
    simp only [List.forall_mem_cons]
    exact ⟨Json.plain_text 3 "ok", report.plain_summary, List.forall_mem_nil _⟩
  · refine Json.plain_object ?_
    simp only [List.forall_mem_cons]
    exact ⟨Json.plain_text 3 "error", Json.plain_text 3 _, report.plain_problems,
      List.forall_mem_nil _⟩

theorem respond_of_failed (report : BuildReport) (failed : report.isSuccess = false)
    (data other : BuildReport → Json) (sink : Sink) :
    report.respond data sink = report.respond other sink := by
  simp [respond, failed]

theorem answeredBy_respond (report : BuildReport) (data : BuildReport → Json)
    (before : List UInt8) (failure : String) :
    report.AnsweredBy before (report.respond data ⟨before, none, failure, none⟩)
      (report.response data).toJson.normalize := by
  rw [respond_unlimited]
  refine ⟨rfl, Json.lineEnd_not_mem_utf8_render _, rfl, ?_⟩
  rw [response]
  cases report.isSuccess with
  | true => exact iff_of_true rfl rfl
  | false =>
    refine iff_of_false (fun same => ?_) Bool.false_ne_true
    exact absurd (Json.text.inj (Option.some.inj same)) (by decide)

theorem problemsIn_response {report : BuildReport} (failed : report.isSuccess = false)
    (shown : report.violations ≠ [] ∨ report.declarationErrors ≠ []) (data : BuildReport → Json) :
    report.ProblemsIn (report.response data).toJson.normalize := by
  have answer : report.response data =
      .error (CommandError.ofReport report).code report.problems := by
    rw [response, failed, if_neg Bool.false_ne_true]
  rw [answer]
  refine ⟨?_, ?_, shown⟩
  · exact congrArg some (Json.normalize_array_map Violation.toJson report.violations)
  · have listed := Json.normalize_array_map DeclarationError.toJson report.declarationErrors
    simp only [DeclarationError.normalize_toJson] at listed
    exact congrArg some listed

theorem follow?_response {report : BuildReport} (succeeded : report.isSuccess = true)
    {data : BuildReport → Json} {toJson : NormalNamespace → Json}
    (listed : data report =
      .object [("namespaces", .array (report.registry.namespaces.map toJson))]) :
    (report.response data).toJson.normalize.follow? ["data", "namespaces"] =
      some (.array (report.registry.namespaces.map fun ns => (toJson ns).normalize)) := by
  rw [response, if_pos succeeded, listed]
  exact congrArg some (Json.normalize_array_map toJson report.registry.namespaces)

end BuildReport

namespace Command

/-- Whatever the files hold, and wherever the output goes that never fails, `check` and `compile`
each write one line and fail with the build; that of `check` can be read back. If the build fails
they say the same, and show all that is wrong with it. If it succeeds, the namespaces that `check`
tells are extracts of those that `compile` prints, in the order of their registration. -/
theorem check_agrees_with_compile (files : Files) (config : Configuration)
    (before : List UInt8) (failure : String) :
    let report := (build files config).value
    let check := (runCheck files config ⟨before, none, failure, none⟩).value
    let compile := (runCompile files config ⟨before, none, failure, none⟩).value
    ∃ checked compiled : Json,
      report.AnsweredBy before check checked ∧ report.AnsweredBy before compile compiled ∧
        Json.ofText checked.render = .ok checked ∧
        (report.isSuccess = false → check = compile ∧ report.ProblemsIn checked) ∧
        (report.isSuccess = true → ∃ entries extracts : List Json,
          compiled.follow? ["data", "namespaces"] = some (.array entries) ∧
            checked.follow? ["data", "namespaces"] = some (.array extracts) ∧
            entries = report.registry.namespaces.map (·.toJson.normalize) ∧
            entries.map Json.extract? = extracts.map some) := by
  intro report check compile
  refine ⟨(report.response BuildReport.summary).toJson.normalize,
    (report.response BuildReport.schema).toJson.normalize,
    report.answeredBy_respond BuildReport.summary before failure,
    report.answeredBy_respond BuildReport.schema before failure,
    report.plain_response_summary.ofText_render_normalize (by decide), ?_, ?_⟩
  · intro failed
    have shown : report.violations ≠ [] ∨ report.declarationErrors ≠ [] :=
      Build.exists_problem_of_failed failed
    exact ⟨report.respond_of_failed failed BuildReport.summary BuildReport.schema
        ⟨before, none, failure, none⟩,
      BuildReport.problemsIn_response failed shown BuildReport.summary⟩
  · intro succeeded
    refine ⟨_, _, BuildReport.follow?_response succeeded rfl,
      BuildReport.follow?_response succeeded rfl, rfl, ?_⟩
    rw [List.map_map, List.map_map]
    exact List.map_congr_left fun ns _ => ns.extract?_toJson

end Command

end Answers

-- A line end in a name is escaped.
example :
    (Command.runCheck (.ofSights fun _ => .nowhere .notFound) (.ofDeclarations ["a\nb"])
        .unlimited).value.2.written =
      Sink.bytesOf
        ("\x7b\"code\":\"WORLDSCHEMA_CLI_BUILD_FAILED\",\"details\":\x7b\"declaration_errors\":[" ++
          "\x7b\"code\":\"DECLARATION_MISSING_PATH\"," ++
          "\"message\":\"declaration path does not exist: a\\nb\"\x7d],\"violations\":[]\x7d," ++
          "\"status\":\"error\"\x7d\n") := by
  decide +kernel

end TableSchema
