import LineCalc.CommandLine.Run
import LineCalc.Proofs.SessionRuns

/-!
Runs of the program for one expression. They print what a session prints for the expression as a line,
though in two places: a drawing and a value go to the output, a fault and complaints elsewhere, and the
exit code says which it was.
-/
namespace LineCalc.CommandLine
open Syntax Display

/-- What is printed for an expression, what is complained of and the code at the end: a value after
the tree, if that is asked for; a division by zero; or all the diagnostics, of which there is one at
least. -/
inductive Answers (showTree : Bool) (s : String) :
    (printed complained : List StyledLine) → (exit : Nat) → Prop
  | value {n : Int} (clean : (parse s).diagnostics = []) (value : (parse s).root.evaluate = .ok n) :
      Answers showTree s (Session.treeLines showTree s ++ [⟨.plain, toString n⟩]) [] 0
  | fault (clean : (parse s).diagnostics = [])
      (fault : (parse s).root.evaluate = .error .divisionByZero) :
      Answers showTree s (Session.treeLines showTree s) [⟨.alarm, "ERROR: Division by zero"⟩] 2
  | complaints (reported : (parse s).diagnostics ≠ []) :
      Answers showTree s (Session.treeLines showTree s)
        ((parse s).diagnostics.map (⟨.alarm, ·.message⟩)) 1

def emissions (colors : Bool) (records : List LogRecord) (printed complained : List StyledLine) :
    List Emission :=
  records.map .log ++ outLines colors printed ++ errLines colors complained

variable {colors showTree : Bool} {s : String} {outcome : Outcome}

theorem outLines_append (colors : Bool) (front back : List StyledLine) :
    outLines colors (front ++ back) = outLines colors front ++ outLines colors back :=
  List.map_append

theorem outLines_treeLines (colors showTree : Bool) (s : String) :
    outLines colors (Session.treeLines showTree s) =
      if showTree then outLines colors (drawingLines (parse s)) else [] := by
  cases showTree <;> rfl

theorem outcomeLines_rejected (log : Log) :
    outcomeLines (.rejected log) = log.map (⟨.alarm, ·.message⟩) :=
  Session.lines_diagnostics log

theorem evalRun_of_outcome (evaluated : evaluateLine s = .ok ⟨parse s, outcome⟩) :
    evalRun colors s showTree = .ok
      { emissions :=
          (LogRecord.ofLine s ⟨parse s, outcome⟩).map .log ++
            outLines colors (Session.treeLines showTree s) ++ outcomeEmissions colors outcome
        exit := exitCode outcome } := by
  rw [evalRun, evaluated, outLines_treeLines]
  rfl

theorem exists_answer (colors showTree : Bool) (s : String) :
    ∃ outcome printed complained exit, evaluateLine s = .ok ⟨parse s, outcome⟩ ∧
      evalRun colors s showTree = .ok
        ⟨emissions colors (LogRecord.ofLine s ⟨parse s, outcome⟩) printed complained, exit⟩ ∧
      Answers showTree s printed complained exit ∧ exit = exitCode outcome := by
  by_cases clean : (parse s).diagnostics = []
  · rcases evaluateLine_of_clean clean with ⟨n, evaluated, value, _⟩ | ⟨evaluated, fault⟩
    · refine ⟨.value n, _, _, _, evaluated, ?_, .value clean value, rfl⟩
      rw [evalRun_of_outcome evaluated, emissions, outLines_append]
      simp [outcomeEmissions, exitCode, errLines, outcomeLines, Session.outcomeReplies, replyLines]
    · refine ⟨.divisionByZero, _, _, _, evaluated, ?_, .fault clean fault, rfl⟩
      rw [evalRun_of_outcome evaluated]
      rfl
  · have evaluated := evaluateLine_of_diagnostics clean
    refine ⟨_, _, _, _, evaluated, ?_, .complaints clean, rfl⟩
    rw [evalRun_of_outcome evaluated, emissions, ← outcomeLines_rejected]
    rfl

/-- What a session prints for a line that is no command is what is printed and complained of for it
as an expression, in this order. -/
theorem Answers.prints {printed complained : List StyledLine} {exit : Nat}
    (answers : Answers showTree s printed complained exit) (noSwitch : s ≠ Session.treeCommand)
    (noClear : s ≠ Session.clearCommand) :
    ∃ replies, Session.Prints showTree s replies (printed ++ complained) := by
  cases answers with
  | value clean value =>
    rw [List.append_nil]
    exact ⟨_, .value noSwitch noClear clean value⟩
  | fault clean fault => exact ⟨_, .fault noSwitch noClear clean fault⟩
  | complaints reported => exact ⟨_, .complaints noSwitch noClear reported⟩

theorem replyEmissions_of_prints {printed : List StyledLine} {replies : List Session.Reply}
    (prints : Session.Prints showTree s replies printed) (noSwitch : s ≠ Session.treeCommand)
    (noClear : s ≠ Session.clearCommand) (solid : Text.allBlank s = false)
    (evaluated : evaluateLine s = .ok ⟨parse s, outcome⟩) :
    replyEmissions colors ⟨some s, replies, showTree⟩ =
      emissions colors (LogRecord.ofLine s ⟨parse s, outcome⟩) printed [] := by
  have isLine : isEvaluated s = true := by simp [isEvaluated, noSwitch, noClear, solid]
  have records : lineRecords s = (LogRecord.ofLine s ⟨parse s, outcome⟩).map .log := by
    rw [lineRecords, if_pos isLine, evaluated]
  have lines : replies.flatMap replyLines = printed := prints.lines
  rw [replyEmissions, lines, emissions]
  simp [records, errLines]

theorem ofLine_level (s : String) (result : LineResult) {record : LogRecord}
    (member : record ∈ LogRecord.ofLine s result) : Level.warning.shows record.level = false := by
  rcases List.mem_append.mp member with always | ifZero
  · simp only [List.mem_cons, List.not_mem_nil, or_false] at always
    rcases always with rfl | rfl <;> rfl
  · split at ifZero
    · obtain rfl := List.mem_singleton.mp ifZero
      rfl
    · cases ifZero

theorem Answers.complained_eq_nil {printed complained : List StyledLine}
    (answers : Answers showTree s printed complained 0) : complained = [] := by
  cases answers
  rfl

theorem Answers.printed_eq {printed complained : List StyledLine} {exit : Nat}
    (answers : Answers showTree s printed complained exit) (failed : exit ≠ 0) :
    printed = Session.treeLines showTree s := by
  cases answers with
  | value => contradiction
  | fault | complaints => rfl

theorem exitCode_eq_zero_iff (outcome : Outcome) :
    exitCode outcome = 0 ↔ ∃ n, outcome.value? = some n := by
  cases outcome <;> simp [exitCode, Outcome.value?]

theorem exitCode_eq_two_iff (outcome : Outcome) :
    exitCode outcome = 2 ↔ ∃ message, outcome.fault? = some message := by
  cases outcome <;> simp [exitCode, Outcome.fault?]

theorem exitCode_eq_one_iff (outcome : Outcome) :
    exitCode outcome = 1 ↔ outcome.value? = none ∧ outcome.fault? = none := by
  cases outcome <;> simp [exitCode, Outcome.value?, Outcome.fault?]

/-- An expression that is no command of a session and not blank: what the run for it prints, and after
that what it complains of, is what a session prints for it as a line, and the same is recorded in the
log. The records are below a warning: only with the level `DEBUG` or `INFO` lines of the log go where
the complaints go. The exit code is that of a value, a fault or neither; with a value there are no
complaints, and else only the tree is printed, if that. -/
theorem expression_run_prints_what_a_session_does (colors showTree : Bool) {s : String}
    (noSwitch : s ≠ "#showTree") (noClear : s ≠ "#cls") (solid : Text.allBlank s = false) :
    ∃ outcome records printed complained exit replies,
      evaluateLine s = .ok ⟨parse s, outcome⟩ ∧
      evalRun colors s showTree = .ok ⟨emissions colors records printed complained, exit⟩ ∧
      Session.respond showTree s = .ok ⟨replies, showTree⟩ ∧
      replyEmissions colors ⟨some s, replies, showTree⟩ =
        emissions colors records (printed ++ complained) [] ∧
      Answers showTree s printed complained exit ∧
      (∀ record ∈ records, Level.warning.shows record.level = false) ∧
      (exit = 0 ↔ ∃ n, outcome.value? = some n) ∧
      (exit = 2 ↔ ∃ message, outcome.fault? = some message) ∧
      (exit = 1 ↔ outcome.value? = none ∧ outcome.fault? = none) ∧
      (exit = 0 → complained = []) ∧
      (exit ≠ 0 → printed = Session.treeLines showTree s) := by
  obtain ⟨outcome, printed, complained, exit, evaluated, runs, answers, code⟩ :=
    exists_answer colors showTree s
  obtain ⟨replies, prints⟩ := answers.prints noSwitch noClear
  obtain ⟨replies', _, responds, prints'⟩ := Session.respond_prints showTree s
  obtain rfl := prints.unique prints'
  have kept : Session.switchAfter showTree [s] = showTree := by
    simp [Session.switchAfter, Session.treeCommand, noSwitch]
  rw [kept] at responds
  refine ⟨outcome, _, printed, complained, exit, replies', evaluated, runs, responds,
    replyEmissions_of_prints prints noSwitch noClear solid evaluated, answers,
    fun record => ofLine_level s _, ?_, ?_, ?_, ?_, answers.printed_eq⟩
  · rw [code, exitCode_eq_zero_iff]
  · rw [code, exitCode_eq_two_iff]
  · rw [code, exitCode_eq_one_iff]
  · rintro rfl
    exact answers.complained_eq_nil

theorem expression_run_of_a_zero_divisor :
    "7 / (3 - 3)" ≠ "#showTree" ∧ "7 / (3 - 3)" ≠ "#cls" ∧ Text.allBlank "7 / (3 - 3)" = false ∧
      ∃ records complained replies,
        evalRun false "7 / (3 - 3)" true = .ok
          ⟨emissions false records (Session.treeLines true "7 / (3 - 3)") complained, 2⟩ ∧
        Session.respond true "7 / (3 - 3)" = .ok ⟨replies, true⟩ ∧
        replyEmissions false ⟨some "7 / (3 - 3)", replies, true⟩ =
          emissions false records (Session.treeLines true "7 / (3 - 3)" ++ complained) [] := by
  have noSwitch : "7 / (3 - 3)" ≠ "#showTree" := by decide
  have noClear : "7 / (3 - 3)" ≠ "#cls" := by decide
  have solid : Text.allBlank "7 / (3 - 3)" = false := by decide +kernel
  have clean : (parse "7 / (3 - 3)").diagnostics = [] := by decide +kernel
  have fault : (parse "7 / (3 - 3)").root.evaluate = .error .divisionByZero := by
    rw [Evaluation.evaluate_eq_result]
    decide +kernel
  obtain ⟨outcome, records, printed, complained, exit, replies, evaluated, runs, responds, emits, _,
    _, _, two, _, _, onlyTree⟩ :=
    expression_run_prints_what_a_session_does false true noSwitch noClear solid
  rw [evaluateLine_of_fault clean fault] at evaluated
  obtain rfl : .divisionByZero = outcome := congrArg LineResult.outcome (Except.ok.inj evaluated)
  obtain rfl : exit = 2 := two.mpr ⟨_, rfl⟩
  obtain rfl := onlyTree (by decide)
  exact ⟨noSwitch, noClear, solid, records, complained, replies, runs, responds, emits⟩

end LineCalc.CommandLine
