import LineCalc.Proofs.LinePartition
import LineCalc.Proofs.SharedLogs

/-!
Lexers stepped in any way. Single steps and reads to the end, in whatever order, give the tokens of the
line one after the other and then its end again and again; the place of the lexer and its log keep up
with what was read.
-/
namespace LineCalc

namespace Syntax

def Lexer.Operation.Answers : Lexer.Operation → List Token → Prop
  | .next, read => ∃ t, read = [t]
  | .all, read => ∃ front stop, read = front ++ [stop] ∧ stop.kind = .endOfFile ∧
      ∀ t ∈ front, t.kind ≠ .endOfFile

namespace Lexer

variable {lexer : Lexer} {s : String} {read : List Token}

theorem scan_after (lexer : Lexer) :
    lexer.scan.after = ⟨[], lexer.position + lexer.rest.length⟩ := by
  induction lexer using scan_induction with
  | stop position => rw [scan_nil]; rfl
  | step lexer kind run rest takes ih =>
    rw [takes.scan, takes.line, List.length_append, ← Nat.add_assoc]
    exact ih

theorem textLength_scan (lexer : Lexer) : textLength lexer.scan.tokens = lexer.rest.length := by
  rw [textLength, (partition_scan lexer).spelling]

/-! Single operations. -/

theorem perform_nil (position : Nat) (operation : Operation) :
    perform ⟨[], position⟩ operation =
      { tokens := [endToken position], reports := [], after := ⟨[], position⟩ } := by
  cases operation with
  | next => rfl
  | all => exact scan_nil position

theorem Takes.perform_next {kind : Kind} {run rest : List Char}
    (takes : lexer.Takes kind run rest) :
    lexer.perform .next =
      { tokens := [.ofRun kind lexer.position run]
        reports := (Token.ofRun kind lexer.position run).complaint?.toList
        after := ⟨rest, lexer.position + run.length⟩ } := by
  rw [Lexer.perform, takes.step]

theorem perform_reports (lexer : Lexer) (operation : Operation) :
    (lexer.perform operation).reports =
      (lexer.perform operation).tokens.filterMap Token.complaint? := by
  cases operation with
  | all => exact reports_eq_complaints lexer
  | next =>
    by_cases empty : lexer.rest = []
    · obtain ⟨rest, position⟩ := lexer
      obtain rfl : rest = [] := empty
      rw [perform_nil]
      rfl
    · obtain ⟨kind, run, rest, takes⟩ := exists_takes empty
      rw [takes.perform_next, List.filterMap_cons]
      cases (Token.ofRun kind lexer.position run).complaint? <;> rfl

theorem perform_answers (lexer : Lexer) (operation : Operation) :
    operation.Answers (lexer.perform operation).tokens := by
  cases operation with
  | next => exact ⟨_, rfl⟩
  | all =>
    obtain ⟨front, line, others⟩ := (partition_scan lexer).exists_front
    exact ⟨front, _, line, rfl, fun t member => (others t member).1⟩

/-- A lexer that has read some tokens. With those that are ahead they are the tokens of the line and
perhaps its end some more times. -/
structure HasRead (s : String) (read : List Token) (lexer : Lexer) : Prop where
  stream : ∃ again, read ++ lexer.scan.tokens =
    tokenize s ++ List.replicate again (endToken s.length)
  place : lexer.position = textLength read
  ahead : lexer.position + lexer.rest.length = s.length

theorem hasRead_ofText (s : String) : HasRead s [] (ofText s) where
  stream := ⟨0, by simp [tokenize]⟩
  place := rfl
  ahead := by rw [ofText, String.length_toList, Nat.zero_add]

theorem HasRead.perform_at_end (reached : HasRead s read lexer)
    (atEnd : lexer.position = s.length) (operation : Operation) :
    lexer.perform operation =
      { tokens := [endToken s.length], reports := [], after := lexer } := by
  have ahead := reached.ahead
  obtain ⟨rest, position⟩ := lexer
  obtain rfl : position = s.length := atEnd
  obtain rfl : rest = [] := List.eq_nil_of_length_eq_zero (Nat.add_eq_left.mp ahead)
  exact perform_nil s.length operation

theorem HasRead.scan (reached : HasRead s read lexer) :
    HasRead s (read ++ lexer.scan.tokens) lexer.scan.after := by
  obtain ⟨again, stream⟩ := reached.stream
  have ahead := reached.ahead
  rw [scan_after, ahead]
  constructor
  · refine ⟨again + 1, ?_⟩
    rw [stream, scan_nil, List.replicate_succ', List.append_assoc]
  · rw [textLength_append, textLength_scan, ← reached.place, ahead]
  · simp

theorem HasRead.takes {kind : Kind} {run rest : List Char} (reached : HasRead s read lexer)
    (takes : lexer.Takes kind run rest) :
    HasRead s (read ++ [.ofRun kind lexer.position run]) ⟨rest, lexer.position + run.length⟩ := by
  have ahead := reached.ahead
  have stream := reached.stream
  rw [takes.line, List.length_append, ← Nat.add_assoc] at ahead
  rw [takes.scan] at stream
  constructor
  · simpa using stream
  · rw [textLength_append, ← reached.place]
    simp [textLength, Token.ofRun, Token.spelling]
  · exact ahead

theorem HasRead.perform (reached : HasRead s read lexer) (operation : Operation) :
    HasRead s (read ++ (lexer.perform operation).tokens) (lexer.perform operation).after := by
  cases operation with
  | all => exact reached.scan
  | next =>
    by_cases empty : lexer.rest = []
    · -- At the end a step reads what a read to the end does.
      have same : lexer.perform .next = lexer.perform .all := by
        obtain ⟨rest, position⟩ := lexer
        obtain rfl : rest = [] := empty
        rw [perform_nil, perform_nil]
      rw [same]
      exact reached.scan
    · obtain ⟨kind, run, rest, takes⟩ := exists_takes empty
      rw [takes.perform_next]
      exact reached.takes takes

end Lexer
end Syntax

namespace Workbench
open Syntax

structure SteppedThrough (text : String) (index : Nat) (before : Log) (answers : List (List Token))
    (bench : Workbench) : Prop where
  stream : ∃ again,
    answers.flatten <+: tokenize text ++ List.replicate again (endToken text.length)
  place : bench.lexers[index]?.map (·.reader.position) = some (textLength answers.flatten)
  log : bench.lexerLog index = some (before ++ answers.flatten.filterMap Token.complaint?)
  atEnd : textLength answers.flatten = text.length → ∀ operation,
    bench.perform (.lexer index operation) = (.tokens [endToken text.length], bench)

variable {bench : Workbench} {index : Nat} {seat : Seat Lexer} {s : String} {read : List Token}

theorem perform_lexer_still (there : bench.lexers[index]? = some seat)
    {operation : Lexer.Operation} {tokens : List Token}
    (still : seat.reader.perform operation =
      { tokens, reports := [], after := seat.reader }) :
    bench.perform (.lexer index operation) = (.tokens tokens, bench) := by
  rw [lexer_perform there, still]
  simp only [sharedAfter_nil, set_moveOn_nil there]

structure Stepped (s : String) (index : Nat) (read : List Token) (before : Log)
    (operations : List Lexer.Operation) (answers : List (List Token)) (last : Workbench)
    (seat : Seat Lexer) : Prop where
  answered : List.Forall₂ Lexer.Operation.Answers operations answers
  there : last.lexers[index]? = some seat
  reached : seat.reader.HasRead s (read ++ answers.flatten)
  log : last.logOf seat = before ++ answers.flatten.filterMap Token.complaint?

theorem exists_stepped (there : bench.lexers[index]? = some seat)
    (reached : seat.reader.HasRead s read) (operations : List Lexer.Operation) :
    ∃ answers last seat',
      bench.performAll (operations.map (.lexer index)) = (answers.map .tokens, last) ∧
      Stepped s index read (bench.logOf seat) operations answers last seat' := by
  -- The bench, its lexer and what was read stay general: a later operation starts behind more tokens.
  induction operations generalizing bench seat read with
  | nil =>
    refine ⟨[], bench, seat, rfl, .nil, there, ?_, ?_⟩
    · simpa using reached
    · simp
  | cons operation rest ih =>
    let scan := seat.reader.perform operation
    have inside := (List.getElem?_eq_some_iff.mp there).1
    have done := lexer_perform there operation
    have there' : (bench.perform (.lexer index operation)).2.lexers[index]? =
        some (seat.moveOn scan.after scan.reports) := by
      rw [done]
      exact List.getElem?_set_self inside
    have grown : (bench.perform (.lexer index operation)).2.logOf
        (seat.moveOn scan.after scan.reports) = bench.logOf seat ++ scan.reports :=
      logOf_moveOn (by rw [done])
    obtain ⟨answers, last, seat', later, stepped⟩ := ih there' (reached.perform operation)
    refine ⟨scan.tokens :: answers, last, seat', ?_, ?_, stepped.there, ?_, ?_⟩
    · have answer : (bench.perform (.lexer index operation)).1 = .tokens scan.tokens := by rw [done]
      simp only [List.map_cons, performAll, later, answer]
    · exact .cons (seat.reader.perform_answers operation) stepped.answered
    · rw [List.flatten_cons, ← List.append_assoc]
      exact stepped.reached
    · rw [stepped.log, grown, Lexer.perform_reports, List.flatten_cons, List.filterMap_append,
        List.append_assoc]

/-- However a lexer is stepped, it reads its line token by token and then the end of it again and
again. Its place is behind what it read, its log has grown by what that asked for, and at the end
nothing changes any more. -/
theorem lexer_steps_through_its_line (bench : Workbench) (text : String) (sharesLog : Bool)
    (operations : List Lexer.Operation) :
    ∃ opened answers last,
      bench.perform (.openLexer text sharesLog) = (.done, opened) ∧
      opened.performAll (operations.map (.lexer bench.lexers.length)) =
        (answers.map .tokens, last) ∧
      List.Forall₂ Lexer.Operation.Answers operations answers ∧
      SteppedThrough text bench.lexers.length (if sharesLog then bench.shared else []) answers
        last := by
  have there : (bench.perform (.openLexer text sharesLog)).2.lexers[bench.lexers.length]? =
      some ⟨Lexer.ofText text, privateLog sharesLog⟩ := List.getElem?_concat_length
  obtain ⟨answers, last, seat, run, stepped⟩ :=
    exists_stepped there (Lexer.hasRead_ofText text) operations
  have reached : seat.reader.HasRead text answers.flatten := stepped.reached
  refine ⟨_, answers, last, rfl, run, stepped.answered, ?_⟩
  constructor
  case stream =>
    obtain ⟨again, stream⟩ := reached.stream
    exact ⟨again, _, stream⟩
  case place => rw [stepped.there, Option.map_some, reached.place]
  case log =>
    rw [lexerLog, stepped.there, Option.map_some, stepped.log]
    cases sharesLog <;> rfl
  case atEnd =>
    intro atEnd operation
    exact perform_lexer_still stepped.there
      (reached.perform_at_end (reached.place.trans atEnd) operation)

end Workbench
end LineCalc
