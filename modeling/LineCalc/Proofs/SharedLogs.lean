import LineCalc.Proofs.ParserRuns
import LineCalc.Workbench

/-!
Lexers and parsers that share a log, next to the same ones with a log each. Reports apart, the two
benches stay equal: what was reported decides nothing. A log only grows, and a tree holds the log of
its parser as it was when the tree was made.
-/
namespace LineCalc
namespace Syntax

def Tree.unreported (tree : Tree) : Tree := { tree with diagnostics := [] }

namespace Parser

def unreported (p : Parser) : Parser := { p with tree? := p.tree?.map Tree.unreported }

def Answer.unreported : Answer → Answer
  | .tree t => .tree t.unreported
  | answer => answer

variable {p q : Parser}

structure StepsAlike (seen : α → β) (first last : Step α) : Prop where
  answer : seen first.answer = seen last.answer
  reports : first.reports = last.reports
  after : first.after.unreported = last.after.unreported

theorem StepsAlike.map {seen : α → β} {seen' : α' → β'} {f : α → α'} {first last : Step α}
    (alike : StepsAlike seen first last)
    (respects : ∀ a b, seen a = seen b → seen' (f a) = seen' (f b)) :
    StepsAlike seen' (first.map f) (last.map f) :=
  ⟨respects _ _ alike.answer, alike.reports, alike.after⟩

theorem current_alike (alike : p.unreported = q.unreported) : p.current = q.current := by
  have same : p.unreported.current = q.unreported.current := congrArg current alike
  exact same

theorem accept_alike (alike : p.unreported = q.unreported) (kind : Kind) :
    StepsAlike id (p.accept kind) (q.accept kind) := by
  have same := current_alike alike
  have advanced : p.advance.unreported = q.advance.unreported := congrArg advance alike
  unfold accept
  rw [← same]
  split
  · exact ⟨same, rfl, advanced⟩
  · exact ⟨rfl, rfl, alike⟩

theorem apply_alike (alike : p.unreported = q.unreported) (rule : Token → Nat → Rule) :
    StepsAlike id (p.apply rule) (q.apply rule) := by
  have answers := congrArg (fun r => (r.apply rule).answer) alike
  have reports := congrArg (fun r => (r.apply rule).reports) alike
  have afters := congrArg (fun r => (r.apply rule).after) alike
  exact ⟨answers, reports, afters⟩

theorem parse_alike (alike : p.unreported = q.unreported) (earlier other : Log) :
    StepsAlike Tree.unreported (p.parse earlier) (q.parse other) := by
  have trees : p.tree?.map Tree.unreported = q.tree?.map Tree.unreported := congrArg tree? alike
  have root := apply_alike alike Syntax.expression
  have stop := accept_alike root.after .endOfFile
  unfold parse
  cases made : p.tree? with
  | some tree =>
    cases remade : q.tree? with
    | none => simp [made, remade] at trees
    | some same =>
      rw [made, remade] at trees
      exact ⟨Option.some.inj trees, rfl, alike⟩
  | none =>
    cases remade : q.tree? with
    | some same => simp [made, remade] at trees
    | none =>
      have tree : (⟨[], p.expression.answer, (p.expression.after.accept .endOfFile).answer⟩ : Tree) =
          ⟨[], q.expression.answer, (q.expression.after.accept .endOfFile).answer⟩ :=
        congrArg₂ (Tree.mk []) root.answer stop.answer
      constructor
      case answer => exact tree
      case reports => exact congrArg₂ _ root.reports stop.reports
      case after => exact congrArg₂ (fun r t => { r with tree? := some t }) stop.after tree

theorem perform_alike (alike : p.unreported = q.unreported) (earlier other : Log)
    (operation : Operation) :
    StepsAlike Answer.unreported (p.perform earlier operation) (q.perform other operation) := by
  have current := current_alike alike
  have token (a b : Token) (same : a = b) :
      (Answer.token a).unreported = (Answer.token b).unreported := by rw [same]
  have expr (a b : Expr) (same : a = b) :
      (Answer.expr a).unreported = (Answer.expr b).unreported := by rw [same]
  cases operation with
  | peek offset =>
    have same : p.peek? offset = q.peek? offset := congrArg (·.peek? offset) alike
    exact ⟨by rw [perform, perform, same], rfl, alike⟩
  | current => exact ⟨token _ _ current, rfl, alike⟩
  | next => exact ⟨token _ _ current, rfl, congrArg advance alike⟩
  | accept kind => exact (accept_alike alike kind).map token
  | primary => exact (apply_alike alike Syntax.primary).map expr
  | factor => exact (apply_alike alike Syntax.factor).map expr
  | term => exact (apply_alike alike Syntax.term).map expr
  | expression => exact (apply_alike alike Syntax.expression).map expr
  | parse => exact (parse_alike alike earlier other).map fun a b same => congrArg Answer.tree same

end Parser
end Syntax

namespace Workbench
open Syntax

def Answer.unreported : Answer → Answer
  | .parser answer => .parser answer.unreported
  | answer => answer

structure Alike (bench other : Workbench) : Prop where
  lexers : bench.lexers.map Seat.reader = other.lexers.map Seat.reader
  parsers : bench.parsers.map (·.reader.unreported) = other.parsers.map (·.reader.unreported)

def lexerLog (bench : Workbench) (index : Nat) : Option Log := bench.lexers[index]?.map bench.logOf

def parserLog (bench : Workbench) (index : Nat) : Option Log := bench.parsers[index]?.map bench.logOf

def logBefore (bench : Workbench) : Step → Option Log
  | .report _ => some bench.shared
  | .openLexer _ sharesLog | .openParser _ sharesLog =>
    some ((privateLog sharesLog).getD bench.shared)
  | .lexer index _ => bench.lexerLog index
  | .parser index _ => bench.parserLog index

def logAfter (bench : Workbench) : Step → Option Log
  | .report _ => some bench.shared
  | .openLexer _ _ => bench.lexerLog (bench.lexers.length - 1)
  | .openParser _ _ => bench.parserLog (bench.parsers.length - 1)
  | .lexer index _ => bench.lexerLog index
  | .parser index _ => bench.parserLog index

def reportsOf (bench : Workbench) : Step → Log
  | .report diagnostic => [diagnostic]
  | .openLexer _ _ => []
  | .openParser text _ => lexicalReports text
  | .lexer index operation =>
    bench.lexers[index]?.elim [] fun seat => (seat.reader.perform operation).reports
  | .parser index operation =>
    bench.parsers[index]?.elim [] fun seat =>
      (seat.reader.perform (bench.logOf seat) operation).reports

variable {bench other : Workbench} {index : Nat}

/-! One step of one bench. -/

theorem logOf_prefix {α : Type} (grows : bench.shared <+: other.shared) (seat : Seat α) :
    bench.logOf seat <+: other.logOf seat := by
  unfold logOf
  cases seat.own? with
  | none => exact grows
  | some own => exact List.prefix_rfl

theorem logOf_moveOn {α : Type} {seat : Seat α} {reader : α} {reports : Log}
    (grown : other.shared = bench.sharedAfter seat reports) :
    other.logOf (seat.moveOn reader reports) = bench.logOf seat ++ reports := by
  cases own : seat.own? <;> simp [logOf, Seat.moveOn, grown, sharedAfter, own]

@[simp] theorem sharedAfter_nil {α : Type} (bench : Workbench) (seat : Seat α) :
    bench.sharedAfter seat [] = bench.shared := by
  simp [sharedAfter]

theorem set_moveOn_nil {α : Type} {seats : List (Seat α)} {seat : Seat α}
    (there : seats[index]? = some seat) :
    seats.set index (seat.moveOn seat.reader []) = seats := by
  have still : seat.moveOn seat.reader [] = seat := by simp [Seat.moveOn]
  obtain ⟨inside, here⟩ := List.getElem?_eq_some_iff.mp there
  rw [still, ← here, List.set_getElem_self]

theorem shared_prefix_sharedAfter {α : Type} (bench : Workbench) (seat : Seat α) (reports : Log) :
    bench.shared <+: bench.sharedAfter seat reports := by
  unfold sharedAfter
  split
  · exact List.prefix_rfl
  · exact List.prefix_append _ _

theorem lexer_perform {seat : Seat Lexer} (there : bench.lexers[index]? = some seat)
    (operation : Lexer.Operation) :
    let scan := seat.reader.perform operation
    bench.perform (.lexer index operation) =
      (.tokens scan.tokens,
        { bench with
          shared := bench.sharedAfter seat scan.reports
          lexers := bench.lexers.set index (seat.moveOn scan.after scan.reports) }) := by
  rw [perform, there]

theorem lexer_perform_absent (absent : bench.lexers[index]? = none) (operation : Lexer.Operation) :
    bench.perform (.lexer index operation) = (.done, bench) := by
  rw [perform, absent]

theorem parser_perform {seat : Seat Parser} (there : bench.parsers[index]? = some seat)
    (operation : Parser.Operation) :
    let step := seat.reader.perform (bench.logOf seat) operation
    bench.perform (.parser index operation) =
      (.parser step.answer,
        { bench with
          shared := bench.sharedAfter seat step.reports
          parsers := bench.parsers.set index (seat.moveOn step.after step.reports) }) := by
  rw [perform, there]

theorem parser_perform_absent (absent : bench.parsers[index]? = none)
    (operation : Parser.Operation) :
    bench.perform (.parser index operation) = (.done, bench) := by
  rw [perform, absent]

theorem shared_prefix_perform (bench : Workbench) (step : Step) :
    bench.shared <+: (bench.perform step).2.shared := by
  cases step with
  | report diagnostic => exact List.prefix_append _ _
  | openLexer text sharesLog => exact List.prefix_rfl
  | openParser text sharesLog => exact bench.shared_prefix_sharedAfter _ _
  | lexer index operation =>
    cases there : bench.lexers[index]? with
    | none => exact ⟨[], by rw [lexer_perform_absent there, List.append_nil]⟩
    | some seat =>
      rw [lexer_perform there]
      exact bench.shared_prefix_sharedAfter _ _
  | parser index operation =>
    cases there : bench.parsers[index]? with
    | none => exact ⟨[], by rw [parser_perform_absent there, List.append_nil]⟩
    | some seat =>
      rw [parser_perform there]
      exact bench.shared_prefix_sharedAfter _ _

theorem logAfter_perform (bench : Workbench) (step : Step) :
    (bench.perform step).2.logAfter step =
      (bench.logBefore step).map (· ++ bench.reportsOf step) := by
  cases step with
  | report diagnostic => rfl
  | openLexer text sharesLog =>
    cases sharesLog <;> simp [perform, logAfter, logBefore, lexerLog, reportsOf, logOf, privateLog]
  | openParser text sharesLog =>
    simp only [logAfter, logBefore, parserLog, reportsOf, perform, List.length_append,
      List.length_singleton, Nat.add_sub_cancel, List.getElem?_concat_length, Option.map_some]
    rw [logOf_moveOn rfl]
    rfl
  | lexer index operation =>
    cases there : bench.lexers[index]? with
    | none => simp [perform, logAfter, logBefore, lexerLog, there]
    | some seat =>
      have inside := (List.getElem?_eq_some_iff.mp there).1
      rw [lexer_perform there]
      simp only [logAfter, logBefore, lexerLog, reportsOf, there, List.getElem?_set_self inside,
        Option.map_some, Option.elim_some]
      rw [logOf_moveOn rfl]
  | parser index operation =>
    cases there : bench.parsers[index]? with
    | none => simp [perform, logAfter, logBefore, parserLog, there]
    | some seat =>
      have inside := (List.getElem?_eq_some_iff.mp there).1
      rw [parser_perform there]
      simp only [logAfter, logBefore, parserLog, reportsOf, there, List.getElem?_set_self inside,
        Option.map_some, Option.elim_some]
      rw [logOf_moveOn rfl]

/-! Two benches that are alike. -/

theorem getElem?_of_map_eq {α β : Type} {f : α → β} {xs ys : List α} (same : xs.map f = ys.map f)
    (index : Nat) :
    (xs[index]? = none ∧ ys[index]? = none) ∨
      ∃ x y, xs[index]? = some x ∧ ys[index]? = some y ∧ f x = f y := by
  have entry : xs[index]?.map f = ys[index]?.map f := by
    rw [← List.getElem?_map, same, List.getElem?_map]
  cases left : xs[index]? <;> cases right : ys[index]? <;> simp_all

theorem perform_alike (alike : Alike bench other) (step : Step) :
    (bench.perform step).1.unreported = (other.perform step.apart).1.unreported ∧
      Alike (bench.perform step).2 (other.perform step.apart).2 ∧
      bench.reportsOf step = other.reportsOf step.apart := by
  cases step with
  | report diagnostic => exact ⟨rfl, ⟨alike.lexers, alike.parsers⟩, rfl⟩
  | openLexer text sharesLog =>
    refine ⟨rfl, ⟨?_, alike.parsers⟩, rfl⟩
    simp [perform, Step.apart, alike.lexers]
  | openParser text sharesLog =>
    refine ⟨rfl, ⟨alike.lexers, ?_⟩, rfl⟩
    simp [perform, Step.apart, alike.parsers, Seat.moveOn]
  | lexer index operation =>
    have apart : (Step.lexer index operation).apart = .lexer index operation := rfl
    rcases getElem?_of_map_eq alike.lexers index with ⟨absent, gone⟩ | ⟨seat, twin, there, here, same⟩
    · rw [apart, lexer_perform_absent absent, lexer_perform_absent gone]
      exact ⟨rfl, alike, by simp [reportsOf, absent, gone]⟩
    · rw [apart, lexer_perform there, lexer_perform here]
      refine ⟨by rw [same], ⟨?_, alike.parsers⟩, by simp [reportsOf, there, here, same]⟩
      simp [List.map_set, alike.lexers, Seat.moveOn, same]
  | parser index operation =>
    have apart : (Step.parser index operation).apart = .parser index operation := rfl
    rcases getElem?_of_map_eq alike.parsers index with
      ⟨absent, gone⟩ | ⟨seat, twin, there, here, same⟩
    · rw [apart, parser_perform_absent absent, parser_perform_absent gone]
      exact ⟨rfl, alike, by simp [reportsOf, absent, gone]⟩
    · have steps := Parser.perform_alike same (bench.logOf seat) (other.logOf twin) operation
      rw [apart, parser_perform there, parser_perform here]
      refine ⟨congrArg Answer.parser steps.answer, ⟨alike.lexers, ?_⟩, ?_⟩
      · simp [List.map_set, alike.parsers, Seat.moveOn, steps.after]
      · simp [reportsOf, there, here, steps.reports]

/-! A parser on its bench. -/

def Ready (bench : Workbench) : Prop := ∀ seat ∈ bench.parsers, seat.reader.Ready

theorem perform_ready (ready : Ready bench) (step : Step) : Ready (bench.perform step).2 := by
  cases step with
  | report diagnostic => exact ready
  | openLexer text sharesLog => exact ready
  | openParser text sharesLog =>
    intro seat member
    rcases List.mem_append.mp member with old | new
    · exact ready seat old
    · rw [List.mem_singleton.mp new]
      exact Parser.ofText_ready text
  | lexer index operation =>
    cases there : bench.lexers[index]? with
    | none => rwa [lexer_perform_absent there]
    | some seat =>
      rw [lexer_perform there]
      exact ready
  | parser index operation =>
    cases there : bench.parsers[index]? with
    | none => rwa [parser_perform_absent there]
    | some seat =>
      rw [parser_perform there]
      intro other member
      rcases List.mem_or_eq_of_mem_set member with old | new
      · exact ready other old
      · have keeps := seat.reader.perform_keeps (bench.logOf seat) operation
        have before := ready seat (List.mem_of_getElem? there)
        rw [new]
        exact keeps.ready before

structure CarriedOut (bench : Workbench) (index : Nat) (seat : Seat Parser)
    (operation : Parser.Operation) (answer : Parser.Answer) (after : Descent) : Prop where
  work : Descent.Performs ⟨seat.reader, bench.logOf seat⟩ operation answer after
  answered : (bench.perform (.parser index operation)).1 = .parser answer
  reader : (bench.perform (.parser index operation)).2.parsers[index]?.map Seat.reader =
    some after.parser
  log : (bench.perform (.parser index operation)).2.parserLog index = some after.log

theorem exists_carriedOut (ready : Ready bench) {seat : Seat Parser}
    (there : bench.parsers[index]? = some seat) (operation : Parser.Operation) :
    ∃ answer after, CarriedOut bench index seat operation answer after := by
  have before := ready seat (List.mem_of_getElem? there)
  have inside := (List.getElem?_eq_some_iff.mp there).1
  have written := bench.logAfter_perform (.parser index operation)
  refine ⟨_, _, Descent.performs_step before operation, ?_, ?_, ?_⟩
  · rw [parser_perform there]
  · rw [parser_perform there]
    simp only [List.getElem?_set_self inside, Option.map_some]
    rfl
  · simp only [logAfter, logBefore, parserLog, there, reportsOf, Option.map_some,
      Option.elim_some] at written
    exact written

def Follows (index : Nat) (bench later : Workbench) : Prop :=
  ∀ seat, bench.parsers[index]? = some seat → ∃ seat', later.parsers[index]? = some seat' ∧
    seat.reader.Keeps seat'.reader ∧ bench.logOf seat <+: later.logOf seat'

theorem Follows.refl (index : Nat) (bench : Workbench) : Follows index bench bench :=
  fun seat there => ⟨seat, there, .refl _, List.prefix_rfl⟩

theorem Follows.trans {last : Workbench} (first : Follows index bench other)
    (second : Follows index other last) : Follows index bench last := by
  intro seat there
  obtain ⟨seat', there', keeps, grows⟩ := first seat there
  obtain ⟨seat'', there'', keeps', grows'⟩ := second seat' there'
  exact ⟨seat'', there'', keeps.trans keeps', grows.trans grows'⟩

theorem Follows.of_same (grows : bench.shared <+: other.shared)
    (same : other.parsers[index]? = bench.parsers[index]?) : Follows index bench other :=
  fun seat there => ⟨seat, same.trans there, .refl _, logOf_prefix grows seat⟩

theorem perform_follows (bench : Workbench) (step : Step) (index : Nat) :
    Follows index bench (bench.perform step).2 := by
  have grows := bench.shared_prefix_perform step
  cases step with
  | report diagnostic => exact .of_same grows rfl
  | openLexer text sharesLog => exact .of_same grows rfl
  | openParser text sharesLog =>
    intro seat there
    have inside := (List.getElem?_eq_some_iff.mp there).1
    exact Follows.of_same grows (List.getElem?_append_left inside) seat there
  | lexer place operation =>
    cases there : bench.lexers[place]? with
    | none =>
      rw [lexer_perform_absent there]
      exact .refl index bench
    | some seat =>
      rw [lexer_perform there] at grows ⊢
      exact .of_same grows rfl
  | parser place operation =>
    cases there : bench.parsers[place]? with
    | none =>
      rw [parser_perform_absent there]
      exact .refl index bench
    | some seat =>
      rw [parser_perform there] at grows ⊢
      by_cases same : place = index
      · subst same
        intro seat' there'
        obtain rfl := Option.some.inj (there.symm.trans there')
        have inside := (List.getElem?_eq_some_iff.mp there).1
        refine ⟨_, List.getElem?_set_self inside, seat.reader.perform_keeps _ operation, ?_⟩
        rw [logOf_moveOn rfl]
        exact List.prefix_append _ _
      · exact .of_same grows (List.getElem?_set_ne same)

/-! The tree of a parser. -/

theorem perform_parse_again {seat : Seat Parser} (there : bench.parsers[index]? = some seat)
    {tree : Tree} (made : seat.reader.tree? = some tree) :
    bench.perform (.parser index .parse) = (.parser (.tree tree), bench) := by
  have again : seat.reader.perform (bench.logOf seat) .parse =
      { answer := .tree tree, after := seat.reader } := by
    simp [Parser.perform, Parser.parse, made, Parser.Step.map]
  rw [parser_perform there, again]
  simp only [sharedAfter_nil, set_moveOn_nil there]

theorem perform_parse_first {seat : Seat Parser} (there : bench.parsers[index]? = some seat)
    (fresh : seat.reader.tree? = none) :
    ∃ tree after, bench.perform (.parser index .parse) = (.parser (.tree tree), after) ∧
      (∃ seat', after.parsers[index]? = some seat' ∧ seat'.reader.tree? = some tree) ∧
      after.parserLog index = some tree.diagnostics := by
  have inside := (List.getElem?_eq_some_iff.mp there).1
  have made : (seat.reader.parse (bench.logOf seat)).after.tree? =
      some (seat.reader.parse (bench.logOf seat)).answer := by
    simp [Parser.parse, fresh]
  have whole : (seat.reader.parse (bench.logOf seat)).answer.diagnostics =
      bench.logOf seat ++ (seat.reader.parse (bench.logOf seat)).reports := by
    simp [Parser.parse, fresh]
  refine ⟨_, _, parser_perform there .parse, ⟨_, List.getElem?_set_self inside, made⟩, ?_⟩
  simp only [parserLog, List.getElem?_set_self inside, Option.map_some]
  rw [logOf_moveOn rfl, whole]
  rfl

/-! Runs. -/

theorem performAll_alike (alike : Alike bench other) (steps : List Step) :
    (bench.performAll steps).1.map Answer.unreported =
        (other.performAll (steps.map Step.apart)).1.map Answer.unreported ∧
      Alike (bench.performAll steps).2 (other.performAll (steps.map Step.apart)).2 := by
  induction steps generalizing bench other with
  | nil => exact ⟨rfl, alike⟩
  | cons step rest ih =>
    obtain ⟨answer, after, -⟩ := perform_alike alike step
    obtain ⟨answers, last⟩ := ih after
    exact ⟨congrArg₂ List.cons answer answers, last⟩

theorem performAll_ready (ready : Ready bench) (steps : List Step) :
    Ready (bench.performAll steps).2 := by
  induction steps generalizing bench with
  | nil => exact ready
  | cons step rest ih => exact ih (perform_ready ready step)

theorem shared_prefix_performAll (bench : Workbench) (steps : List Step) :
    bench.shared <+: (bench.performAll steps).2.shared := by
  induction steps generalizing bench with
  | nil => exact List.prefix_rfl
  | cons step rest ih => exact (bench.shared_prefix_perform step).trans (ih _)

theorem performAll_follows (bench : Workbench) (steps : List Step) (index : Nat) :
    Follows index bench (bench.performAll steps).2 := by
  induction steps generalizing bench with
  | nil => exact .refl index bench
  | cons step rest ih => exact (bench.perform_follows step index).trans (ih _)

structure StepsAlike (bench apart : Workbench) (step : Step) : Prop where
  grows : bench.shared <+: (bench.perform step).2.shared
  answers : (bench.perform step).1.unreported = (apart.perform step.apart).1.unreported
  benches : Alike (bench.perform step).2 (apart.perform step.apart).2
  reports : ∃ reports,
    (bench.perform step).2.logAfter step = (bench.logBefore step).map (· ++ reports) ∧
    (apart.perform step.apart).2.logAfter step.apart =
      (apart.logBefore step.apart).map (· ++ reports)

theorem stepsAlike (alike : Alike bench other) (step : Step) : StepsAlike bench other step := by
  obtain ⟨answers, benches, same⟩ := perform_alike alike step
  constructor
  case grows => exact bench.shared_prefix_perform step
  case answers => exact answers
  case benches => exact benches
  case reports =>
    refine ⟨bench.reportsOf step, bench.logAfter_perform step, ?_⟩
    rw [same]
    exact other.logAfter_perform step.apart

/-- The first tree of a parser, made by the rules at work on its log: it holds all of the log as it is
then. Whatever comes later only adds to the log, and the parser answers with that tree. -/
structure FirstTree (bench : Workbench) (index : Nat) (tree : Tree) (after : Workbench) : Prop where
  done : bench.perform (.parser index .parse) = (.parser (.tree tree), after)
  whole : after.parserLog index = some tree.diagnostics
  lasts : ∀ later, ∃ log, (after.performAll later).2.parserLog index = some log ∧
    tree.diagnostics <+: log ∧
    (after.performAll later).2.perform (.parser index .parse) =
      (.parser (.tree tree), (after.performAll later).2)

theorem exists_firstTree {seat : Seat Parser} (there : bench.parsers[index]? = some seat)
    (fresh : seat.reader.tree? = none) : ∃ tree after, FirstTree bench index tree after := by
  obtain ⟨tree, after, done, ⟨seat', there', made⟩, whole⟩ := perform_parse_first there fresh
  refine ⟨tree, after, done, whole, fun later => ?_⟩
  obtain ⟨last, here, keeps, grows⟩ := after.performAll_follows later index seat' there'
  have held : after.logOf seat' = tree.diagnostics := by
    simpa [parserLog, there'] using whole
  refine ⟨_, by rw [parserLog, here, Option.map_some], held ▸ grows, ?_⟩
  exact perform_parse_again here (keeps.tree tree made)

theorem performAll_parse (earlier : Log) (text : String) :
    (({ shared := earlier } : Workbench).performAll
        [.openParser text true, .parser 0 .parse]).1 =
      [.done, .parser (.tree
        { parse text with diagnostics := earlier ++ (parse text).diagnostics })] := by
  have regroup : ((Parser.ofText text).parse (earlier ++ lexicalReports text)).answer =
      { parse text with diagnostics := earlier ++ (parse text).diagnostics } := by
    simp [parse, Parser.parse, Parser.ofText]
  rw [← regroup]
  rfl

/-- Lexers and parsers that write to one log read what they would read with a log each, and report the
same, whatever the log held before and whoever else writes to it. -/
theorem shared_logs_are_only_written (earlier : Log) (steps : List Step) :
    ∃ answers bench others apart,
      ({ shared := earlier } : Workbench).performAll steps = (answers, bench) ∧
      ({} : Workbench).performAll (steps.map Step.apart) = (others, apart) ∧
      answers.map Answer.unreported = others.map Answer.unreported ∧
      Alike bench apart ∧ earlier <+: bench.shared ∧ (∀ step, StepsAlike bench apart step) ∧
      (∀ index seat, bench.parsers[index]? = some seat →
        (∀ operation, ∃ answer after, CarriedOut bench index seat operation answer after) ∧
        (seat.reader.tree? = none → ∃ tree after, FirstTree bench index tree after)) ∧
      ∀ text, (({ shared := earlier } : Workbench).performAll
          [.openParser text true, .parser 0 .parse]).1 =
        [.done, .parser (.tree
          { parse text with diagnostics := earlier ++ (parse text).diagnostics })] := by
  have empty : Alike { shared := earlier } {} := ⟨rfl, rfl⟩
  have unused : Ready { shared := earlier } := fun seat member => (List.not_mem_nil member).elim
  obtain ⟨answers, alike⟩ := performAll_alike empty steps
  have ready := performAll_ready unused steps
  have grown := shared_prefix_performAll { shared := earlier } steps
  refine ⟨_, _, _, _, rfl, rfl, answers, alike, grown, stepsAlike alike, ?_, performAll_parse earlier⟩
  intro index seat there
  exact ⟨exists_carriedOut ready there, exists_firstTree there⟩

end Workbench
end LineCalc
