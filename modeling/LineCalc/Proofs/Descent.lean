import LineCalc.Proofs.LineTrees
import LineCalc.Syntax.Descent

/-!
The rules as they are carried out agree with the rules as functions. A descent always ends, and in one
way only, wherever its cursor stands and whatever its log holds; it leaves as many groups open as it
found open, and it adds to the log what the rule reports.
-/
namespace LineCalc.Syntax

namespace Parser

structure EndsOnce (p : Parser) : Prop where
  stop : p.stop.kind = .endOfFile
  body : ∀ t ∈ p.body, t.kind ≠ .endOfFile

structure Ready (p : Parser) : Prop where
  ends : p.EndsOnce
  shallow : p.depth ≤ maxNesting

variable {p : Parser} {rest last : List Token}

theorem EndsOnce.of_same {q : Parser} (ends : p.EndsOnce) (body : q.body = p.body)
    (stop : q.stop = p.stop) : q.EndsOnce :=
  ⟨stop ▸ ends.stop, body ▸ ends.body⟩

theorem current_eq {tokens : List Token} (ahead : p.upcoming = tokens) :
    p.current = tokens.headD p.stop := by rw [current, ahead]

theorem reach_upcoming (p : Parser) : p.reach p.upcoming = p := by simp [reach]

theorem reach_reach (suffix : rest <:+ p.upcoming) (further : last <:+ rest) :
    (p.reach rest).reach last = p.reach last := by
  have longer := suffix.length_le
  have shorter := further.length_le
  have cursor : p.cursor + (p.upcoming.length - rest.length) + (rest.length - last.length) =
      p.cursor + (p.upcoming.length - last.length) := by omega
  rw [reach, upcoming_reach suffix, reach, reach, cursor]

theorem advance_eq_reach {t : Token} (ahead : p.upcoming = t :: rest) : p.advance = p.reach rest := by
  simp [advance, reach, ahead]

end Parser

namespace Descent

def behind (d : Descent) (reports : Log) (rest : List Token) : Descent :=
  { parser := d.parser.reach rest, log := d.log ++ reports }

structure Before (stop : Token) (allowance : Nat) (tokens : List Token) (d : Descent) : Prop where
  ends : d.parser.EndsOnce
  stop : d.parser.stop = stop
  ahead : d.parser.upcoming = tokens
  level : d.parser.depth + allowance = maxNesting

variable {d : Descent} {stop : Token} {allowance : Nat} {tokens rest : List Token}

theorem Before.behind (before : Before stop allowance tokens d) (reports : Log)
    (suffix : rest <:+ tokens) : Before stop allowance rest (d.behind reports rest) := by
  constructor
  case ends => exact before.ends.of_same rfl rfl
  case stop => exact before.stop
  case ahead => exact Parser.upcoming_reach (before.ahead ▸ suffix)
  case level => exact before.level

theorem behind_behind {last : List Token} (suffix : rest <:+ d.parser.upcoming)
    (further : last <:+ rest) (reports more : Log) :
    (d.behind reports rest).behind more last = d.behind (reports ++ more) last := by
  simp only [Descent.behind, Parser.reach_reach suffix further, List.append_assoc]

theorem advance_eq_behind {t : Token} (ahead : d.parser.upcoming = t :: rest) :
    d.advance = d.behind [] rest := by
  simp only [advance, Descent.behind, Parser.advance_eq_reach ahead, List.append_nil]

theorem behind_upcoming (d : Descent) : d.behind [] d.parser.upcoming = d := by
  simp only [Descent.behind, Parser.reach_upcoming, List.append_nil]

theorem Before.current (before : Before stop allowance tokens d) :
    d.current = tokens.headD stop := by
  rw [Descent.current, Parser.current_eq before.ahead, before.stop]

theorem Before.strength (before : Before stop allowance tokens d) :
    d.current.kind.binaryPrecedence = leadingStrength tokens := by
  rw [before.current]
  cases tokens with
  | nil =>
    rw [List.headD_nil, ← before.stop, before.ends.stop]
    rfl
  | cons t rest => rfl

theorem Before.advance {t : Token} (before : Before stop allowance (t :: rest) d) :
    d.current = t ∧ d.advance = d.behind [] rest ∧ Before stop allowance rest d.advance := by
  have moved := advance_eq_behind before.ahead
  exact ⟨before.current, moved, moved ▸ before.behind [] (List.suffix_cons t rest)⟩

theorem Before.accept (before : Before stop allowance tokens d) {kind : Kind}
    (inside : kind ≠ .endOfFile) :
    d.accept kind =
      ((expect stop kind tokens).token,
        d.behind (expect stop kind tokens).reports (expect stop kind tokens).rest) := by
  have noStop : stop.kind ≠ kind := by
    rw [← before.stop, before.ends.stop]
    exact inside.symm
  have missing (t : Token) (here : d.current = t) (other : t.kind ≠ kind) : d.accept kind =
      (.synthesized kind t.position, d.behind [.unexpectedToken t.kind kind] tokens) := by
    have stays := Parser.reach_upcoming d.parser
    rw [before.ahead] at stays
    rw [Descent.accept, here, if_neg other, Descent.behind, stays]
    rfl
  fun_cases expect stop kind tokens with
  | case1 same => exact absurd same noStop
  | case2 other => exact missing stop before.current other
  | case3 t r same =>
    obtain ⟨here, moved, _⟩ := before.advance
    rw [Descent.accept, here, if_pos same, moved]
  | case4 t r other => exact missing t before.current other

theorem advance_report {t : Token} (ahead : d.parser.upcoming = t :: rest)
    (diagnostic : Diagnostic) : d.advance.report diagnostic = d.behind [diagnostic] rest := by
  rw [advance_eq_behind ahead, Descent.behind, List.append_nil]
  rfl

theorem leave_behind (d : Descent) (reports : Log) (rest : List Token) :
    (d.enter.behind reports rest).leave = d.behind reports rest := rfl

theorem Before.enter (before : Before stop (allowance + 1) tokens d) :
    Before stop allowance tokens d.enter := by
  have level := before.level
  exact ⟨before.ends.of_same rfl rfl, before.stop, before.ahead, by simp only [Descent.enter]; omega⟩

/-! There is one way at most. -/

theorem Skips.unique {balance : Nat} {d after after' : Descent} (first : Skips balance d after)
    (second : Skips balance d after') : after' = after := by
  induction first with
  | closed => cases second; rfl
  | ended ends => cases second <;> simp_all
  | opening opens more ih =>
    cases second with
    | opening _ more' => exact ih more'
    | _ => simp_all
  | closing closes more ih =>
    cases second with
    | closing _ more' => exact ih more'
    | _ => simp_all
  | other inLine noOpening noClosing more ih =>
    cases second with
    | other _ _ _ more' => exact ih more'
    | _ => contradiction

theorem Reaches.unique {goal : Goal} {d after after' : Descent} {e e' : Expr}
    (first : Reaches goal d e after) (second : Reaches goal d e' after') :
    e' = e ∧ after' = after := by
  induction first generalizing e' after' with
  | number noGroup =>
    cases second with
    | number => exact ⟨rfl, rfl⟩
    | _ => contradiction
  | skipped opens deep skips =>
    cases second with
    | number => contradiction
    | skipped _ _ skips' => exact ⟨rfl, skips.unique skips'⟩
    | group _ shallow => omega
  | group opens shallow reads ih =>
    cases second with
    | number => contradiction
    | skipped _ deep => omega
    | group _ _ reads' =>
      obtain ⟨rfl, rfl⟩ := ih reads'
      exact ⟨rfl, rfl⟩
  | factor reads more operand further =>
    cases second with
    | factor reads' more' =>
      obtain ⟨rfl, rfl⟩ := operand reads'
      exact further more'
  | term reads more operand further =>
    cases second with
    | term reads' more' =>
      obtain ⟨rfl, rfl⟩ := operand reads'
      exact further more'
  | stops other =>
    cases second with
    | stops => exact ⟨rfl, rfl⟩
    | joins => contradiction
  | joins same reads more operand further =>
    cases second with
    | stops => contradiction
    | joins _ reads' more' =>
      obtain ⟨rfl, rfl⟩ := operand reads'
      exact further more'

theorem Performs.unique {operation : Parser.Operation} {answer answer' : Parser.Answer}
    {d after after' : Descent} (first : Performs d operation answer after)
    (second : Performs d operation answer' after') : answer' = answer ∧ after' = after := by
  cases first with
  | rule carries reads =>
    cases second with
    | rule carries' reads' =>
      obtain rfl := Option.some.inj (carries.symm.trans carries')
      obtain ⟨rfl, rfl⟩ := reads.unique reads'
      exact ⟨rfl, rfl⟩
    | _ => cases carries
  | parse fresh reads =>
    cases second with
    | rule carries' => cases carries'
    | parse _ reads' =>
      obtain ⟨rfl, rfl⟩ := reads.unique reads'
      exact ⟨rfl, rfl⟩
    | parseAgain made => simp [fresh] at made
  | parseAgain made =>
    cases second with
    | rule carries' => cases carries'
    | parse fresh => simp [fresh] at made
    | parseAgain made' =>
      obtain rfl := Option.some.inj (made.symm.trans made')
      exact ⟨rfl, rfl⟩
  | _ =>
    cases second with
    | rule carries' => cases carries'
    | _ => exact ⟨rfl, rfl⟩

theorem PerformsAll.unique {operations : List Parser.Operation}
    {answers answers' : List Parser.Answer} {d last last' : Descent} (first : PerformsAll d operations answers last)
    (second : PerformsAll d operations answers' last') : answers' = answers ∧ last' = last := by
  induction first generalizing answers' last' with
  | nil =>
    cases second
    exact ⟨rfl, rfl⟩
  | cons step later ih =>
    cases second with
    | cons step' later' =>
      obtain ⟨rfl, rfl⟩ := step.unique step'
      obtain ⟨rfl, rfl⟩ := ih later'
      exact ⟨rfl, rfl⟩

/-! The loops. -/

theorem skips_behind (ends : d.parser.EndsOnce) (ahead : d.parser.upcoming = tokens)
    (balance : Nat) : Skips balance d (d.behind [] (afterGroups balance tokens)) := by
  induction tokens generalizing d balance with
  | nil =>
    have stays := behind_upcoming d
    rw [ahead] at stays
    have ended : d.current.kind = .endOfFile := by
      rw [Descent.current, Parser.current_eq ahead, List.headD_nil, ends.stop]
    cases balance with
    | zero => rw [afterGroups, stays]; exact .closed d
    | succ n => rw [afterGroups, stays]; exact .ended ended
  | cons t rest ih =>
    have here : d.current = t := Parser.current_eq ahead
    have step : rest <:+ d.parser.upcoming := ahead ▸ List.suffix_cons t rest
    have moved := advance_eq_behind ahead
    have further : d.advance.parser.upcoming = rest := moved ▸ Parser.upcoming_reach step
    have going (n : Nat) : Skips n d.advance (d.behind [] (afterGroups n rest)) := by
      have goes := ih (d := d.advance) (ends.of_same rfl rfl) further n
      rwa [moved, behind_behind step (afterGroups_suffix n rest), List.nil_append, ← moved] at goes
    cases balance with
    | zero =>
      have stays := behind_upcoming d
      rw [ahead] at stays
      rw [afterGroups, stays]
      exact .closed d
    | succ n =>
      have inBody : t ∈ d.parser.upcoming := ahead ▸ List.mem_cons_self ..
      have inLine : t.kind ≠ .endOfFile := ends.body t (List.drop_subset _ _ inBody)
      rw [← here] at inLine
      rw [afterGroups, ← here]
      split
      · next opens => exact .opening opens (going (n + 2))
      · next noOpening =>
        split
        · next closes => exact .closing closes (going n)
        · next noClosing => exact .other inLine noOpening noClosing (going (n + 1))

theorem Before.stops (before : Before stop allowance tokens d) (operand : Category)
    {strength : Nat} (left : Expr) (complete : leadingStrength tokens ≠ strength) :
    Reaches (.further operand strength left) d left d :=
  .stops (before.strength ▸ complete)

def GoesOn : Category → Expr → Descent → Expr → Descent → Prop
  | .primary, left, d, e, last => e = left ∧ last = d
  | .factor, left, d, e, last => Reaches (.further .primary 2 left) d e last
  | .term, left, d, e, last => Reaches (.further .factor 1 left) d e last

theorem Before.joins {operand : Category} {strength : Nat} {left right : Reading} {operator : Token}
    {e : Expr} {last : Descent} (before : Before stop allowance tokens d)
    (suffix : left.rest <:+ tokens) (next : left.rest = operator :: rest) (further : right.rest <:+ rest)
    (same : operator.kind.binaryPrecedence = strength)
    (reads : ∀ {d : Descent}, Before stop allowance rest d →
      Reaches (.rule operand) d right.expr (d.behind right.reports right.rest))
    (more : Reaches (.further operand strength (left.join operator right).expr)
      (d.behind (left.join operator right).reports (left.join operator right).rest) e last) :
    Reaches (.further operand strength left.expr) (d.behind left.reports left.rest) e last := by
  have there := before.behind left.reports suffix
  rw [next] at there suffix ⊢
  obtain ⟨here, moved, later⟩ := there.advance
  have step : rest <:+ operator :: rest := List.suffix_cons operator rest
  have operand := reads later
  rw [moved, behind_behind (before.ahead ▸ suffix) step,
    behind_behind (before.ahead ▸ step.trans suffix) further, List.append_nil] at operand
  refine .joins (here ▸ same) ?_ (here ▸ more)
  rw [moved, behind_behind (before.ahead ▸ suffix) step, List.append_nil]
  exact operand

end Descent

open Descent (Before)

variable {stop : Token} {allowance : Nat} {tokens : List Token} {reading : Reading}

/-- The descent does what the rules read, one way through the grammar after the other. -/
theorem Reads.reaches {category : Category} (reads : Reads stop category allowance tokens reading)
    {d after : Descent} {e : Expr} (before : Before stop allowance tokens d)
    (more : Descent.GoesOn category reading.expr (d.behind reading.reports reading.rest) e after) :
    Descent.Reaches (.rule category) d e after := by
  induction reads generalizing d e after with
  | @number allowance tokens noGroup =>
    obtain ⟨rfl, rfl⟩ := more
    have closed : d.current.kind ≠ .openParenthesis := by
      rw [before.current]
      cases tokens with
      | nil => rw [List.headD_nil, ← before.stop, before.ends.stop]; decide
      | cons t rest => simpa using noGroup
    have reached := Descent.Reaches.number closed
    rwa [before.accept (by decide)] at reached
  | @skipped opening rest opens =>
    obtain ⟨rfl, rfl⟩ := more
    have here := before.advance.1
    have deep : maxNesting ≤ d.parser.depth := Nat.le_of_eq before.level.symm
    have step : rest <:+ opening :: rest := List.suffix_cons opening rest
    have told := before.behind [.nestingTooDeep maxNesting] step
    have skips := Descent.skips_behind told.ends told.ahead 1
    rw [Descent.behind_behind (before.ahead ▸ step) (afterGroups_suffix 1 rest),
      ← Descent.advance_report before.ahead] at skips
    have reached := Descent.Reaches.skipped (here ▸ opens) deep skips
    rwa [here] at reached
  | @group allowance opening rest inside opens inner complete ih =>
    obtain ⟨rfl, rfl⟩ := more
    obtain ⟨here, moved, later⟩ := before.advance
    have step : rest <:+ opening :: rest := List.suffix_cons opening rest
    have shallow : d.parser.depth < maxNesting := by
      have level := before.level
      omega
    have ended := later.enter.behind inside.reports inner.rest_suffix
    have outside := before.behind inside.reports (inner.rest_suffix.trans step)
    have left : (d.advance.enter.behind inside.reports inside.rest).leave =
        d.behind inside.reports inside.rest := by
      rw [Descent.leave_behind, moved, Descent.behind_behind (before.ahead ▸ step) inner.rest_suffix,
        List.nil_append]
    have inLine : Kind.closeParenthesis ≠ .endOfFile := by decide
    have closing := outside.accept inLine
    rw [Descent.behind_behind (before.ahead ▸ inner.rest_suffix.trans step)
      (expect_suffix stop .closeParenthesis inside.rest)] at closing
    have enters := ih later.enter (ended.stops .factor inside.expr (by omega))
    have reached := Descent.Reaches.group (here ▸ opens) shallow enters
    rwa [left, closing, here] at reached
  | @lonePrimary allowance tokens reading only ih => exact .factor (ih before ⟨rfl, rfl⟩) more
  | @product allowance tokens rest left right operator first next strength last hf hl =>
    refine hf before (before.joins first.rest_suffix next last.rest_suffix strength ?_ more)
    exact fun there => hl there ⟨rfl, rfl⟩
  | @loneFactor allowance tokens reading only complete ih =>
    have there := before.behind reading.reports only.rest_suffix
    exact .term (ih before (there.stops .primary reading.expr complete)) more
  | @sum allowance tokens rest left right operator first next strength last complete hf hl =>
    refine hf before (before.joins first.rest_suffix next last.rest_suffix strength ?_ more)
    intro d there
    have ended := there.behind right.reports last.rest_suffix
    exact hl there (ended.stops .primary right.expr complete)

theorem reads_rule (stop : Token) (allowance : Nat) (tokens : List Token) (category : Category) :
    Reads stop category allowance tokens ((category.rule stop allowance).read tokens) := by
  cases category with
  | primary => exact reads_primary stop allowance tokens
  | factor => exact reads_factor stop allowance tokens
  | term => exact reads_term stop allowance tokens

namespace Descent

variable {d : Descent}

def follow {α : Type} (d : Descent) (step : Parser.Step α) : Descent :=
  { parser := step.after, log := d.log ++ step.reports }

/-- A rule that is carried out comes to an end and does what it does as a function. In particular it
leaves as many groups open as it found open. -/
theorem reaches_apply (ready : d.parser.Ready) (category : Category) :
    let step := d.parser.apply fun stop allowance => category.rule stop allowance
    Reaches (.rule category) d step.answer (d.follow step) := by
  intro step
  have before : Before d.parser.stop (maxNesting - d.parser.depth) d.parser.upcoming d :=
    ⟨ready.ends, rfl, rfl, Nat.add_sub_of_le ready.shallow⟩
  have reads := reads_rule d.parser.stop (maxNesting - d.parser.depth) d.parser.upcoming category
  have after := before.behind step.reports reads.rest_suffix
  apply reads.reaches before
  cases category with
  | primary => exact ⟨rfl, rfl⟩
  | factor => exact after.stops .primary _ (factorOf_complete _ _)
  | term => exact after.stops .factor _ (ne_of_eq_of_ne (term_complete _ _ _) (by decide))

theorem accept_eq (d : Descent) (kind : Kind) :
    d.accept kind = ((d.parser.accept kind).answer, d.follow (d.parser.accept kind)) := by
  unfold accept Parser.accept
  by_cases same : d.parser.current.kind = kind
  · simp [Descent.current, same, advance, follow, Parser.next]
  · simp [Descent.current, same, report, follow]

theorem performs_parse (ready : d.parser.Ready) :
    Performs d .parse (.tree (d.parser.parse d.log).answer) (d.follow (d.parser.parse d.log)) := by
  cases made : d.parser.tree? with
  | some tree =>
    have again : d.parser.parse d.log = { answer := tree, after := d.parser } := by
      rw [Parser.parse, made]
    have stays : d.follow { answer := tree, after := d.parser } = d := by simp [follow]
    rw [again, stays]
    exact .parseAgain made
  | none =>
    have root : Reaches (.rule .term) d d.parser.expression.answer (d.follow d.parser.expression) :=
      reaches_apply ready .term
    have done := Performs.parse made root
    simp only [finish, accept_eq] at done
    unfold Parser.parse
    rw [made]
    simpa only [follow, List.append_assoc] using done

/-- Every operation comes to an end. It does what it does to the parser alone, and its reports are
added to the log. -/
theorem performs_step (ready : d.parser.Ready) (operation : Parser.Operation) :
    let step := d.parser.perform d.log operation
    Performs d operation step.answer (d.follow step) := by
  intro step
  have silent (after : Parser) : d.follow { answer := (), after } = { d with parser := after } := by
    simp [follow]
  cases operation with
  | peek offset =>
    have stays : d.follow step = d := silent d.parser
    rw [stays]
    exact .peek offset
  | current =>
    have stays : d.follow step = d := silent d.parser
    rw [stays]
    exact .current
  | next =>
    have moved : d.follow step = d.advance := silent d.parser.advance
    rw [moved]
    exact .next
  | accept kind =>
    have accepted := Performs.accept (d := d) kind
    rwa [accept_eq] at accepted
  | primary => exact .rule rfl (reaches_apply ready .primary)
  | factor => exact .rule rfl (reaches_apply ready .factor)
  | term => exact .rule rfl (reaches_apply ready .term)
  | expression => exact .rule rfl (reaches_apply ready .term)
  | parse => exact performs_parse ready

end Descent
end LineCalc.Syntax
