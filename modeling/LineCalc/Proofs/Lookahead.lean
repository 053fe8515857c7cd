import LineCalc.Proofs.ParserRuns

/-!
How far the rules look. A rule asks for no token but the one at its cursor, and the cursor only
goes on; so what is before the start of a rule or behind the token where it ends is never asked for.
All parsers with the same tokens from the start up to that one carry the rule out alike, whatever
else is in their lines.
-/
namespace LineCalc.Syntax

namespace Parser

variable {p : Parser} {place : Nat} {t : Token}

def tokenAt (p : Parser) (place : Nat) : Token := ({ p with cursor := place } : Parser).current

theorem tokenAt_eq (p : Parser) (place : Nat) : p.tokenAt place = p.body[place]?.getD p.stop := by
  rw [tokenAt, current, upcoming, List.headD_eq_head?_getD, List.head?_drop]

theorem tokenAt_of_getElem? (here : p.tokens[place]? = some t) : p.tokenAt place = t := by
  have inLine := (List.getElem?_eq_some_iff.mp here).1
  rw [length_tokens, lastIndex_eq] at inLine
  rw [tokens] at here
  rw [tokenAt_eq]
  by_cases inside : place < p.body.length
  · rw [List.getElem?_append_left inside] at here
    rw [here, Option.getD_some]
  · obtain rfl : place = p.body.length := by omega
    rw [List.getElem?_concat_length] at here
    rw [List.getElem?_eq_none (Nat.le_refl _), Option.getD_none, Option.some.inj here]

end Parser

namespace Descent

def wentTo (d : Descent) (place : Nat) (reports : Log) : Descent :=
  { parser := { d.parser with cursor := place }, log := d.log ++ reports }

structure Alike (d other : Descent) (last : Nat) : Prop where
  cursor : other.parser.cursor = d.parser.cursor
  depth : other.parser.depth = d.parser.depth
  tokens : ∀ k, d.parser.cursor ≤ k → k ≤ last → other.parser.tokenAt k = d.parser.tokenAt k

/-- From one descent to the other only the cursor goes on and reports are added, and the way there
exists from every descent that finds the same tokens up to where it ends: the cursor comes to the
same place and the same reports are added. -/
def Local (way : Descent → Descent → Prop) (d after : Descent) : Prop :=
  ∃ last reports, after = d.wentTo last reports ∧ d.parser.cursor ≤ last ∧
    ∀ other, d.Alike other last → way other (other.wentTo last reports)

/-- An operation that is carried out comes to this end and to no other: it gives the answer, adds
the reports, moves the cursor to the place and changes nothing else. As a function it does the
same. -/
structure Runs (d : Descent) (operation : Parser.Operation) (answer : Parser.Answer) (reports : Log)
    (last : Nat) : Prop where
  performs : ∀ given after, Performs d operation given after ↔
    given = answer ∧ after = d.wentTo last reports
  agrees : d.parser.perform d.log operation =
    { answer, reports, after := { d.parser with cursor := last } }

variable {d other between after : Descent} {way further : Descent → Descent → Prop}
  {middle last : Nat} {reports : Log}

theorem wentTo_wentTo (d : Descent) (middle last : Nat) (reports more : Log) :
    (d.wentTo middle reports).wentTo last more = d.wentTo last (reports ++ more) := by
  simp only [wentTo, List.append_assoc]

theorem wentTo_cursor (d : Descent) : d.wentTo d.parser.cursor [] = d := by
  simp only [wentTo, List.append_nil]

/-! The same tokens. -/

theorem Alike.current (alike : d.Alike other last) (onward : d.parser.cursor ≤ last) :
    other.current = d.current := by
  have here : other.parser.tokenAt other.parser.cursor = d.parser.tokenAt d.parser.cursor := by
    rw [alike.cursor]
    exact alike.tokens _ (Nat.le_refl _) onward
  exact here

theorem Alike.sooner (alike : d.Alike other last) (before : middle ≤ last) :
    d.Alike other middle :=
  ⟨alike.cursor, alike.depth, fun k behind upTo => alike.tokens k behind (Nat.le_trans upTo before)⟩

theorem Alike.wentTo (alike : d.Alike other last) (onward : d.parser.cursor ≤ middle)
    (reports : Log) : (d.wentTo middle reports).Alike (other.wentTo middle reports) last :=
  ⟨rfl, alike.depth, fun k behind upTo => alike.tokens k (Nat.le_trans onward behind) upTo⟩

theorem Alike.advance (alike : d.Alike other last) : d.advance.Alike other.advance last :=
  ⟨congrArg (· + 1) alike.cursor, alike.depth,
    fun k behind upTo => alike.tokens k (Nat.le_of_succ_le behind) upTo⟩

theorem Alike.enter (alike : d.Alike other last) : d.enter.Alike other.enter last :=
  ⟨alike.cursor, congrArg (· + 1) alike.depth, alike.tokens⟩

/-! Ways that are taken one after the other. -/

theorem Local.imp (here : Local way d after)
    (goes : ∀ other last, other.current = d.current → other.parser.depth = d.parser.depth →
      way other last → further other last) : Local further d after := by
  obtain ⟨last, reports, moved, onward, follows⟩ := here
  refine ⟨last, reports, moved, onward, fun other alike => ?_⟩
  exact goes other _ (alike.current onward) alike.depth (follows other alike)

theorem Local.trans (first : Local way d between) (second : Local further between after) :
    Local (fun d after => ∃ between, way d between ∧ further between after) d after := by
  obtain ⟨middle, reports, rfl, onward, follows⟩ := first
  obtain ⟨last, more, rfl, later, goesOn⟩ := second
  refine ⟨last, reports ++ more, d.wentTo_wentTo .., Nat.le_trans onward later, ?_⟩
  intro other alike
  -- Between the two ways both descents stand at one place, and the tokens from there on agree.
  refine ⟨_, follows other (alike.sooner later), ?_⟩
  rw [← wentTo_wentTo]
  exact goesOn _ (alike.wentTo onward reports)

theorem Local.stay (goes : ∀ other : Descent, other.current = d.current → way other other) :
    Local way d d := by
  refine ⟨d.parser.cursor, [], d.wentTo_cursor.symm, Nat.le_refl _, fun other alike => ?_⟩
  rw [← alike.cursor, wentTo_cursor]
  exact goes other (alike.current (Nat.le_refl _))

theorem Local.advance (behind : Local way d.advance after) :
    Local (fun d after => way d.advance after) d after := by
  obtain ⟨last, reports, moved, onward, follows⟩ := behind
  exact ⟨last, reports, moved, Nat.le_of_succ_le onward,
    fun other alike => follows other.advance alike.advance⟩

theorem Local.report {diagnostic : Diagnostic} (told : Local way (d.report diagnostic) after) :
    Local (fun d after => way (d.report diagnostic) after) d after := by
  obtain ⟨last, reports, moved, onward, follows⟩ := told
  have joined (d : Descent) :
      (d.report diagnostic).wentTo last reports = d.wentTo last (diagnostic :: reports) := by
    simp only [Descent.report, wentTo, List.append_assoc, List.singleton_append]
  refine ⟨last, diagnostic :: reports, moved.trans (joined d), onward, fun other alike => ?_⟩
  rw [← joined]
  exact follows _ ⟨alike.cursor, alike.depth, alike.tokens⟩

theorem Local.enter {inside : Descent} (within : Local way d.enter inside) :
    Local (fun d after => ∃ inside, way d.enter inside ∧ after = inside.leave) d inside.leave := by
  obtain ⟨last, reports, rfl, onward, follows⟩ := within
  exact ⟨last, reports, rfl, onward, fun other alike => ⟨_, follows other.enter alike.enter, rfl⟩⟩

/-! What the rules do at the cursor. -/

theorem local_accept (d : Descent) (kind : Kind) :
    Local (fun other after => other.accept kind = ((d.accept kind).1, after)) d
      (d.accept kind).2 := by
  by_cases same : d.current.kind = kind
  · have accepted (other : Descent) (here : other.current = d.current) :
        other.accept kind = (d.current, other.advance) := by
      rw [accept, here, if_pos same]
    have behind : Local (fun other after => after = other) d.advance d.advance :=
      .stay fun _ _ => rfl
    rw [accepted d rfl]
    refine behind.advance.imp fun other after here _ moved => ?_
    rw [accepted other here, moved]
  · have missing (other : Descent) (here : other.current = d.current) : other.accept kind =
        (.synthesized kind d.current.position,
          other.report (.unexpectedToken d.current.kind kind)) := by
      rw [accept, here, if_neg same]
    have told : Local (fun other after => after = other)
        (d.report (.unexpectedToken d.current.kind kind)) _ := .stay fun _ _ => rfl
    rw [missing d rfl]
    refine told.report.imp fun other after here _ reported => ?_
    rw [missing other here, reported]

theorem Skips.isLocal {balance : Nat} (skips : Skips balance d after) :
    Local (Skips balance) d after := by
  induction skips with
  | closed d => exact .stay fun other _ => .closed other
  | ended ends => exact .stay fun other here => .ended (here ▸ ends)
  | opening opens more ih =>
    exact ih.advance.imp fun other _ here _ more => .opening (here ▸ opens) more
  | closing closes more ih =>
    exact ih.advance.imp fun other _ here _ more => .closing (here ▸ closes) more
  | other inLine noOpening noClosing more ih =>
    exact ih.advance.imp fun other _ here _ more =>
      .other (here ▸ inLine) (here ▸ noOpening) (here ▸ noClosing) more

/-- Every rule is local, by induction on the descent: a part of it starts where the one before ends,
and it decides by the token at its start what to do. -/
theorem Reaches.isLocal {goal : Goal} {e : Expr} (reaches : Reaches goal d e after) :
    Local (fun other after => Reaches goal other e after) d after := by
  induction reaches with
  | @number d noGroup =>
    refine (local_accept d .number).imp fun other after here _ accepted => ?_
    have reached := Reaches.number (d := other) (here ▸ noGroup)
    rwa [accepted] at reached
  | skipped opens deep skips =>
    refine skips.isLocal.report.advance.imp fun other after here level skips => ?_
    rw [← here]
    exact .skipped (here ▸ opens) (level ▸ deep) skips
  | @group d inside inner opens shallow reads ih =>
    -- The count of open groups went up and down again when the closing parenthesis is looked for.
    have closing := local_accept inside.leave .closeParenthesis
    refine (ih.enter.advance.trans closing).imp ?_
    rintro other after here level ⟨_, ⟨within, reads, rfl⟩, accepted⟩
    have reached := Reaches.group (here ▸ opens) (level ▸ shallow) reads
    rwa [accepted, here] at reached
  | factor reads more operand further =>
    refine (operand.trans further).imp ?_
    rintro other after _ _ ⟨between, reads, more⟩
    exact .factor reads more
  | term reads more operand further =>
    refine (operand.trans further).imp ?_
    rintro other after _ _ ⟨between, reads, more⟩
    exact .term reads more
  | stops complete => exact .stay fun other here => .stops (here ▸ complete)
  | joins same reads more operand further =>
    refine (operand.advance.trans further).imp ?_
    rintro other after here _ ⟨between, reads, more⟩
    exact .joins (here ▸ same) reads (here ▸ more)

/-! Operations. -/

theorem Runs.of_performs {operation : Parser.Operation} {answer : Parser.Answer}
    (ready : d.parser.Ready) (performs : Performs d operation answer (d.wentTo last reports)) :
    d.Runs operation answer reports last := by
  constructor
  case performs =>
    intro given after
    constructor
    · exact performs.unique
    · rintro ⟨rfl, rfl⟩
      exact performs
  case agrees =>
    obtain ⟨answered, moved⟩ := performs.unique (performs_step ready operation)
    obtain ⟨parser, log⟩ := Descent.mk.inj moved
    have reported := List.append_cancel_left log
    generalize d.parser.perform d.log operation = step at answered parser reported
    obtain ⟨answer, reports, after⟩ := step
    cases answered
    cases parser
    cases reported
    rfl

/-- A rule comes to an end, in one way only, and looks at one token behind what it reads. Another
parser with its cursor at the same place and as many groups open, which has the same tokens from
there up to the place where the rule ends, that one included, gives the same expression and the same
reports and moves its cursor to the same place. Neither parser changes in anything else, so as many
groups are open as before. -/
theorem rules_read_one_token_ahead {operation : Parser.Operation} {category : Category}
    (isRule : ruleOf? operation = some category) (ready : d.parser.Ready)
    (inLine : d.parser.cursor ≤ d.parser.lastIndex) :
    ∃ e reports last, d.Runs operation (.expr e) reports last ∧
      d.parser.cursor ≤ last ∧ last ≤ d.parser.lastIndex ∧
      ∀ other : Descent, other.parser.EndsOnce → other.parser.cursor = d.parser.cursor →
        other.parser.depth = d.parser.depth →
        (∀ k, d.parser.cursor ≤ k → k ≤ last → other.parser.tokens[k]? = d.parser.tokens[k]?) →
        other.Runs operation (.expr e) reports last := by
  have reaches : Reaches (.rule category) d _ (d.follow _) := reaches_apply ready category
  obtain ⟨last, reports, moved, onward, follows⟩ := reaches.isLocal
  have runs : d.Runs operation _ reports last := .of_performs ready (.rule isRule (moved ▸ reaches))
  have within : last ≤ d.parser.lastIndex := by
    have moves := Parser.apply_movesOn d.parser
      (fun stop allowance => category.rule stop allowance) .term
    have place : _ = last := congrArg (fun d => d.parser.cursor) moved
    exact place ▸ moves.within rfl inLine
  refine ⟨_, reports, last, runs, onward, within, ?_⟩
  intro other ends cursor depth tokens
  have shallow : other.parser.depth ≤ maxNesting := depth ▸ ready.shallow
  refine .of_performs ⟨ends, shallow⟩ (.rule isRule (follows other ⟨cursor, depth, ?_⟩))
  intro k behind upTo
  have inside : k < d.parser.tokens.length := by
    rw [Parser.length_tokens]
    omega
  have here := List.getElem?_eq_getElem inside
  have there := (tokens k behind upTo).trans here
  rw [Parser.tokenAt_of_getElem? here, Parser.tokenAt_of_getElem? there]

theorem factor_between_other_tokens :
    let d : Descent := ⟨{ Parser.ofText "7-((2*3))+4" with cursor := 2, depth := 99 }, []⟩
    let other : Descent :=
      ⟨{ Parser.ofText ")*((2*3))+(-" with cursor := 2, depth := 99 }, [.badCharacter "$"]⟩
    let e : Expr := .group ⟨.openParenthesis, 2, some "(", none⟩
      (.number (.synthesized .number 3)) ⟨.closeParenthesis, 8, some ")", none⟩
    ruleOf? .factor = some .factor ∧ d.parser.Ready ∧ other.parser.EndsOnce ∧
      d.parser.cursor ≤ d.parser.lastIndex ∧
      (∀ k, 2 ≤ k → k ≤ 9 → other.parser.tokens[k]? = d.parser.tokens[k]?) ∧
      d.Runs .factor (.expr e) [.nestingTooDeep maxNesting] 9 ∧
      other.Runs .factor (.expr e) [.nestingTooDeep maxNesting] 9 := by
  intro d other e
  have ends (s : String) (place : Nat) :
      ({ Parser.ofText s with cursor := place, depth := 99 } : Parser).EndsOnce :=
    (Parser.ofText_endsOnce s).of_same rfl rfl
  have ready : d.parser.Ready := ⟨ends _ _, by decide⟩
  have inLine : d.parser.cursor ≤ d.parser.lastIndex := by decide +kernel
  have tokens : ∀ k, 2 ≤ k → k ≤ 9 → other.parser.tokens[k]? = d.parser.tokens[k]? := by
    intro k behind upTo
    have same : ∀ k < 10, 2 ≤ k → other.parser.tokens[k]? = d.parser.tokens[k]? := by
      decide +kernel
    exact same k (by omega) behind
  have read : (d.parser.perform d.log .factor).answer = .expr e ∧
      (d.parser.perform d.log .factor).reports = [.nestingTooDeep maxNesting] ∧
      (d.parser.perform d.log .factor).after.cursor = 9 := by decide +kernel
  obtain ⟨given, reports, last, runs, _, _, alike⟩ :=
    rules_read_one_token_ahead (show ruleOf? .factor = some .factor from rfl) ready inLine
  rw [runs.agrees] at read
  obtain ⟨answered, rfl, rfl⟩ := read
  obtain rfl := Parser.Answer.expr.inj answered
  exact ⟨rfl, ready, ends _ _, inLine, tokens, runs, alike other (ends _ _) rfl rfl tokens⟩

end Descent
end LineCalc.Syntax
