import LineCalc.Proofs.Descent

/-!
Runs of one parser: any operations in any order, also after the cursor went beyond the end of the
line. Between two of them the parser has its tokens and no group open; none of them goes back, none
but a plain step or an expected end of file goes beyond the end, and a tree that was made is kept.
-/
namespace LineCalc.Syntax

namespace Parser

def lastIndex (p : Parser) : Nat := p.tokens.length - 1

structure AtRest (s : String) (p : Parser) : Prop where
  tokens : p.tokens = (ofText s).tokens
  ends : ∃ line stop, p.tokens = line ++ [stop] ∧ stop.kind = .endOfFile ∧
    ∀ t ∈ line, t.kind ≠ .endOfFile
  level : p.depth = 0
  peek : ∀ offset : Nat, ∃ t, p.peek? offset = some t ∧
    p.tokens[min (p.cursor + offset) p.lastIndex]? = some t

/-- Whether an operation is a rule of the grammar or expects a token that is not the end of file. -/
def Operation.staysInLine : Operation → Bool
  | .primary | .factor | .term | .expression => true
  | .accept kind => kind ≠ .endOfFile
  | _ => false

structure MovesOn (operation : Operation) (before after : Parser) : Prop where
  onward : before.cursor ≤ after.cursor
  within : operation.staysInLine = true → before.cursor ≤ before.lastIndex →
    after.cursor ≤ before.lastIndex
  beyond : operation.staysInLine = true → before.lastIndex < before.cursor →
    after.cursor = before.cursor

variable {p : Parser} {s : String}

theorem lastIndex_eq (p : Parser) : p.lastIndex = p.body.length := by simp [lastIndex, tokens]

theorem length_tokens (p : Parser) : p.tokens.length = p.lastIndex + 1 := by
  simp [lastIndex, tokens]

theorem length_upcoming (p : Parser) : p.upcoming.length = p.body.length - p.cursor :=
  List.length_drop

theorem tokens_lastIndex (p : Parser) : p.tokens[p.lastIndex]? = some p.stop := by
  rw [lastIndex_eq, tokens, List.getElem?_append_right (Nat.le_refl _), Nat.sub_self]
  rfl

theorem peek?_eq (p : Parser) (offset : Nat) : ∃ t, p.peek? offset = some t ∧
    p.tokens[min (p.cursor + offset) p.lastIndex]? = some t := by
  have count := p.length_tokens
  have found : p.peek? offset = some (p.tokens.getD (p.cursor + offset) p.stop) := by
    have place : ((p.cursor : Int) + offset).toNat = p.cursor + offset := by omega
    rw [peek?, if_pos (by omega), place]
  refine ⟨_, found, ?_⟩
  rw [List.getD_eq_getElem?_getD]
  by_cases inside : p.cursor + offset ≤ p.lastIndex
  · have here : p.cursor + offset < p.tokens.length := by omega
    rw [Nat.min_eq_left inside, List.getElem?_eq_getElem here, Option.getD_some]
  · have beyond : p.tokens.length ≤ p.cursor + offset := by omega
    rw [Nat.min_eq_right (by omega), List.getElem?_eq_none beyond, Option.getD_none,
      tokens_lastIndex]

/-! One operation. -/

theorem MovesOn.refl (operation : Operation) (p : Parser) : MovesOn operation p p :=
  ⟨Nat.le_refl _, fun _ inside => inside, fun _ _ => rfl⟩

theorem apply_movesOn (p : Parser) (rule : Token → Nat → Rule) (operation : Operation) :
    MovesOn operation p (p.apply rule).after := by
  have shorter := p.length_upcoming
  constructor
  case onward => exact Nat.le_add_right _ _
  case within =>
    intro _ inside
    rw [lastIndex_eq] at inside ⊢
    simp only [apply]
    omega
  case beyond =>
    intro _ outside
    rw [lastIndex_eq] at outside
    simp only [apply]
    omega

theorem accept_after (p : Parser) (kind : Kind) :
    (p.accept kind).after = p ∨ p.current.kind = kind ∧ (p.accept kind).after = p.advance := by
  unfold accept
  split
  · next same => exact .inr ⟨same, rfl⟩
  · exact .inl rfl

theorem accept_movesOn (ends : p.EndsOnce) (kind : Kind) :
    MovesOn (.accept kind) p (p.accept kind).after := by
  rcases p.accept_after kind with stays | ⟨same, moved⟩
  · rw [stays]
    exact .refl _ p
  · -- Only the end of file stands at the last place and beyond.
    have before (inside : kind ≠ .endOfFile) : p.cursor < p.body.length := by
      by_contra behind
      have ended : p.upcoming = [] := List.drop_eq_nil_of_le (Nat.le_of_not_lt behind)
      rw [current_eq ended, List.headD_nil, ends.stop] at same
      exact inside same.symm
    rw [moved]
    constructor
    case onward => exact Nat.le_succ _
    case within =>
      intro inside _
      rw [lastIndex_eq]
      exact before (by simpa [Operation.staysInLine] using inside)
    case beyond =>
      intro inside outside
      rw [lastIndex_eq] at outside
      have inLine := before (by simpa [Operation.staysInLine] using inside)
      omega

structure Keeps (before after : Parser) : Prop where
  body : after.body = before.body
  stop : after.stop = before.stop
  level : after.depth = before.depth
  tree : ∀ tree, before.tree? = some tree → after.tree? = some tree

theorem Keeps.refl (p : Parser) : Keeps p p := ⟨rfl, rfl, rfl, fun _ made => made⟩

theorem accept_keeps (p : Parser) (kind : Kind) : Keeps p (p.accept kind).after := by
  rcases p.accept_after kind with stays | ⟨_, moved⟩
  · rw [stays]
    exact .refl p
  · rw [moved]
    exact ⟨rfl, rfl, rfl, fun _ made => made⟩

theorem apply_keeps (p : Parser) (rule : Token → Nat → Rule) : Keeps p (p.apply rule).after :=
  ⟨rfl, rfl, rfl, fun _ made => made⟩

theorem parse_after (p : Parser) (earlier : Log) :
    (∃ tree, p.tree? = some tree ∧ p.parse earlier = { answer := tree, after := p }) ∨
      p.tree? = none ∧ (p.parse earlier).after =
        { (p.expression.after.accept .endOfFile).after with
          tree? := some (p.parse earlier).answer } := by
  unfold parse
  cases p.tree? with
  | some tree => exact .inl ⟨tree, rfl, rfl⟩
  | none => exact .inr ⟨rfl, rfl⟩

theorem parse_onward (p : Parser) (earlier : Log) : p.cursor ≤ (p.parse earlier).after.cursor := by
  rcases p.parse_after earlier with ⟨tree, _, again⟩ | ⟨_, made⟩
  · rw [again]
  · have first : p.cursor ≤ p.expression.after.cursor := Nat.le_add_right _ _
    have last : p.expression.after.cursor ≤ (p.expression.after.accept .endOfFile).after.cursor := by
      rcases p.expression.after.accept_after .endOfFile with stays | ⟨_, moved⟩
      · rw [stays]
      · rw [moved]
        exact Nat.le_succ _
    rw [made]
    exact Nat.le_trans first last

theorem parse_keeps (p : Parser) (earlier : Log) : Keeps p (p.parse earlier).after := by
  rcases p.parse_after earlier with ⟨tree, _, again⟩ | ⟨none, made⟩
  · rw [again]
    exact .refl p
  · have last := p.expression.after.accept_keeps .endOfFile
    rw [made]
    exact ⟨last.body, last.stop, last.level, by simp [none]⟩

theorem perform_movesOn (ends : p.EndsOnce) (earlier : Log) (operation : Operation) :
    MovesOn operation p (p.perform earlier operation).after := by
  cases operation with
  | peek offset => exact .refl _ p
  | current => exact .refl _ p
  | next => exact ⟨Nat.le_succ _, by simp [Operation.staysInLine], by simp [Operation.staysInLine]⟩
  | accept kind => exact accept_movesOn ends kind
  | primary => exact apply_movesOn p Syntax.primary _
  | factor => exact apply_movesOn p Syntax.factor _
  | term => exact apply_movesOn p Syntax.term _
  | expression => exact apply_movesOn p Syntax.expression _
  | parse =>
    exact ⟨parse_onward p earlier, by simp [Operation.staysInLine], by simp [Operation.staysInLine]⟩

theorem perform_keeps (p : Parser) (earlier : Log) (operation : Operation) :
    Keeps p (p.perform earlier operation).after := by
  cases operation with
  | peek offset => exact .refl p
  | current => exact .refl p
  | next => exact ⟨rfl, rfl, rfl, fun _ made => made⟩
  | accept kind => exact p.accept_keeps kind
  | primary => exact p.apply_keeps Syntax.primary
  | factor => exact p.apply_keeps Syntax.factor
  | term => exact p.apply_keeps Syntax.term
  | expression => exact p.apply_keeps Syntax.expression
  | parse => exact p.parse_keeps earlier

/-! Runs. -/

theorem Keeps.trans {q r : Parser} (first : Keeps p q) (last : Keeps q r) : Keeps p r :=
  ⟨last.body.trans first.body, last.stop.trans first.stop, last.level.trans first.level,
    fun tree made => last.tree tree (first.tree tree made)⟩

theorem Keeps.endsOnce {q : Parser} (keeps : Keeps p q) (ends : p.EndsOnce) : q.EndsOnce :=
  ends.of_same keeps.body keeps.stop

theorem Keeps.ready {q : Parser} (keeps : Keeps p q) (ready : p.Ready) : q.Ready :=
  ⟨keeps.endsOnce ready.ends, keeps.level ▸ ready.shallow⟩

theorem ofText_endsOnce (s : String) : (ofText s).EndsOnce := by
  rw [ofText_eq]
  exact ⟨rfl, fun t member => grammarTokens_kind member⟩

theorem ofText_ready (s : String) : (ofText s).Ready := ⟨ofText_endsOnce s, Nat.zero_le _⟩

theorem Keeps.atRest (keeps : Keeps (ofText s) p) : AtRest s p := by
  have ends := keeps.endsOnce (ofText_endsOnce s)
  constructor
  case tokens => rw [tokens, keeps.body, keeps.stop, tokens]
  case ends => exact ⟨p.body, p.stop, rfl, ends.stop, ends.body⟩
  case level => exact keeps.level
  case peek => exact p.peek?_eq

theorem tree?_of_answer (p : Parser) (earlier : Log) (operation : Operation) {tree : Tree}
    (answer : (p.perform earlier operation).answer = .tree tree) :
    (p.perform earlier operation).after.tree? = some tree := by
  cases operation with
  | peek offset => cases found : p.peek? offset <;> simp [perform, found] at answer
  | parse =>
    have answered : (p.parse earlier).answer = tree := Answer.tree.inj answer
    show (p.parse earlier).after.tree? = some tree
    rcases p.parse_after earlier with ⟨made, there, again⟩ | ⟨_, made⟩
    · rw [again] at answered ⊢
      rw [there, ← answered]
    · rw [made, answered]
  | _ => exact Answer.noConfusion answer

end Parser

namespace Descent

variable {d : Descent}

theorem exists_performsAll (ready : d.parser.Ready) (operations : List Parser.Operation) :
    ∃ answers last, PerformsAll d operations answers last ∧ d.parser.Keeps last.parser := by
  induction operations generalizing d with
  | nil => exact ⟨[], d, .nil d, .refl _⟩
  | cons operation rest ih =>
    have kept := d.parser.perform_keeps d.log operation
    obtain ⟨answers, last, run, later⟩ :=
      ih (d := d.follow (d.parser.perform d.log operation)) (kept.ready ready)
    exact ⟨_, last, .cons (performs_step ready operation) run, kept.trans later⟩

/-- An operation that is carried out. It does to the parser what it does as a function, and a tree
that it answers with is the one that any later parsing answers with, and does nothing else. -/
structure Steps (d : Descent) (operation : Parser.Operation) (answer : Parser.Answer)
    (after : Descent) : Prop where
  done : Performs d operation answer after
  moves : Parser.MovesOn operation d.parser after.parser
  parsed : ∀ tree, answer = .tree tree → ∀ later, ∃ answers last,
    PerformsAll after later answers last ∧ Performs last .parse (.tree tree) last
  agrees : answer = (d.parser.perform d.log operation).answer ∧
    after.parser = (d.parser.perform d.log operation).after ∧
    after.log = d.log ++ (d.parser.perform d.log operation).reports

theorem steps (ready : d.parser.Ready) (operation : Parser.Operation) :
    Steps d operation (d.parser.perform d.log operation).answer
      (d.follow (d.parser.perform d.log operation)) := by
  have kept := d.parser.perform_keeps d.log operation
  constructor
  case done => exact performs_step ready operation
  case moves => exact Parser.perform_movesOn ready.ends d.log operation
  case parsed =>
    intro tree answered later
    have made := d.parser.tree?_of_answer d.log operation answered
    obtain ⟨answers, last, run, keeps⟩ :=
      exists_performsAll (d := d.follow (d.parser.perform d.log operation)) (kept.ready ready) later
    exact ⟨answers, last, run, .parseAgain (keeps.tree tree made)⟩
  case agrees => exact ⟨rfl, rfl, rfl⟩

end Descent

/-- Whatever is asked of the parser of a line, in any order and as often as one likes, it answers, and
in one way only. It is at rest again after each operation, and the next one moves the cursor on within
the line. -/
theorem parser_of_line_runs_in_order (s : String) (earlier : Log)
    (operations : List Parser.Operation) :
    ∃ answers d, Descent.PerformsAll ⟨Parser.ofText s, earlier⟩ operations answers d ∧
      (∀ others last, Descent.PerformsAll ⟨Parser.ofText s, earlier⟩ operations others last →
        others = answers ∧ last = d) ∧
      d.parser.AtRest s ∧ ∀ operation, ∃ answer after, d.Steps operation answer after := by
  have ready := Parser.ofText_ready s
  obtain ⟨answers, d, run, keeps⟩ :=
    Descent.exists_performsAll (d := ⟨Parser.ofText s, earlier⟩) ready operations
  refine ⟨answers, d, run, fun others last other => run.unique other, keeps.atRest, ?_⟩
  intro operation
  exact ⟨_, _, Descent.steps (keeps.ready ready) operation⟩

end LineCalc.Syntax
