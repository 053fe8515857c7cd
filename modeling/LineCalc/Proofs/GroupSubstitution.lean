import LineCalc.Proofs.Acceptance
import LineCalc.Proofs.Contexts
import LineCalc.Proofs.DecimalNumerals
import LineCalc.Proofs.LineDepth

/-!
Other text in the place of a group. No number goes on over a parenthesis, so the tokens around a
group stay what they are; and as the group is one operand of the tree, only its value or its fault
matters to what becomes of the line.
-/
namespace LineCalc
namespace Syntax

/-- A text that is read as one operand: a line without diagnostics between parentheses, or decimal
digits. -/
def IsOperand (x : String) : Prop :=
  (∃ e, (parse e).diagnostics = [] ∧ x = "(" ++ e ++ ")") ∨ Kind.number.Admits x.toList

/-! Neighbours. -/

variable {p e s x : String}

namespace Lexer

theorem exists_first_number (lexer : Lexer) {d : Char} (head : d ∈ lexer.rest.head?)
    (digit : Text.isDecimalDigit d = true) :
    ∃ t back, lexer.words = t :: back ∧ t.kind = .number := by
  obtain ⟨others, line⟩ := List.head?_eq_some_iff.mp head
  have words := (takes_number line digit).words_eq
  exact ⟨_, _, words, rfl⟩

theorem exists_last_number (lexer : Lexer) {c : Char} (last : c ∈ lexer.rest.getLast?)
    (digit : Text.isDecimalDigit c = true) :
    ∃ front t, lexer.words = front ++ [t] ∧ t.kind = .number := by
  induction lexer using scan_induction with
  | stop position => simp at last
  | step lexer kind run rest takes ih =>
    rw [takes.words_eq]
    cases rest with
    | nil =>
      have inside : c ∈ run := by
        rw [takes.line, List.append_nil] at last
        exact List.mem_of_getLast? last
      obtain rfl : kind = .number := by
        rw [← takes.admits.charKind_eq c inside, charKind, if_pos digit]
      rw [words_nil, List.append_nil]
      exact ⟨[], _, rfl, rfl⟩
    | cons d others =>
      have later : c ∈ (d :: others).getLast? := by
        rw [takes.line, List.getLast?_append_of_ne_nil _ (List.cons_ne_nil d others)] at last
        exact last
      obtain ⟨front, t, whole, kind⟩ := ih later
      exact ⟨_, t, by rw [whole, ← List.append_assoc], kind⟩

end Lexer

theorem kinds_around_group (p e s : String) :
    (grammarTokens (p ++ "(" ++ e ++ ")" ++ s)).map Token.kind =
      (grammarTokens p).map Token.kind ++ .openParenthesis ::
        ((grammarTokens e).map Token.kind ++ .closeParenthesis ::
          (grammarTokens s).map Token.kind) := by
  have closing : grammarTokens (p ++ "(" ++ e ++ ")" ++ s) = _ :=
    (grammarTokens_around_sign (c := ')') rfl (p ++ "(" ++ e) s).1
  have opening : grammarTokens (p ++ "(" ++ e) = _ :=
    (grammarTokens_around_sign (c := '(') rfl p e).1
  have kinds (offset : Nat) : Token.kind ∘ Token.shift offset = Token.kind := rfl
  rw [closing, opening]
  simp [kinds]

theorem noDigit_beside_group (clean : (parse (p ++ "(" ++ e ++ ")" ++ s)).diagnostics = []) :
    (∀ c ∈ p.toList.getLast?, Text.isDecimalDigit c = false) ∧
      ∀ d ∈ s.toList.head?, Text.isDecimalDigit d = false := by
  have accepted := turns_of_clean clean
  rw [kinds_around_group] at accepted
  constructor
  · refine fun c last => Bool.eq_false_iff.mpr fun digit => ?_
    obtain ⟨front, t, whole, kind⟩ := (Lexer.ofText p).exists_last_number last digit
    have tokens : grammarTokens p = front ++ [t] := whole
    have refused := turns_of_neighbours .number .openParenthesis (by decide) false
      (front.map Token.kind)
      ((grammarTokens e).map Token.kind ++ .closeParenthesis :: (grammarTokens s).map Token.kind)
    simp [tokens, kind, refused] at accepted
  · refine fun d head => Bool.eq_false_iff.mpr fun digit => ?_
    obtain ⟨t, back, whole, kind⟩ := (Lexer.ofText s).exists_first_number head digit
    have tokens : grammarTokens s = t :: back := whole
    have refused := turns_of_neighbours .closeParenthesis .number (by decide) false
      ((grammarTokens p).map Token.kind ++ .openParenthesis :: (grammarTokens e).map Token.kind)
      (back.map Token.kind)
    rw [List.append_assoc, List.cons_append] at refused
    simp [tokens, kind, refused] at accepted

theorem line_between (ends : ∀ c ∈ p.toList.getLast?, Text.isDecimalDigit c = false)
    (begins : ∀ d ∈ s.toList.head?, Text.isDecimalDigit d = false) (x : String) :
    (grammarTokens (p ++ x ++ s)).map Token.unplaced =
        (grammarTokens p).map Token.unplaced ++ ((grammarTokens x).map Token.unplaced ++
          (grammarTokens s).map Token.unplaced) ∧
      lexicalReports (p ++ x ++ s) =
        lexicalReports p ++ (lexicalReports x ++ lexicalReports s) := by
  obtain ⟨front, frontReports⟩ := grammarTokens_append (digitsApart_of_last ends) (b := x)
  obtain ⟨whole, wholeReports⟩ := grammarTokens_append (digitsApart_of_head begins) (a := p ++ x)
  have placeless (offset : Nat) : Token.unplaced ∘ Token.shift offset = Token.unplaced := rfl
  rw [whole, front, wholeReports, frontReports]
  simp [placeless]

theorem quiet_around (ends : ∀ c ∈ p.toList.getLast?, Text.isDecimalDigit c = false)
    (begins : ∀ d ∈ s.toList.head?, Text.isDecimalDigit d = false)
    (whole : (parse (p ++ x ++ s)).diagnostics = []) :
    lexicalReports p = [] ∧ lexicalReports s = [] := by
  have reports := (line_between ends begins x).2
  rw [(lineReading_of_clean whole).1, List.nil_eq, List.append_eq_nil_iff,
    List.append_eq_nil_iff] at reports
  exact ⟨reports.1, reports.2.2⟩

/-! Operands. -/

theorem grammarTokens_group (e : String) :
    grammarTokens ("(" ++ e ++ ")") =
      ⟨.openParenthesis, 0, some "(", none⟩ :: ((grammarTokens e).map (Token.shift 1) ++
        [⟨.closeParenthesis, ("(" ++ e).length, some ")", none⟩]) := by
  have nothing : grammarTokens "" = [] := (line_of_allBlank rfl).1
  have closing : grammarTokens ("(" ++ e ++ ")" ++ "") = _ :=
    (grammarTokens_around_sign (c := ')') rfl ("(" ++ e) "").1
  have opening : grammarTokens ("" ++ "(" ++ e) = _ :=
    (grammarTokens_around_sign (c := '(') rfl "" e).1
  rw [String.append_empty, nothing] at closing
  rw [String.empty_append, nothing] at opening
  rw [closing, opening]
  rfl

theorem root_of_group (inner : (parse e).diagnostics = [])
    (clean : (parse ("(" ++ e ++ ")")).diagnostics = []) :
    ∃ opening inside closing, (parse ("(" ++ e ++ ")")).root = .group opening inside closing := by
  have tree : TreeOf .primary (maxNesting + 1) (.group ⟨.openParenthesis, 0, some "(", none⟩
      ((parse e).root.mapTokens (Token.shift 1))
      ⟨.closeParenthesis, ("(" ++ e).length, some ")", none⟩) :=
    .group rfl ((parse_treeOf e).mapTokens fun _ => rfl) rfl
  refine ⟨_, _, _, root_eq_of_leaves clean tree.of_primary ?_⟩
  rw [Expr.leaves, Expr.leaves_mapTokens, leaves_of_clean inner, grammarTokens_group]

theorem line_of_digits (digits : Kind.number.Admits x.toList) :
    grammarTokens x = [.ofRun .number 0 x.toList] ∧
      lexicalReports x = (Token.ofRun .number 0 x.toList).complaint?.toList := by
  have yields : Lexer.Yields ⟨x.toList ++ [], 0⟩ _ _ := Lexer.yields_number digits (by simp) 0
  rw [List.append_nil] at yields
  constructor
  · have words := yields.words
    rw [Lexer.words_nil] at words
    exact words
  · have reports := yields.reports
    rw [Lexer.scan_nil, List.append_nil, List.filterMap_cons, List.filterMap_nil] at reports
    refine (show lexicalReports x = _ from reports).trans ?_
    cases (Token.ofRun .number 0 x.toList).complaint? <;> rfl

theorem root_of_digits (digits : Kind.number.Admits x.toList)
    (clean : (parse x).diagnostics = []) :
    (parse x).root = .number (.ofRun .number 0 x.toList) := by
  have tree : TreeOf .term 0 (.number (.ofRun .number 0 x.toList)) := .of_primary (.number rfl)
  exact root_eq_of_leaves clean tree (line_of_digits digits).1.symm

theorem IsOperand.strength_root (operand : IsOperand x) (clean : (parse x).diagnostics = []) :
    (parse x).root.strength = 3 := by
  rcases operand with ⟨e, inner, rfl⟩ | digits
  · obtain ⟨opening, inside, closing, root⟩ := root_of_group inner clean
    rw [root]
    rfl
  · rw [root_of_digits digits clean]
    rfl

/-! The rest of the line. -/

def Expr.unplaced (e : Expr) : Expr := e.mapTokens Token.unplaced

theorem leaves_unplaced (clean : (parse s).diagnostics = []) :
    (parse s).root.unplaced.leaves = (grammarTokens s).map Token.unplaced := by
  rw [Expr.unplaced, Expr.leaves_mapTokens, leaves_of_clean clean]

theorem treeOf_unplaced (s : String) : TreeOf .term maxNesting (parse s).root.unplaced :=
  (parse_treeOf s).mapTokens fun _ => rfl

structure Surrounds (p s : String) (context : Context) : Prop where
  ends : ∀ c ∈ p.toList.getLast?, Text.isDecimalDigit c = false
  begins : ∀ d ∈ s.toList.head?, Text.isDecimalDigit d = false
  quiet : lexicalReports p = [] ∧ lexicalReports s = []
  before : context.before = (grammarTokens p).map Token.unplaced
  after : context.after = (grammarTokens s).map Token.unplaced
  tree : ∃ operand, TreeOf .term maxNesting (context.plug operand)

theorem exists_surrounding_of_group (inner : (parse e).diagnostics = [])
    (alone : (parse ("(" ++ e ++ ")")).diagnostics = [])
    (whole : (parse (p ++ "(" ++ e ++ ")" ++ s)).diagnostics = []) :
    ∃ context, Surrounds p s context ∧
      (parse (p ++ "(" ++ e ++ ")" ++ s)).root.unplaced =
        context.plug (parse ("(" ++ e ++ ")")).root.unplaced := by
  obtain ⟨ends, begins⟩ := noDigit_beside_group whole
  have text : p ++ "(" ++ e ++ ")" ++ s = p ++ ("(" ++ e ++ ")") ++ s := by
    simp [String.append_assoc]
  rw [text] at whole ⊢
  obtain ⟨opening, inside, closing, root⟩ := root_of_group inner alone
  have group := treeOf_unplaced ("(" ++ e ++ ")")
  have leaves := leaves_unplaced alone
  have line := leaves_unplaced whole
  rw [(line_between ends begins _).1, ← leaves] at line
  rw [root] at group line ⊢
  have tree := treeOf_unplaced (p ++ ("(" ++ e ++ ")") ++ s)
  cases group.primary rfl with
  | group opens within closes =>
    have parts : (parse (p ++ ("(" ++ e ++ ")") ++ s)).root.unplaced.leaves =
        (grammarTokens p).map Token.unplaced ++ opening.unplaced ::
          ((inside.mapTokens Token.unplaced).leaves ++ closing.unplaced ::
            (grammarTokens s).map Token.unplaced) := by
      simpa [Expr.unplaced, Expr.mapTokens, Expr.leaves] using line
    obtain ⟨context, plugged, before, after⟩ := exists_context tree opens within closes parts
    rw [plugged] at tree
    exact ⟨context, ⟨ends, begins, quiet_around ends begins whole, before, after, _, tree⟩, plugged⟩

theorem Surrounds.parse_of_operand {context : Context} (surrounds : Surrounds p s context)
    (operand : IsOperand x) (clean : (parse x).diagnostics = [])
    (depth : NestsWithin '(' ')' maxNesting (p ++ x ++ s).toList) :
    (parse (p ++ x ++ s)).diagnostics = [] ∧
      (parse (p ++ x ++ s)).root.unplaced = context.plug (parse x).root.unplaced := by
  obtain ⟨ends, begins, ⟨quietBefore, quietBehind⟩, before, after, other, tree⟩ := surrounds
  obtain ⟨tokens, reports⟩ := line_between ends begins x
  have primary : TreeOf .primary maxNesting (parse x).root.unplaced :=
    ((parse_treeOf x).primary (operand.strength_root clean)).mapTokens fun _ => rfl
  have leaves : (context.plug (parse x).root.unplaced).leaves =
      (grammarTokens (p ++ x ++ s)).map Token.unplaced := by
    rw [Context.leaves_plug, before, after, leaves_unplaced clean, tokens]
  have kinds : (context.plug (parse x).root.unplaced).leaves.map Token.kind =
      (grammarTokens (p ++ x ++ s)).map Token.kind := by
    rw [leaves, List.map_map]
    rfl
  have within := nestsWithin_grammarTokens depth
  rw [← kinds] at within
  have plugged := (tree.plug rfl primary).of_nestsWithin within
  have word := plugged.derives
  rw [kinds] at word
  have lexical : lexicalReports (p ++ x ++ s) = [] := by
    rw [reports, quietBefore, quietBehind, (lineReading_of_clean clean).1]
    rfl
  have accepted : (parse (p ++ x ++ s)).diagnostics = [] :=
    (clean_iff_exists_tree _).mpr ⟨lexical, derives_iff_exists_tree.mp word⟩
  have root := (treeOf_unplaced _).eq_of_leaves plugged
    ((leaves_unplaced accepted).trans leaves.symm)
  exact ⟨accepted, root⟩

end Syntax

open Syntax

def SameOutcome (s other : String) : Prop :=
  (∃ n, evaluateLine s = .ok ⟨parse s, .value n⟩ ∧
    evaluateLine other = .ok ⟨parse other, .value n⟩) ∨
  evaluateLine s = .ok ⟨parse s, .divisionByZero⟩ ∧
    evaluateLine other = .ok ⟨parse other, .divisionByZero⟩

variable {p e s x other : String}

/-! Numbers written in decimal. -/

theorem admits_toString (n : Nat) : Kind.number.Admits (toString n).toList := by
  rw [Nat.toString_eq_ofList_toDigits, String.toList_ofList]
  refine ⟨Nat.toDigits_ne_nil, fun c member => Text.isDecimalDigit_of_isAsciiDigit ?_⟩
  exact Nat.isDigit_of_mem_toDigits (by decide) (by decide) member

theorem evaluateLine_toString {n : Nat} (bound : (n : Int) ≤ Word.highest) :
    evaluateLine (toString n) = .ok ⟨parse (toString n), .value n⟩ := by
  have digits := admits_toString n
  obtain ⟨line, reports⟩ := line_of_digits digits
  have value : (Token.ofRun .number 0 (toString n).toList).value = some (n : Int) := by
    rw [Token.ofRun, if_pos rfl, String.ofList_toList, Numeral.int32?_toString bound]
  have quiet : (Token.ofRun .number 0 (toString n).toList).complaint? = none := by
    refine (complaint?_eq_none_iff _).mpr ⟨by simp [Token.ofRun], fun _ => ?_⟩
    rw [value]
    exact Option.some_ne_none _
  have tree : TreeOf .term maxNesting (.number (.ofRun .number 0 (toString n).toList)) :=
    .of_primary (.number rfl)
  have clean : (parse (toString n)).diagnostics = [] := by
    rw [parse_of_tree tree line.symm, reports, quiet]
    rfl
  refine evaluateLine_of_value clean ?_
  rw [Evaluation.evaluate_eq_result, root_of_digits digits clean, Evaluation.result,
    Evaluation.numberValue, value]

/-! Outcomes. -/

theorem clean_of_outcome {outcome : Outcome} (line : evaluateLine s = .ok ⟨parse s, outcome⟩)
    (accepted : outcome.diagnostics = []) : (parse s).diagnostics = [] := by
  by_cases clean : (parse s).diagnostics = []
  · exact clean
  · rw [evaluateLine_of_diagnostics clean] at line
    obtain rfl : .rejected (parse s).diagnostics = outcome := by simpa using line
    exact accepted

theorem SameOutcome.clean (same : SameOutcome s other) :
    (parse s).diagnostics = [] ∧ (parse other).diagnostics = [] := by
  rcases same with ⟨n, line, lineOther⟩ | ⟨line, lineOther⟩
  · exact ⟨clean_of_outcome line rfl, clean_of_outcome lineOther rfl⟩
  · exact ⟨clean_of_outcome line rfl, clean_of_outcome lineOther rfl⟩

theorem result_unplaced (s : String) : Evaluation.result (parse s).root.unplaced =
    (parse s).root.evaluate.mapError (Fault.mapToken Token.unplaced) := by
  rw [Evaluation.evaluate_eq_result]
  exact Evaluation.result_mapTokens (f := Token.unplaced) (fun _ => rfl) (fun _ => rfl) _

theorem sameOutcome_iff (clean : (parse s).diagnostics = [])
    (cleanOther : (parse other).diagnostics = []) :
    SameOutcome s other ↔ Evaluation.result (parse s).root.unplaced =
      Evaluation.result (parse other).root.unplaced := by
  rw [result_unplaced, result_unplaced]
  rcases evaluateLine_of_clean clean with ⟨m, line, value, _⟩ | ⟨line, fault⟩
  · rcases evaluateLine_of_clean cleanOther with ⟨n, lineOther, valueOther, _⟩ |
      ⟨lineOther, faultOther⟩
    · simp [SameOutcome, line, lineOther, value, valueOther, Except.mapError, eq_comm]
    · simp [SameOutcome, line, lineOther, value, faultOther, Except.mapError]
  · rcases evaluateLine_of_clean cleanOther with ⟨n, lineOther, valueOther, _⟩ |
      ⟨lineOther, faultOther⟩
    · simp [SameOutcome, line, lineOther, fault, valueOther, Except.mapError]
    · simp [SameOutcome, line, lineOther, fault, faultOther, Except.mapError]

/-- In a line without diagnostics a group may be replaced by any operand that has the same outcome
by itself, if not too many parentheses are open then: the line has its outcome still. -/
theorem sameOutcome_of_replaced_group (inner : (parse e).diagnostics = [])
    (whole : (parse (p ++ "(" ++ e ++ ")" ++ s)).diagnostics = []) (operand : IsOperand x)
    (same : SameOutcome ("(" ++ e ++ ")") x)
    (depth : NestsWithin '(' ')' maxNesting (p ++ x ++ s).toList) :
    (parse (p ++ x ++ s)).diagnostics = [] ∧
      SameOutcome (p ++ "(" ++ e ++ ")" ++ s) (p ++ x ++ s) := by
  obtain ⟨alone, clean⟩ := same.clean
  obtain ⟨context, surrounds, group⟩ := exists_surrounding_of_group inner alone whole
  obtain ⟨accepted, root⟩ := surrounds.parse_of_operand operand clean depth
  refine ⟨accepted, (sameOutcome_iff whole accepted).mpr ?_⟩
  rw [group, root]
  exact context.result_plug ((sameOutcome_iff alone clean).mp same)

/-- The value of a group, written out, may stand in its place, though what is before and behind it
is no expression. -/
theorem sameOutcome_of_group_replaced_by_nine :
    (parse "1+2*4").diagnostics = [] ∧
      (parse ("7-(3*" ++ "(" ++ "1+2*4" ++ ")" ++ " - 1)/2")).diagnostics = [] ∧
      IsOperand (toString 9) ∧ SameOutcome ("(" ++ "1+2*4" ++ ")") (toString 9) ∧
      NestsWithin '(' ')' maxNesting ("7-(3*" ++ toString 9 ++ " - 1)/2").toList ∧
      (parse ("7-(3*" ++ toString 9 ++ " - 1)/2")).diagnostics = [] ∧
      SameOutcome ("7-(3*" ++ "(" ++ "1+2*4" ++ ")" ++ " - 1)/2")
        ("7-(3*" ++ toString 9 ++ " - 1)/2") := by
  have inner : (parse "1+2*4").diagnostics = [] := by decide +kernel
  have whole : (parse ("7-(3*" ++ "(" ++ "1+2*4" ++ ")" ++ " - 1)/2")).diagnostics = [] := by
    decide +kernel
  have operand : IsOperand (toString 9) := .inr (admits_toString 9)
  have group : evaluateLine ("(" ++ "1+2*4" ++ ")") =
      .ok ⟨parse ("(" ++ "1+2*4" ++ ")"), .value 9⟩ := by
    refine evaluateLine_of_value (by decide +kernel) ?_
    rw [Evaluation.evaluate_eq_result]
    decide +kernel
  have same : SameOutcome ("(" ++ "1+2*4" ++ ")") (toString 9) :=
    .inl ⟨9, group, evaluateLine_toString (n := 9) (by decide)⟩
  have depth : NestsWithin '(' ')' maxNesting ("7-(3*" ++ toString 9 ++ " - 1)/2").toList := by
    decide +kernel
  exact ⟨inner, whole, operand, same, depth,
    sameOutcome_of_replaced_group inner whole operand same depth⟩

end LineCalc
