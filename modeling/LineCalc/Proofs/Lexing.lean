import LineCalc.Syntax.Parser
import LineCalc.Syntax.Partition
import Mathlib.Data.List.TakeWhile

/-!
What the lexer makes of a line: a partition of it that ends in the only end of file, values that the
texts of the tokens give, and one report for each token that asks for it.
-/
namespace LineCalc

/-- Blanks are no digits, so the order in which a lexer asks is of no account. -/
theorem Text.isDecimalDigit_of_isBlank {c : Char} (blank : Text.isBlank c = true) :
    Text.isDecimalDigit c = false := by
  simp only [isBlank, blanks, CharRanges.has, List.any_cons, List.any_nil, Bool.or_eq_true,
    Bool.and_eq_true, decide_eq_true_eq, Bool.false_eq_true, or_false] at blank
  simp only [isDecimalDigit, decimalDigits, CharRanges.has, List.any_cons, List.any_nil,
    Bool.or_eq_false_iff, Bool.and_eq_false_iff, decide_eq_false_iff_not, and_true]
  omega

namespace Syntax

def Token.complaint? (t : Token) : Option Diagnostic :=
  match t.kind with
  | .bad => some (.badCharacter t.spelling)
  | .number => if t.value.isNone then some (.invalidNumber t.spelling) else none
  | _ => none

def Token.ofRun (kind : Kind) (position : Nat) (run : List Char) : Token :=
  { kind, position
    text := some (String.ofList run)
    value := if kind = .number then Numeral.int32? (String.ofList run) else none }

def endToken (position : Nat) : Token := ⟨.endOfFile, position, some "", none⟩

/-- The tokens of a line that count for the grammar: no blanks, no bad characters and no end of
file. -/
def grammarTokens (s : String) : List Token :=
  (tokenize s).filter fun t => t.isSignificant && t.kind ≠ .endOfFile

namespace Lexer

theorem operatorKind?_eq_some {c : Char} {kind : Kind} (found : operatorKind? c = some kind) :
    c = '+' ∧ kind = .plus ∨ c = '-' ∧ kind = .minus ∨ c = '*' ∧ kind = .star ∨
      c = '/' ∧ kind = .slash ∨ c = '(' ∧ kind = .openParenthesis ∨
      c = ')' ∧ kind = .closeParenthesis := by
  unfold operatorKind? at found
  split at found <;> simp_all

theorem operatorKind?_inj {c d : Char} {kind : Kind} (one : operatorKind? c = some kind)
    (two : operatorKind? d = some kind) : d = c := by
  rcases operatorKind?_eq_some one with ⟨rfl, rfl⟩ | ⟨rfl, rfl⟩ | ⟨rfl, rfl⟩ | ⟨rfl, rfl⟩ |
    ⟨rfl, rfl⟩ | ⟨rfl, rfl⟩
  all_goals simpa using operatorKind?_eq_some two

structure Takes (lexer : Lexer) (kind : Kind) (run rest : List Char) : Prop where
  line : lexer.rest = run ++ rest
  admits : kind.Admits run
  maximal : kind.isRun = true → ∀ c ∈ rest.head?, ¬ kind.Admits [c]
  step : lexer.next =
    { token := .ofRun kind lexer.position run
      report := (Token.ofRun kind lexer.position run).complaint?
      after := ⟨rest, lexer.position + run.length⟩ }

theorem head?_dropWhile_not {p : Char → Bool} {cs : List Char} {c : Char}
    (head : c ∈ (cs.dropWhile p).head?) : p c = false := by
  have stops := List.head?_dropWhile_not p cs
  rw [Option.mem_def.mp head] at stops
  simpa using stops

theorem forall_mem_run {p : Char → Bool} {c : Char} (first : p c = true) (cs : List Char) :
    ∀ d ∈ c :: cs.takeWhile p, p d = true := by
  intro d member
  rcases List.mem_cons.mp member with rfl | inside
  · exact first
  · exact List.mem_takeWhile_imp inside

variable {lexer : Lexer} {c : Char} {cs : List Char}

theorem takes_number (line : lexer.rest = c :: cs) (digit : Text.isDecimalDigit c = true) :
    lexer.Takes .number (c :: cs.takeWhile Text.isDecimalDigit)
      (cs.dropWhile Text.isDecimalDigit) := by
  constructor
  · simp [line]
  · exact ⟨by simp, forall_mem_run digit cs⟩
  · intro _ d head admits
    have inside := admits.2 d (by simp)
    simp [head?_dropWhile_not head] at inside
  · simp [next, line, digit, numberStep, Token.ofRun, Token.complaint?, Token.spelling]

theorem takes_blanks (line : lexer.rest = c :: cs) (blank : Text.isBlank c = true) :
    lexer.Takes .whiteSpace (c :: cs.takeWhile Text.isBlank) (cs.dropWhile Text.isBlank) := by
  constructor
  · simp [line]
  · exact ⟨by simp, forall_mem_run blank cs⟩
  · intro _ d head admits
    have inside := admits.2 d (by simp)
    simp [head?_dropWhile_not head] at inside
  · simp [next, line, Text.isDecimalDigit_of_isBlank blank, blank, blankStep, Token.ofRun,
      Token.complaint?]

theorem takes_operator {kind : Kind} (line : lexer.rest = c :: cs)
    (noDigit : Text.isDecimalDigit c = false) (noBlank : Text.isBlank c = false)
    (operator : operatorKind? c = some kind) : lexer.Takes kind [c] cs := by
  have step : lexer.next = singleStep lexer.position c cs := by simp [next, line, noDigit, noBlank]
  rcases operatorKind?_eq_some operator with ⟨rfl, rfl⟩ | ⟨rfl, rfl⟩ | ⟨rfl, rfl⟩ | ⟨rfl, rfl⟩ |
    ⟨rfl, rfl⟩ | ⟨rfl, rfl⟩
  all_goals
    constructor
    · exact line
    · exact ⟨_, rfl, rfl⟩
    · intro run
      simp [Kind.isRun] at run
    · exact step

theorem takes_bad (line : lexer.rest = c :: cs) (noDigit : Text.isDecimalDigit c = false)
    (noBlank : Text.isBlank c = false) (noOperator : operatorKind? c = none) :
    lexer.Takes .bad [c] cs := by
  constructor
  · exact line
  · exact ⟨c, rfl, noDigit, noBlank, noOperator⟩
  · intro run
    simp [Kind.isRun] at run
  · simp [next, line, noDigit, noBlank, singleStep, noOperator, Token.ofRun, Token.complaint?,
      Token.spelling]

theorem exists_takes (more : lexer.rest ≠ []) : ∃ kind run rest, lexer.Takes kind run rest := by
  obtain ⟨c, cs, line⟩ := List.exists_cons_of_ne_nil more
  by_cases digit : Text.isDecimalDigit c = true
  · exact ⟨_, _, _, takes_number line digit⟩
  · have noDigit : Text.isDecimalDigit c = false := by simpa using digit
    by_cases blank : Text.isBlank c = true
    · exact ⟨_, _, _, takes_blanks line blank⟩
    · have noBlank : Text.isBlank c = false := by simpa using blank
      cases operator : operatorKind? c with
      | some kind => exact ⟨_, _, _, takes_operator line noDigit noBlank operator⟩
      | none => exact ⟨_, _, _, takes_bad line noDigit noBlank operator⟩

/-! Whole scans. -/

theorem scan_nil (position : Nat) :
    scan ⟨[], position⟩ =
      { tokens := [endToken position], reports := [], after := ⟨[], position⟩ } := by
  rw [scan]
  rfl

theorem Takes.scan {kind : Kind} {run rest : List Char} (takes : lexer.Takes kind run rest) :
    lexer.scan =
      let t := Token.ofRun kind lexer.position run
      let more := scan ⟨rest, lexer.position + run.length⟩
      { tokens := t :: more.tokens
        reports := t.complaint?.toList ++ more.reports
        after := more.after } := by
  have more : lexer.rest ≠ [] := by simp [takes.line, takes.admits.ne_nil]
  rw [Lexer.scan, dif_neg more, takes.step]

/-- A property of lexers that every step of a scan carries back to the lexer before it. -/
theorem scan_induction {Holds : Lexer → Prop} (stop : ∀ position, Holds ⟨[], position⟩)
    (step : ∀ (lexer : Lexer) kind run rest, lexer.Takes kind run rest →
      Holds ⟨rest, lexer.position + run.length⟩ → Holds lexer)
    (lexer : Lexer) : Holds lexer := by
  induction h : lexer.rest.length using Nat.strongRecOn generalizing lexer with
  | ind n ih =>
    by_cases empty : lexer.rest = []
    · obtain ⟨rest, position⟩ := lexer
      obtain rfl : rest = [] := empty
      exact stop position
    · obtain ⟨kind, run, rest, takes⟩ := exists_takes empty
      apply step lexer kind run rest takes
      have shorter : rest.length < lexer.rest.length := by
        simpa [takes.step] using next_shorter empty
      exact ih rest.length (by omega) _ rfl

theorem reports_eq_complaints (lexer : Lexer) :
    lexer.scan.reports = lexer.scan.tokens.filterMap Token.complaint? := by
  induction lexer using scan_induction with
  | stop position => simp [scan_nil, endToken, Token.complaint?]
  | step lexer kind run rest takes ih =>
    rw [takes.scan, List.filterMap_cons]
    simp only [ih]
    cases (Token.ofRun kind lexer.position run).complaint? <;> rfl

theorem head_admits {position : Nat} {tokens : List Token} {kind : Kind}
    (partition : Partition position cs tokens) (run : kind.isRun = true)
    (head : tokens.head?.map Token.kind = some kind) : ∃ c ∈ cs.head?, kind.Admits [c] := by
  cases partition with
  | stop => simp [← Option.some.inj head, Kind.isRun] at run
  | @token _ kind' taken rest value tokens admits maximal tail =>
    obtain rfl : kind' = kind := Option.some.inj head
    obtain ⟨c, others, rfl⟩ := List.exists_cons_of_ne_nil admits.ne_nil
    refine ⟨c, by simp, ?_⟩
    simp only [Kind.isRun, Bool.or_eq_true, decide_eq_true_eq] at run
    rcases run with rfl | rfl
    · exact ⟨by simp, by simpa using admits.2 c (by simp)⟩
    · exact ⟨by simp, by simpa using admits.2 c (by simp)⟩

theorem partition_scan (lexer : Lexer) :
    Partition lexer.position lexer.rest lexer.scan.tokens := by
  induction lexer using scan_induction with
  | stop position =>
    rw [scan_nil]
    exact .stop position
  | step lexer kind run rest takes ih =>
    rw [takes.scan, takes.line]
    refine .token takes.admits ?_ ih
    intro isRun head
    obtain ⟨c, first, admits⟩ := head_admits ih isRun head
    exact takes.maximal isRun c first admits

theorem scan_values (lexer : Lexer) : ∀ t ∈ lexer.scan.tokens,
    t.value = if t.kind = .number then Numeral.int32? t.spelling else none := by
  induction lexer using scan_induction with
  | stop position => simp [scan_nil, endToken]
  | step lexer kind run rest takes ih =>
    rw [takes.scan]
    intro t member
    rcases List.mem_cons.mp member with rfl | later
    · rfl
    · exact ih t later

end Lexer

theorem Kind.Admits.ne_endOfFile {kind : Kind} {run : List Char} (admits : kind.Admits run) :
    kind ≠ .endOfFile := by
  rintro rfl
  obtain ⟨c, _, operator⟩ := admits
  simpa using Lexer.operatorKind?_eq_some operator

theorem Partition.exists_front {position : Nat} {cs : List Char} {tokens : List Token}
    (partition : Partition position cs tokens) :
    ∃ front, tokens = front ++ [endToken (position + cs.length)] ∧
      ∀ t ∈ front, t.kind ≠ .endOfFile ∧ t.text.isSome = true := by
  induction partition with
  | stop position => exact ⟨[], rfl, by simp⟩
  | @token position kind run rest value tokens admits maximal tail ih =>
    obtain ⟨front, rfl, others⟩ := ih
    refine ⟨⟨kind, position, some (String.ofList run), value⟩ :: front, ?_, ?_⟩
    · simp [Nat.add_assoc]
    · intro t member
      rcases List.mem_cons.mp member with rfl | later
      · exact ⟨admits.ne_endOfFile, rfl⟩
      · exact others t later

/-! Lines. -/

theorem tokenize_eq_front (s : String) :
    ∃ front, tokenize s = front ++ [endToken s.length] ∧
      ∀ t ∈ front, t.kind ≠ .endOfFile ∧ t.text.isSome = true := by
  have partition := Lexer.partition_scan (Lexer.ofText s)
  obtain ⟨front, line, others⟩ := partition.exists_front
  refine ⟨front, ?_, others⟩
  rw [tokenize, line, Lexer.ofText, Nat.zero_add, String.length_toList]

theorem tokenize_values (s : String) : ∀ t ∈ tokenize s,
    t.value = if t.kind = .number then Numeral.int32? t.spelling else none :=
  Lexer.scan_values (Lexer.ofText s)

theorem lexicalReports_eq (s : String) :
    lexicalReports s = (tokenize s).filterMap Token.complaint? :=
  Lexer.reports_eq_complaints (Lexer.ofText s)

theorem complaint?_eq_none_iff (t : Token) :
    t.complaint? = none ↔ t.kind ≠ .bad ∧ (t.kind = .number → t.value ≠ none) := by
  unfold Token.complaint?
  split <;> simp_all

theorem lexicalReports_eq_nil_iff (s : String) : lexicalReports s = [] ↔
    ∀ t ∈ tokenize s, t.kind ≠ .bad ∧ (t.kind = .number → t.value ≠ none) := by
  rw [lexicalReports_eq, List.filterMap_eq_nil_iff]
  exact forall₂_congr fun t _ => complaint?_eq_none_iff t

theorem filter_significant (s : String) :
    (tokenize s).filter Token.isSignificant = grammarTokens s ++ [endToken s.length] := by
  obtain ⟨front, line, others⟩ := tokenize_eq_front s
  have kept : front.filter Token.isSignificant =
      front.filter fun t => t.isSignificant && t.kind ≠ .endOfFile := by
    refine List.filter_congr fun t member => ?_
    simp [(others t member).1]
  have last : (endToken s.length).isSignificant = true := rfl
  have kind : (endToken s.length).kind = .endOfFile := rfl
  simp [grammarTokens, line, kept, last, kind]

theorem ofText_eq (s : String) :
    Parser.ofText s = { body := grammarTokens s, stop := endToken s.length } := by
  simp [Parser.ofText, filter_significant]

theorem ofText_tokens (s : String) :
    (Parser.ofText s).tokens = grammarTokens s ++ [endToken s.length] := by
  rw [ofText_eq]
  rfl

theorem ofText_tokens_ascending (s : String) :
    (Parser.ofText s).tokens.Pairwise fun a b => a.position < b.position := by
  rw [ofText_tokens, ← filter_significant]
  exact (Lexer.partition_scan (Lexer.ofText s)).ascending.filter _

theorem ofText_tokens_text (s : String) : ∀ t ∈ (Parser.ofText s).tokens, t.text.isSome = true := by
  rw [ofText_tokens, ← filter_significant]
  intro t member
  obtain ⟨front, line, others⟩ := tokenize_eq_front s
  have scanned := (List.mem_filter.mp member).1
  rw [line] at scanned
  rcases List.mem_append.mp scanned with inside | last
  · exact (others t inside).2
  · rw [List.mem_singleton.mp last]
    rfl

end Syntax
end LineCalc
