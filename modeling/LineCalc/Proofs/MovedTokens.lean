import LineCalc.Proofs.LineTrees
import LineCalc.Proofs.SafeEvaluation

/-!
Readings of tokens that were changed. The rules ask for kinds alone, and a token that they put in
the place of another has its position; so a change that keeps kinds and moves the two together goes
through a whole reading. Evaluation asks for kinds and values.
-/
namespace LineCalc

namespace Syntax

/-- A change of tokens that keeps kinds and moves a missing token with the one found instead. -/
structure Relocation (f : Token → Token) : Prop where
  kind : ∀ t, (f t).kind = t.kind
  filled : ∀ kind t, f (.synthesized kind t.position) = .synthesized kind (f t).position

def Reading.mapTokens (f : Token → Token) (reading : Reading) : Reading :=
  { expr := reading.expr.mapTokens f
    reports := reading.reports
    rest := reading.rest.map f }

def Token.moved (move : Nat → Nat) (t : Token) : Token := { t with position := move t.position }

theorem relocation_moved (move : Nat → Nat) : Relocation (Token.moved move) :=
  ⟨fun _ => rfl, fun _ _ => rfl⟩

variable {f : Token → Token} {stop : Token} {category : Category} {allowance : Nat}
  {tokens : List Token} {reading : Reading}

theorem leadingStrength_map (relocation : Relocation f) (tokens : List Token) :
    leadingStrength (tokens.map f) = leadingStrength tokens := by
  cases tokens with
  | nil => rfl
  | cons t rest => simp [leadingStrength, relocation.kind]

theorem head?_kind_map (relocation : Relocation f) (tokens : List Token) :
    (tokens.map f).head?.map Token.kind = tokens.head?.map Token.kind := by
  cases tokens with
  | nil => rfl
  | cons t rest => simp [relocation.kind]

theorem expect_map (relocation : Relocation f) (stop : Token) (kind : Kind)
    (tokens : List Token) :
    expect (f stop) kind (tokens.map f) =
      { token := f (expect stop kind tokens).token
        reports := (expect stop kind tokens).reports
        rest := (expect stop kind tokens).rest.map f } := by
  cases tokens with
  | nil =>
    by_cases same : stop.kind = kind
    · simp [expect, relocation.kind, same]
    · simp [expect, relocation.kind, same, relocation.filled]
  | cons t rest =>
    by_cases same : t.kind = kind
    · simp [expect, relocation.kind, same]
    · simp [expect, relocation.kind, same, relocation.filled]

theorem afterGroups_map (relocation : Relocation f) (n : Nat) (tokens : List Token) :
    afterGroups n (tokens.map f) = (afterGroups n tokens).map f := by
  fun_induction afterGroups n tokens with
  | case1 => simp [afterGroups]
  | case2 => simp [afterGroups]
  | case3 n t rest opens ih => simpa [afterGroups, relocation.kind, opens] using ih
  | case4 n t rest opens closes ih => simpa [afterGroups, relocation.kind, opens, closes] using ih
  | case5 n t rest opens closes ih => simpa [afterGroups, relocation.kind, opens, closes] using ih

theorem skippedGroup_map (relocation : Relocation f) (opening : Token) (rest : List Token) :
    skippedGroup (f opening) (rest.map f) = (skippedGroup opening rest).mapTokens f := by
  simp [skippedGroup, Reading.mapTokens, Expr.mapTokens, relocation.filled,
    afterGroups_map relocation]

theorem numberRule_map (relocation : Relocation f) (stop : Token) (tokens : List Token) :
    (numberRule (f stop)).read (tokens.map f) = ((numberRule stop).read tokens).mapTokens f := by
  simp [numberRule, Reading.mapTokens, Expr.mapTokens, expect_map relocation]

theorem enclose_map (relocation : Relocation f) (stop opening : Token) (inside : Reading) :
    (inside.mapTokens f).enclose (f stop) (f opening) =
      (inside.enclose stop opening).mapTokens f := by
  simp [Reading.enclose, Reading.mapTokens, Expr.mapTokens, expect_map relocation]

theorem Reads.mapTokens (reads : Reads stop category allowance tokens reading)
    (relocation : Relocation f) :
    Reads (f stop) category allowance (tokens.map f) (reading.mapTokens f) := by
  induction reads with
  | @number allowance tokens noGroup =>
    rw [← numberRule_map relocation]
    exact .number (by rwa [head?_kind_map relocation])
  | @skipped opening rest opens =>
    rw [← skippedGroup_map relocation]
    exact .skipped ((relocation.kind opening).trans opens)
  | @group allowance opening rest inside opens inner complete ih =>
    rw [← enclose_map relocation]
    refine .group ((relocation.kind opening).trans opens) ih ?_
    exact (leadingStrength_map relocation inside.rest).trans complete
  | lonePrimary only ih => exact .lonePrimary ih
  | @product allowance tokens rest left right operator first next strength last hf hl =>
    have behind : (left.mapTokens f).rest = f operator :: rest.map f := by
      simp [Reading.mapTokens, next]
    exact .product hf behind (by rwa [relocation.kind]) hl
  | @loneFactor allowance tokens reading only complete ih =>
    exact .loneFactor ih (by rwa [Reading.mapTokens, leadingStrength_map relocation])
  | @sum allowance tokens rest left right operator first next strength last complete hf hl =>
    have behind : (left.mapTokens f).rest = f operator :: rest.map f := by
      simp [Reading.mapTokens, next]
    refine .sum hf behind (by rwa [relocation.kind]) hl ?_
    rwa [Reading.mapTokens, leadingStrength_map relocation]

theorem term_map (relocation : Relocation f) (stop : Token) (allowance : Nat)
    (tokens : List Token) :
    (term (f stop) allowance).read (tokens.map f) =
      ((term stop allowance).read tokens).mapTokens f := by
  refine reads_term_iff.mp ⟨(reads_term stop allowance tokens).mapTokens relocation, ?_⟩
  exact (leadingStrength_map relocation _).trans (term_complete stop allowance tokens)

/-- A line whose tokens are those of another one, changed, has the tree of that line, changed. The
rules report the same on both. -/
theorem exists_reports_of_relocation {s other : String} (relocation : Relocation f)
    (line : grammarTokens other = (grammarTokens s).map f)
    (last : endToken other.length = f (endToken s.length)) :
    ∃ reports, (parse s).diagnostics = lexicalReports s ++ reports ∧
      parse other =
        { diagnostics := lexicalReports other ++ reports
          root := (parse s).root.mapTokens f
          endOfFile := f (parse s).endOfFile } := by
  have reading : lineReading other = (lineReading s).mapTokens f := by
    rw [lineReading, line, last, term_map relocation]
    rfl
  refine ⟨(lineReading s).reports ++
    (expect (endToken s.length) .endOfFile (lineReading s).rest).reports, by rw [parse_eq], ?_⟩
  rw [parse_eq, parse_eq, reading, last, Reading.mapTokens, expect_map relocation]

theorem parse_of_relocation {s other : String} (relocation : Relocation f)
    (lexical : lexicalReports other = lexicalReports s)
    (line : grammarTokens other = (grammarTokens s).map f)
    (last : endToken other.length = f (endToken s.length)) :
    parse other =
      { diagnostics := (parse s).diagnostics
        root := (parse s).root.mapTokens f
        endOfFile := f (parse s).endOfFile } := by
  obtain ⟨reports, whole, parsed⟩ := exists_reports_of_relocation relocation line last
  rw [parsed, whole, lexical]

end Syntax

open Syntax

def Fault.mapToken (f : Token → Token) : Fault → Fault
  | valuelessNumber t => valuelessNumber (f t)
  | fault => fault

theorem Evaluation.combine_mapToken (f : Token → Token) (operator : Kind) (left right : Int) :
    (combine operator left right).mapError (Fault.mapToken f) = combine operator left right := by
  cases operator with
  | slash =>
    cases quotient : Word.divide? left right <;> simp [combine, quotient] <;> rfl
  | _ => rfl

theorem Evaluation.result_mapTokens {f : Token → Token} (kinds : ∀ t, (f t).kind = t.kind)
    (values : ∀ t, (f t).value = t.value) (e : Expr) :
    result (e.mapTokens f) = (result e).mapError (Fault.mapToken f) := by
  induction e with
  | number t =>
    simp only [Expr.mapTokens, result, numberValue, values]
    cases t.value <;> rfl
  | group o e c ih => exact ih
  | binary l op r hl hr =>
    rw [Expr.mapTokens, result_binary, hl, hr, kinds, result_binary]
    cases result l with
    | error fault => rfl
    | ok left =>
      cases result r with
      | error fault => rfl
      | ok right => exact (combine_mapToken f op.kind left right).symm
  | unary op e ih => rfl

theorem evaluateLine_of_result {s other : String} (clean : (parse s).diagnostics = [])
    (cleanOther : (parse other).diagnostics = []) {f : Token → Token}
    (result : (parse other).root.evaluate =
      (parse s).root.evaluate.mapError (Fault.mapToken f)) :
    ∃ outcome, evaluateLine s = .ok ⟨parse s, outcome⟩ ∧
      evaluateLine other = .ok ⟨parse other, outcome⟩ := by
  rcases evaluateLine_of_clean clean with ⟨n, line, value, _⟩ | ⟨line, fault⟩
  · rw [value] at result
    exact ⟨.value n, line, evaluateLine_of_value cleanOther result⟩
  · rw [fault] at result
    exact ⟨.divisionByZero, line, evaluateLine_of_fault cleanOther result⟩

theorem evaluateLine_of_mapTokens {s other : String} {f : Token → Token}
    (kinds : ∀ t, (f t).kind = t.kind) (values : ∀ t, (f t).value = t.value)
    (diagnostics : (parse other).diagnostics = (parse s).diagnostics)
    (root : (parse other).root = (parse s).root.mapTokens f) :
    ∃ outcome, evaluateLine s = .ok ⟨parse s, outcome⟩ ∧
      evaluateLine other = .ok ⟨parse other, outcome⟩ := by
  by_cases clean : (parse s).diagnostics = []
  · refine evaluateLine_of_result clean (diagnostics.trans clean) (f := f) ?_
    rw [Evaluation.evaluate_eq_result, Evaluation.evaluate_eq_result, root,
      Evaluation.result_mapTokens kinds values]
  · refine ⟨_, evaluateLine_of_diagnostics clean, ?_⟩
    rw [← diagnostics]
    exact evaluateLine_of_diagnostics (diagnostics ▸ clean)

end LineCalc
