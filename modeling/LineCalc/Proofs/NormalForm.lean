import LineCalc.Proofs.MissingTokens
import LineCalc.Proofs.PrintedText

/-!
The text of the tree of any line as a normal form. Missing numbers leave nothing in it and missing
closing parentheses are put in, so a line that is read back has its numbers missing at the same
places, and nothing else.
-/
namespace LineCalc.Syntax

def Token.closed (t : Token) : Token :=
  if t.kind = .closeParenthesis then { t with text := some ")" } else t

variable {category : Category} {nesting : Nat} {e : Expr}

variable {stop : Token} {tokens rest : List Token} {reading left right : Reading}

structure Recovers (e : Expr) (rest : List Token) (reading : Reading) : Prop where
  expr : reading.expr.mapTokens Token.unplaced = e.mapTokens Token.unplaced
  rest : reading.rest = rest
  reports : ∀ report ∈ reading.reports, ∃ actual, report = .unexpectedToken actual .number

theorem Recovers.join {l r : Expr} {operator : Token} {behind : List Token}
    (first : Recovers l (operator :: behind) left) (last : Recovers r rest right) :
    Recovers (.binary l operator r) rest (left.join operator right) := by
  refine ⟨?_, last.rest, List.forall_mem_append.mpr ⟨first.reports, last.reports⟩⟩
  simp [Reading.join, Expr.mapTokens, first.expr, last.expr]

theorem Recovers.enclose {opening closing : Token} (inner : Recovers e (closing :: rest) reading)
    (closes : closing.kind = .closeParenthesis) (stop : Token) :
    Recovers (.group opening e closing) rest (reading.enclose stop opening) := by
  have found : expect stop .closeParenthesis reading.rest = { token := closing, rest } := by
    rw [inner.rest, expect, if_pos closes]
  constructor
  · simp [Reading.enclose, found, Expr.mapTokens, inner.expr]
  · simp [Reading.enclose, found]
  · simpa [Reading.enclose, found] using inner.reports

def EndsOperand (tokens : List Token) : Prop :=
  ∀ t ∈ tokens.head?, t.kind ≠ .number ∧ t.kind ≠ .openParenthesis

theorem EndsOperand.noGroup (ends : EndsOperand (rest ++ [stop])) :
    rest.head?.map Token.kind ≠ some .openParenthesis := by
  cases rest with
  | nil => simp
  | cons t more =>
    have first := ends t (by simp)
    simpa using first.2

def Token.Lexed (t : Token) : Prop :=
  ∃ run, t.kind.Admits run ∧ t = .ofRun t.kind t.position run

theorem Token.Lexed.spells {t : Token} (lexed : t.Lexed) (noRun : t.kind.isRun = false)
    (good : t.kind ≠ .bad) : t.Spells t.kind ∧ t.value = none := by
  obtain ⟨run, admits, whole⟩ := lexed
  obtain ⟨c, rfl, sign⟩ := admits.exists_sign noRun good
  have noNumber : t.kind ≠ .number := by
    intro number
    simp [number, Kind.isRun] at noRun
  have text : t.text = some (String.ofList [c]) := congrArg Token.text whole
  have value := congrArg Token.value whole
  rw [Token.ofRun, if_neg noNumber] at value
  exact ⟨⟨rfl, c, sign, text⟩, value⟩

theorem Token.Lexed.closed {t : Token} (lexed : t.Lexed) : t.closed.Lexed := by
  by_cases closes : t.kind = .closeParenthesis
  · obtain ⟨run, admits, whole⟩ := lexed
    rw [closes] at admits whole
    obtain ⟨c, rfl, sign⟩ := admits
    obtain rfl : c = ')' := by simpa using Lexer.operatorKind?_eq_some sign
    rw [whole]
    exact ⟨[')'], ⟨')', rfl, rfl⟩, rfl⟩
  · rwa [Token.closed, if_neg closes]

variable {s : String}

theorem spells_of_source {t : Token} (source : t.Lexed ∨ t = .synthesized .number t.position)
    (noRun : t.kind.isRun = false) (good : t.kind ≠ .bad) : t.Spells t.kind ∧ t.value = none := by
  rcases source with lexed | missing
  · exact lexed.spells noRun good
  · have kind : t.kind = .number := congrArg Token.kind missing
    simp [kind, Kind.isRun] at noRun

theorem TreeOf.legible (tree : TreeOf category nesting e)
    (sources : ∀ t ∈ e.leaves, t.Lexed ∨ t = .synthesized .number t.position) :
    e.Legible ∧ ∀ t ∈ e.signs, t.value = none := by
  induction tree with
  | @number nesting t kind =>
    refine ⟨?_, by simp [Expr.signs]⟩
    rcases sources t (List.mem_singleton_self t) with ⟨digits, admits, whole⟩ | missing
    · rw [kind] at admits whole
      exact .inr ⟨digits, admits, whole⟩
    · exact .inl missing
  | @group nesting opening closing inside opens inner closes ih =>
    rw [Expr.leaves, List.forall_mem_cons, List.forall_mem_append,
      List.forall_mem_singleton] at sources
    obtain ⟨first, within, last⟩ := sources
    have opened := spells_of_source first (by simp [opens, Kind.isRun]) (by simp [opens])
    have closed := spells_of_source last (by simp [closes, Kind.isRun]) (by simp [closes])
    rw [opens] at opened
    rw [closes] at closed
    obtain ⟨legible, values⟩ := ih within
    rw [Expr.signs, List.forall_mem_cons, List.forall_mem_append, List.forall_mem_singleton]
    exact ⟨⟨opened.1, legible, closed.1⟩, opened.2, values, closed.2⟩
  | lonePrimary only ih => exact ih sources
  | loneFactor only ih => exact ih sources
  | @product nesting left right operator first strength last hf hl
  | @sum nesting left right operator first strength last hf hl =>
    rw [Expr.leaves, List.forall_mem_append, List.forall_mem_cons] at sources
    obtain ⟨before, here, behind⟩ := sources
    have sign := spells_of_source here (Kind.isRun_eq_false (by omega))
      (Kind.ne_of_binds (by omega) rfl)
    obtain ⟨legibleLeft, valuesLeft⟩ := hf before
    obtain ⟨legibleRight, valuesRight⟩ := hl behind
    rw [Expr.signs, List.forall_mem_append, List.forall_mem_cons]
    exact ⟨⟨legibleLeft, sign.1, legibleRight⟩, valuesLeft, sign.2, valuesRight⟩

theorem Expr.Legible.readBack (legible : e.Legible) (start : Nat) :
    (e.readBack start).Legible := by
  induction e generalizing start with
  | number t =>
    rcases legible with missing | ⟨digits, admits, whole⟩
    · rw [missing]
      exact .inl rfl
    · rw [whole]
      exact .inr ⟨digits, admits, rfl⟩
  | group o e c ih =>
    obtain ⟨opens, within, closes⟩ := legible
    exact ⟨opens, ih within _, closes⟩
  | binary l op r hl hr =>
    obtain ⟨left, sign, right⟩ := legible
    exact ⟨hl left _, sign, hr right _⟩
  | unary op e ih =>
    obtain ⟨sign, operand⟩ := legible
    exact ⟨sign, ih operand _⟩

example : (parse "(1 +").root.print 10 = .ok "(1 + )" := by decide +kernel

end LineCalc.Syntax
