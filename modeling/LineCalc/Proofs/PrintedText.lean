import LineCalc.Proofs.LineTrees
import LineCalc.Syntax.Printing

/-!
Reading back what was printed. The lexer passes over the text of a tree token by token and finds
each where the text has it; a tree of the grammar is then parsed to itself.
-/
namespace LineCalc.Syntax

namespace Lexer

def words (lexer : Lexer) : List Token :=
  lexer.scan.tokens.filter fun t => t.isSignificant && t.kind ≠ .endOfFile

structure Yields (before : Lexer) (tokens : List Token) (after : Lexer) : Prop where
  words : before.words = tokens ++ after.words
  reports : before.scan.reports = tokens.filterMap Token.complaint? ++ after.scan.reports

variable {first second third : Lexer} {tokens front back : List Token}

theorem Yields.trans (one : first.Yields front second) (two : second.Yields back third) :
    first.Yields (front ++ back) third := by
  constructor
  · rw [one.words, two.words, List.append_assoc]
  · rw [one.reports, two.reports, List.filterMap_append, List.append_assoc]

variable {lexer : Lexer} {kind : Kind} {run rest : List Char}

theorem Takes.yields (takes : lexer.Takes kind run rest) (good : kind ≠ .bad) :
    lexer.Yields ([Token.ofRun kind lexer.position run].filter Token.isSignificant)
      ⟨rest, lexer.position + run.length⟩ := by
  have here : (Token.ofRun kind lexer.position run).kind ≠ .endOfFile := takes.admits.ne_endOfFile
  by_cases counts : (Token.ofRun kind lexer.position run).isSignificant = true
  · rw [List.filter_cons_of_pos counts, List.filter_nil]
    constructor
    · rw [words, takes.scan, List.filter_cons_of_pos (by simp [counts, here])]
      rfl
    · rw [takes.scan, List.filterMap_cons]
      cases complaint : (Token.ofRun kind lexer.position run).complaint? with
      | none => simp [complaint]
      | some report => simp [complaint]
  · obtain rfl : kind = .whiteSpace := by
      by_contra other
      exact counts (by simp [Token.isSignificant, Token.ofRun, good, other])
    rw [List.filter_cons_of_neg counts, List.filter_nil]
    constructor
    · rw [words, takes.scan, List.filter_cons_of_neg (by simp [counts])]
      rfl
    · rw [takes.scan]
      rfl

theorem span_append {p : Char → Bool} {front back : List Char} (inside : ∀ c ∈ front, p c = true)
    (outside : ∀ c ∈ back.head?, p c = false) :
    (front ++ back).takeWhile p = front ∧ (front ++ back).dropWhile p = back := by
  rw [List.takeWhile_append_of_pos inside, List.dropWhile_append_of_pos inside]
  cases back with
  | nil => simp
  | cons c cs => simp [outside c (by simp)]

theorem yields_number {digits : List Char} (admits : Kind.number.Admits digits)
    (apart : ∀ c ∈ rest.head?, Text.isDecimalDigit c = false) (position : Nat) :
    Yields ⟨digits ++ rest, position⟩ [.ofRun .number position digits]
      ⟨rest, position + digits.length⟩ := by
  obtain ⟨nonempty, every⟩ := admits
  obtain ⟨c, cs, rfl⟩ := List.exists_cons_of_ne_nil nonempty
  have later : ∀ d ∈ cs, Text.isDecimalDigit d = true := fun d member =>
    every d (List.mem_cons_of_mem c member)
  obtain ⟨taken, left⟩ := span_append later apart
  have takes : Takes ⟨c :: (cs ++ rest), position⟩ .number
      (c :: (cs ++ rest).takeWhile Text.isDecimalDigit)
      ((cs ++ rest).dropWhile Text.isDecimalDigit) := takes_number rfl (every c (by simp))
  rw [taken, left] at takes
  exact takes.yields (by simp)

theorem yields_sign {c : Char} (sign : operatorKind? c = some kind) (position : Nat) :
    Yields ⟨c :: rest, position⟩ [⟨kind, position, some c.toString, none⟩]
      ⟨rest, position + 1⟩ := by
  rcases operatorKind?_eq_some sign with ⟨rfl, rfl⟩ | ⟨rfl, rfl⟩ | ⟨rfl, rfl⟩ | ⟨rfl, rfl⟩ |
    ⟨rfl, rfl⟩ | ⟨rfl, rfl⟩
  all_goals exact (takes_operator rfl (by decide) (by decide) sign).yields (by decide)

theorem yields_blanks (cs : List Char) (position : Nat) :
    Yields ⟨cs, position⟩ []
      ⟨cs.dropWhile Text.isBlank, position + (cs.takeWhile Text.isBlank).length⟩ := by
  cases cs with
  | nil => exact ⟨rfl, rfl⟩
  | cons c rest =>
    by_cases blank : Text.isBlank c = true
    · have takes : Takes ⟨c :: rest, position⟩ .whiteSpace (c :: rest.takeWhile Text.isBlank)
          (rest.dropWhile Text.isBlank) := takes_blanks rfl blank
      have yields := takes.yields (by decide)
      simpa [Token.ofRun, Token.isSignificant, blank] using yields
    · simp only [blank, Bool.false_eq_true, not_false_eq_true, List.dropWhile_cons_of_neg,
        List.takeWhile_cons_of_neg]
      exact ⟨rfl, rfl⟩

theorem yields_blank {c : Char} (blank : Text.isBlank c = true) (rest : List Char)
    (position : Nat) : Yields ⟨c :: rest, position⟩ [] ⟨rest, position + 1⟩ := by
  have longer := yields_blanks (c :: rest) position
  have shorter := yields_blanks rest (position + 1)
  have count : position + ((c :: rest).takeWhile Text.isBlank).length =
      position + 1 + (rest.takeWhile Text.isBlank).length := by
    simp only [List.takeWhile_cons_of_pos blank, List.length_cons]
    omega
  rw [count, List.dropWhile_cons_of_pos blank] at longer
  exact ⟨longer.words.trans shorter.words.symm, longer.reports.trans shorter.reports.symm⟩

end Lexer

namespace Expr

def signs : Expr → List Token
  | number _ => []
  | group o e c => o :: (e.signs ++ [c])
  | binary l op r => l.signs ++ op :: r.signs
  | unary op e => op :: e.signs

/-- The expression as it is read back if its text begins at `start`: every token where the text has
it, and the signs without a value. -/
def readBack (start : Nat) : Expr → Expr
  | number t => number { t with position := start }
  | group o e c =>
    group { o with position := start, value := none } (e.readBack (start + 1))
      { c with position := start + 1 + e.text.length, value := none }
  | binary l op r =>
    binary (l.readBack start) { op with position := start + l.text.length + 1, value := none }
      (r.readBack (start + l.text.length + 1 + op.spelling.length + 1))
  | unary op e =>
    unary { op with position := start, value := none } (e.readBack (start + op.spelling.length))

def written (e : Expr) : List Token := e.leaves.filter fun t => t.text.isSome

end Expr

theorem TreeOf.readBack {category : Category} {nesting : Nat} {e : Expr}
    (tree : TreeOf category nesting e) (start : Nat) :
    TreeOf category nesting (e.readBack start) := by
  induction tree generalizing start with
  | number kind => exact .number kind
  | group opens inner closes ih => exact .group opens (ih _) closes
  | lonePrimary only ih => exact .lonePrimary (ih start)
  | product first strength last hf hl => exact .product (hf start) strength (hl _)
  | loneFactor only ih => exact .loneFactor (ih start)
  | sum first strength last hf hl => exact .sum (hf start) strength (hl _)

theorem Token.Spells.length_eq {kind : Kind} {t : Token} (spells : t.Spells kind) :
    t.spelling.length = 1 := by
  obtain ⟨_, c, _, text⟩ := spells
  simp [Token.spelling, text]

theorem Token.Spells.yields {kind : Kind} {t : Token} (spells : t.Spells kind) (rest : List Char)
    (position : Nat) :
    Lexer.Yields ⟨t.spelling.toList ++ rest, position⟩
      [{ t with position := position, value := none }] ⟨rest, position + t.spelling.length⟩ := by
  rw [spells.length_eq]
  obtain ⟨rfl, c, sign, text⟩ := spells
  have spelling : t.spelling.toList = [c] := by simp [Token.spelling, text]
  rw [spelling, text]
  exact Lexer.yields_sign sign position

theorem Expr.length_text_group (o c : Token) (e : Expr) :
    (group o e c).text.length = 1 + e.text.length + 1 := by
  rw [text, String.length_append, String.length_append]
  rfl

theorem Expr.length_text_binary (l r : Expr) (op : Token) :
    (binary l op r).text.length =
      l.text.length + 1 + op.spelling.length + 1 + r.text.length := by
  rw [text, String.length_append, String.length_append, String.length_append, String.length_append]
  rfl

theorem Token.Spells.spelling_eq {kind : Kind} {t : Token} (spells : t.Spells kind) {c : Char}
    (sign : Lexer.operatorKind? c = some kind) : t.spelling = c.toString := by
  obtain ⟨_, d, other, text⟩ := spells
  rw [Token.spelling, text, Lexer.operatorKind?_inj sign other]
  rfl

def Token.StandsAsNumber (t : Token) : Prop :=
  t = .synthesized .number t.position ∨
    ∃ digits, Kind.number.Admits digits ∧ t = .ofRun .number t.position digits

def Expr.Legible : Expr → Prop
  | number t => t.StandsAsNumber
  | group o e c => o.Spells .openParenthesis ∧ e.Legible ∧ c.Spells .closeParenthesis
  | binary l op r => l.Legible ∧ op.Spells op.kind ∧ r.Legible
  | unary op e => op.Spells op.kind ∧ e.Legible

theorem Token.Spells.text_isSome {kind : Kind} {t : Token} (spells : t.Spells kind) :
    t.text.isSome = true := by
  obtain ⟨_, c, _, text⟩ := spells
  rw [text]
  rfl

theorem Token.Spells.complaint?_eq_none {kind : Kind} {t : Token} (spells : t.Spells kind)
    {position : Nat} {value : Option Int} :
    ({ t with position := position, value := value } : Token).complaint? = none := by
  obtain ⟨rfl, c, sign, _⟩ := spells
  have kinds := Lexer.operatorKind?_eq_some sign
  rw [complaint?_eq_none_iff]
  constructor
  · rintro bad
    simp_all
  · rintro number
    simp_all

/-- The lexer takes the text of a tree apart into its tokens, whatever follows but a digit. -/
theorem Expr.Legible.yields {e : Expr} (legible : e.Legible) {rest : List Char}
    (apart : ∀ c ∈ rest.head?, Text.isDecimalDigit c = false) (start : Nat) :
    Lexer.Yields ⟨e.text.toList ++ rest, start⟩ (e.readBack start).written
      ⟨rest, start + e.text.length⟩ := by
  induction e generalizing start rest with
  | number t =>
    rcases legible with missing | ⟨digits, admits, whole⟩
    · rw [missing]
      exact ⟨rfl, rfl⟩
    · have yields := Lexer.yields_number admits apart start
      rw [whole]
      simpa [Expr.text, Expr.readBack, Expr.written, Expr.leaves, Token.spelling, Token.ofRun]
        using yields
  | group o e c ih =>
    obtain ⟨opens, within, closes⟩ := legible
    have opening : o.spelling = "(" := opens.spelling_eq (c := '(') rfl
    have closing : c.spelling = ")" := closes.spelling_eq (c := ')') rfl
    have first := opens.yields (e.text.toList ++ ')' :: rest) start
    have middle : Lexer.Yields ⟨e.text.toList ++ ')' :: rest, start + 1⟩
        (e.readBack (start + 1)).written ⟨')' :: rest, start + 1 + e.text.length⟩ :=
      ih within (by simp; decide) (start + 1)
    have last := closes.yields rest (start + 1 + e.text.length)
    rw [opening] at first
    rw [closes.length_eq, closing] at last
    have whole := (first.trans middle).trans last
    have length : start + (Expr.group o e c).text.length = start + 1 + e.text.length + 1 := by
      rw [Expr.length_text_group]
      omega
    rw [length]
    simpa [Expr.text, Expr.readBack, Expr.written, Expr.leaves, opens.text_isSome,
      closes.text_isSome] using whole
  | binary l op r hl hr =>
    obtain ⟨left, sign, right⟩ := legible
    have blank : Text.isBlank ' ' = true := by decide
    have first : Lexer.Yields
        ⟨l.text.toList ++ ' ' :: (op.spelling.toList ++ ' ' :: (r.text.toList ++ rest)), start⟩
        (l.readBack start).written
        ⟨' ' :: (op.spelling.toList ++ ' ' :: (r.text.toList ++ rest)), start + l.text.length⟩ :=
      hl left (by simp; decide) start
    have before := Lexer.yields_blank blank (op.spelling.toList ++ ' ' :: (r.text.toList ++ rest))
      (start + l.text.length)
    have middle := sign.yields (' ' :: (r.text.toList ++ rest)) (start + l.text.length + 1)
    have behind := Lexer.yields_blank blank (r.text.toList ++ rest)
      (start + l.text.length + 1 + op.spelling.length)
    have last := hr right apart (start + l.text.length + 1 + op.spelling.length + 1)
    have whole := first.trans (before.trans (middle.trans (behind.trans last)))
    have length : start + (Expr.binary l op r).text.length =
        start + l.text.length + 1 + op.spelling.length + 1 + r.text.length := by
      rw [Expr.length_text_binary]
      omega
    rw [length]
    simpa [Expr.text, Expr.readBack, Expr.written, Expr.leaves, sign.text_isSome] using whole
  | unary op e ih =>
    obtain ⟨sign, operand⟩ := legible
    have first := sign.yields (e.text.toList ++ rest) start
    have last := ih operand apart (start + op.spelling.length)
    have whole := first.trans last
    simpa [Expr.text, Expr.readBack, Expr.written, Expr.leaves, sign.text_isSome, Nat.add_assoc]
      using whole

theorem Token.SpellsNumber.standsAsNumber {t : Token} (spells : t.SpellsNumber) :
    t.StandsAsNumber := by
  obtain ⟨digits, n, nonempty, inside, value, whole⟩ := spells
  have every : ∀ c ∈ digits, Text.isDecimalDigit c = true := fun c member =>
    Text.isDecimalDigit_of_isAsciiDigit (inside c member)
  refine .inr ⟨digits, ⟨nonempty, every⟩, ?_⟩
  rw [whole, Token.ofRun, if_pos rfl, value]

theorem Expr.Spelled.legible {e : Expr} (spelled : e.Spelled) : e.Legible := by
  induction e with
  | number t => exact Token.SpellsNumber.standsAsNumber spelled
  | group o e c ih =>
    obtain ⟨opens, within, closes⟩ := spelled
    exact ⟨opens, ih within, closes⟩
  | binary l op r hl hr =>
    obtain ⟨left, sign, right⟩ := spelled
    exact ⟨hl left, sign, hr right⟩
  | unary op e ih => exact ⟨spelled.1, ih spelled.2⟩

variable {e : Expr}

theorem Expr.Spelled.readBack_leaves (spelled : e.Spelled) (start : Nat) :
    ∀ t ∈ (e.readBack start).leaves, t.text.isSome = true ∧ t.complaint? = none := by
  induction e generalizing start with
  | number t =>
    obtain ⟨digits, n, _, _, _, whole⟩ := spelled
    intro u member
    rw [List.mem_singleton.mp member, whole]
    exact ⟨rfl, rfl⟩
  | group o e c ih =>
    obtain ⟨opens, within, closes⟩ := spelled
    rw [readBack, leaves, List.forall_mem_cons, List.forall_mem_append, List.forall_mem_singleton]
    exact ⟨⟨opens.text_isSome, opens.complaint?_eq_none⟩, ih within _,
      ⟨closes.text_isSome, closes.complaint?_eq_none⟩⟩
  | binary l op r hl hr =>
    obtain ⟨left, sign, right⟩ := spelled
    rw [readBack, leaves, List.forall_mem_append, List.forall_mem_cons]
    exact ⟨hl left _, ⟨sign.text_isSome, sign.complaint?_eq_none⟩, hr right _⟩
  | unary op e ih =>
    obtain ⟨sign, operand⟩ := spelled
    rw [readBack, leaves, List.forall_mem_cons]
    exact ⟨⟨sign.text_isSome, sign.complaint?_eq_none⟩, ih operand _⟩

theorem Expr.Spelled.enclosed (spelled : e.Spelled) : e.Enclosed := by
  induction e with
  | number t => trivial
  | group o e c ih =>
    obtain ⟨opens, within, closes⟩ := spelled
    exact ⟨opens.1, closes.1, ih within⟩
  | binary l op r hl hr =>
    obtain ⟨left, _, right⟩ := spelled
    exact ⟨hl left, hr right⟩
  | unary op e ih => exact ih spelled.2

theorem Expr.Spelled.numbers_kind (spelled : e.Spelled) : ∀ t ∈ e.numbers, t.kind = .number := by
  induction e with
  | number t =>
    obtain ⟨digits, n, _, _, _, whole⟩ := spelled
    intro u member
    obtain rfl := List.mem_singleton.mp member
    rw [whole]
  | group o e c ih => exact ih spelled.2.1
  | binary l op r hl hr =>
    obtain ⟨left, _, right⟩ := spelled
    exact List.forall_mem_append.mpr ⟨hl left, hr right⟩
  | unary op e ih => exact ih spelled.2

theorem line_of_legible_text (legible : e.Legible) :
    grammarTokens e.text = (e.readBack 0).written ∧
      lexicalReports e.text = (e.readBack 0).written.filterMap Token.complaint? := by
  have yields : Lexer.Yields ⟨e.text.toList ++ [], 0⟩ (e.readBack 0).written
      ⟨[], 0 + e.text.length⟩ := legible.yields (by simp) 0
  rw [List.append_nil] at yields
  have rest : (Lexer.mk [] (0 + e.text.length)).words = [] := by
    rw [Lexer.words, Lexer.scan_nil]
    rfl
  constructor
  · have words := yields.words
    rw [rest, List.append_nil] at words
    exact words
  · have reports := yields.reports
    rw [Lexer.scan_nil, List.append_nil] at reports
    exact reports

theorem line_of_text (spelled : e.Spelled) :
    grammarTokens e.text = (e.readBack 0).leaves ∧ lexicalReports e.text = [] := by
  have tokens := spelled.readBack_leaves 0
  have all : (e.readBack 0).written = (e.readBack 0).leaves :=
    List.filter_eq_self.mpr fun t member => (tokens t member).1
  obtain ⟨line, lexical⟩ := line_of_legible_text spelled.legible
  rw [all] at line lexical
  rw [lexical]
  exact ⟨line, List.filterMap_eq_nil_iff.mpr fun t member => (tokens t member).2⟩

theorem word_of_text {e : Expr} (shape : e.WellShaped) (spelled : e.Spelled) :
    lexicalReports e.text = [] ∧
      Derives .term e.nesting ((grammarTokens e.text).map Token.kind) := by
  obtain ⟨line, lexical⟩ := line_of_text spelled
  have tree : TreeOf .term e.nesting e :=
    treeOf_of_shape shape spelled.enclosed spelled.numbers_kind (Nat.le_refl _)
      (strength_pos_of_wellShaped shape)
  rw [line]
  exact ⟨lexical, (tree.readBack 0).derives⟩

theorem Token.spellsNumber_digit (c : Char) (position : Nat) (n : Int)
    (ascii : Text.isAsciiDigit c = true) (value : Numeral.int32? (String.ofList [c]) = some n) :
    Token.SpellsNumber ⟨.number, position, some (String.ofList [c]), some n⟩ :=
  ⟨[c], n, by simp, by simpa using ascii, value, rfl⟩

end LineCalc.Syntax
