import LineCalc.Proofs.LinePartition
import LineCalc.Proofs.MovedTokens
import LineCalc.Proofs.PrintedText

/-!
Lines put together. Unless digits meet at the seam, the tokens that reach the grammar are those of
the one line and then those of the other, further on. So blanks between two tokens move what is
behind them and change nothing else.
-/
namespace LineCalc.Syntax

def DigitsApart (front back : List Char) : Prop :=
  ∀ c ∈ front.getLast?, ∀ d ∈ back.head?,
    ¬ (Text.isDecimalDigit c = true ∧ Text.isDecimalDigit d = true)

theorem DigitsApart.of_append {run front back : List Char}
    (apart : DigitsApart (run ++ front) back) : DigitsApart front back := by
  intro c last
  apply apart c
  rw [List.getLast?_append, Option.mem_def.mp last]
  rfl

theorem digitsApart_of_head {front back : List Char}
    (noDigit : ∀ d ∈ back.head?, Text.isDecimalDigit d = false) : DigitsApart front back := by
  rintro c _ d head ⟨_, digit⟩
  simp [noDigit d head] at digit

theorem digitsApart_of_last {front back : List Char}
    (noDigit : ∀ c ∈ front.getLast?, Text.isDecimalDigit c = false) : DigitsApart front back := by
  rintro c last d _ ⟨digit, _⟩
  simp [noDigit c last] at digit

namespace Lexer

variable {lexer : Lexer} {kind : Kind} {run rest : List Char}

theorem Takes.words_eq (takes : lexer.Takes kind run rest) :
    lexer.words = [Token.ofRun kind lexer.position run].filter Token.isSignificant ++
      words ⟨rest, lexer.position + run.length⟩ := by
  have here : (Token.ofRun kind lexer.position run).kind ≠ .endOfFile := takes.admits.ne_endOfFile
  rw [words, takes.scan]
  by_cases counts : (Token.ofRun kind lexer.position run).isSignificant = true
  · rw [List.filter_cons_of_pos (by simp [counts, here]), List.filter_cons_of_pos counts]
    rfl
  · rw [List.filter_cons_of_neg (by simp [counts]), List.filter_cons_of_neg counts]
    rfl

theorem Takes.reports_eq (takes : lexer.Takes kind run rest) :
    lexer.scan.reports = (Token.ofRun kind lexer.position run).complaint?.toList ++
      (Lexer.scan ⟨rest, lexer.position + run.length⟩).reports := by
  rw [takes.scan]

theorem yields_allBlank {run : List Char} (blank : ∀ c ∈ run, Text.isBlank c = true)
    (rest : List Char) (position : Nat) :
    Yields ⟨run ++ rest, position⟩ [] ⟨rest, position + run.length⟩ := by
  induction run generalizing position with
  | nil => exact ⟨rfl, rfl⟩
  | cons c cs ih =>
    obtain ⟨first, later⟩ := List.forall_mem_cons.mp blank
    have whole := (yields_blank first (cs ++ rest) position).trans (ih later (position + 1))
    have length : position + (c :: cs).length = position + 1 + cs.length := by
      rw [List.length_cons]
      omega
    rw [length]
    exact whole

theorem Takes.append_of_end (takes : lexer.Takes kind run rest) {back : List Char}
    (ends : kind.isRun = true → rest = [] → ∀ c ∈ back.head?, charKind c ≠ kind) :
    Takes ⟨lexer.rest ++ back, lexer.position⟩ kind run (rest ++ back) := by
  refine takes_of_maximal (by simp [takes.line]) takes.admits fun isRun c head => ?_
  cases rest with
  | nil => exact ends isRun rfl c head
  | cons d others =>
    obtain rfl : d = c := by simpa using head
    exact takes.maximal_charKind isRun d (by simp)

theorem Takes.exists_last (takes : lexer.Takes kind run []) :
    ∃ c ∈ lexer.rest.getLast?, charKind c = kind := by
  obtain ⟨front, c, rfl⟩ := (List.eq_nil_or_concat' run).resolve_left takes.admits.ne_nil
  exact ⟨c, by simp [takes.line], takes.admits.charKind_eq c (by simp)⟩

theorem Takes.append (takes : lexer.Takes kind run rest) {back : List Char}
    (apart : DigitsApart lexer.rest back) (noBlank : kind ≠ .whiteSpace) :
    Takes ⟨lexer.rest ++ back, lexer.position⟩ kind run (rest ++ back) := by
  refine takes.append_of_end fun isRun whole d head same => ?_
  subst whole
  obtain ⟨c, last, kind_c⟩ := takes.exists_last
  obtain rfl : kind = .number := by simpa [Kind.isRun, noBlank] using isRun
  exact apart c last d head ⟨charKind_eq_number_iff.mp kind_c, charKind_eq_number_iff.mp same⟩

theorem scan_append (lexer : Lexer) {back : List Char} (apart : DigitsApart lexer.rest back) :
    words ⟨lexer.rest ++ back, lexer.position⟩ =
        lexer.words ++ words ⟨back, lexer.position + lexer.rest.length⟩ ∧
      (scan ⟨lexer.rest ++ back, lexer.position⟩).reports =
        lexer.scan.reports ++ (scan ⟨back, lexer.position + lexer.rest.length⟩).reports := by
  induction lexer using scan_induction with
  | stop position => simp [words, scan_nil, endToken, Token.isSignificant]
  | step lexer kind run rest takes ih =>
    have line := takes.line
    have later : DigitsApart rest back := by
      rw [line] at apart
      exact apart.of_append
    obtain ⟨behind, reports⟩ := ih later
    have place :
        lexer.position + lexer.rest.length = lexer.position + run.length + rest.length := by
      rw [line, List.length_append, Nat.add_assoc]
    rw [place, takes.words_eq, takes.reports_eq, List.append_assoc, List.append_assoc, ← behind,
      ← reports]
    by_cases blanks : kind = .whiteSpace
    · -- Here blanks behind the seam join the run, which does not matter as they do not count.
      obtain rfl := blanks
      have yields := yields_allBlank takes.admits.2 (rest ++ back) lexer.position
      rw [line, List.append_assoc, yields.words, yields.reports]
      exact ⟨rfl, rfl⟩
    · have longer := takes.append apart blanks
      exact ⟨longer.words_eq, longer.reports_eq⟩

theorem ofText_stop (s : String) :
    (ofText s).position + (ofText s).rest.length = 0 + s.length := by
  rw [ofText, String.length_toList]

theorem scan_shift (lexer : Lexer) (offset : Nat) :
    (scan ⟨lexer.rest, lexer.position + offset⟩).tokens =
        lexer.scan.tokens.map (Token.shift offset) ∧
      (scan ⟨lexer.rest, lexer.position + offset⟩).reports = lexer.scan.reports := by
  induction lexer using scan_induction with
  | stop position => rw [scan_nil, scan_nil]; exact ⟨rfl, rfl⟩
  | step lexer kind run rest takes ih =>
    have moved : Takes ⟨lexer.rest, lexer.position + offset⟩ kind run rest :=
      takes_of_maximal takes.line takes.admits takes.maximal_charKind
    have place : lexer.position + offset + run.length = lexer.position + run.length + offset := by
      omega
    obtain ⟨tokens, reports⟩ := ih
    rw [moved.scan, takes.scan]
    simp only [place, tokens, reports]
    exact ⟨rfl, rfl⟩

theorem words_shift (lexer : Lexer) (offset : Nat) :
    words ⟨lexer.rest, lexer.position + offset⟩ = lexer.words.map (Token.shift offset) := by
  rw [words, (scan_shift lexer offset).1, List.filter_map]
  rfl

theorem words_nil (position : Nat) : words ⟨[], position⟩ = [] := by
  rw [words, scan_nil]
  rfl

end Lexer

variable {a b w : String}

/-! Lines. -/

/-- The tokens and the reports of a line are those of its parts, if no number goes over the seam. -/
theorem grammarTokens_append (apart : DigitsApart a.toList b.toList) :
    grammarTokens (a ++ b) = grammarTokens a ++ (grammarTokens b).map (Token.shift a.length) ∧
      lexicalReports (a ++ b) = lexicalReports a ++ lexicalReports b := by
  obtain ⟨words, reports⟩ := (Lexer.ofText a).scan_append apart
  have whole : (Lexer.ofText a).rest ++ b.toList = (a ++ b).toList := String.toList_append.symm
  have place := Lexer.ofText_stop a
  have moved := (Lexer.ofText b).scan_shift a.length
  rw [whole, place] at words reports
  constructor
  · exact words.trans (congrArg _ ((Lexer.ofText b).words_shift a.length))
  · exact reports.trans (congrArg _ moved.2)

theorem operatorKind?_noDigit {c : Char} {kind : Kind}
    (sign : Lexer.operatorKind? c = some kind) : Text.isDecimalDigit c = false := by
  rcases Lexer.operatorKind?_eq_some sign with ⟨rfl, _⟩ | ⟨rfl, _⟩ | ⟨rfl, _⟩ | ⟨rfl, _⟩ |
    ⟨rfl, _⟩ | ⟨rfl, _⟩
  all_goals decide

theorem grammarTokens_around_sign {c : Char} {kind : Kind}
    (sign : Lexer.operatorKind? c = some kind) (a b : String) :
    grammarTokens (a ++ c.toString ++ b) =
        grammarTokens a ++ ⟨kind, a.length, some c.toString, none⟩ ::
          (grammarTokens b).map (Token.shift (a.length + 1)) ∧
      lexicalReports (a ++ c.toString ++ b) = lexicalReports a ++ lexicalReports b := by
  have noDigit := operatorKind?_noDigit sign
  have letters : c.toString.toList = [c] := by simp
  have before : DigitsApart a.toList c.toString.toList :=
    digitsApart_of_head (by simp [noDigit])
  have behind : DigitsApart (a ++ c.toString).toList b.toList :=
    digitsApart_of_last (by simp [noDigit])
  have alone : Lexer.Yields ⟨[c], 0⟩ _ _ := Lexer.yields_sign sign 0
  have here : grammarTokens c.toString = [⟨kind, 0, some c.toString, none⟩] := by
    have words := alone.words
    rw [Lexer.words_nil, List.append_nil, ← letters] at words
    exact words
  have quiet : lexicalReports c.toString = [] := by
    have spells : (⟨kind, 0, some c.toString, none⟩ : Token).Spells kind := ⟨rfl, c, sign, rfl⟩
    have silent : (⟨kind, 0, some c.toString, none⟩ : Token).complaint? = none :=
      spells.complaint?_eq_none
    have reports := alone.reports
    rw [Lexer.scan_nil, List.append_nil, List.filterMap_cons, silent, List.filterMap_nil,
      ← letters] at reports
    exact reports
  obtain ⟨first, firstReports⟩ := grammarTokens_append before
  obtain ⟨whole, wholeReports⟩ := grammarTokens_append behind
  rw [whole, first, here, wholeReports, firstReports, quiet, String.length_append]
  simp [Token.shift]

theorem allBlank_iff (w : String) :
    Text.allBlank w = true ↔ ∀ c ∈ w.toList, Text.isBlank c = true := by
  simp [Text.allBlank]

theorem line_of_allBlank (blank : Text.allBlank w = true) :
    grammarTokens w = [] ∧ lexicalReports w = [] := by
  have yields := Lexer.yields_allBlank ((allBlank_iff w).mp blank) [] 0
  rw [List.append_nil] at yields
  constructor
  · have words := yields.words
    rw [Lexer.words_nil] at words
    exact words
  · have reports := yields.reports
    rw [Lexer.scan_nil] at reports
    exact reports

theorem digitsApart_of_allBlank (blank : Text.allBlank w = true)
    (apart : DigitsApart a.toList b.toList) :
    DigitsApart a.toList w.toList ∧ DigitsApart (a ++ w).toList b.toList := by
  have noDigit : ∀ c ∈ w.toList, Text.isDecimalDigit c = false := fun c member =>
    Text.isDecimalDigit_of_isBlank ((allBlank_iff w).mp blank c member)
  constructor
  · rintro c _ d head ⟨_, digit⟩
    simp [noDigit d (List.mem_of_mem_head? head)] at digit
  · rintro c last d head ⟨digit, other⟩
    rw [String.toList_append, List.getLast?_append, Option.mem_def, Option.or_eq_some_iff] at last
    rcases last with inside | ⟨_, before⟩
    · simp [noDigit c (List.mem_of_getLast? inside)] at digit
    · exact apart c before d head ⟨digit, other⟩

def pushed (place gap position : Nat) : Nat := if place ≤ position then position + gap else position

theorem grammarTokens_position_lt {s : String} {t : Token} (member : t ∈ grammarTokens s) :
    t.position < s.length := by
  have ascending := ofText_tokens_ascending s
  rw [ofText_tokens, List.pairwise_append] at ascending
  exact ascending.2.2 t member (endToken s.length) (List.mem_singleton_self _)

theorem grammarTokens_pushed (apart : DigitsApart a.toList b.toList) (gap : Nat) :
    (grammarTokens (a ++ b)).map (Token.moved (pushed a.length gap)) =
      grammarTokens a ++ (grammarTokens b).map (Token.shift (a.length + gap)) := by
  rw [(grammarTokens_append apart).1, List.map_append, List.map_map]
  congr 1
  · refine (List.map_congr_left fun t member => ?_).trans (List.map_id _)
    have before := grammarTokens_position_lt member
    simp [Token.moved, pushed, Nat.not_le_of_lt before]
  · refine List.map_congr_left fun t _ => ?_
    simp [Token.moved, Token.shift, pushed, Nat.add_assoc]

theorem grammarTokens_of_gap (blank : Text.allBlank w = true)
    (apart : DigitsApart a.toList b.toList) :
    grammarTokens (a ++ w ++ b) =
        (grammarTokens (a ++ b)).map (Token.moved (pushed a.length w.length)) ∧
      lexicalReports (a ++ w ++ b) = lexicalReports (a ++ b) := by
  obtain ⟨before, behind⟩ := digitsApart_of_allBlank blank apart
  obtain ⟨nothing, quiet⟩ := line_of_allBlank blank
  obtain ⟨first, firstReports⟩ := grammarTokens_append before
  obtain ⟨whole, wholeReports⟩ := grammarTokens_append behind
  rw [whole, first, nothing, grammarTokens_pushed apart, wholeReports, firstReports, quiet,
    (grammarTokens_append apart).2, String.length_append]
  simp

/-- Blanks between tokens do not count. Put in where no number is divided, they move what is behind
them, in the tree as in the line, and change neither the diagnostics nor the outcome. -/
theorem blanks_between_tokens_do_not_count (blank : Text.allBlank w = true)
    (apart : DigitsApart a.toList b.toList) :
    parse (a ++ w ++ b) =
        { diagnostics := (parse (a ++ b)).diagnostics
          root := (parse (a ++ b)).root.mapTokens (Token.moved (pushed a.length w.length))
          endOfFile := (parse (a ++ b)).endOfFile.moved (pushed a.length w.length) } ∧
      ∃ outcome, evaluateLine (a ++ b) = .ok ⟨parse (a ++ b), outcome⟩ ∧
        evaluateLine (a ++ w ++ b) = .ok ⟨parse (a ++ w ++ b), outcome⟩ := by
  obtain ⟨line, lexical⟩ := grammarTokens_of_gap blank apart
  have last : endToken (a ++ w ++ b).length =
      (endToken (a ++ b).length).moved (pushed a.length w.length) := by
    simp [endToken, Token.moved, pushed]
    omega
  have parsed := parse_of_relocation (relocation_moved _) lexical line last
  refine ⟨parsed, ?_⟩
  apply evaluateLine_of_mapTokens (f := Token.moved (pushed a.length w.length))
  · exact fun _ => rfl
  · exact fun _ => rfl
  · rw [parsed]
  · rw [parsed]

theorem blanks_in_a_bad_line_do_not_count :
    Text.allBlank " \t" = true ∧ DigitsApart "4*(1?".toList ") 2".toList ∧
      (parse "4*(1? \t) 2").root =
        (parse "4*(1?) 2").root.mapTokens (Token.moved (pushed 5 2)) ∧
      (parse "4*(1? \t) 2").diagnostics = (parse "4*(1?) 2").diagnostics ∧
      ∃ outcome, evaluateLine "4*(1?) 2" = .ok ⟨parse "4*(1?) 2", outcome⟩ ∧
        evaluateLine "4*(1? \t) 2" = .ok ⟨parse "4*(1? \t) 2", outcome⟩ := by
  have blank : Text.allBlank " \t" = true := by decide
  have apart : DigitsApart "4*(1?".toList ") 2".toList := by
    rintro c _ d head ⟨_, digit⟩
    obtain rfl : ')' = d := by simpa using head
    exact absurd digit (by decide)
  obtain ⟨parsed, outcome⟩ := blanks_between_tokens_do_not_count blank apart
  exact ⟨blank, apart, congrArg Tree.root parsed, (congrArg Tree.diagnostics parsed :), outcome⟩

end LineCalc.Syntax
