import LineCalc.Proofs.JoinedLines

/-!
Lines that go on behind a whole expression. The rules look at one token behind it and no further;
where that token is no operator the expression is what it is by itself, one report says where the
line should have ended, and of all that follows only the lexer says anything.
-/
namespace LineCalc.Syntax

variable {e : Expr} {rest : List Token} {a b s : String} {t : Token}

theorem lineReading_of_front (tree : TreeOf .term maxNesting e)
    (line : grammarTokens s = e.leaves ++ rest) (noOperator : leadingStrength rest = 0) :
    lineReading s = { expr := e, rest } := by
  have reads : Reads (endToken s.length) .term maxNesting (e.leaves ++ rest)
      { expr := e, rest } := by
    apply tree.reads
    intro _
    omega
  rw [lineReading, line]
  exact reads_term_iff.mp ⟨reads, noOperator⟩

theorem parse_of_front (tree : TreeOf .term maxNesting e)
    (line : grammarTokens s = e.leaves ++ t :: rest) (noOperator : t.kind.binaryPrecedence = 0) :
    parse s =
      { diagnostics := lexicalReports s ++ [.unexpectedToken t.kind .endOfFile]
        root := e
        endOfFile := .synthesized .endOfFile t.position } := by
  have inLine : t ∈ grammarTokens s := by
    rw [line]
    exact List.mem_append_right _ (List.mem_cons_self ..)
  have other : t.kind ≠ .endOfFile := grammarTokens_kind inLine
  rw [parse_eq, lineReading_of_front tree line noOperator, expect, if_neg other, List.nil_append]

theorem grammarTokens_behind_space (a b : String) :
    grammarTokens (a ++ " " ++ b) =
        grammarTokens a ++ (grammarTokens b).map (Token.shift (a.length + 1)) ∧
      lexicalReports (a ++ " " ++ b) = lexicalReports a ++ lexicalReports b := by
  have before : DigitsApart a.toList " ".toList := by
    apply digitsApart_of_head
    intro d head
    obtain rfl : ' ' = d := by simpa using head
    decide
  have behind : DigitsApart (a ++ " ").toList b.toList := by
    apply digitsApart_of_last
    intro c last
    obtain rfl : ' ' = c := by simpa using last
    decide
  obtain ⟨nothing, quiet⟩ := line_of_allBlank (w := " ") (by decide)
  obtain ⟨front, frontReports⟩ := grammarTokens_append before
  obtain ⟨whole, wholeReports⟩ := grammarTokens_append behind
  constructor
  · have one : " ".length = 1 := rfl
    rw [whole, front, nothing, List.map_nil, List.append_nil, String.length_append, one]
  · rw [wholeReports, frontReports, quiet, List.append_nil]

theorem grammarTokens_eq_cons (first : (tokenize b).find? Token.isSignificant = some t)
    (inside : t.kind ≠ .endOfFile) : ∃ rest, grammarTokens b = t :: rest := by
  rw [← List.head?_filter, filter_significant] at first
  cases tokens : grammarTokens b with
  | nil =>
    rw [tokens] at first
    obtain rfl : endToken b.length = t := Option.some.inj first
    exact absurd rfl inside
  | cons u rest =>
    rw [tokens] at first
    obtain rfl : u = t := Option.some.inj first
    exact ⟨rest, rfl⟩

theorem message_of_expected_end (actual : Kind) :
    (Diagnostic.unexpectedToken actual .endOfFile).message =
      "ERROR: Unexpected token <" ++ actual.name ++ ">, expected <EndOfFileToken>" := by
  have ending : ">, expected <" ++ (Kind.endOfFile.name ++ ">") =
      ">, expected <EndOfFileToken>" := by decide +kernel
  rw [← ending, ← String.append_assoc, ← String.append_assoc]
  rfl

/-- Behind a line without diagnostics there may come anything that does not begin with an operator:
the root is that of the line, and besides what the lexer reports on the rest there is one report,
on the first token of it that counts. -/
theorem trailing_input_leaves_the_expression (clean : (parse a).diagnostics = [])
    (first : (tokenize b).find? Token.isSignificant = some t)
    (noOperator : t.kind = .number ∨ t.kind = .openParenthesis ∨ t.kind = .closeParenthesis) :
    parse (a ++ " " ++ b) =
        { diagnostics := lexicalReports b ++ [.unexpectedToken t.kind .endOfFile]
          root := (parse a).root
          endOfFile := .synthesized .endOfFile (a.length + 1 + t.position) } ∧
      (parse (a ++ " " ++ b)).diagnostics.messages =
        Log.messages (lexicalReports b) ++
          ["ERROR: Unexpected token <" ++ t.kind.name ++ ">, expected <EndOfFileToken>"] := by
  have weak : t.kind.binaryPrecedence = 0 ∧ t.kind ≠ .endOfFile := by
    rcases noOperator with number | opens | closes
    · simp [number, Kind.binaryPrecedence]
    · simp [opens, Kind.binaryPrecedence]
    · simp [closes, Kind.binaryPrecedence]
  obtain ⟨rest, tokens⟩ := grammarTokens_eq_cons first weak.2
  obtain ⟨line, lexical⟩ := grammarTokens_behind_space a b
  rw [tokens, List.map_cons, ← leaves_of_clean clean] at line
  have parsed := parse_of_front (parse_treeOf a) line weak.1
  rw [lexical, (lineReading_of_clean clean).1, List.nil_append] at parsed
  constructor
  · rw [parsed, Nat.add_comm (a.length + 1)]
    rfl
  · rw [parsed, Log.messages, List.map_append, List.map_singleton, message_of_expected_end]
    rfl

theorem trailing_input_of_a_closed_group :
    (parse "1 + 2*(3)").diagnostics = [] ∧
      (tokenize "?\t) * (99999999999").find? Token.isSignificant =
        some ⟨.closeParenthesis, 2, some ")", none⟩ ∧
      (parse ("1 + 2*(3)" ++ " " ++ "?\t) * (99999999999")).root = (parse "1 + 2*(3)").root ∧
      (parse ("1 + 2*(3)" ++ " " ++ "?\t) * (99999999999")).endOfFile =
        ⟨.endOfFile, 12, none, none⟩ ∧
      (parse ("1 + 2*(3)" ++ " " ++ "?\t) * (99999999999")).diagnostics.messages =
        ["ERROR: bad character input: '?'",
          "ERROR: The number 99999999999 is not a valid Int32",
          "ERROR: Unexpected token <CloseParenthesisToken>, expected <EndOfFileToken>"] := by
  have clean : (parse "1 + 2*(3)").diagnostics = [] := by decide +kernel
  have first : (tokenize "?\t) * (99999999999").find? Token.isSignificant =
      some ⟨.closeParenthesis, 2, some ")", none⟩ := by decide +kernel
  have lexical : Log.messages (lexicalReports "?\t) * (99999999999") =
      ["ERROR: bad character input: '?'",
        "ERROR: The number 99999999999 is not a valid Int32"] := by decide +kernel
  obtain ⟨parsed, messages⟩ := trailing_input_leaves_the_expression clean first (.inr (.inr rfl))
  rw [lexical] at messages
  exact ⟨clean, first, (congrArg Tree.root parsed :), (congrArg Tree.endOfFile parsed :), messages⟩

end LineCalc.Syntax
