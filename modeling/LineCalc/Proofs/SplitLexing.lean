import LineCalc.Proofs.JoinedLines

/-!
Lexing a text in two parts. Where a text may be cut so that its tokens, values and reports are those
of the two parts is known from the two characters at the cut: not between two digits and not between
two blanks, and anywhere else.
-/
namespace LineCalc.Syntax

open Lexer (charKind)

def RunsApart (front back : List Char) : Prop :=
  ∀ c ∈ front.getLast?, ∀ d ∈ back.head?,
    ¬ (Text.isDecimalDigit c = true ∧ Text.isDecimalDigit d = true) ∧
      ¬ (Text.isBlank c = true ∧ Text.isBlank d = true)

variable {front back : List Char}

theorem runsApart_iff : RunsApart front back ↔ ∀ c ∈ front.getLast?, ∀ d ∈ back.head?,
    (charKind c).isRun = true → charKind d ≠ charKind c := by
  refine forall₂_congr fun c _ => forall₂_congr fun d _ => ?_
  simp only [← charKind_eq_number_iff, ← charKind_eq_whiteSpace_iff, Kind.isRun, Bool.or_eq_true,
    decide_eq_true_eq]
  constructor
  · rintro ⟨digits, blanks⟩ (number | blank) same
    · exact digits ⟨number, same.trans number⟩
    · exact blanks ⟨blank, same.trans blank⟩
  · intro differ
    constructor
    · rintro ⟨number, other⟩
      exact differ (.inl number) (other.trans number.symm)
    · rintro ⟨blank, other⟩
      exact differ (.inr blank) (other.trans blank.symm)

theorem RunsApart.of_append {run : List Char} (apart : RunsApart (run ++ front) back) :
    RunsApart front back :=
  fun c last => apart c (List.mem_getLast?_append_of_mem_getLast? last)

theorem RunsApart.digits (apart : RunsApart front back) : DigitsApart front back :=
  fun c last d head => (apart c last d head).1

namespace Lexer

variable {lexer : Lexer}

theorem scan_tokens_append (lexer : Lexer) (apart : RunsApart lexer.rest back) :
    (scan ⟨lexer.rest ++ back, lexer.position⟩).tokens =
      lexer.scan.tokens.dropLast ++ (scan ⟨back, lexer.position + lexer.rest.length⟩).tokens := by
  induction lexer using scan_induction with
  | stop position =>
    rw [scan_nil]
    rfl
  | step lexer kind run rest takes ih =>
    have line := takes.line
    have later : RunsApart rest back := by
      rw [line] at apart
      exact apart.of_append
    have longer : Takes ⟨lexer.rest ++ back, lexer.position⟩ kind run (rest ++ back) := by
      refine takes.append_of_end fun isRun whole d head => ?_
      subst whole
      obtain ⟨c, last, rfl⟩ := takes.exists_last
      exact runsApart_iff.mp apart c last d head isRun
    have more : (scan ⟨rest, lexer.position + run.length⟩).tokens ≠ [] :=
      (partition_scan _).ne_nil
    have place :
        lexer.position + lexer.rest.length = lexer.position + run.length + rest.length := by
      rw [line, List.length_append, Nat.add_assoc]
    rw [longer.scan, takes.scan, place]
    simp only [List.dropLast_cons_of_ne_nil more, List.cons_append, ih later]

end Lexer

variable {start : Nat} {line : List Char} {tokens : List Token}

theorem Partition.eq_stop (partition : Partition start line tokens) (empty : line = []) :
    tokens = [endToken start] := by
  cases partition with
  | stop => rfl
  | token admits maximal tail => exact absurd (List.append_eq_nil_iff.mp empty).1 admits.ne_nil

theorem Partition.last_kind {c : Char} (partition : Partition start line tokens)
    (last : c ∈ line.getLast?) :
    tokens.dropLast.getLast?.map Token.kind = some (charKind c) := by
  induction partition with
  | stop => simp at last
  | @token position kind run rest value tokens admits maximal tail ih =>
    rw [List.dropLast_cons_of_ne_nil tail.ne_nil]
    by_cases empty : rest = []
    · subst empty
      rw [tail.eq_stop rfl]
      rw [List.append_nil] at last
      simp [admits.charKind_eq c (List.mem_of_mem_getLast? last)]
    · rw [List.getLast?_append_of_ne_nil _ empty] at last
      have behind := ih last
      rw [List.getLast?_cons]
      cases found : tokens.dropLast.getLast? with
      | none => simp [found] at behind
      | some t => simpa [found] using behind

variable {a b : String}

theorem tokenize_append (apart : RunsApart a.toList b.toList) :
    tokenize (a ++ b) = (tokenize a).dropLast ++ (tokenize b).map (Token.shift a.length) := by
  have tokens := (Lexer.ofText a).scan_tokens_append apart
  have whole : (Lexer.ofText a).rest ++ b.toList = (a ++ b).toList := String.toList_append.symm
  have moved := ((Lexer.ofText b).scan_shift a.length).1
  rw [whole, Lexer.ofText_stop a] at tokens
  exact tokens.trans (congrArg _ moved)

/-- Where the tokens are those of the two parts, no run goes over the cut: its token would be cut too,
and no two runs of one kind are side by side. -/
theorem runsApart_of_tokenize
    (tokens : tokenize (a ++ b) =
      (tokenize a).dropLast ++ (tokenize b).map (Token.shift a.length)) :
    RunsApart a.toList b.toList := by
  refine runsApart_iff.mpr fun c last d head isRun same => ?_
  have before : (tokenize a).dropLast.getLast?.map Token.kind = some (charKind c) :=
    (Lexer.partition_scan (Lexer.ofText a)).last_kind last
  have behind : (tokenize b).head?.map Token.kind = some (charKind d) :=
    (Lexer.partition_scan (Lexer.ofText b)).head_kind head
  have apart := (Lexer.partition_scan (Lexer.ofText (a ++ b))).covers.apart
  obtain ⟨t, lastToken, kind⟩ := Option.map_eq_some_iff.mp before
  obtain ⟨u, firstToken, other⟩ := Option.map_eq_some_iff.mp behind
  rw [← tokenize, tokens, List.isChain_append] at apart
  refine apart.2.2 t lastToken (u.shift a.length) ?_ (kind ▸ isRun) ?_
  · rw [List.head?_map, firstToken]
    rfl
  · exact other.trans (same.trans kind.symm)

/-- Tokens and reports of a text are those of its two parts, with the second moved behind the first,
if and only if no run goes over the cut. -/
theorem tokenize_append_iff (a b : String) :
    ∃ front, tokenize a = front ++ [endToken a.length] ∧
      (RunsApart a.toList b.toList ↔
        tokenize (a ++ b) = front ++ (tokenize b).map (Token.shift a.length) ∧
          lexicalReports (a ++ b) = lexicalReports a ++ lexicalReports b) := by
  obtain ⟨front, line, -⟩ := tokenize_eq_front a
  have first : (tokenize a).dropLast = front := by rw [line, List.dropLast_concat]
  refine ⟨front, line, fun apart => ?_, fun ⟨tokens, _⟩ => ?_⟩
  · exact ⟨first ▸ tokenize_append apart, (grammarTokens_append apart.digits).2⟩
  · exact runsApart_of_tokenize (first ▸ tokens)

end LineCalc.Syntax
