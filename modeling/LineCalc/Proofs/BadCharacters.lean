import LineCalc.Proofs.JoinedLines
import LineCalc.Proofs.MissingTokens

/-!
Bad characters. To the grammar one is as good as a blank: with spaces in their places a line has the
same tokens and the same tree, and only the reports on the bad characters are gone.
-/
namespace LineCalc.Syntax

def Diagnostic.isBadCharacter : Diagnostic → Bool
  | badCharacter _ => true
  | _ => false

theorem append_ne_of_take {front other : String} (n : Nat) (long : n ≤ front.toList.length)
    (longOther : n ≤ other.toList.length) (apart : front.toList.take n ≠ other.toList.take n)
    (rest more : String) : front ++ rest ≠ other ++ more := by
  intro same
  apply apart
  have letters := congrArg (fun s => s.toList.take n) same
  simpa only [String.toList_append, List.take_append_of_le_length long,
    List.take_append_of_le_length longOther] using letters

theorem Diagnostic.isBadCharacter_iff (report : Diagnostic) : report.isBadCharacter = true ↔
    ∃ rest, report.message = "ERROR: bad character input: '" ++ rest := by
  constructor
  · intro bad
    cases report with
    | badCharacter text => exact ⟨text ++ "'", String.append_assoc ..⟩
    | _ => simp [isBadCharacter] at bad
  · rintro ⟨rest, same⟩
    cases report with
    | badCharacter text => rfl
    | _ =>
      unfold message at same
      simp only [String.append_assoc] at same
      exact absurd same (append_ne_of_take 8 (by decide) (by decide) (by decide) _ _)

def withoutBadCharacters (s : String) : String :=
  String.ofList <| (tokenize s).flatMap fun t => if t.kind = .bad then [' '] else t.spelling.toList

namespace Lexer

def blankIfBad (c : Char) : Char := if charKind c = .bad then ' ' else c

theorem charKind_blankIfBad (c : Char) :
    charKind (blankIfBad c) = if charKind c = .bad then .whiteSpace else charKind c := by
  unfold blankIfBad
  split
  · decide
  · rfl

end Lexer

open Lexer (blankIfBad charKind charKind_blankIfBad)

theorem Kind.Admits.map_blankIfBad {kind : Kind} {run : List Char} (admits : kind.Admits run) :
    run.map blankIfBad = if kind = .bad then [' '] else run := by
  by_cases bad : kind = .bad
  · rw [if_pos bad]
    rw [bad] at admits
    obtain ⟨c, rfl, _⟩ := id admits
    simp [blankIfBad, admits.charKind_eq c (by simp)]
  · rw [if_neg bad]
    refine (List.map_congr_left fun c member => ?_).trans (List.map_id _)
    simp [blankIfBad, admits.charKind_eq c member, bad]

theorem withoutBadCharacters_toList (s : String) :
    (withoutBadCharacters s).toList = s.toList.map blankIfBad := by
  have every (lexer : Lexer) : (lexer.scan.tokens.flatMap fun t =>
      if t.kind = .bad then [' '] else t.spelling.toList) = lexer.rest.map blankIfBad := by
    induction lexer using Lexer.scan_induction with
    | stop position => rw [Lexer.scan_nil]; rfl
    | step lexer kind run rest takes ih =>
      rw [takes.scan, takes.line, List.map_append, takes.admits.map_blankIfBad, List.flatMap_cons,
        ih]
      simp [Token.ofRun, Token.spelling]
  rw [withoutBadCharacters, String.toList_ofList]
  exact every (Lexer.ofText s)

namespace Lexer

variable {lexer : Lexer} {kind : Kind} {run rest : List Char}

theorem ofRun_complaint? (good : kind ≠ .bad) (position : Nat) :
    ∀ report ∈ (Token.ofRun kind position run).complaint?, (!report.isBadCharacter) = true := by
  intro report complaint
  unfold Token.complaint? at complaint
  split at complaint
  · simp_all [Token.ofRun]
  · split at complaint
    · obtain rfl : _ = report := Option.some.inj complaint
      rfl
    · simp at complaint
  · simp at complaint

theorem Takes.blankIfBad (takes : lexer.Takes kind run rest) (noBlank : kind ≠ .whiteSpace) :
    Takes ⟨run ++ rest.map Lexer.blankIfBad, lexer.position⟩ kind run
      (rest.map Lexer.blankIfBad) := by
  refine takes_of_maximal rfl takes.admits fun isRun c head same => ?_
  rw [List.head?_map, Option.mem_def, Option.map_eq_some_iff] at head
  obtain ⟨d, first, rfl⟩ := head
  rw [charKind_blankIfBad] at same
  split at same
  · exact noBlank same.symm
  · exact takes.maximal_charKind isRun d first same

theorem scan_blankIfBad (lexer : Lexer) :
    words ⟨lexer.rest.map Lexer.blankIfBad, lexer.position⟩ = lexer.words ∧
      (scan ⟨lexer.rest.map Lexer.blankIfBad, lexer.position⟩).reports =
        lexer.scan.reports.filter fun report => !report.isBadCharacter := by
  induction lexer using scan_induction with
  | stop position => simp [words, scan_nil]
  | step lexer kind run rest takes ih =>
    obtain ⟨behind, reports⟩ := ih
    rw [takes.words_eq, takes.reports_eq, takes.line, List.map_append, takes.admits.map_blankIfBad,
      List.filter_append, ← behind, ← reports]
    by_cases bad : kind = .bad
    · obtain rfl := bad
      have yields := yields_blank (c := ' ') (by decide) (rest.map Lexer.blankIfBad) lexer.position
      rw [takes.admits.length_eq_one rfl]
      exact ⟨yields.words, yields.reports⟩
    · rw [if_neg bad]
      have kept : (Token.ofRun kind lexer.position run).complaint?.toList.filter
          (fun report => !report.isBadCharacter) =
            (Token.ofRun kind lexer.position run).complaint?.toList := by
        refine List.filter_eq_self.mpr fun report member => ?_
        exact ofRun_complaint? bad lexer.position report (Option.mem_toList.mp member)
      rw [kept]
      by_cases blanks : kind = .whiteSpace
      · obtain rfl := blanks
        have yields := yields_allBlank takes.admits.2 (rest.map Lexer.blankIfBad) lexer.position
        exact ⟨yields.words, yields.reports⟩
      · have same := takes.blankIfBad blanks
        exact ⟨same.words_eq, same.reports_eq⟩

end Lexer

/-! Lines. -/

theorem length_withoutBadCharacters (s : String) : (withoutBadCharacters s).length = s.length := by
  rw [← String.length_toList, withoutBadCharacters_toList, List.length_map, String.length_toList]

theorem line_withoutBadCharacters (s : String) :
    grammarTokens (withoutBadCharacters s) = grammarTokens s ∧
      lexicalReports (withoutBadCharacters s) =
        (lexicalReports s).filter fun report => !report.isBadCharacter := by
  have scanned := (Lexer.ofText s).scan_blankIfBad
  have whole : (Lexer.ofText s).rest.map blankIfBad = (withoutBadCharacters s).toList :=
    (withoutBadCharacters_toList s).symm
  rw [whole] at scanned
  exact scanned

theorem absence_isBadCharacter (found missing : Token) :
    (absence found missing).isBadCharacter = false := by
  unfold absence
  split <;> rfl

theorem Accounted.isBadCharacter {line leaves : List Token} {reports : List Diagnostic}
    (accounted : Accounted line leaves reports) :
    ∀ report ∈ reports, report.isBadCharacter = false := by
  unfold Accounted at accounted
  generalize leaves.filter Token.isSynthesized = missing at accounted
  induction accounted with
  | nil => simp
  | cons said others ih =>
    obtain ⟨found, _, _, rfl⟩ := said
    exact List.forall_mem_cons.mpr ⟨absence_isBadCharacter _ _, ih⟩

/-- Bad characters do nothing but to be reported. -/
theorem bad_characters_only_report_themselves (s : String) :
    (Parser.ofText (withoutBadCharacters s)).tokens = (Parser.ofText s).tokens ∧
      parse (withoutBadCharacters s) =
        { diagnostics := (parse s).diagnostics.filter fun report => !report.isBadCharacter
          root := (parse s).root
          endOfFile := (parse s).endOfFile } ∧
      ∀ report : Diagnostic, report.isBadCharacter = true ↔
        ∃ rest, report.message = "ERROR: bad character input: '" ++ rest := by
  obtain ⟨line, lexical⟩ := line_withoutBadCharacters s
  have length := length_withoutBadCharacters s
  refine ⟨?_, ?_, Diagnostic.isBadCharacter_iff⟩
  · rw [ofText_tokens, ofText_tokens, line, length]
  · have reading : lineReading (withoutBadCharacters s) = lineReading s := by
      rw [lineReading, lineReading, line, length]
    obtain ⟨reports, whole, accounted⟩ := parse_accounted s
    have kept : reports.filter (fun report => !report.isBadCharacter) = reports :=
      List.filter_eq_self.mpr fun report member => by simp [accounted.isBadCharacter report member]
    rw [parse_eq] at whole
    rw [parse_eq, parse_eq, reading, length, lexical, List.append_cancel_left whole,
      List.filter_append, kept]

end LineCalc.Syntax
