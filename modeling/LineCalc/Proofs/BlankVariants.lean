import LineCalc.Proofs.BadCharacters
import LineCalc.Proofs.FaithfulTrees

/-!
Which lines have the same tree. The tokens of a tree say what stands at every place but the blanks,
and the end of file says how long the line is; which blanks they are nothing says.
-/
namespace LineCalc.Syntax

def BlankAlike (c d : Char) : Prop := c = d ∨ Text.isBlank c = true ∧ Text.isBlank d = true

instance (c d : Char) : Decidable (BlankAlike c d) := inferInstanceAs (Decidable (_ ∨ _))

open Lexer (charKind)

theorem BlankAlike.charKind_eq {c d : Char} (alike : BlankAlike c d) : charKind d = charKind c := by
  rcases alike with rfl | ⟨first, second⟩
  · rfl
  · rw [charKind_eq_whiteSpace_iff.mpr first, charKind_eq_whiteSpace_iff.mpr second]

variable {run other : List Char}

theorem eq_of_solid (alike : List.Forall₂ BlankAlike run other)
    (solid : ∀ c ∈ run, Text.isBlank c = false) : other = run := by
  induction alike with
  | nil => rfl
  | @cons c d run other same others ih =>
    obtain ⟨first, later⟩ := List.forall_mem_cons.mp solid
    have equal : c = d := same.resolve_right fun blank => by simp [first] at blank
    rw [equal, ih later]

theorem blank_of_alike (alike : List.Forall₂ BlankAlike run other)
    (blank : ∀ c ∈ run, Text.isBlank c = true) : ∀ d ∈ other, Text.isBlank d = true := by
  induction alike with
  | nil => simp
  | @cons c d run other same others ih =>
    obtain ⟨first, later⟩ := List.forall_mem_cons.mp blank
    refine List.forall_mem_cons.mpr ⟨?_, ih later⟩
    rcases same with rfl | ⟨_, second⟩
    · exact first
    · exact second

theorem exists_head_of_alike (alike : List.Forall₂ BlankAlike run other) {d : Char}
    (head : d ∈ other.head?) : ∃ c ∈ run.head?, BlankAlike c d := by
  cases alike with
  | nil => simp at head
  | @cons c e run other first others =>
    obtain rfl : e = d := by simpa using head
    exact ⟨c, rfl, first⟩

theorem Kind.Admits.isBlank_eq_false {kind : Kind} (admits : kind.Admits run)
    (noBlank : kind ≠ .whiteSpace) : ∀ c ∈ run, Text.isBlank c = false := by
  intro c member
  by_contra blank
  rw [Bool.not_eq_false] at blank
  exact noBlank ((admits.charKind_eq c member).symm.trans (charKind_eq_whiteSpace_iff.mpr blank))

theorem Kind.Admits.of_alike {kind : Kind} (admits : kind.Admits run)
    (alike : List.Forall₂ BlankAlike run other) : kind.Admits other := by
  by_cases blanks : kind = .whiteSpace
  · obtain rfl := blanks
    refine ⟨?_, blank_of_alike alike admits.2⟩
    rintro rfl
    exact admits.1 (List.forall₂_nil_right_iff.mp alike)
  · rwa [eq_of_solid alike (admits.isBlank_eq_false blanks)]

namespace Lexer

variable {lexer : Lexer} {kind : Kind} {rest line : List Char}

theorem Takes.of_alike (takes : lexer.Takes kind run rest)
    (alike : List.Forall₂ BlankAlike lexer.rest line) :
    ∃ taken left, List.Forall₂ BlankAlike run taken ∧ List.Forall₂ BlankAlike rest left ∧
      Takes ⟨line, lexer.position⟩ kind taken left := by
  rw [takes.line] at alike
  have front := List.forall₂_take run.length alike
  have back := List.forall₂_drop run.length alike
  rw [List.take_left] at front
  rw [List.drop_left] at back
  refine ⟨_, _, front, back, takes_of_maximal (List.take_append_drop _ _).symm
    (takes.admits.of_alike front) fun isRun d head same => ?_⟩
  obtain ⟨c, first, like⟩ := exists_head_of_alike back head
  exact takes.maximal_charKind isRun c first (like.charKind_eq.symm.trans same)

theorem scan_alike (lexer : Lexer) (alike : List.Forall₂ BlankAlike lexer.rest line) :
    words ⟨line, lexer.position⟩ = lexer.words ∧
      (scan ⟨line, lexer.position⟩).reports = lexer.scan.reports := by
  induction lexer using scan_induction generalizing line with
  | stop position =>
    rw [List.forall₂_nil_left_iff.mp alike]
    exact ⟨rfl, rfl⟩
  | step lexer kind run rest takes ih =>
    obtain ⟨taken, left, front, back, other⟩ := takes.of_alike alike
    obtain ⟨behind, reports⟩ := ih back
    rw [other.words_eq, other.reports_eq, takes.words_eq, takes.reports_eq,
      ← List.Forall₂.length_eq front, behind, reports]
    by_cases blanks : kind = .whiteSpace
    · obtain rfl := blanks
      exact ⟨rfl, rfl⟩
    · rw [eq_of_solid front (takes.admits.isBlank_eq_false blanks)]
      exact ⟨rfl, rfl⟩

end Lexer

/-! Lines. -/

variable {a b s : String}

theorem parse_of_alike (alike : List.Forall₂ BlankAlike a.toList b.toList) : parse a = parse b := by
  obtain ⟨words, reports⟩ := (Lexer.ofText a).scan_alike alike
  have line : grammarTokens b = grammarTokens a := words
  have lexical : lexicalReports b = lexicalReports a := reports
  have length : b.length = a.length := by
    rw [← String.length_toList, ← String.length_toList, List.Forall₂.length_eq alike]
  have reading : lineReading b = lineReading a := by rw [lineReading, lineReading, line, length]
  rw [parse_eq, parse_eq, reading, lexical, length]

theorem Partition.exists_token {start : Nat} {cs : List Char} {tokens : List Token}
    (partition : Partition start cs tokens) {i : Nat} {c : Char} (here : cs[i]? = some c) :
    ∃ t ∈ tokens, t.kind = charKind c ∧
      ∃ k, start + i = t.position + k ∧ t.spelling.toList[k]? = some c := by
  induction partition generalizing i with
  | stop => simp at here
  | @token position kind run rest value tokens admits maximal tail ih =>
    by_cases inside : i < run.length
    · rw [List.getElem?_append_left inside] at here
      refine ⟨_, List.mem_cons_self, ?_, i, rfl, by simpa [Token.spelling] using here⟩
      exact (admits.charKind_eq c (List.mem_of_getElem? here)).symm
    · rw [List.getElem?_append_right (Nat.le_of_not_lt inside)] at here
      obtain ⟨t, member, same, k, place, found⟩ := ih here
      exact ⟨t, List.mem_cons_of_mem _ member, same, k, by omega, found⟩

theorem exists_grammarToken (clean : lexicalReports s = []) {i : Nat} {c : Char}
    (here : s.toList[i]? = some c) (solid : Text.isBlank c = false) :
    ∃ t ∈ grammarTokens s, ∃ k, i = t.position + k ∧ t.spelling.toList[k]? = some c := by
  obtain ⟨t, member, kind, k, place, found⟩ :=
    (Lexer.partition_scan (Lexer.ofText s)).exists_token here
  refine ⟨t, List.mem_filter.mpr ⟨member, ?_⟩, k, by simpa [Lexer.ofText] using place, found⟩
  have good := ((lexicalReports_eq_nil_iff s).mp clean t member).1
  have noBlank : t.kind ≠ .whiteSpace := by
    intro blank
    rw [charKind_eq_whiteSpace_iff.mp (kind.symm.trans blank)] at solid
    simp at solid
  have noEnd : t.kind ≠ .endOfFile := by
    rw [kind]
    exact (Kind.admits_charKind c).ne_endOfFile
  simp [Token.isSignificant, good, noBlank, noEnd]

theorem getElem?_of_grammarToken {t : Token} (member : t ∈ grammarTokens s) {k : Nat} {c : Char}
    (found : t.spelling.toList[k]? = some c) : s.toList[t.position + k]? = some c := by
  have counts : t ∈ (Parser.ofText s).tokens := by
    rw [ofText_tokens]
    exact List.mem_append_left _ member
  obtain ⟨front, back, whole, place⟩ := ofText_tokens_slice s t counts
  obtain ⟨inside, _⟩ := List.getElem?_eq_some_iff.mp found
  rw [whole, ← place, List.append_assoc, List.getElem?_append_right (Nat.le_add_right ..),
    Nat.add_sub_cancel_left, List.getElem?_append_left inside, found]

theorem getElem?_of_same_tokens (clean : lexicalReports a = [])
    (same : grammarTokens a = grammarTokens b) {i : Nat} {c : Char}
    (here : a.toList[i]? = some c) (solid : Text.isBlank c = false) : b.toList[i]? = some c := by
  obtain ⟨t, member, k, rfl, found⟩ := exists_grammarToken clean here solid
  rw [same] at member
  exact getElem?_of_grammarToken member found

theorem alike_of_same_tokens (cleanA : lexicalReports a = []) (cleanB : lexicalReports b = [])
    (same : grammarTokens a = grammarTokens b) :
    ∀ pair ∈ a.toList.zip b.toList, BlankAlike pair.1 pair.2 := by
  rintro ⟨c, d⟩ member
  obtain ⟨i, here⟩ := List.mem_iff_getElem?.mp member
  obtain ⟨first, second⟩ := List.getElem?_zip_eq_some.mp here
  cases solid : Text.isBlank c with
  | false =>
    have there := getElem?_of_same_tokens cleanA same first solid
    exact .inl (Option.some.inj (there.symm.trans second))
  | true =>
    cases solid' : Text.isBlank d with
    | false =>
      have there := getElem?_of_same_tokens cleanB same.symm second solid'
      exact .inl (Option.some.inj (first.symm.trans there))
    | true => exact .inr ⟨solid, solid'⟩

/-- Two lines without diagnostics have the same tree, positions and texts included, exactly if they
are of one length and at every place have the same character or two blanks. -/
theorem same_tree_iff_blank_alike (cleanA : (parse a).diagnostics = [])
    (cleanB : (parse b).diagnostics = []) :
    parse a = parse b ↔
      a.length = b.length ∧ ∀ pair ∈ a.toList.zip b.toList, BlankAlike pair.1 pair.2 := by
  constructor
  · intro same
    have length : endToken a.length = endToken b.length := by
      rw [parse_of_clean cleanA, parse_of_clean cleanB] at same
      exact congrArg Tree.endOfFile same
    have tokens : grammarTokens a = grammarTokens b := by
      rw [← leaves_of_clean cleanA, ← leaves_of_clean cleanB, same]
    exact ⟨congrArg Token.position length, alike_of_same_tokens (lineReading_of_clean cleanA).1
      (lineReading_of_clean cleanB).1 tokens⟩
  · rintro ⟨length, alike⟩
    rw [← String.length_toList, ← String.length_toList] at length
    exact parse_of_alike (List.forall₂_iff_zip.mpr ⟨length, fun member => alike _ member⟩)

theorem same_tree_of_other_blanks :
    (parse "(1 +\t2)  *3").diagnostics = [] ∧ (parse "(1\t+ 2) \t*3").diagnostics = [] ∧
      parse "(1 +\t2)  *3" = parse "(1\t+ 2) \t*3" := by
  have one : (parse "(1 +\t2)  *3").diagnostics = [] := by decide +kernel
  have two : (parse "(1\t+ 2) \t*3").diagnostics = [] := by decide +kernel
  exact ⟨one, two, (same_tree_iff_blank_alike one two).mpr (by decide +kernel)⟩

end LineCalc.Syntax
