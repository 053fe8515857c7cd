import LineCalc.Proofs.Lexing
import Mathlib.Data.List.Chain

/-!
A line is divided into tokens in one way only. What a token can be is known by its first character,
and how far it goes by the characters that may still belong to it; so tokens that cover the line,
each in its place and no run next to another of its kind, are the ones that the lexer finds.
-/
namespace LineCalc.Syntax

namespace Lexer

def charKind (c : Char) : Kind :=
  if Text.isDecimalDigit c then .number
  else if Text.isBlank c then .whiteSpace
  else (operatorKind? c).getD .bad

theorem charKind_of_operator {c : Char} {kind : Kind} (operator : operatorKind? c = some kind) :
    charKind c = kind := by
  rcases operatorKind?_eq_some operator with ⟨rfl, rfl⟩ | ⟨rfl, rfl⟩ | ⟨rfl, rfl⟩ | ⟨rfl, rfl⟩ |
    ⟨rfl, rfl⟩ | ⟨rfl, rfl⟩
  all_goals decide

end Lexer

open Lexer (charKind)

theorem Kind.Admits.charKind_eq {kind : Kind} {run : List Char} (admits : kind.Admits run) :
    ∀ c ∈ run, charKind c = kind := by
  intro c member
  cases kind with
  | number => simp [charKind, admits.2 c member]
  | whiteSpace =>
    have blank := admits.2 c member
    simp [charKind, blank, Text.isDecimalDigit_of_isBlank blank]
  | bad =>
    obtain ⟨d, rfl, noDigit, noBlank, noOperator⟩ := admits
    obtain rfl := List.mem_singleton.mp member
    simp [charKind, noDigit, noBlank, noOperator]
  | _ =>
    obtain ⟨d, rfl, operator⟩ := admits
    obtain rfl := List.mem_singleton.mp member
    exact Lexer.charKind_of_operator operator

theorem Kind.admits_charKind (c : Char) : (charKind c).Admits [c] := by
  have more : (⟨[c], 0⟩ : Lexer).rest ≠ [] := List.cons_ne_nil c []
  obtain ⟨kind, run, rest, takes⟩ := Lexer.exists_takes more
  obtain ⟨d, others, rfl⟩ := List.exists_cons_of_ne_nil takes.admits.ne_nil
  obtain ⟨rfl, same⟩ := List.cons.inj takes.line
  have alone : others = [] := (List.append_eq_nil_iff.mp same.symm).1
  have admits := takes.admits
  rw [alone] at admits
  rwa [admits.charKind_eq c (by simp)]

theorem Kind.admits_singleton_iff {kind : Kind} {c : Char} :
    kind.Admits [c] ↔ charKind c = kind := by
  constructor
  · intro admits
    exact admits.charKind_eq c (List.mem_singleton_self c)
  · rintro rfl
    exact Kind.admits_charKind c

theorem charKind_eq_number_iff {c : Char} :
    charKind c = .number ↔ Text.isDecimalDigit c = true := by
  rw [← Kind.admits_singleton_iff]
  simp [Kind.Admits]

theorem charKind_eq_whiteSpace_iff {c : Char} :
    charKind c = .whiteSpace ↔ Text.isBlank c = true := by
  rw [← Kind.admits_singleton_iff]
  simp [Kind.Admits]

theorem Kind.Admits.length_eq_one {kind : Kind} {run : List Char} (admits : kind.Admits run)
    (noRun : kind.isRun = false) : run.length = 1 := by
  by_cases bad : kind = .bad
  · rw [bad] at admits
    obtain ⟨c, rfl, _⟩ := admits
    rfl
  · obtain ⟨c, rfl, _⟩ := admits.exists_sign noRun bad
    rfl

theorem Kind.Admits.append_eq {kind : Kind} {run more rest : List Char} (admits : kind.Admits run)
    (maximal : kind.isRun = true → ∀ c ∈ (more ++ rest).head?, charKind c ≠ kind)
    (longer : kind.Admits (run ++ more)) : more = [] := by
  by_contra nonempty
  obtain ⟨c, others, rfl⟩ := List.exists_cons_of_ne_nil nonempty
  cases run? : kind.isRun with
  | true => exact maximal run? c (by simp) (longer.charKind_eq c (by simp))
  | false =>
    have short := admits.length_eq_one run?
    have long := longer.length_eq_one run?
    simp only [List.length_append, List.length_cons] at long
    omega

theorem Kind.Admits.eq_of_append {kind other : Kind} {run rest taken left : List Char}
    (admits : kind.Admits run) (maximal : kind.isRun = true → ∀ c ∈ rest.head?, charKind c ≠ kind)
    (admitted : other.Admits taken)
    (longest : other.isRun = true → ∀ c ∈ left.head?, charKind c ≠ other)
    (line : run ++ rest = taken ++ left) : kind = other ∧ run = taken ∧ rest = left := by
  obtain ⟨c, cs, rfl⟩ := List.exists_cons_of_ne_nil admits.ne_nil
  obtain ⟨d, ds, rfl⟩ := List.exists_cons_of_ne_nil admitted.ne_nil
  obtain rfl : c = d := (List.cons.inj line).1
  obtain rfl : kind = other :=
    (admits.charKind_eq c (by simp)).symm.trans (admitted.charKind_eq c (by simp))
  rcases List.append_eq_append_iff.mp line with ⟨more, further, same⟩ | ⟨more, further, same⟩
  · rw [further] at admitted
    rw [same] at maximal
    obtain rfl := admits.append_eq maximal admitted
    exact ⟨rfl, by simpa using further.symm, by simpa using same⟩
  · rw [further] at admits
    rw [same] at longest
    obtain rfl := admitted.append_eq longest admits
    exact ⟨rfl, by simpa using further, by simpa using same.symm⟩

namespace Lexer

theorem Takes.maximal_charKind {lexer : Lexer} {kind : Kind} {run rest : List Char}
    (takes : lexer.Takes kind run rest) (isRun : kind.isRun = true) :
    ∀ c ∈ rest.head?, charKind c ≠ kind := by
  rintro c head rfl
  exact takes.maximal isRun c head (Kind.admits_charKind c)

theorem takes_of_maximal {lexer : Lexer} {kind : Kind} {run rest : List Char}
    (line : lexer.rest = run ++ rest) (admits : kind.Admits run)
    (maximal : kind.isRun = true → ∀ c ∈ rest.head?, charKind c ≠ kind) :
    lexer.Takes kind run rest := by
  have more : lexer.rest ≠ [] := by simp [line, admits.ne_nil]
  obtain ⟨other, taken, left, takes⟩ := exists_takes more
  obtain ⟨rfl, rfl, rfl⟩ := admits.eq_of_append maximal takes.admits takes.maximal_charKind
    (line.symm.trans takes.line)
  exact takes

end Lexer

def Token.unvalued (t : Token) : Token := { t with value := none }

def textLength (tokens : List Token) : Nat := (tokens.flatMap fun t => t.spelling.toList).length

def Placed (start : Nat) (tokens : List Token) : Prop :=
  ∀ front t back, tokens = front ++ t :: back → t.position = start + textLength front

/-- Tokens that cover a line from an offset on: the end of file behind all others, each of these
with characters of its kind, every token in its place and no two runs of one kind side by side. -/
structure Covers (start : Nat) (line : List Char) (tokens : List Token) : Prop where
  last : ∃ front stop, tokens = front ++ [stop] ∧ stop.kind = .endOfFile ∧ stop.text = some "" ∧
    stop.position = start + line.length ∧
    ∀ t ∈ front, t.kind ≠ .endOfFile ∧
      ∃ run, run ≠ [] ∧ t.text = some (String.ofList run) ∧ t.kind.Admits run
  texts : (tokens.flatMap fun t => t.spelling.toList) = line
  placed : Placed start tokens
  apart : tokens.IsChain fun a b => a.kind.isRun = true → b.kind ≠ a.kind

variable {start : Nat} {line : List Char} {tokens : List Token}

theorem textLength_cons (t : Token) (tokens : List Token) :
    textLength (t :: tokens) = t.spelling.length + textLength tokens := by
  rw [textLength, textLength, List.flatMap_cons, List.length_append, String.length_toList]

theorem textLength_append (front back : List Token) :
    textLength (front ++ back) = textLength front + textLength back := by
  rw [textLength, List.flatMap_append, List.length_append]
  rfl

theorem placed_cons (t : Token) : Placed start (t :: tokens) ↔
    t.position = start ∧ Placed (start + t.spelling.length) tokens := by
  constructor
  · intro placed
    refine ⟨placed [] t tokens rfl, fun front u back whole => ?_⟩
    have place := placed (t :: front) u back (by rw [whole]; rfl)
    rwa [textLength_cons, ← Nat.add_assoc] at place
  · rintro ⟨here, later⟩ front u back whole
    cases front with
    | nil =>
      obtain ⟨rfl, _⟩ := List.cons.inj whole
      exact here
    | cons v front =>
      obtain ⟨rfl, behind⟩ := List.cons.inj whole
      rw [textLength_cons, ← Nat.add_assoc]
      exact later front u back behind

theorem Partition.covers (partition : Partition start line tokens) : Covers start line tokens := by
  induction partition with
  | stop position =>
    refine ⟨⟨[], _, rfl, rfl, rfl, rfl, by simp⟩, rfl, ?_, .singleton _⟩
    exact (placed_cons _).mpr ⟨rfl, by simp [Placed]⟩
  | @token position kind run rest value tokens admits maximal tail ih =>
    obtain ⟨front, stop, rfl, atEnd, text, place, others⟩ := ih.last
    constructor
    · refine ⟨_ :: front, stop, rfl, atEnd, text, ?_, ?_⟩
      · rw [place, List.length_append, Nat.add_assoc]
      · exact List.forall_mem_cons.mpr
          ⟨⟨admits.ne_endOfFile, run, admits.ne_nil, rfl, admits⟩, others⟩
    · rw [List.flatMap_cons, ih.texts]
      simp [Token.spelling]
    · refine (placed_cons _).mpr ⟨rfl, ?_⟩
      simpa [Token.spelling] using ih.placed
    · refine List.isChain_cons.mpr ⟨fun u head isRun same => ?_, ih.apart⟩
      exact maximal isRun (by rw [Option.mem_def.mp head, Option.map_some, same])

theorem Covers.tail {t u : Token} (covers : Covers start line (t :: u :: tokens)) :
    ∃ run rest, line = run ++ rest ∧ t.kind.Admits run ∧
      t.unvalued = ⟨t.kind, start, some (String.ofList run), none⟩ ∧
      (t.kind.isRun = true → u.kind ≠ t.kind) ∧
      Covers (start + run.length) rest (u :: tokens) := by
  obtain ⟨front, stop, whole, atEnd, text, place, others⟩ := covers.last
  obtain ⟨here, later⟩ := (placed_cons t).mp covers.placed
  obtain ⟨next, apart⟩ := List.isChain_cons_cons.mp covers.apart
  cases front with
  | nil => simp at whole
  | cons v front =>
    obtain ⟨rfl, behind⟩ := List.cons.inj whole
    obtain ⟨⟨_, run, _, read, admits⟩, others⟩ := List.forall_mem_cons.mp others
    have spelling : t.spelling = String.ofList run := by rw [Token.spelling, read]; rfl
    have texts := covers.texts
    rw [List.flatMap_cons, spelling, String.toList_ofList] at texts
    rw [spelling, String.length_ofList] at later
    refine ⟨run, _, texts.symm, admits, ?_, next, ⟨front, stop, behind, atEnd, text, ?_, others⟩,
      rfl, later, apart⟩
    · rw [← here, ← read]
      rfl
    · rw [place, ← texts, List.length_append, Nat.add_assoc]

theorem Covers.partition (covers : Covers start line tokens) :
    Partition start line (tokens.map Token.unvalued) := by
  induction tokens generalizing start line with
  | nil =>
    obtain ⟨front, stop, whole, _⟩ := covers.last
    simp at whole
  | cons t tokens ih =>
    cases tokens with
    | nil =>
      obtain ⟨front, stop, whole, atEnd, text, place, _⟩ := covers.last
      obtain ⟨rfl, rfl⟩ : front = [] ∧ t = stop := by
        cases front with
        | nil => simpa using whole
        | cons u front => simp at whole
      have empty : line = [] := by simp [← covers.texts, Token.spelling, text]
      obtain ⟨kind, position, _, value⟩ := t
      obtain rfl : kind = .endOfFile := atEnd
      obtain rfl : position = start := by simpa [empty] using place
      rw [empty, List.map_cons, List.map_nil, Token.unvalued, text]
      exact .stop position
    | cons u tokens =>
      obtain ⟨run, rest, rfl, admits, same, next, behind⟩ := covers.tail
      rw [List.map_cons, same]
      refine .token admits (fun isRun head => ?_) (ih behind)
      exact next isRun (Option.some.inj head)

theorem Partition.head_kind {c : Char} (partition : Partition start line tokens)
    (head : c ∈ line.head?) : tokens.head?.map Token.kind = some (charKind c) := by
  cases partition with
  | stop => simp at head
  | @token _ kind run rest value tokens admits maximal tail =>
    obtain ⟨d, others, rfl⟩ := List.exists_cons_of_ne_nil admits.ne_nil
    obtain rfl : d = c := by simpa using head
    rw [admits.charKind_eq d (by simp)]
    rfl

theorem Partition.unvalued_eq (partition : Partition start line tokens) :
    tokens.map Token.unvalued =
      (Lexer.scan ⟨line, start⟩).tokens.map Token.unvalued := by
  induction partition with
  | stop position =>
    rw [Lexer.scan_nil]
    rfl
  | @token position kind run rest value tokens admits maximal tail ih =>
    have takes : Lexer.Takes ⟨run ++ rest, position⟩ kind run rest := by
      refine Lexer.takes_of_maximal rfl admits fun isRun c head same => maximal isRun ?_
      rw [tail.head_kind head, same]
    rw [takes.scan, List.map_cons, List.map_cons, ih]
    rfl

theorem placed_unvalued : Placed start (tokens.map Token.unvalued) ↔ Placed start tokens := by
  induction tokens generalizing start with
  | nil => rfl
  | cons t tokens ih => rw [List.map_cons, placed_cons, placed_cons, ih]; rfl

theorem covers_unvalued :
    Covers start line (tokens.map Token.unvalued) ↔ Covers start line tokens := by
  constructor
  · rintro ⟨⟨front, stop, whole, atEnd, text, place, others⟩, texts, placed, apart⟩
    obtain ⟨front, last, rfl, rfl, final⟩ := List.map_eq_append_iff.mp whole
    obtain ⟨stop, rfl, rfl⟩ := List.map_eq_singleton_iff.mp final
    refine ⟨⟨front, stop, rfl, atEnd, text, place, List.forall_mem_map.mp others⟩, ?_,
      placed_unvalued.mp placed, (List.isChain_map _).mp apart⟩
    rwa [List.flatMap_map] at texts
  · rintro ⟨⟨front, stop, rfl, atEnd, text, place, others⟩, texts, placed, apart⟩
    refine ⟨⟨_, stop.unvalued, List.map_append, atEnd, text, place, List.forall_mem_map.mpr others⟩,
      ?_, placed_unvalued.mpr placed, (List.isChain_map _).mpr apart⟩
    rwa [List.flatMap_map]

/-- The tokens of a line cover it, and all tokens that do so are these, but for the values. -/
theorem line_is_covered_in_one_way (s : String) (tokens : List Token) : Covers 0 s.toList tokens ↔
    tokens.map Token.unvalued = (tokenize s).map Token.unvalued := by
  have found := (Lexer.partition_scan (Lexer.ofText s)).covers
  constructor
  · intro covers
    have same := covers.partition.unvalued_eq
    rwa [List.map_map] at same
  · intro same
    rw [← covers_unvalued, same, covers_unvalued]
    exact found

end LineCalc.Syntax
