import LineCalc.Proofs.GroupSubstitution
import LineCalc.Proofs.NumberTokens

/-!
Zeros in front of a number. They change what is written and not what it denotes, so a line keeps its
outcome as long as the number has no more digits than a numeral may have. With more it has no value,
which is reported, and nothing else is.
-/
namespace LineCalc

namespace Numeral

def padded (count : Nat) (digits : List Char) : List Char := List.replicate count '0' ++ digits

variable {count : Nat} {digits : List Char}

theorem length_padded : (padded count digits).length = digits.length + count := by
  rw [padded, List.length_append, List.length_replicate, Nat.add_comm]

theorem denoted_padded : denoted (padded count digits) = denoted digits := by
  rw [← value_eq_denoted, ← value_eq_denoted]
  induction count with
  | zero => rfl
  | succ count ih => exact ih

theorem forall_mem_padded {p : Char → Prop} (zero : p '0') (every : ∀ c ∈ digits, p c) :
    ∀ c ∈ padded count digits, p c := by
  intro c member
  rcases List.mem_append.mp member with front | inside
  · rw [List.eq_of_mem_replicate front]
    exact zero
  · exact every c inside

theorem refused_padded_iff (accepted : ¬ Refused digits) :
    Refused (padded count digits) ↔ 4300 < digits.length + count := by
  have ascii : ∀ c ∈ padded count digits, ¬ 128 ≤ c.toNat := by
    apply forall_mem_padded
    · decide
    · intro c member high
      exact accepted (.inl ⟨c, member, high⟩)
  have small : ¬ Word.highest < denoted digits := fun much => accepted (.inr (.inr much))
  rw [Refused, length_padded, denoted_padded]
  constructor
  · rintro (⟨c, member, high⟩ | long | much)
    · exact absurd high (ascii c member)
    · exact long
    · exact absurd much small
  · exact fun long => .inr (.inl long)

theorem int32?_padded (nonempty : digits ≠ [])
    (every : ∀ c ∈ digits, Text.isDecimalDigit c = true) (accepted : ¬ Refused digits) :
    int32? (String.ofList (padded count digits)) =
      if digits.length + count ≤ 4300 then int32? (String.ofList digits) else none := by
  have more : padded count digits ≠ [] := by simp [padded, nonempty]
  have decimal : ∀ c ∈ padded count digits, Text.isDecimalDigit c = true :=
    forall_mem_padded (by decide) every
  rw [int32?_decimalDigits more decimal, int32?_decimalDigits nonempty every, if_neg accepted,
    denoted_padded]
  by_cases few : digits.length + count ≤ 4300
  · rw [if_pos few, if_neg (mt (refused_padded_iff accepted).mp (Nat.not_lt.mpr few))]
  · rw [if_neg few, if_pos ((refused_padded_iff accepted).mpr (Nat.lt_of_not_le few))]

end Numeral

namespace Syntax

def withZeros (s : String) (place count : Nat) : String :=
  String.ofList (s.toList.take place ++ Numeral.padded count (s.toList.drop place))

/-- What becomes of a token when zeros are put in at a place: a number there gets them and may lose
its value, and what is behind moves. -/
def Token.padded (place count : Nat) (kept : Bool) (t : Token) : Token :=
  if t.position = place then
    { t with
      text := t.text.map fun text => String.ofList (Numeral.padded count text.toList)
      value := if kept then t.value else none }
  else t.moved (pushed place count)

/-! The number in its line. -/

structure NumberBetween (p q : String) (digits : List Char) : Prop where
  admits : Kind.number.Admits digits
  ends : ∀ c ∈ p.toList.getLast?, Text.isDecimalDigit c = false
  begins : ∀ d ∈ q.toList.head?, Text.isDecimalDigit d = false

namespace Lexer

variable {lexer : Lexer} {kind : Kind} {run rest front back : List Char}

theorem Takes.noDigit_head (takes : lexer.Takes .number run rest) :
    ∀ d ∈ rest.head?, Text.isDecimalDigit d = false := by
  intro d head
  rw [Bool.eq_false_iff]
  intro digit
  exact takes.maximal_charKind rfl d head (charKind_eq_number_iff.mpr digit)

theorem Takes.noDigit_last (takes : lexer.Takes kind run (front ++ back))
    (next : ∃ d ∈ back.head?, Text.isDecimalDigit d = true)
    (ends : ∀ c ∈ front.getLast?, Text.isDecimalDigit c = false) :
    ∀ c ∈ (run ++ front).getLast?, Text.isDecimalDigit c = false := by
  intro c last
  cases front with
  | nil =>
    rw [List.append_nil] at last
    obtain ⟨d, head, digit⟩ := next
    rw [Bool.eq_false_iff]
    intro other
    -- Then the run would go on with the digits behind it.
    obtain rfl : kind = .number := by
      rw [← takes.admits.charKind_eq c (List.mem_of_getLast? last)]
      exact charKind_eq_number_iff.mpr other
    simp [takes.noDigit_head d head] at digit
  | cons d others =>
    rw [List.getLast?_append_of_ne_nil _ (List.cons_ne_nil d others)] at last
    exact ends c last

theorem exists_number_between (lexer : Lexer) {t : Token} (member : t ∈ lexer.scan.tokens)
    (number : t.kind = .number) :
    ∃ front digits back, lexer.rest = front ++ (digits ++ back) ∧
      t = .ofRun .number (lexer.position + front.length) digits ∧
      NumberBetween (String.ofList front) (String.ofList back) digits := by
  induction lexer using scan_induction with
  | stop position =>
    rw [scan_nil, List.mem_singleton] at member
    simp [member, endToken] at number
  | step lexer kind run rest takes ih =>
    rw [takes.scan] at member
    rcases List.mem_cons.mp member with rfl | later
    · obtain rfl : kind = .number := number
      refine ⟨[], run, rest, takes.line, rfl, takes.admits, by simp, ?_⟩
      rw [String.toList_ofList]
      exact takes.noDigit_head
    · obtain ⟨front, digits, back, rfl, same, between⟩ := ih later
      refine ⟨run ++ front, digits, back, ?_, ?_, between.admits, ?_, between.begins⟩
      · rw [takes.line, List.append_assoc]
      · rw [same, List.length_append, Nat.add_assoc]
      · obtain ⟨d, others, rfl⟩ := List.exists_cons_of_ne_nil between.admits.1
        rw [String.toList_ofList]
        apply takes.noDigit_last
        · exact ⟨d, rfl, between.admits.2 d (List.mem_cons_self ..)⟩
        · simpa using between.ends

end Lexer

variable {p q s : String} {t : Token} {digits : List Char} {count : Nat} {kept : Bool}

theorem exists_number_between (member : t ∈ tokenize s) (number : t.kind = .number) :
    ∃ p digits q, s = p ++ String.ofList digits ++ q ∧ t = .ofRun .number p.length digits ∧
      NumberBetween p q digits := by
  obtain ⟨front, digits, back, line, same, between⟩ :=
    (Lexer.ofText s).exists_number_between member number
  refine ⟨String.ofList front, digits, String.ofList back, ?_, ?_, between⟩
  · rw [← String.ofList_append, ← String.ofList_append, List.append_assoc, ← line]
    exact String.ofList_toList.symm
  · rw [same, String.length_ofList, Lexer.ofText, Nat.zero_add]

theorem NumberBetween.line (between : NumberBetween p q digits) :
    grammarTokens (p ++ String.ofList digits ++ q) =
        grammarTokens p ++ .ofRun .number p.length digits ::
          (grammarTokens q).map (Token.shift (p.length + digits.length)) ∧
      lexicalReports (p ++ String.ofList digits ++ q) =
        lexicalReports p ++ (Token.ofRun .number 0 digits).complaint?.toList ++
          lexicalReports q := by
  have admits : Kind.number.Admits (String.ofList digits).toList := by
    rw [String.toList_ofList]
    exact between.admits
  obtain ⟨alone, report⟩ := line_of_digits admits
  obtain ⟨front, frontReports⟩ :=
    grammarTokens_append (digitsApart_of_last between.ends) (b := String.ofList digits)
  obtain ⟨whole, reports⟩ :=
    grammarTokens_append (digitsApart_of_head between.begins) (a := p ++ String.ofList digits)
  rw [String.toList_ofList] at alone report
  constructor
  · rw [whole, front, alone, String.length_append, String.length_ofList]
    simp [Token.shift, Token.ofRun]
  · rw [reports, frontReports, report]

theorem NumberBetween.padded (between : NumberBetween p q digits) (count : Nat) :
    NumberBetween p q (Numeral.padded count digits) := by
  obtain ⟨⟨nonempty, every⟩, ends, begins⟩ := between
  exact ⟨⟨by simp [Numeral.padded, nonempty], Numeral.forall_mem_padded (by decide) every⟩, ends,
    begins⟩

theorem withZeros_between (p q : String) (digits : List Char) (count : Nat) :
    withZeros (p ++ String.ofList digits ++ q) p.length count =
      p ++ String.ofList (Numeral.padded count digits) ++ q := by
  rw [← String.toList_inj]
  simp [withZeros, Numeral.padded, ← String.length_toList]

/-! The line with more zeros. -/

theorem relocation_padded (place count : Nat) (kept : Bool) :
    Relocation (Token.padded place count kept) := by
  constructor
  · intro t
    unfold Token.padded
    split <;> rfl
  · intro kind t
    by_cases here : t.position = place
    · simp [Token.padded, Token.synthesized, here]
    · simp [Token.padded, Token.synthesized, Token.moved, here]

theorem padded_of_lt {place : Nat} (before : t.position < place) :
    t.padded place count kept = t := by
  have other : t.position ≠ place := Nat.ne_of_lt before
  simp [Token.padded, Token.moved, pushed, other, Nat.not_le_of_lt before]

theorem padded_shift {place offset : Nat} (behind : place < offset) :
    (t.shift offset).padded place count kept = t.shift (offset + count) := by
  have other : t.position + offset ≠ place := by omega
  have moves : place ≤ t.position + offset := by omega
  simp [Token.padded, Token.shift, Token.moved, pushed, other, moves, Nat.add_assoc]

theorem NumberBetween.line_padded (between : NumberBetween p q digits)
    (value : Numeral.int32? (String.ofList (Numeral.padded count digits)) =
      if kept then Numeral.int32? (String.ofList digits) else none) :
    grammarTokens (p ++ String.ofList (Numeral.padded count digits) ++ q) =
        (grammarTokens (p ++ String.ofList digits ++ q)).map
          (Token.padded p.length count kept) ∧
      endToken (p ++ String.ofList (Numeral.padded count digits) ++ q).length =
        (endToken (p ++ String.ofList digits ++ q).length).padded p.length count kept := by
  have nonempty : 0 < digits.length := List.length_pos_of_ne_nil between.admits.1
  constructor
  · have front : (grammarTokens p).map (Token.padded p.length count kept) = grammarTokens p := by
      refine (List.map_congr_left fun t member => ?_).trans (List.map_id _)
      exact padded_of_lt (grammarTokens_position_lt member)
    have here : (Token.ofRun .number p.length digits).padded p.length count kept =
        .ofRun .number p.length (Numeral.padded count digits) := by
      simp [Token.ofRun, Token.padded, value]
    have back : ((grammarTokens q).map (Token.shift (p.length + digits.length))).map
          (Token.padded p.length count kept) =
        (grammarTokens q).map
          (Token.shift (p.length + (Numeral.padded count digits).length)) := by
      rw [List.map_map, Numeral.length_padded, ← Nat.add_assoc]
      refine List.map_congr_left fun t _ => ?_
      exact padded_shift (by omega)
    rw [between.line.1, (between.padded count).line.1, List.map_append, List.map_cons, front, here,
      back]
  · have stop (n : Nat) : endToken n = (endToken 0).shift n := by simp [endToken, Token.shift]
    have length : (p ++ String.ofList (Numeral.padded count digits) ++ q).length =
        (p ++ String.ofList digits ++ q).length + count := by
      simp only [String.length_append, String.length_ofList, Numeral.length_padded]
      omega
    have inside : p.length < (p ++ String.ofList digits ++ q).length := by
      simp only [String.length_append, String.length_ofList]
      omega
    rw [length, stop, stop (p ++ String.ofList digits ++ q).length, padded_shift inside]

theorem NumberBetween.quiet (between : NumberBetween p q digits)
    (clean : (parse (p ++ String.ofList digits ++ q)).diagnostics = []) :
    lexicalReports p = [] ∧ lexicalReports q = [] ∧ ¬ Numeral.Refused digits := by
  have quiet := (lineReading_of_clean clean).1
  rw [between.line.2, List.append_eq_nil_iff, List.append_eq_nil_iff,
    Option.toList_eq_nil_iff, complaint?_eq_none_iff] at quiet
  obtain ⟨⟨before, _, valued⟩, behind⟩ := quiet
  refine ⟨before, behind, fun refused => valued rfl ?_⟩
  obtain ⟨nonempty, every⟩ := between.admits
  exact (Numeral.int32?_decimalDigits nonempty every).trans (if_pos refused)

theorem NumberBetween.parse_padded (between : NumberBetween p q digits)
    (clean : (parse (p ++ String.ofList digits ++ q)).diagnostics = []) (count : Nat) :
    parse (p ++ String.ofList (Numeral.padded count digits) ++ q) =
      { diagnostics :=
          if digits.length + count ≤ 4300 then []
          else [.invalidNumber (String.ofList (Numeral.padded count digits))]
        root := (parse (p ++ String.ofList digits ++ q)).root.mapTokens
          (Token.padded p.length count (digits.length + count ≤ 4300))
        endOfFile := (parse (p ++ String.ofList digits ++ q)).endOfFile.padded
          p.length count (digits.length + count ≤ 4300) } := by
  obtain ⟨before, behind, accepted⟩ := between.quiet clean
  obtain ⟨nonempty, every⟩ := between.admits
  have value : Numeral.int32? (String.ofList (Numeral.padded count digits)) = _ :=
    Numeral.int32?_padded nonempty every accepted
  have report : lexicalReports (p ++ String.ofList (Numeral.padded count digits) ++ q) =
      if digits.length + count ≤ 4300 then []
      else [.invalidNumber (String.ofList (Numeral.padded count digits))] := by
    rw [(between.padded count).line.2, before, behind]
    by_cases few : digits.length + count ≤ 4300
    · have valued : Numeral.int32? (String.ofList digits) ≠ none := by
        rw [Numeral.int32?_decimalDigits nonempty every, if_neg accepted]
        exact Option.some_ne_none _
      rw [if_pos few] at value ⊢
      simp [Token.complaint?, Token.ofRun, value, valued]
    · rw [if_neg few] at value ⊢
      simp [Token.complaint?, Token.ofRun, Token.spelling, value]
  have kept : Numeral.int32? (String.ofList (Numeral.padded count digits)) =
      if decide (digits.length + count ≤ 4300) then Numeral.int32? (String.ofList digits)
      else none := by
    simpa using value
  obtain ⟨line, last⟩ := between.line_padded kept
  obtain ⟨reports, whole, parsed⟩ := exists_reports_of_relocation (relocation_padded ..) line last
  have nothing : reports = [] := (List.append_eq_nil_iff.mp (whole.symm.trans clean)).2
  rw [parsed, nothing, report, List.append_nil]

/-- Zeros put in before a number of a line without diagnostics do not matter as long as there are at
most 4300 digits then. With more digits there is one report, that the number has no value. -/
theorem leading_zeros_matter_only_beyond_the_limit (clean : (parse s).diagnostics = [])
    (member : t ∈ tokenize s) (number : t.kind = .number) (count : Nat) :
    (t.spelling.length + count ≤ 4300 →
      (parse (withZeros s t.position count)).diagnostics = [] ∧
        ∃ outcome, evaluateLine s = .ok ⟨parse s, outcome⟩ ∧
          evaluateLine (withZeros s t.position count) =
            .ok ⟨parse (withZeros s t.position count), outcome⟩) ∧
    (4300 < t.spelling.length + count →
      (parse (withZeros s t.position count)).diagnostics =
          [.invalidNumber (String.ofList (Numeral.padded count t.spelling.toList))] ∧
        evaluateLine (withZeros s t.position count) =
          .ok ⟨parse (withZeros s t.position count),
            .rejected (parse (withZeros s t.position count)).diagnostics⟩) := by
  obtain ⟨p, digits, q, rfl, rfl, between⟩ := exists_number_between member number
  have place : (Token.ofRun .number p.length digits).position = p.length := rfl
  have spelling : (Token.ofRun .number p.length digits).spelling = String.ofList digits := rfl
  have parsed := between.parse_padded clean count
  rw [place, spelling, withZeros_between, String.length_ofList, String.toList_ofList]
  constructor
  · intro few
    rw [if_pos few, decide_eq_true few] at parsed
    have accepted := congrArg Tree.diagnostics parsed
    refine ⟨accepted, evaluateLine_of_mapTokens (relocation_padded p.length count true).kind ?_
      (accepted.trans clean.symm) (congrArg Tree.root parsed)⟩
    intro u
    unfold Token.padded
    split <;> rfl
  · intro many
    have reported := congrArg Tree.diagnostics parsed
    rw [if_neg (Nat.not_le_of_lt many)] at reported
    refine ⟨reported, evaluateLine_of_diagnostics ?_⟩
    rw [reported]
    exact List.cons_ne_nil _ _

theorem leading_zeros_before_a_factor :
    (parse "(7 - 0)*12").diagnostics = [] ∧
      (⟨.number, 8, some "12", some 12⟩ : Token) ∈ tokenize "(7 - 0)*12" ∧
      (∃ outcome, evaluateLine "(7 - 0)*12" = .ok ⟨parse "(7 - 0)*12", outcome⟩ ∧
        evaluateLine (withZeros "(7 - 0)*12" 8 3) =
          .ok ⟨parse (withZeros "(7 - 0)*12" 8 3), outcome⟩) ∧
      (parse (withZeros "(7 - 0)*12" 8 5000)).diagnostics =
        [.invalidNumber (String.ofList (Numeral.padded 5000 ['1', '2']))] := by
  have clean : (parse "(7 - 0)*12").diagnostics = [] := by decide +kernel
  have member : (⟨.number, 8, some "12", some 12⟩ : Token) ∈ tokenize "(7 - 0)*12" := by
    decide +kernel
  obtain ⟨few, -⟩ := leading_zeros_matter_only_beyond_the_limit clean member rfl 3
  obtain ⟨-, many⟩ := leading_zeros_matter_only_beyond_the_limit clean member rfl 5000
  exact ⟨clean, member, (few (by decide)).2, (many (by decide)).1⟩

/-- One is a word, however many zeros there are in front of it. -/
theorem one_with_too_many_zeros_is_rejected :
    (parse "1").diagnostics = [] ∧ (⟨.number, 0, some "1", some 1⟩ : Token) ∈ tokenize "1" ∧
      Numeral.denoted (Numeral.padded 4300 ['1']) = 1 ∧
      (parse (withZeros "1" 0 4300)).diagnostics ≠ [] := by
  have clean : (parse "1").diagnostics = [] := by decide +kernel
  have digit : ∀ c ∈ ['1'], Text.isDecimalDigit c = true := by
    intro c member
    rw [List.mem_singleton.mp member]
    decide
  have between : NumberBetween "" "" ['1'] := ⟨⟨by simp, digit⟩, by simp, by simp⟩
  refine ⟨clean, by decide +kernel, Numeral.denoted_padded, ?_⟩
  have parsed := between.parse_padded clean 4300
  rw [← withZeros_between] at parsed
  have reported : (parse (withZeros "1" 0 4300)).diagnostics = _ := congrArg Tree.diagnostics parsed
  rw [reported]
  simp

end Syntax
end LineCalc
