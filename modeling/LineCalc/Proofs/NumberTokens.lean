import LineCalc.Proofs.DecimalNumerals
import LineCalc.Proofs.LinePartition
import Mathlib.Data.Nat.Digits.Defs

/-!
What the lexer says of a line and which values it finds. Every bad character and every number
without a value has its message, in the order of the tokens. A number has a value if its digits are
ASCII digits, are not too many and denote no more than the highest word; it is what they denote.
-/
namespace LineCalc

namespace Text

theorem isAsciiDigit_iff_toNat_lt {c : Char} (digit : isDecimalDigit c = true) :
    isAsciiDigit c = true ↔ c.toNat < 128 := by
  have spans : ∀ span ∈ decimalDigits.spans, span = (0x30, 0x39) ∨ 128 ≤ span.1 := by decide
  obtain ⟨span, member, low, high⟩ := CharRanges.mem_iff.mp digit
  rcases spans span member with rfl | beyond
  · have inside : '0' ≤ c ∧ c ≤ '9' := ⟨low, high⟩
    exact iff_of_true (by simp [isAsciiDigit, inside]) (Nat.lt_of_le_of_lt high (by decide))
  · refine iff_of_false (fun ascii => ?_) (by omega)
    simp only [isAsciiDigit, Bool.and_eq_true, decide_eq_true_eq] at ascii
    have most : c.toNat ≤ 57 := ascii.2
    omega

end Text

namespace Numeral

/-- What digits denote in base ten: the last one counts as ones, and each of the others ten times
what it would count one place further on. -/
def denoted (digits : List Char) : Nat := Nat.ofDigits 10 (digits.reverse.map digitValue)

/-- Why digits denote no word that a number could have: one of them is no ASCII digit, there are too
many, or they denote too much. -/
def Refused (digits : List Char) : Prop :=
  (∃ c ∈ digits, 128 ≤ c.toNat) ∨ 4300 < digits.length ∨ Word.highest < denoted digits

instance decidableRefused (digits : List Char) : Decidable (Refused digits) :=
  inferInstanceAs (Decidable (_ ∨ _))

variable {digits : List Char}

theorem value_eq_denoted (digits : List Char) : value digits = denoted digits := by
  rw [denoted, Nat.ofDigits_eq_foldr, List.foldr_map, List.foldr_reverse, value]
  simp only [Nat.cast_id, Nat.add_comm]

theorem isAsciiDigit_of_digits? {cs found : List Char} (read : digits? cs = some found) :
    ∀ c ∈ cs, Text.isAsciiDigit c = true ∨ c = '_' := by
  fun_induction digits? cs generalizing found with
  | case1 => simp
  | case2 c digit => simp [digit]
  | case3 c other => cases read
  | case4 c r digit ih =>
    obtain ⟨rest, inner, _⟩ := Option.map_eq_some_iff.mp read
    simpa [digit] using ih inner
  | case5 c r other => cases read
  | case6 c d r under digit ih =>
    obtain ⟨rest, inner, _⟩ := Option.map_eq_some_iff.mp read
    exact List.forall_mem_cons.mpr ⟨.inl digit, ih inner⟩
  | case7 c d r under other => cases read

theorem digits?_eq_none (every : ∀ c ∈ digits, Text.isDecimalDigit c = true) {c : Char}
    (member : c ∈ digits) (other : Text.isAsciiDigit c = false) : digits? digits = none := by
  cases read : digits? digits with
  | none => rfl
  | some found =>
    rcases isAsciiDigit_of_digits? read c member with ascii | rfl
    · simp [other] at ascii
    · exact absurd (every '_' member) (by decide)

theorem filter_inRange (n : Nat) :
    (some (n : Int)).filter (fun m => decide (Word.InRange m)) =
      if Word.highest < n then none else some (n : Int) := by
  have positive : Word.lowest ≤ n := Int.le_trans (by decide) (Int.natCast_nonneg n)
  by_cases much : Word.highest < n
  · have outside : ¬ Word.InRange n := fun range => Int.not_le.mpr much range.2
    rw [if_pos much, Option.filter_some, decide_eq_false outside]
    rfl
  · have inside : Word.InRange n := ⟨positive, Int.not_lt.mp much⟩
    rw [if_neg much, Option.filter_some, decide_eq_true inside]
    rfl

theorem int32?_decimalDigits (nonempty : digits ≠ [])
    (every : ∀ c ∈ digits, Text.isDecimalDigit c = true) :
    int32? (String.ofList digits) = if Refused digits then none else some (denoted digits : Int) := by
  by_cases ascii : ∀ c ∈ digits, Text.isAsciiDigit c = true
  · have low : ∀ c ∈ digits, ¬ 128 ≤ c.toNat := fun c member =>
      Nat.not_le.mpr ((Text.isAsciiDigit_iff_toNat_lt (every c member)).mp (ascii c member))
    have refused : Refused digits ↔ maxDigits < digits.length ∨ Word.highest < denoted digits :=
      or_iff_right fun ⟨c, member, high⟩ => low c member high
    rw [int32?, int?_digits nonempty ascii, value_eq_denoted]
    by_cases long : maxDigits < digits.length
    · rw [if_neg (Nat.not_le.mpr long), if_pos (refused.mpr (.inl long))]
      rfl
    · rw [if_pos (Nat.not_lt.mp long), filter_inRange]
      by_cases much : Word.highest < denoted digits
      · rw [if_pos much, if_pos (refused.mpr (.inr much))]
      · rw [if_neg much, if_neg (by simp [refused, long, much])]
  · push Not at ascii
    obtain ⟨c, member, other⟩ := ascii
    have high : 128 ≤ c.toNat :=
      Nat.not_lt.mp fun low => other ((Text.isAsciiDigit_iff_toNat_lt (every c member)).mpr low)
    rw [if_pos (.inl ⟨c, member, high⟩), int32?, int?_decimalDigits every, magnitude?,
      digits?_eq_none every member (by simpa using other)]
    rfl

end Numeral

namespace Syntax

def Token.message? (t : Token) : Option String :=
  match t.kind, t.value with
  | .bad, _ => some ("ERROR: bad character input: '" ++ t.spelling ++ "'")
  | .number, none => some ("ERROR: The number " ++ t.spelling ++ " is not a valid Int32")
  | _, _ => none

theorem complaint?_map_message (t : Token) : t.complaint?.map Diagnostic.message = t.message? := by
  obtain ⟨kind, position, text, value⟩ := t
  cases kind <;> cases value <;> rfl

theorem lexicalReports_messages (s : String) :
    Log.messages (lexicalReports s) = (tokenize s).filterMap Token.message? := by
  rw [lexicalReports_eq, Log.messages, List.map_filterMap]
  exact List.filterMap_congr fun t _ => complaint?_map_message t

theorem tokenize_admits (s : String) : ∀ t ∈ tokenize s, t.kind = .endOfFile ∨
    ∃ run, t.text = some (String.ofList run) ∧ t.kind.Admits run := by
  obtain ⟨front, stop, line, last, _, _, others⟩ :=
    (Lexer.partition_scan (Lexer.ofText s)).covers.last
  intro t member
  rw [tokenize, line] at member
  rcases List.mem_append.mp member with inside | final
  · obtain ⟨_, run, _, text, admits⟩ := others t inside
    exact .inr ⟨run, text, admits⟩
  · rw [List.mem_singleton.mp final]
    exact .inl last

theorem value_of_number {s : String} {t : Token} (member : t ∈ tokenize s)
    (number : t.kind = .number) : ∃ digits, t.text = some (String.ofList digits) ∧ digits ≠ [] ∧
      (∀ c ∈ digits, Text.isDecimalDigit c = true) ∧
      t.value = if Numeral.Refused digits then none else some (Numeral.denoted digits : Int) := by
  have value := tokenize_values s t member
  rcases tokenize_admits s t member with last | ⟨run, text, admits⟩
  · simp [number] at last
  · rw [number] at admits
    have spelling : t.spelling = String.ofList run := by
      rw [Token.spelling, text]
      rfl
    refine ⟨run, text, admits.1, admits.2, ?_⟩
    rw [value, if_pos number, spelling, Numeral.int32?_decimalDigits admits.1 admits.2]

theorem text_of_bad {s : String} {t : Token} (member : t ∈ tokenize s) (bad : t.kind = .bad) :
    ∃ c, t.text = some (String.ofList [c]) := by
  rcases tokenize_admits s t member with last | ⟨run, text, admits⟩
  · simp [bad] at last
  · rw [bad] at admits
    obtain ⟨c, rfl, _⟩ := admits
    exact ⟨c, text⟩

/-- A line's messages are those that its tokens ask for. Of the tokens only numbers have values, none
of them negative, and a number has what its digits denote unless they are refused. -/
theorem messages_and_values_of_line (s : String) :
    Log.messages (lexicalReports s) = (tokenize s).filterMap Token.message? ∧
    ∀ t ∈ tokenize s,
      (t.kind = .bad → ∃ c, t.text = some (String.ofList [c])) ∧
      (t.kind = .number → ∃ digits, t.text = some (String.ofList digits) ∧ digits ≠ [] ∧
        (∀ c ∈ digits, Text.isDecimalDigit c = true) ∧
        t.value = if Numeral.Refused digits then none else some (Numeral.denoted digits : Int)) ∧
      (t.kind ≠ .number → t.value = none) ∧
      ∀ n, t.value = some n → 0 ≤ n := by
  refine ⟨lexicalReports_messages s, fun t member => ?_⟩
  have valueless (other : t.kind ≠ .number) : t.value = none := by
    rw [tokenize_values s t member, if_neg other]
  refine ⟨text_of_bad member, value_of_number member, valueless, fun n found => ?_⟩
  by_cases number : t.kind = .number
  · obtain ⟨digits, _, _, _, value⟩ := value_of_number member number
    rw [value] at found
    split at found
    · cases found
    · obtain rfl := Option.some.inj found
      exact Int.natCast_nonneg _
  · rw [valueless number] at found
    cases found

theorem messages_and_values_of_two_numbers :
    Log.messages (lexicalReports "007&2147483648") =
        ["ERROR: bad character input: '&'", "ERROR: The number 2147483648 is not a valid Int32"] ∧
      (⟨.number, 0, some "007", some 7⟩ : Token) ∈ tokenize "007&2147483648" ∧
      (⟨.number, 4, some "2147483648", none⟩ : Token) ∈ tokenize "007&2147483648" ∧
      Numeral.denoted ['0', '0', '7'] = 7 ∧ Numeral.Refused "2147483648".toList := by
  obtain ⟨messages, tokens⟩ := messages_and_values_of_line "007&2147483648"
  have seven : (⟨.number, 0, some "007", some 7⟩ : Token) ∈ tokenize "007&2147483648" := by
    decide +kernel
  have high : (⟨.number, 4, some "2147483648", none⟩ : Token) ∈ tokenize "007&2147483648" := by
    decide +kernel
  obtain ⟨-, reads, -⟩ := tokens _ seven
  obtain ⟨-, refuses, -⟩ := tokens _ high
  obtain ⟨digits, text, -, -, value⟩ := reads rfl
  obtain ⟨others, otherText, -, -, none⟩ := refuses rfl
  have same : digits = ['0', '0', '7'] := String.ofList_inj.mp (Option.some.inj text).symm
  have otherSame : others = "2147483648".toList := by
    rw [Option.some.inj otherText, String.toList_ofList]
  refine ⟨messages.trans (by decide +kernel), seven, high, ?_, ?_⟩
  · rw [same] at value
    split at value
    · cases value
    · exact Int.ofNat.inj (Option.some.inj value).symm
  · rw [otherSame] at none
    split at none
    · assumption
    · cases none

end Syntax
end LineCalc
