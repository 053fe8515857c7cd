import LineCalc.Proofs.NumberTokens
import Mathlib.Data.List.DropRight

/-!
The grammar of numerals, said without reading anything: blanks around, one sign or none, and digits
with single underscores between them. A text denotes a word if it is of this form, has not too many
digits, and the word is what they denote; that is when the reader of numerals finds one.
-/
namespace LineCalc.Numeral

def blanks : List Char := ['\t', '\n', '\x0b', '\x0c', '\r', ' ']

structure Grouped (written : List Char) : Prop where
  characters : ∀ c ∈ written, Text.isAsciiDigit c = true ∨ c = '_'
  first : ∃ c ∈ written.head?, Text.isAsciiDigit c = true
  last : ∃ c ∈ written.getLast?, Text.isAsciiDigit c = true
  apart : ¬ ['_', '_'] <:+: written

structure Form where
  before : List Char
  sign : List Char
  written : List Char
  after : List Char

namespace Form

def text (form : Form) : List Char := form.before ++ (form.sign ++ form.written) ++ form.after

def digits (form : Form) : List Char := form.written.filter Text.isAsciiDigit

def value (form : Form) : Int :=
  if form.sign = ['-'] then -(denoted form.digits : Int) else denoted form.digits

structure Regular (form : Form) : Prop where
  before : ∀ c ∈ form.before, c ∈ blanks
  sign : form.sign = [] ∨ form.sign = ['+'] ∨ form.sign = ['-']
  written : Grouped form.written
  after : ∀ c ∈ form.after, c ∈ blanks
  bounded : form.digits.length ≤ 4300

end Form

def Denotes (s : String) (n : Int) : Prop :=
  (∀ c ∈ s.toList, c.toNat < 128) ∧
    ∃ form : Form, form.Regular ∧ form.text = s.toList ∧ form.value = n ∧
      -2 ^ 31 ≤ n ∧ n ≤ 2 ^ 31 - 1

variable {c d : Char} {cs rest digits : List Char} {n : Int} {s : String}

/-! Digits and underscores. -/

theorem ne_underscore (digit : Text.isAsciiDigit c = true) : c ≠ '_' := by
  rintro rfl
  exact absurd digit (by decide)

theorem not_grouped_nil : ¬ Grouped [] := by
  intro grouped
  obtain ⟨c, none, _⟩ := grouped.first
  cases none

theorem Grouped.head_digit (grouped : Grouped (c :: rest)) : Text.isAsciiDigit c = true := by
  obtain ⟨head, same, digit⟩ := grouped.first
  obtain rfl := Option.some.inj same
  exact digit

theorem grouped_singleton : Grouped [c] ↔ Text.isAsciiDigit c = true := by
  constructor
  · exact Grouped.head_digit
  · intro digit
    refine ⟨by simp [digit], ⟨c, rfl, digit⟩, ⟨c, rfl, digit⟩, ?_⟩
    intro twice
    have long := twice.length_le
    simp at long

theorem grouped_cons_cons (digit : Text.isAsciiDigit c = true) (next : d ≠ '_') :
    Grouped (c :: d :: rest) ↔ Grouped (d :: rest) := by
  constructor
  · intro grouped
    have digits := grouped.characters
    refine ⟨fun e member => digits e (List.mem_cons_of_mem c member), ⟨d, rfl, ?_⟩, ?_, ?_⟩
    · exact (digits d (by simp)).resolve_right next
    · simpa [List.getLast?_cons_cons] using grouped.last
    · intro twice
      exact grouped.apart (List.infix_cons twice)
  · intro grouped
    refine ⟨List.forall_mem_cons.mpr ⟨.inl digit, grouped.characters⟩, ⟨c, rfl, digit⟩, ?_, ?_⟩
    · simpa [List.getLast?_cons_cons] using grouped.last
    · intro twice
      rcases List.infix_cons_iff.mp twice with front | inside
      · exact ne_underscore digit (List.cons_prefix_cons.mp front).1.symm
      · exact grouped.apart inside

theorem grouped_underscore (digit : Text.isAsciiDigit c = true) :
    Grouped (c :: '_' :: rest) ↔ Grouped rest := by
  cases rest with
  | nil =>
    refine iff_of_false ?_ not_grouped_nil
    intro grouped
    obtain ⟨last, same, digit⟩ := grouped.last
    obtain rfl := Option.some.inj same
    exact ne_underscore digit rfl
  | cons d rest =>
    constructor
    · intro grouped
      have digits := grouped.characters
      have single : d ≠ '_' := by
        rintro rfl
        exact grouped.apart ⟨[c], rest, rfl⟩
      refine ⟨fun e member => ?_, ⟨d, rfl, ?_⟩, ?_, ?_⟩
      · exact digits e (List.mem_cons_of_mem c (List.mem_cons_of_mem '_' member))
      · exact (digits d (by simp)).resolve_right single
      · simpa [List.getLast?_cons_cons] using grouped.last
      · intro twice
        exact grouped.apart (List.infix_cons (List.infix_cons twice))
    · intro grouped
      refine ⟨?_, ⟨c, rfl, digit⟩, ?_, ?_⟩
      · simpa [digit] using grouped.characters
      · simpa [List.getLast?_cons_cons] using grouped.last
      · intro twice
        rcases List.infix_cons_iff.mp twice with front | inside
        · exact ne_underscore digit (List.cons_prefix_cons.mp front).1.symm
        · rcases List.infix_cons_iff.mp inside with front | deeper
          · have head := (List.cons_prefix_cons.mp (List.cons_prefix_cons.mp front).2).1
            exact ne_underscore grouped.head_digit head.symm
          · exact grouped.apart deeper

theorem digits?_eq_some_iff :
    digits? cs = some digits ↔ Grouped cs ∧ cs.filter Text.isAsciiDigit = digits := by
  have underscore : Text.isAsciiDigit '_' = false := by decide
  fun_induction digits? cs generalizing digits with
  | case1 => simp [not_grouped_nil]
  | case2 c digit => simp [grouped_singleton, digit]
  | case3 c other => simp [grouped_singleton, other]
  | case4 c r digit ih =>
    rw [grouped_underscore digit, Option.map_eq_some_iff, List.filter_cons_of_pos digit,
      List.filter_cons_of_neg (by simp [underscore])]
    simp [ih, and_assoc]
  | case5 c r other => simp [mt Grouped.head_digit other]
  | case6 c d r single digit ih =>
    have next : d ≠ '_' := by
      rintro rfl
      exact single rfl
    rw [grouped_cons_cons digit next, Option.map_eq_some_iff, List.filter_cons_of_pos digit]
    simp [ih, and_assoc]
  | case7 c d r single other => simp [mt Grouped.head_digit other]

theorem magnitude?_eq_some_iff {magnitude : Nat} :
    magnitude? cs = some magnitude ↔
      Grouped cs ∧ (cs.filter Text.isAsciiDigit).length ≤ 4300 ∧
        denoted (cs.filter Text.isAsciiDigit) = magnitude := by
  rw [magnitude?, Option.bind_eq_some_iff]
  constructor
  · rintro ⟨digits, read, found⟩
    obtain ⟨grouped, rfl⟩ := digits?_eq_some_iff.mp read
    split at found
    next few =>
      rw [value_eq_denoted] at found
      exact ⟨grouped, few, Option.some.inj found⟩
    · cases found
  · rintro ⟨grouped, few, rfl⟩
    refine ⟨_, digits?_eq_some_iff.mpr ⟨grouped, rfl⟩, ?_⟩
    rw [maxDigits, if_pos few, value_eq_denoted]

/-! Blanks. -/

theorem isSpace_iff : isSpace c = true ↔ c ∈ blanks := by
  simp only [isSpace, blanks, Bool.or_eq_true, decide_eq_true_eq, List.mem_cons,
    List.not_mem_nil, or_false]
  tauto

theorem trim_append {before core after : List Char} (nonempty : core ≠ [])
    (front : ∀ c ∈ before, isSpace c = true) (back : ∀ c ∈ after, isSpace c = true)
    (first : ∀ c ∈ core.head?, isSpace c = false)
    (last : ∀ c ∈ core.getLast?, isSpace c = false) :
    trim (before ++ core ++ after) = core := by
  have kept : (core ++ after).dropWhile isSpace = core ++ after := by
    apply dropWhile_isSpace
    rwa [List.head?_append_of_ne_nil core nonempty]
  have ending : core.reverse.dropWhile isSpace = core.reverse := by
    apply dropWhile_isSpace
    rwa [List.head?_reverse]
  have backwards : ∀ c ∈ after.reverse, isSpace c = true := by simpa using back
  rw [trim, List.append_assoc, List.dropWhile_append_of_pos front, kept, List.reverse_append,
    List.dropWhile_append_of_pos backwards, ending, List.reverse_reverse]

theorem exists_around_trim (cs : List Char) :
    ∃ before after, before ++ trim cs ++ after = cs ∧
      (∀ c ∈ before, c ∈ blanks) ∧ ∀ c ∈ after, c ∈ blanks := by
  refine ⟨cs.takeWhile isSpace, (cs.dropWhile isSpace).rtakeWhile isSpace, ?_, ?_, ?_⟩
  · have cut : trim cs ++ (cs.dropWhile isSpace).rtakeWhile isSpace = cs.dropWhile isSpace :=
      List.rdropWhile_append_rtakeWhile
    rw [List.append_assoc, cut, List.takeWhile_append_dropWhile]
  · intro c member
    exact isSpace_iff.mp (List.mem_takeWhile_imp member)
  · intro c member
    exact isSpace_iff.mp (List.mem_rtakeWhile_imp member)

/-! Signs. -/

theorem map_lift (f : Int → Int) (found : Option Nat) :
    Option.map f (found : Option Int) = found.map fun magnitude : Nat => f magnitude := by
  cases found <;> rfl

theorem exists_sign (read : signed? cs = some n) :
    ∃ sign written, ∃ magnitude : Nat, sign ++ written = cs ∧
      (sign = [] ∨ sign = ['+'] ∨ sign = ['-']) ∧ magnitude? written = some magnitude ∧
      n = if sign = ['-'] then -(magnitude : Int) else magnitude := by
  unfold signed? at read
  split at read
  next r =>
    rw [map_lift] at read
    obtain ⟨magnitude, found, rfl⟩ := Option.map_eq_some_iff.mp read
    exact ⟨['-'], r, magnitude, rfl, .inr (.inr rfl), found, rfl⟩
  next r =>
    rw [map_lift] at read
    obtain ⟨magnitude, found, rfl⟩ := Option.map_eq_some_iff.mp read
    exact ⟨['+'], r, magnitude, rfl, .inr (.inl rfl), found, rfl⟩
  · rw [map_lift] at read
    obtain ⟨magnitude, found, rfl⟩ := Option.map_eq_some_iff.mp read
    exact ⟨[], cs, magnitude, rfl, .inl rfl, found, rfl⟩

theorem exists_form (read : int? s = some n) :
    ∃ form : Form, form.Regular ∧ form.text = s.toList ∧ form.value = n := by
  obtain ⟨before, after, text, front, back⟩ := exists_around_trim s.toList
  obtain ⟨sign, written, magnitude, core, signs, found, rfl⟩ := exists_sign read
  obtain ⟨grouped, few, rfl⟩ := magnitude?_eq_some_iff.mp found
  refine ⟨⟨before, sign, written, after⟩, ⟨front, signs, grouped, back, few⟩, ?_, rfl⟩
  rw [Form.text, core, text]

namespace Form

variable {form : Form}

theorem Regular.ascii (regular : form.Regular) : ∀ c ∈ form.text, c.toNat < 128 := by
  have low : ∀ c ∈ blanks, c.toNat < 128 := by simp [blanks]
  intro c member
  rcases List.mem_append.mp member with inside | behind
  · rcases List.mem_append.mp inside with front | core
    · exact low c (regular.before c front)
    · rcases List.mem_append.mp core with sign | written
      · rcases regular.sign with none | plus | minus
        · simp [none] at sign
        · rw [plus] at sign
          rw [List.mem_singleton.mp sign]
          decide
        · rw [minus] at sign
          rw [List.mem_singleton.mp sign]
          decide
      · rcases regular.written.characters c written with digit | rfl
        · exact (Text.isAsciiDigit_iff_toNat_lt (Text.isDecimalDigit_of_isAsciiDigit digit)).mp digit
        · decide
  · exact low c (regular.after c behind)

theorem Regular.signed? (regular : form.Regular) :
    signed? (form.sign ++ form.written) = some form.value := by
  have magnitude : magnitude? form.written = some (denoted form.digits) :=
    magnitude?_eq_some_iff.mpr ⟨regular.written, regular.bounded, rfl⟩
  unfold Form.value
  rcases regular.sign with none | plus | minus
  · have digits : ∀ d ∈ form.written.head?, Text.isDecimalDigit d = true := by
      obtain ⟨c, head, digit⟩ := regular.written.first
      intro d other
      rw [← Option.mem_unique head other]
      exact Text.isDecimalDigit_of_isAsciiDigit digit
    rw [none, List.nil_append, signed?_of_head digits, magnitude]
    rfl
  · rw [plus, if_neg (by decide), List.singleton_append, Numeral.signed?, magnitude]
    rfl
  · rw [minus, if_pos rfl, List.singleton_append, Numeral.signed?, magnitude]
    rfl

theorem Regular.trim (regular : form.Regular) :
    trim form.text = form.sign ++ form.written := by
  obtain ⟨first, head, firstDigit⟩ := regular.written.first
  obtain ⟨last, ending, lastDigit⟩ := regular.written.last
  have solid {c : Char} (digit : Text.isAsciiDigit c = true) : isSpace c = false :=
    isSpace_of_isDecimalDigit (Text.isDecimalDigit_of_isAsciiDigit digit)
  have nonempty : form.written ≠ [] := by
    intro none
    simp [none] at head
  apply trim_append
  · simp [nonempty]
  · exact fun c member => isSpace_iff.mpr (regular.before c member)
  · exact fun c member => isSpace_iff.mpr (regular.after c member)
  · intro c front
    rcases regular.sign with none | plus | minus
    · rw [none, List.nil_append, head] at front
      rw [← Option.some.inj front]
      exact solid firstDigit
    · rw [plus] at front
      rw [← Option.some.inj front]
      rfl
    · rw [minus] at front
      rw [← Option.some.inj front]
      rfl
  · intro c back
    rw [List.getLast?_append_of_ne_nil _ nonempty, ending] at back
    rw [← Option.some.inj back]
    exact solid lastDigit

theorem Regular.int? (regular : form.Regular) (text : form.text = s.toList) :
    int? s = some form.value := by
  rw [Numeral.int?, ← text, regular.trim, regular.signed?]

end Form

theorem int32?_eq_some_iff : int32? s = some n ↔ Denotes s n := by
  rw [int32?, Option.filter_eq_some_iff, decide_eq_true_iff]
  constructor
  · rintro ⟨read, range⟩
    obtain ⟨form, regular, text, value⟩ := exists_form read
    refine ⟨?_, form, regular, text, value, range⟩
    rw [← text]
    exact regular.ascii
  · rintro ⟨_, form, regular, text, rfl, range⟩
    exact ⟨regular.int? text, range⟩

/-- The reader of numerals finds a word exactly if the text denotes it, and nothing if the text
denotes none. -/
theorem int32?_reads_what_is_denoted (s : String) :
    (∀ n, int32? s = some n ↔ Denotes s n) ∧ (int32? s = none ↔ ∀ n, ¬ Denotes s n) := by
  constructor
  · intro n
    exact int32?_eq_some_iff
  · rw [Option.eq_none_iff_forall_ne_some]
    exact forall_congr' fun n => not_congr int32?_eq_some_iff

/-- Leading zeros and underscores, on the edge of the range. -/
example : int32? "\t-00_2147_48_3648\n" = some (-2147483648) := by decide +kernel

end LineCalc.Numeral
