import LineCalc.Numeral

/-!
Numerals of nothing but decimal digits denote what the digits do in base ten; and what is written of
a number in decimal is read as that number.
-/
namespace LineCalc.Numeral

variable {digits : List Char}

theorem isSpace_of_isDecimalDigit {c : Char} (digit : Text.isDecimalDigit c = true) :
    isSpace c = false := by
  refine Bool.eq_false_iff.mpr fun space => ?_
  simp only [isSpace, Bool.or_eq_true, decide_eq_true_eq] at space
  rcases space with ((((rfl | rfl) | rfl) | rfl) | rfl) | rfl
  all_goals exact absurd digit (by decide)

theorem dropWhile_isSpace {cs : List Char} (solid : ∀ c ∈ cs.head?, isSpace c = false) :
    cs.dropWhile isSpace = cs := by
  cases cs with
  | nil => rfl
  | cons c rest => rw [List.dropWhile_cons_of_neg (by simp [solid c rfl])]

theorem trim_digits (every : ∀ c ∈ digits, Text.isDecimalDigit c = true) : trim digits = digits := by
  have solid : ∀ c ∈ digits, isSpace c = false := fun c member =>
    isSpace_of_isDecimalDigit (every c member)
  have forwards := dropWhile_isSpace fun c head => solid c (List.mem_of_mem_head? head)
  have backwards : digits.reverse.dropWhile isSpace = digits.reverse := by
    apply dropWhile_isSpace
    intro c head
    exact solid c (List.mem_reverse.mp (List.mem_of_mem_head? head))
  rw [trim, forwards, backwards, List.reverse_reverse]

theorem digits?_digits (nonempty : digits ≠ [])
    (every : ∀ c ∈ digits, Text.isAsciiDigit c = true) : digits? digits = some digits := by
  fun_induction digits? digits with
  | case1 => exact absurd rfl nonempty
  | case2 c digit => rfl
  | case3 c other => exact absurd (every c (by simp)) other
  | case4 c r digit ih => exact absurd (every '_' (by simp)) (by decide)
  | case5 c r other => exact absurd (every c (by simp)) other
  | case6 c d r under digit ih =>
    rw [ih (by simp) fun e member => every e (List.mem_cons_of_mem c member), Option.map_some]
  | case7 c d r under other => exact absurd (every c (by simp)) other

theorem signed?_of_head {cs : List Char} (first : ∀ c ∈ cs.head?, Text.isDecimalDigit c = true) :
    signed? cs = (magnitude? cs).map fun n => (n : Int) := by
  unfold signed?
  split
  · exact absurd (first '-' rfl) (by decide)
  · exact absurd (first '+' rfl) (by decide)
  · rfl

theorem int?_decimalDigits (every : ∀ c ∈ digits, Text.isDecimalDigit c = true) :
    int? (String.ofList digits) = (magnitude? digits).map fun n => (n : Int) := by
  rw [int?, String.toList_ofList, trim_digits every]
  exact signed?_of_head fun c head => every c (List.mem_of_mem_head? head)

theorem int?_digits (nonempty : digits ≠ [])
    (every : ∀ c ∈ digits, Text.isAsciiDigit c = true) :
    int? (String.ofList digits) =
      if digits.length ≤ maxDigits then some (value digits : Int) else none := by
  have decimal : ∀ c ∈ digits, Text.isDecimalDigit c = true := fun c member =>
    Text.isDecimalDigit_of_isAsciiDigit (every c member)
  rw [int?_decimalDigits decimal, magnitude?, digits?_digits nonempty every, Option.bind_some]
  split <;> rfl

/-! Numbers written in decimal. -/

theorem value_toDigits (n : Nat) : value (Nat.toDigits 10 n) = n :=
  Nat.ofDigitChars_toDigits (by decide) (by decide)

theorem length_toDigits {n : Nat} (bound : (n : Int) ≤ Word.highest) :
    (Nat.toDigits 10 n).length ≤ maxDigits := by
  unfold Word.highest at bound
  have short : (Nat.toDigits 10 n).length ≤ 10 :=
    (Nat.length_toDigits_le_iff (by decide) (by decide)).mpr (by omega)
  exact Nat.le_trans short (by decide)

theorem int32?_toString {n : Nat} (bound : (n : Int) ≤ Word.highest) :
    int32? (toString n) = some (n : Int) := by
  have every : ∀ c ∈ Nat.toDigits 10 n, Text.isAsciiDigit c = true := fun c member =>
    Nat.isDigit_of_mem_toDigits (by decide) (by decide) member
  have range : Word.InRange n := ⟨by unfold Word.lowest; omega, bound⟩
  rw [int32?, Nat.toString_eq_ofList_toDigits, int?_digits Nat.toDigits_ne_nil every,
    if_pos (length_toDigits bound), value_toDigits, Option.filter_some, decide_eq_true range]
  rfl

end LineCalc.Numeral
