import LineCalc.Toml.Scalar

/-!
How the leaves of a document are read. Each reader takes characters off the front, so that what remains
stands at the end of what there was; and none refuses a text other than as malformed, but for a number
with too many digits that stands in it.
-/
namespace LineCalc.Toml

/-- A run of so many digits, more than are read, perhaps with underscores among them. -/
def HasLongNumber (digits : Nat) (cs : List Char) : Prop :=
  ∃ run, run <:+: cs ∧ (∀ c ∈ run, isDigit c = true ∨ c = '_') ∧
    (run.filter isDigit).length = digits ∧ Numeral.maxDigits < digits

def Advances {α : Type} (remains : α → List Char) (cs : List Char) : Except Error α → Prop
  | .ok a => remains a <:+ cs
  | .error .malformed => True
  | .error (.tooManyDigits digits) => HasLongNumber digits cs

instance suffixTrans : Trans (@List.IsSuffix Char) (@List.IsSuffix Char) (@List.IsSuffix Char) :=
  ⟨List.IsSuffix.trans⟩

variable {α β : Type} {cs rest : List Char}

theorem suffix_of_cons {c : Char} (suffix : c :: rest <:+ cs) : rest <:+ cs :=
  (List.suffix_cons c rest).trans suffix

theorem HasLongNumber.of_suffix {digits : Nat} (long : HasLongNumber digits rest)
    (suffix : rest <:+ cs) : HasLongNumber digits cs := by
  obtain ⟨run, within, found⟩ := long
  exact ⟨run, within.trans suffix.isInfix, found⟩

theorem not_hasLongNumber_of_length_le {digits : Nat} (short : cs.length ≤ Numeral.maxDigits) :
    ¬ HasLongNumber digits cs := by
  rintro ⟨run, within, -, rfl, long⟩
  have kept := List.length_filter_le isDigit run
  have fits := within.length_le
  omega

namespace Advances

variable {remains : α → List Char} {remains' : β → List Char}

theorem of_suffix {result : Except Error α} (advances : Advances remains rest result)
    (suffix : rest <:+ cs) : Advances remains cs result := by
  match result with
  | .ok a => exact List.IsSuffix.trans advances suffix
  | .error .malformed => trivial
  | .error (.tooManyDigits digits) => exact HasLongNumber.of_suffix advances suffix

theorem after_cons {c : Char} {result : Except Error α} (advances : Advances remains rest result) :
    Advances remains (c :: rest) result :=
  advances.of_suffix (List.suffix_cons c rest)

theorem bind {result : Except Error α} {next : α → Except Error β}
    (first : Advances remains cs result)
    (second : ∀ a, remains a <:+ cs → Advances remains' cs (next a)) :
    Advances remains' cs (result >>= next) := by
  match result with
  | .ok a => exact second a first
  | .error .malformed => trivial
  | .error (.tooManyDigits digits) => exact first

theorem map {result : Except Error α} {f : α → β} (first : Advances remains cs result)
    (same : ∀ a, remains' (f a) <:+ remains a) : Advances remains' cs (result.map f) := by
  match result with
  | .ok a => exact (same a).trans first
  | .error .malformed => trivial
  | .error (.tooManyDigits digits) => exact first

end Advances

/-! Texts and keys. -/

theorem skipSpace_suffix (cs : List Char) : skipSpace cs <:+ cs := List.dropWhile_suffix _

theorem skipSpaceAndLines_suffix (cs : List Char) : skipSpaceAndLines cs <:+ cs :=
  List.dropWhile_suffix _

theorem skipComment_advances (cs : List Char) : Advances id cs (skipComment cs) := by
  unfold skipComment
  split
  · split
    · trivial
    · exact (List.dropWhile_suffix _).trans (List.suffix_cons _ _)
  · exact List.suffix_rfl

theorem codePoint_advances (places : Nat) (cs : List Char) :
    Advances Prod.snd cs (codePoint places cs) := by
  simp only [codePoint]
  split
  · exact List.drop_suffix places cs
  · trivial

theorem escaped_advances (manyLines : Bool) (cs : List Char) :
    Advances Prod.snd cs (escaped manyLines cs) := by
  unfold escaped
  split
  case h_8 r | h_9 r =>
    exact (codePoint_advances _ r).after_cons.map fun _ => List.suffix_rfl
  case h_10 c r _ _ _ _ _ _ _ _ _ =>
    have skipped := skipSpace_suffix (c :: r)
    split
    · split
      · exact List.nil_suffix
      · next line same =>
        rw [same] at skipped
        exact (skipSpaceAndLines_suffix line).trans (suffix_of_cons skipped)
      · trivial
    · trivial
  case h_11 => trivial
  all_goals exact List.suffix_cons _ _

theorem basicRest_advances (manyLines : Bool) (rounds : Nat) (cs : List Char) :
    Advances Prod.snd cs (basicRest manyLines rounds cs) := by
  fun_induction basicRest manyLines rounds cs with
  | case1 | case2 | case7 => trivial
  | case3 rounds r => exact List.suffix_cons _ r
  | case4 rounds closing after => exact ⟨['\x22', '\x22', '\x22'], rfl⟩
  | case5 rounds r _ _ ih =>
    exact ih.after_cons.map fun _ => List.suffix_rfl
  | case6 rounds r ih =>
    refine (escaped_advances manyLines r).after_cons.bind ?_
    intro (chars, r') remains
    exact ((ih r').of_suffix remains).bind fun _ behind => behind
  | case8 rounds c r _ _ _ ih =>
    exact ih.after_cons.map fun _ => List.suffix_rfl

theorem basicText_advances (cs : List Char) : Advances Prod.snd cs (basicText cs) :=
  (basicRest_advances false _ cs).map fun _ => List.suffix_rfl

theorem literalText_advances (cs : List Char) : Advances Prod.snd cs (literalText cs) := by
  simp only [literalText]
  split
  · next quote rest found =>
    split
    · trivial
    · have behind : quote :: rest <:+ cs := found ▸ List.dropWhile_suffix _
      exact suffix_of_cons behind
  · trivial

theorem literalLines_advances (cs : List Char) : Advances Prod.snd cs (literalLines cs) := by
  fun_induction literalLines cs with
  | case1 | case3 => trivial
  | case2 rest => exact ⟨['\x27', '\x27', '\x27'], rfl⟩
  | case4 c r _ _ ih =>
    exact ih.after_cons.map fun _ => List.suffix_rfl

theorem dropFirstLineEnd_suffix (cs : List Char) : dropFirstLineEnd cs <:+ cs := by
  unfold dropFirstLineEnd
  split
  · exact List.suffix_cons _ _
  · exact List.suffix_rfl

theorem basicLines_advances (cs : List Char) : Advances Prod.snd cs (basicLines cs) :=
  ((basicRest_advances true _ _).of_suffix (dropFirstLineEnd_suffix cs)).map
    fun (_, rest) => List.drop_suffix _ rest

theorem literalLinesText_advances (cs : List Char) : Advances Prod.snd cs (literalLinesText cs) :=
  ((literalLines_advances _).of_suffix (dropFirstLineEnd_suffix cs)).map
    fun (_, rest) => List.drop_suffix _ rest

theorem keyPart_advances (cs : List Char) : Advances Prod.snd cs (keyPart cs) := by
  unfold keyPart
  split
  · next r => exact (literalText_advances r).after_cons
  · next r => exact (basicText_advances r).after_cons
  · split
    · exact List.dropWhile_suffix _
    · trivial
  · trivial

theorem keyParts_advances (rounds : Nat) (cs : List Char) :
    Advances Prod.snd cs (keyParts rounds cs) := by
  induction rounds generalizing cs with
  | zero => trivial
  | succ rounds ih =>
    rw [keyParts]
    refine (keyPart_advances cs).bind fun (part, r) behind => ?_
    have skipped := (skipSpace_suffix r).trans behind
    dsimp only
    split
    · next r' dot =>
      rw [dot] at skipped
      have next := suffix_of_cons skipped
      refine ((ih _).of_suffix ((skipSpace_suffix r').trans next)).bind ?_
      exact fun _ remains => remains
    · exact skipped

theorem key_advances (cs : List Char) : Advances Prod.snd cs (key cs) := keyParts_advances _ cs

/-! Numbers, dates and times. -/

theorem exists_digitRun {p : Char → Bool} (low : p '_' = false) (cs : List Char) :
    ∃ run, cs = run ++ (digitRun p cs).2 ∧ (∀ c ∈ run, p c = true ∨ c = '_') ∧
      run.filter p = (digitRun p cs).1 := by
  fun_induction digitRun p cs with
  | case1 => exact ⟨[], rfl, by simp, rfl⟩
  | case2 c digit => exact ⟨[c], rfl, by simp [digit], by simp [digit]⟩
  | case3 c noDigit | case6 c _ _ noDigit | case8 c _ _ _ noDigit => exact ⟨[], rfl, by simp, rfl⟩
  | case4 c d r digit digit' digits rest same ih =>
    obtain ⟨run, whole, kept, filtered⟩ := ih
    rw [same] at whole filtered
    refine ⟨c :: '_' :: run, by simp [whole], ?_, by simp [digit, low, filtered]⟩
    simpa [digit] using kept
  | case5 c d r digit _ => exact ⟨[c], rfl, by simp [digit], by simp [digit]⟩
  | case7 c d r _ digit digits rest same ih =>
    obtain ⟨run, whole, kept, filtered⟩ := ih
    rw [same] at whole filtered
    refine ⟨c :: run, by simp [whole], ?_, by simp [digit, filtered]⟩
    simpa [digit] using kept

theorem digitRun_suffix {p : Char → Bool} (low : p '_' = false) (cs : List Char) :
    (digitRun p cs).2 <:+ cs := by
  obtain ⟨run, whole, -⟩ := exists_digitRun low cs
  exact ⟨run, whole.symm⟩

theorem signOf_suffix (cs : List Char) : (signOf cs).2 <:+ cs := by
  unfold signOf
  split
  · exact List.suffix_cons _ _
  · exact List.suffix_cons _ _
  · exact List.suffix_rfl

theorem exists_wholePart {whole : List Char} (read : wholePart? cs = some (whole, rest)) :
    ∃ run, cs = run ++ rest ∧ (∀ c ∈ run, isDigit c = true ∨ c = '_') ∧
      run.filter isDigit = whole := by
  unfold wholePart? at read
  split at read
  · cases read
    exact ⟨['0'], rfl, fun c zero => .inl (List.mem_singleton.mp zero ▸ rfl), rfl⟩
  · next c r _ =>
    split at read
    · obtain ⟨run, found⟩ := exists_digitRun (p := isDigit) (by decide) (c :: r)
      rw [Option.some.inj read] at found
      exact ⟨run, found⟩
    · cases read
  · cases read

theorem fractionPart_suffix (cs : List Char) : (fractionPart cs).2 <:+ cs := by
  unfold fractionPart
  split
  · next r =>
    have behind := digitRun_suffix (p := isDigit) (by decide) r
    split
    · exact List.suffix_rfl
    · exact behind.trans (List.suffix_cons _ r)
  · exact List.suffix_rfl

theorem exponentPart_suffix {power : Int} (read : exponentPart? cs = some (power, rest)) :
    rest <:+ cs := by
  unfold exponentPart? at read
  split at read
  · next c r =>
    split at read
    · have behind := digitRun_suffix (p := isDigit) (by decide) (signOf r).2
      simp only at read
      split at read
      · cases read
      · next digits rest' _ found =>
        rw [found] at behind
        cases read
        exact (behind.trans (signOf_suffix r)).trans (List.suffix_cons c r)
    · cases read
  · cases read

theorem decimal_advances {result : Except Error (Part Data)} (read : decimal? cs = some result) :
    Advances Prod.snd cs result := by
  simp only [decimal?] at read
  split at read
  · cases read
  next whole afterWhole found =>
  obtain ⟨run, split, kept, filtered⟩ := exists_wholePart found
  have unsigned := signOf_suffix cs
  have behindWhole : afterWhole <:+ cs := .trans ⟨run, split.symm⟩ unsigned
  have behindFraction := (fractionPart_suffix afterWhole).trans behindWhole
  split at read
  · cases read
    split
    · exact behindFraction
    · next long =>
      refine ⟨run, ?_, kept, congrArg List.length filtered, by omega⟩
      exact .trans ⟨[], afterWhole, by simp [split]⟩ unsigned.isInfix
  · cases read
    cases power : exponentPart? (fractionPart afterWhole).2 with
    | none => exact behindFraction
    | some read => exact (exponentPart_suffix power).trans behindFraction

theorem basedDigits_suffix {base n : Nat} {p : Char → Bool} (low : p '_' = false)
    (read : basedInt?.digits? base p cs = some (n, rest)) : rest <:+ cs := by
  have behind := digitRun_suffix low cs
  unfold basedInt?.digits? at read
  split at read
  · cases read
  · next found =>
    rw [found] at behind
    cases read
    exact behind

theorem basedInt_suffix {n : Nat} (read : basedInt? cs = some (n, rest)) : rest <:+ cs := by
  unfold basedInt? at read
  split at read
  case h_4 => cases read
  all_goals exact (basedDigits_suffix (by decide) read).trans (List.suffix_cons _ _)

theorem number_advances {result : Except Error (Part Data)} (read : number? cs = some result) :
    Advances Prod.snd cs result := by
  unfold number? at read
  split at read
  · next r =>
    split at read
    · next based =>
      cases read
      exact (basedInt_suffix based).trans (List.suffix_cons _ r)
    · exact decimal_advances read
  · exact decimal_advances read

theorem specialFloat_suffix {x : Binary64} (read : specialFloat? cs = some (x, rest)) :
    rest <:+ cs := by
  have unsigned := signOf_suffix cs
  simp only [specialFloat?] at read
  split at read
  · next whole =>
    rw [whole] at unsigned
    cases read
    exact .trans ⟨['i', 'n', 'f'], rfl⟩ unsigned
  · next whole =>
    rw [whole] at unsigned
    cases read
    exact .trans ⟨['n', 'a', 'n'], rfl⟩ unsigned
  · cases read

theorem fixedNumber_suffix {places low high n : Nat}
    (read : fixedNumber? places low high cs = some (n, rest)) : rest <:+ cs := by
  simp only [fixedNumber?, Option.ite_none_right_eq_some, Option.some.injEq, Prod.mk.injEq] at read
  obtain ⟨-, -, -, rfl⟩ := read
  exact List.drop_suffix places cs

theorem mark_suffix {c : Char} (read : mark? c cs = some rest) : rest <:+ cs := by
  unfold mark? at read
  split at read
  · split at read
    · cases read
      exact List.suffix_cons _ _
    · cases read
  · cases read

theorem secondFraction_suffix (cs : List Char) : (secondFraction cs).2 <:+ cs := by
  unfold secondFraction
  split
  · next c r =>
    split
    · exact (List.dropWhile_suffix _).trans ⟨['.', c], rfl⟩
    · exact List.suffix_rfl
  · exact List.suffix_rfl

theorem time_suffix {time : ClockTime} (read : time? cs = some (time, rest)) : rest <:+ cs := by
  simp only [time?, bind, Option.bind_eq_some_iff] at read
  obtain ⟨⟨hour, r₁⟩, hour?, r₂, mark₁, ⟨minute, r₃⟩, minute?, r₄, mark₂, ⟨second, r₅⟩, second?, last⟩ :=
    read
  cases last
  calc (secondFraction r₅).2
    _ <:+ r₅ := secondFraction_suffix r₅
    _ <:+ r₄ := fixedNumber_suffix second?
    _ <:+ r₃ := mark_suffix mark₂
    _ <:+ r₂ := fixedNumber_suffix minute?
    _ <:+ r₁ := mark_suffix mark₁
    _ <:+ cs := fixedNumber_suffix hour?

theorem offset_suffix {offset : Int} (read : offset? cs = some (offset, rest)) : rest <:+ cs := by
  unfold offset? at read
  split at read
  · next c r =>
    refine .trans ?_ (List.suffix_cons c r)
    split at read
    · cases read
      exact List.suffix_rfl
    split at read
    · simp only [bind, Option.bind_eq_some_iff] at read
      obtain ⟨⟨hours, r₁⟩, hours?, r₂, mark, ⟨minutes, r₃⟩, minutes?, last⟩ := read
      cases last
      calc r₃
        _ <:+ r₂ := fixedNumber_suffix minutes?
        _ <:+ r₁ := mark_suffix mark
        _ <:+ r := fixedNumber_suffix hours?
    · cases read
  · cases read

theorem date_advances {result : Except Error (Part Moment)} (read : date? cs = some result) :
    Advances Prod.snd cs result := by
  simp only [date?, bind, Option.bind_eq_some_iff] at read
  obtain ⟨⟨year, r₁⟩, year?, r₂, mark₁, ⟨month, r₃⟩, month?, r₄, mark₂, ⟨day, r₅⟩, day?, last⟩ := read
  have behindDate : r₅ <:+ cs := calc r₅
    _ <:+ r₄ := fixedNumber_suffix day?
    _ <:+ r₃ := mark_suffix mark₂
    _ <:+ r₂ := fixedNumber_suffix month?
    _ <:+ r₁ := mark_suffix mark₁
    _ <:+ cs := fixedNumber_suffix year?
  dsimp only at last
  split at last
  · cases last
    trivial
  split at last
  · cases last
    exact behindDate
  next time t timed =>
  have behindTime : t <:+ cs := by
    refine .trans ?_ behindDate
    split at timed
    · split at timed
      · exact (time_suffix timed).trans (List.suffix_cons _ _)
      · cases timed
    · cases timed
  split at last
  · cases last
    exact behindTime
  · next found =>
    cases last
    exact (offset_suffix found).trans behindTime

end LineCalc.Toml
