import LineCalc.Proofs.TomlReading
import LineCalc.Toml.Document

/-!
Values, statements and whole documents are read as their leaves are: what is refused is malformed,
unless a number with too many digits stands in the text.
-/
namespace LineCalc.Toml

variable {cs : List Char}

theorem scalar_advances (cs : List Char) : Advances Prod.snd cs (scalar cs) := by
  unfold scalar
  split
  · next read => exact (date_advances read).map fun _ => List.suffix_rfl
  split
  · next read => exact time_suffix read
  split
  · next read => exact number_advances read
  split
  · next read => exact specialFloat_suffix read
  · trivial

theorem between_advances (cs : List Char) : Advances id cs (between cs) := by
  unfold between
  generalize cs.length + 1 = rounds
  fun_induction skipBetweenItems rounds cs with
  | case1 => exact List.suffix_rfl
  | case2 rounds cs r comment ih =>
    refine ((skipComment_advances _).of_suffix (comment ▸ skipSpaceAndLines_suffix cs)).bind ?_
    exact fun rest behind => (ih rest).of_suffix behind
  | case3 rounds cs => exact skipSpaceAndLines_suffix cs

/-! Tables take nothing off the text while they are built. -/

theorem withNest_advances {enterLists : Bool} {change : Entries → Except Error Entries}
    (changes : ∀ entries, Advances (fun _ => cs) cs (change entries)) (path : Key)
    (entries : Entries) : Advances (fun _ => cs) cs (withNest enterLists change path entries) := by
  induction path generalizing entries with
  | nil => exact changes entries
  | cons name path ih =>
    rw [withNest]
    split
    · exact (ih []).bind fun _ _ => List.suffix_rfl
    · next inner _ => exact (ih inner).bind fun _ _ => List.suffix_rfl
    · split
      · next inner _ => exact (ih inner).bind fun _ _ => List.suffix_rfl
      · trivial
    · trivial

theorem addNew_advances (name : String) (value : Data) (entries : Entries) :
    Advances (fun _ => cs) cs (addNew name value entries) := by
  unfold addNew
  split
  · trivial
  · exact List.suffix_rfl

theorem InlineTable.add_advances (table : InlineTable) (key : Key) (value : Data) :
    Advances (fun _ => cs) cs (table.add key value) := by
  unfold add
  split
  · trivial
  · exact (withNest_advances (addNew_advances _ value) _ _).bind fun _ _ => List.suffix_rfl

section Rounds

variable {rounds : Nat}

theorem value_advances_of (items : ∀ cs, Advances Prod.snd cs (arrayItems rounds cs))
    (entries : ∀ table cs, Advances Prod.snd cs (inlineEntries rounds table cs)) (cs : List Char) :
    Advances Prod.snd cs (value (rounds + 1) cs) := by
  unfold value
  split
  · next r =>
    exact ((basicLines_advances r).of_suffix ⟨['\x22', '\x22', '\x22'], rfl⟩).map
      fun _ => List.suffix_rfl
  · next r _ =>
    exact (basicText_advances r).after_cons.map fun _ => List.suffix_rfl
  · next r =>
    exact ((literalLinesText_advances r).of_suffix ⟨['\x27', '\x27', '\x27'], rfl⟩).map
      fun _ => List.suffix_rfl
  · next r _ =>
    exact (literalText_advances r).after_cons.map fun _ => List.suffix_rfl
  · exact ⟨['t', 'r', 'u', 'e'], rfl⟩
  · exact ⟨['f', 'a', 'l', 's', 'e'], rfl⟩
  · next r =>
    refine (between_advances r).after_cons.bind fun r' behind => ?_
    exact ((items r').of_suffix behind).bind fun _ behind => behind
  · next r =>
    have behind := (skipSpace_suffix r).trans (List.suffix_cons '\x7b' r)
    split
    · next rest closed =>
      rw [closed] at behind
      exact suffix_of_cons behind
    · exact ((entries {} _).of_suffix behind).map fun _ => List.suffix_rfl
  · exact scalar_advances cs

theorem arrayItems_advances_of (values : ∀ cs, Advances Prod.snd cs (value rounds cs))
    (items : ∀ cs, Advances Prod.snd cs (arrayItems rounds cs)) (cs : List Char) :
    Advances Prod.snd cs (arrayItems (rounds + 1) cs) := by
  unfold arrayItems
  split
  · exact List.suffix_cons _ _
  refine (values cs).bind fun (item, r) behind => ?_
  refine ((between_advances r).of_suffix behind).bind fun r' behind => ?_
  dsimp only
  split
  · exact suffix_of_cons behind
  · next r =>
    refine ((between_advances r).of_suffix (suffix_of_cons behind)).bind ?_
    intro r' behind
    exact ((items r').of_suffix behind).bind fun _ behind => behind
  · trivial

theorem inlineEntries_advances_of (values : ∀ cs, Advances Prod.snd cs (value rounds cs))
    (entries : ∀ table cs, Advances Prod.snd cs (inlineEntries rounds table cs))
    (table : InlineTable) (cs : List Char) :
    Advances Prod.snd cs (inlineEntries (rounds + 1) table cs) := by
  rw [inlineEntries]
  refine (key_advances cs).bind fun (name, r) behind => ?_
  dsimp only
  split
  · next r =>
    have atValue := (skipSpace_suffix r).trans (suffix_of_cons behind)
    refine ((values _).of_suffix atValue).bind fun (item, r) behind => ?_
    refine (table.add_advances name item).bind fun table _ => ?_
    have afterValue := (skipSpace_suffix r).trans behind
    split
    · next rest closed =>
      rw [closed] at afterValue
      exact suffix_of_cons afterValue
    · next r comma =>
      rw [comma] at afterValue
      refine (entries table _).of_suffix ((skipSpace_suffix r).trans ?_)
      exact suffix_of_cons afterValue
    · trivial
  · trivial

/-- Values, the items of arrays and the entries of inline tables refer to each other with one round
less. -/
theorem readers_advance (rounds : Nat) :
    (∀ cs, Advances Prod.snd cs (value rounds cs)) ∧
    (∀ cs, Advances Prod.snd cs (arrayItems rounds cs)) ∧
    ∀ table cs, Advances Prod.snd cs (inlineEntries rounds table cs) := by
  induction rounds with
  | zero => exact ⟨fun _ => trivial, fun _ => trivial, fun _ _ => trivial⟩
  | succ rounds ih =>
    obtain ⟨values, items, entries⟩ := ih
    exact ⟨value_advances_of items entries, arrayItems_advances_of values items,
      inlineEntries_advances_of values entries⟩

end Rounds

theorem assignment_advances (cs : List Char) : Advances Prod.snd cs (assignment cs) := by
  unfold assignment
  refine (key_advances cs).bind fun (name, r) behind => ?_
  dsimp only
  split
  · next r =>
    have atValue := (skipSpace_suffix r).trans (suffix_of_cons behind)
    exact (((readers_advance _).1 _).of_suffix atValue).bind fun _ behind => behind
  · trivial

/-! Statements. -/

namespace Draft

theorem openTable_advances (draft : Draft) (key : Key) :
    Advances (fun _ => cs) cs (draft.openTable key) := by
  simp only [openTable]
  split
  · trivial
  · have unchanged (entries : Entries) : Advances (fun _ => cs) cs (.ok entries) := List.suffix_rfl
    exact (withNest_advances unchanged key _).bind fun _ _ => List.suffix_rfl

theorem appendTable_advances (name : String) (entries : Entries) :
    Advances (fun _ => cs) cs (appendTable name entries) := by
  unfold appendTable
  split
  · exact List.suffix_rfl
  · exact List.suffix_rfl
  · trivial

theorem openItem_advances (draft : Draft) (key : Key) :
    Advances (fun _ => cs) cs (draft.openItem key) := by
  unfold openItem
  split
  · trivial
  · exact (withNest_advances (appendTable_advances _) _ _).bind fun _ _ => List.suffix_rfl

theorem assign_advances (draft : Draft) (key : Key) (value : Data) :
    Advances (fun _ => cs) cs (draft.assign key value) := by
  simp only [assign]
  split
  · trivial
  split
  · trivial
  · exact (withNest_advances (addNew_advances _ value) _ _).bind fun _ _ => List.suffix_rfl

end Draft

theorem statement_advances (draft : Draft) (cs : List Char) :
    Advances Prod.snd cs (statement draft cs) := by
  unfold statement
  split
  · next r =>
    have atKey := (skipSpace_suffix r).trans ⟨['[', '['], rfl⟩
    refine ((key_advances _).of_suffix atKey).bind fun (name, r) behind => ?_
    refine (draft.openItem_advances name).bind fun draft _ => ?_
    split
    · exact .trans ⟨[']', ']'], rfl⟩ behind
    · trivial
  · next r _ =>
    have atKey := (skipSpace_suffix r).trans (List.suffix_cons '[' r)
    refine ((key_advances _).of_suffix atKey).bind fun (name, r) behind => ?_
    refine (draft.openTable_advances name).bind fun draft _ => ?_
    split
    · exact suffix_of_cons behind
    · trivial
  · exact List.suffix_rfl
  · split
    · refine (assignment_advances _).bind fun ((name, item), r) behind => ?_
      exact (draft.assign_advances name item).bind fun _ _ => behind
    · trivial
  · exact List.suffix_rfl

theorem statements_advances (rounds : Nat) (draft : Draft) (cs : List Char) :
    Advances (fun _ => []) cs (statements rounds draft cs) := by
  induction rounds generalizing draft cs with
  | zero => trivial
  | succ rounds ih =>
    have behind := skipSpace_suffix cs
    rw [statements]
    split
    · exact List.nil_suffix
    · next r found =>
      rw [found] at behind
      exact (ih draft r).of_suffix (suffix_of_cons behind)
    · refine ((statement_advances draft _).of_suffix behind).bind fun (draft, r) behind => ?_
      have comment := (skipComment_advances _).of_suffix ((skipSpace_suffix r).trans behind)
      refine comment.bind fun r behind => ?_
      split
      · exact List.nil_suffix
      · next r =>
        exact (ih draft r).of_suffix (suffix_of_cons behind)
      · trivial

/-! Line ends. -/

theorem prefix_of_joinLineEnds {run : List Char} (within : run <+: joinLineEnds cs)
    (oneLine : '\n' ∉ run) : run <+: cs := by
  fun_induction joinLineEnds cs generalizing run with
  | case1 => exact within
  | case2 r =>
    rcases List.prefix_cons_iff.mp within with rfl | ⟨run, rfl, -⟩
    · exact List.nil_prefix
    · exact absurd List.mem_cons_self oneLine
  | case3 c r _ ih =>
    rcases List.prefix_cons_iff.mp within with rfl | ⟨run, rfl, -⟩
    · exact List.nil_prefix
    · have behind := (List.prefix_cons_inj c).mp within
      exact (List.prefix_cons_inj c).mpr (ih behind (List.not_mem_of_not_mem_cons oneLine))

theorem infix_of_joinLineEnds {run : List Char} (within : run <:+: joinLineEnds cs)
    (oneLine : '\n' ∉ run) : run <:+: cs := by
  fun_induction joinLineEnds cs with
  | case1 => exact within
  | case2 r ih =>
    rcases List.infix_cons_iff.mp within with front | behind
    · have unjoined : run <+: '\r' :: '\n' :: r := prefix_of_joinLineEnds front oneLine
      exact unjoined.isInfix
    · exact (ih behind).trans ⟨['\r', '\n'], [], by simp⟩
  | case3 c r notLineEnd ih =>
    rcases List.infix_cons_iff.mp within with front | behind
    · rw [← joinLineEnds.eq_3 c r notLineEnd] at front
      exact (prefix_of_joinLineEnds front oneLine).isInfix
    · exact (ih behind).trans (List.suffix_cons c r).isInfix

theorem HasLongNumber.of_joinLineEnds {digits : Nat} (long : HasLongNumber digits (joinLineEnds cs)) :
    HasLongNumber digits cs := by
  obtain ⟨run, within, kept, found⟩ := long
  have oneLine : '\n' ∉ run := fun lineEnd => absurd (kept _ lineEnd) (by decide)
  exact ⟨run, infix_of_joinLineEnds within oneLine, kept, found⟩

/-- Whatever is wrong with a document, it is refused as malformed, unless a number with too many digits
stands in it. -/
theorem hasLongNumber_of_parse {s : String} {digits : Nat}
    (refused : parse s = .error (.tooManyDigits digits)) : HasLongNumber digits s.toList := by
  have read := statements_advances ((joinLineEnds s.toList).length + 1) {} (joinLineEnds s.toList)
  simp only [parse] at refused
  cases result : statements ((joinLineEnds s.toList).length + 1) {} (joinLineEnds s.toList) with
  | ok draft => rw [result] at refused; cases refused
  | error error =>
    rw [result] at refused read
    cases refused
    exact HasLongNumber.of_joinLineEnds read

/-! A number with too many digits is refused as such, and not as malformed. -/

theorem bind_of_error {α β : Type} {result : Except Error α} {next : α → Except Error β}
    {error : Error} (failed : result = .error error) : (result >>= next) = .error error := by
  rw [failed]
  rfl

theorem digitRun_digits {p : Char → Bool} (low : p '_' = false) (digits : ∀ c ∈ cs, p c = true) :
    digitRun p cs = (cs, []) := by
  fun_induction digitRun p cs with
  | case1 | case2 => rfl
  | case4 c d r | case5 c d r => exact absurd (digits '_' (by simp)) (by simp [low])
  | case7 c d r _ _ run rest same ih =>
    have read := same.symm.trans (ih fun e within => digits e (List.mem_cons_of_mem c within))
    cases read
    rfl
  | case3 c noDigit | case6 c _ _ noDigit | case8 c _ _ _ noDigit =>
    exact absurd (digits c List.mem_cons_self) noDigit

theorem scalar_nines {n : Nat} (long : Numeral.maxDigits < n) :
    scalar (List.replicate n '9') = .error (.tooManyDigits n) := by
  -- A date and a time want other signs among the first five characters.
  obtain ⟨m, rfl⟩ : ∃ m, n = m + 5 := ⟨n - 5, by simp only [Numeral.maxDigits] at long; omega⟩
  have noDate : date? (List.replicate (m + 5) '9') = none := rfl
  have noTime : time? (List.replicate (m + 5) '9') = none := rfl
  have digits : ∀ c ∈ List.replicate (m + 5) '9', isDigit c = true :=
    fun c nine => List.eq_of_mem_replicate nine ▸ rfl
  have whole : wholePart? (List.replicate (m + 5) '9') = some (List.replicate (m + 5) '9', []) :=
    congrArg some (digitRun_digits (p := isDigit) (by decide) digits)
  have unsigned : signOf (List.replicate (m + 5) '9') = (false, List.replicate (m + 5) '9') := rfl
  have number : number? (List.replicate (m + 5) '9') = some (.error (.tooManyDigits (m + 5))) := by
    have decimal : number? (List.replicate (m + 5) '9') = decimal? (List.replicate (m + 5) '9') := rfl
    simp only [decimal, decimal?, unsigned, whole, fractionPart, exponentPart?]
    simp [Nat.not_le.mpr long]
  simp only [scalar, noDate, noTime, number]

theorem joinLineEnds_of_no_return (plain : '\r' ∉ cs) : joinLineEnds cs = cs := by
  fun_induction joinLineEnds cs with
  | case1 => rfl
  | case2 r => exact absurd List.mem_cons_self plain
  | case3 c r _ ih => rw [ih (List.not_mem_of_not_mem_cons plain)]

theorem parse_nines {n : Nat} (long : Numeral.maxDigits < n) :
    parse ("n = " ++ String.ofList (List.replicate n '9')) = .error (.tooManyDigits n) := by
  obtain ⟨m, rfl⟩ : ∃ m, n = m + 1 := ⟨n - 1, by omega⟩
  have chars : joinLineEnds ("n = " ++ String.ofList (List.replicate (m + 1) '9')).toList =
      'n' :: ' ' :: '=' :: ' ' :: List.replicate (m + 1) '9' := by
    rw [joinLineEnds_of_no_return] <;> simp
  have keyed (r : List Char) : key ('n' :: ' ' :: '=' :: r) = .ok (["n"], '=' :: r) := rfl
  have valued (rounds : Nat) : value (rounds + 1) (List.replicate (m + 1) '9') =
      .error (.tooManyDigits (m + 1)) := scalar_nines long
  have assigned : assignment ('n' :: ' ' :: '=' :: ' ' :: List.replicate (m + 1) '9') =
      .error (.tooManyDigits (m + 1)) := by
    simp only [assignment, keyed, bind, Except.bind]
    exact bind_of_error (valued _)
  have stated : statement {} ('n' :: ' ' :: '=' :: ' ' :: List.replicate (m + 1) '9') =
      .error (.tooManyDigits (m + 1)) := bind_of_error assigned
  have read (rounds : Nat) :
      statements (rounds + 1) {} ('n' :: ' ' :: '=' :: ' ' :: List.replicate (m + 1) '9') =
        .error (.tooManyDigits (m + 1)) := bind_of_error stated
  simp only [parse, chars, read]
  rfl

end LineCalc.Toml
