import LineCalc.Proofs.MissingTokens

/-!
Where reading first goes wrong. A spot in a line knows which kinds may stand next; what it lets pass
is just what some sentence begins with. The first token that is missing from the tree of a line has
the place of the first one that is not let pass.
-/
namespace LineCalc.Syntax

def Sentence (kinds : List Kind) : Prop :=
  ∃ word, Derives .term maxNesting word ∧ kinds = word ++ [.endOfFile]

def Viable (kinds : List Kind) : Prop := ∃ more, Sentence (kinds ++ more)

/-- Before an operand, behind one or at the end: how many groups may still be opened here, and how
many are open. -/
inductive Spot where
  | before (room opened : Nat)
  | behind (room opened : Nat)
  | done

namespace Spot

def step? : Spot → Kind → Option Spot
  | before room opened, .number => some (behind room opened)
  | before (room + 1) opened, .openParenthesis => some (before room (opened + 1))
  | behind room (opened + 1), .closeParenthesis => some (behind (room + 1) opened)
  | behind _ 0, .endOfFile => some done
  | behind room opened, kind =>
    if 0 < kind.binaryPrecedence then some (before room opened) else none
  | _, _ => none

def run? (spot : Spot) (kinds : List Kind) : Option Spot := kinds.foldlM step? spot

def refusal? : Spot → List Token → Option Nat
  | _, [] => none
  | spot, t :: rest =>
    match spot.step? t.kind with
    | some next => next.refusal? rest
    | none => some t.position

/-! Steps. -/

variable {room opened : Nat} {kind : Kind}

theorem step?_operator (strong : 0 < kind.binaryPrecedence) :
    (behind room opened).step? kind = some (before room opened) := by
  cases kind <;> simp_all [step?, Kind.binaryPrecedence]

theorem before_step?_eq_none (noNumber : kind ≠ .number) (noGroup : kind ≠ .openParenthesis) :
    (before room opened).step? kind = none := by
  cases kind <;> simp_all [step?]

theorem behind_step?_eq_none (weak : kind.binaryPrecedence = 0)
    (noClosing : kind ≠ .closeParenthesis) :
    (behind room (opened + 1)).step? kind = none := by
  cases kind <;> simp_all [step?, Kind.binaryPrecedence]

theorem outside_step?_eq_none (weak : kind.binaryPrecedence = 0) (noEnd : kind ≠ .endOfFile) :
    (behind room 0).step? kind = none := by
  cases kind <;> simp_all [step?, Kind.binaryPrecedence]

theorem done_step? (kind : Kind) : done.step? kind = none := rfl

theorem endOfFile_of_step?_eq_done {spot : Spot} (last : spot.step? kind = some done) :
    kind = .endOfFile := by
  cases spot with
  | before room opened => cases room <;> cases kind <;> simp [step?] at last
  | behind room opened =>
    cases opened <;> cases kind <;> simp_all [step?, Kind.binaryPrecedence]
  | done => simp [step?] at last

/-! Runs. -/

theorem run?_cons (spot : Spot) (kind : Kind) (kinds : List Kind) :
    spot.run? (kind :: kinds) = (spot.step? kind).bind fun next => next.run? kinds := by
  simp [run?]

theorem run?_append (spot : Spot) (front back : List Kind) :
    spot.run? (front ++ back) = (spot.run? front).bind fun next => next.run? back := by
  simp [run?]

theorem exists_completion (spot : Spot) : ∃ more, spot.run? more = some done := by
  have closing (room opened : Nat) : ∃ more, (behind room opened).run? more = some done := by
    induction opened generalizing room with
    | zero => exact ⟨[.endOfFile], rfl⟩
    | succ opened ih =>
      obtain ⟨more, ends⟩ := ih (room + 1)
      exact ⟨.closeParenthesis :: more, by simpa [run?_cons, step?] using ends⟩
  match spot with
  | before room opened =>
    obtain ⟨more, ends⟩ := closing room opened
    exact ⟨.number :: more, by simpa [run?_cons, step?] using ends⟩
  | behind room opened => exact closing room opened
  | done => exact ⟨[], rfl⟩

/-! Refusals. -/

theorem refusal?_cons {spot next : Spot} {t : Token} (passes : spot.step? t.kind = some next)
    (rest : List Token) : spot.refusal? (t :: rest) = next.refusal? rest := by
  simp [refusal?, passes]

theorem refusal?_refused {spot : Spot} {t : Token} (refused : spot.step? t.kind = none)
    (rest : List Token) : spot.refusal? (t :: rest) = some t.position := by
  simp [refusal?, refused]

theorem refusal?_eq_none_iff (spot : Spot) (tokens : List Token) :
    spot.refusal? tokens = none ↔ spot.run? (tokens.map Token.kind) ≠ none := by
  induction tokens generalizing spot with
  | nil => simp [refusal?, run?]
  | cons t rest ih =>
    rw [List.map_cons, run?_cons]
    cases step : spot.step? t.kind with
    | none => simp [refusal?_refused step]
    | some next => simpa [refusal?_cons step] using ih next

theorem exists_refused {spot : Spot} {tokens : List Token} {position : Nat}
    (refusal : spot.refusal? tokens = some position) :
    ∃ front t back, tokens = front ++ t :: back ∧ t.position = position ∧
      spot.run? (front.map Token.kind) ≠ none ∧
      spot.run? ((front ++ [t]).map Token.kind) = none := by
  induction tokens generalizing spot with
  | nil => simp [refusal?] at refusal
  | cons t rest ih =>
    cases step : spot.step? t.kind with
    | none =>
      rw [refusal?_refused step] at refusal
      exact ⟨[], t, rest, rfl, Option.some.inj refusal, by simp [run?], by simp [run?, step]⟩
    | some next =>
      rw [refusal?_cons step] at refusal
      obtain ⟨front, u, back, rfl, place, passed, refused⟩ := ih refusal
      refine ⟨t :: front, u, back, rfl, place, ?_, ?_⟩
      · simpa [run?_cons, step] using passed
      · simpa [run?_cons, step] using refused

end Spot

open Spot

variable {category : Category} {nesting : Nat}

theorem Derives.run?_append {word : List Kind} (derivation : Derives category nesting word)
    (opened : Nat) (rest : List Kind) :
    (before nesting opened).run? (word ++ rest) = (behind nesting opened).run? rest := by
  induction derivation generalizing opened rest with
  | number nesting => rfl
  | @group nesting word inner ih =>
    have within := ih (opened + 1) (.closeParenthesis :: rest)
    rw [List.cons_append, List.append_assoc, run?_cons]
    exact within
  | lonePrimary only ih => exact ih opened rest
  | loneFactor only ih => exact ih opened rest
  | product first strength last hf hl | sum first strength last hf hl =>
    rw [List.append_assoc, hf, List.cons_append, run?_cons, step?_operator (by omega)]
    exact hl opened rest

/-! Readings. -/

def missing? (tokens : List Token) : Option Nat :=
  (tokens.find? Token.isSynthesized).map Token.position

theorem missing?_append (front back : List Token) :
    missing? (front ++ back) = (missing? front).or (missing? back) := by
  simp [missing?, List.find?_append, Option.map_or]

theorem missing?_cons_read {t : Token} (read : t.text.isSome = true) (rest : List Token) :
    missing? (t :: rest) = missing? rest := by
  have kept : ¬ t.isSynthesized = true := by
    simpa [Token.isSynthesized, Option.isSome_iff_ne_none] using read
  rw [missing?, List.find?_cons_of_neg kept]
  rfl

theorem missing?_eq_none_iff (tokens : List Token) :
    missing? tokens = none ↔ ∀ t ∈ tokens, t.isSynthesized = false := by
  simp [missing?]

variable {stop : Token} {allowance : Nat} {tokens : List Token} {reading : Reading}

theorem expect_refusal? {spot next : Spot} {kind : Kind} (noStop : stop.kind ≠ kind)
    (texts : ∀ t ∈ tokens, t.text.isSome = true) (passes : spot.step? kind = some next)
    (refuses : ∀ t ∈ (tokens ++ [stop]).head?, t.kind ≠ kind → spot.step? t.kind = none) :
    spot.refusal? (tokens ++ [stop]) =
      (missing? [(expect stop kind tokens).token]).or
        (next.refusal? ((expect stop kind tokens).rest ++ [stop])) := by
  fun_cases expect stop kind tokens with
  | case1 same => exact absurd same noStop
  | case2 other => exact refusal?_refused (refuses stop (by simp) other) []
  | case3 t r same =>
    rw [missing?_cons_read (texts t (by simp))]
    exact refusal?_cons (same ▸ passes) (r ++ [stop])
  | case4 t r other => exact refusal?_refused (refuses t (by simp) other) (r ++ [stop])

theorem head_binaryPrecedence (complete : leadingStrength tokens = 0)
    (atEnd : stop.kind = .endOfFile) :
    ∀ t ∈ (tokens ++ [stop]).head?, t.kind.binaryPrecedence = 0 := by
  intro t head
  cases tokens with
  | nil =>
    obtain rfl : stop = t := by simpa using head
    rw [atEnd]
    rfl
  | cons u rest =>
    obtain rfl : u = t := by simpa using head
    exact complete

/-- Reading goes with a spot up to the first missing token. -/
theorem Reads.refusal?_eq (reads : Reads stop category allowance tokens reading)
    (atEnd : stop.kind = .endOfFile) (texts : ∀ t ∈ tokens, t.text.isSome = true) (opened : Nat) :
    (before allowance opened).refusal? (tokens ++ [stop]) =
      (missing? reading.expr.leaves).or
        ((behind allowance opened).refusal? (reading.rest ++ [stop])) := by
  induction reads generalizing opened with
  | @number allowance tokens noGroup =>
    apply expect_refusal? (by simp [atEnd]) texts rfl
    intro t head noNumber
    exact before_step?_eq_none noNumber (head_ne_openParenthesis noGroup atEnd t head)
  | @skipped opening rest opens =>
    have refused : (before 0 opened).step? opening.kind = none := by rw [opens]; rfl
    exact refusal?_refused refused (rest ++ [stop])
  | @group allowance opening rest inside opens inner complete ih =>
    have later : ∀ t ∈ rest, t.text.isSome = true := fun t member =>
      texts t (List.mem_cons_of_mem _ member)
    have passes : (before (allowance + 1) opened).step? opening.kind =
        some (before allowance (opened + 1)) := by rw [opens]; rfl
    have closing : (behind allowance (opened + 1)).refusal? (inside.rest ++ [stop]) =
        (missing? [(expect stop .closeParenthesis inside.rest).token]).or
          ((behind (allowance + 1) opened).refusal?
            ((expect stop .closeParenthesis inside.rest).rest ++ [stop])) := by
      have behind : ∀ t ∈ inside.rest, t.text.isSome = true := fun t member =>
        later t (inner.rest_suffix.subset member)
      apply expect_refusal? (by simp [atEnd]) behind rfl
      intro t head noClosing
      exact behind_step?_eq_none (head_binaryPrecedence complete atEnd t head) noClosing
    rw [List.cons_append, refusal?_cons passes, ih later, closing]
    simp only [Reading.enclose, Expr.leaves]
    rw [missing?_cons_read (texts opening (List.mem_cons_self ..)), missing?_append,
      Option.or_assoc]
  | lonePrimary only ih => exact ih texts opened
  | loneFactor only complete ih => exact ih texts opened
  | @product allowance tokens rest left right operator first next strength last hf hl
  | @sum allowance tokens rest left right operator first next strength last complete hf hl =>
    have subset := first.rest_suffix.subset
    rw [next] at subset
    have later : ∀ t ∈ rest, t.text.isSome = true := fun t member =>
      texts t (subset (List.mem_cons_of_mem _ member))
    have read : operator.text.isSome = true := texts operator (subset (List.mem_cons_self ..))
    rw [hf texts, next, List.cons_append, refusal?_cons (step?_operator (by omega)), hl later]
    simp only [Reading.join, Expr.leaves]
    rw [missing?_append, missing?_cons_read read, Option.or_assoc]

/-! Sentences. -/

theorem eq_nil_of_refusal?_eq_none {room : Nat} (complete : leadingStrength tokens = 0)
    (passes : (behind room 0).refusal? (tokens ++ [stop]) = none) : tokens = [] := by
  cases tokens with
  | nil => rfl
  | cons t rest =>
    exfalso
    by_cases last : t.kind = .endOfFile
    · have step : (behind room 0).step? t.kind = some done := by rw [last]; rfl
      rw [List.cons_append, refusal?_cons step] at passes
      cases rest <;> simp [refusal?, done_step?] at passes
    · have step : (behind room 0).step? t.kind = none := outside_step?_eq_none complete last
      rw [List.cons_append, refusal?_refused step] at passes
      simp at passes

theorem derives_of_refusal?_eq_none (atEnd : stop.kind = .endOfFile)
    (texts : ∀ t ∈ tokens ++ [stop], t.text.isSome = true)
    (passes : (before nesting 0).refusal? (tokens ++ [stop]) = none) :
    Derives .term nesting (tokens.map Token.kind) := by
  have reads := reads_term stop nesting tokens
  have all := reads.refusal?_eq atEnd (fun t member => texts t (List.mem_append_left _ member)) 0
  rw [passes, eq_comm, Option.or_eq_none_iff] at all
  obtain ⟨nothing, behind⟩ := all
  have clean := (reads.accounted texts atEnd).eq_nil_iff.mpr ((missing?_eq_none_iff _).mp nothing)
  have leaves := reads.leaves_append atEnd clean
  rw [eq_nil_of_refusal?_eq_none (term_complete stop nesting tokens) behind,
    List.append_nil] at leaves
  have derivation := reads.treeOf.derives
  rwa [leaves] at derivation

theorem exists_tokens (kinds : List Kind) :
    ∃ tokens : List Token, tokens.map Token.kind = kinds ∧ ∀ t ∈ tokens, t.text.isSome = true := by
  refine ⟨kinds.map fun kind => ⟨kind, 0, some "", none⟩, by simp [Function.comp_def], ?_⟩
  intro t member
  obtain ⟨kind, _, rfl⟩ := List.mem_map.mp member
  rfl

theorem sentence_iff (kinds : List Kind) :
    Sentence kinds ↔ (before maxNesting 0).run? kinds = some done := by
  constructor
  · rintro ⟨word, derivation, rfl⟩
    rw [derivation.run?_append]
    rfl
  · intro ends
    rcases List.eq_nil_or_concat' kinds with rfl | ⟨word, last, rfl⟩
    · simp [run?] at ends
    · have steps := ends
      rw [run?_append, Option.bind_eq_some_iff] at steps
      obtain ⟨spot, _, step⟩ := steps
      have final : spot.step? last = some done := by simpa [run?] using step
      obtain rfl := endOfFile_of_step?_eq_done final
      obtain ⟨tokens, rfl, texts⟩ := exists_tokens word
      have passes : (before maxNesting 0).refusal? (tokens ++ [endToken 0]) = none := by
        rw [refusal?_eq_none_iff, List.map_append]
        exact ne_of_eq_of_ne ends (Option.some_ne_none done)
      have read : ∀ t ∈ tokens ++ [endToken 0], t.text.isSome = true :=
        List.forall_mem_append.mpr ⟨texts, by simp [endToken]⟩
      exact ⟨_, derives_of_refusal?_eq_none rfl read passes, rfl⟩

theorem viable_iff (kinds : List Kind) :
    Viable kinds ↔ (before maxNesting 0).run? kinds ≠ none := by
  simp only [Viable, sentence_iff, run?_append]
  cases run : (before maxNesting 0).run? kinds with
  | none => simp
  | some spot => simpa using exists_completion spot

theorem Viable.of_append {front back : List Kind} (viable : Viable (front ++ back)) :
    Viable front := by
  obtain ⟨more, sentence⟩ := viable
  exact ⟨back ++ more, by rwa [← List.append_assoc]⟩

theorem Viable.take {kinds : List Kind} (viable : Viable kinds) (n : Nat) :
    Viable (kinds.take n) := by
  rw [← List.take_append_drop n kinds] at viable
  exact viable.of_append

theorem not_sentence_of_refusal? {position : Nat}
    (refusal : (before maxNesting 0).refusal? tokens = some position) :
    ¬ Sentence (tokens.map Token.kind) := by
  intro sentence
  have ends := (sentence_iff _).mp sentence
  have passes := (refusal?_eq_none_iff (before maxNesting 0) tokens).mpr
    (ne_of_eq_of_ne ends (Option.some_ne_none done))
  rw [refusal] at passes
  exact Option.some_ne_none _ passes

/-- Up to a refused token a line is no beginning of a sentence, and up to any before it it is. -/
theorem least_of_refused {t : Token} {front : List Token}
    (passed : (before maxNesting 0).run? (front.map Token.kind) ≠ none)
    (refused : (before maxNesting 0).run? ((front ++ [t]).map Token.kind) = none)
    (back : List Token) :
    ¬ Viable (((front ++ t :: back).map Token.kind).take (front.length + 1)) ∧
      ∀ j < front.length, Viable (((front ++ t :: back).map Token.kind).take (j + 1)) := by
  constructor
  · have upTo : ((front ++ t :: back).map Token.kind).take (front.length + 1) =
        (front ++ [t]).map Token.kind := by
      rw [List.append_cons, List.map_append]
      exact List.take_left' (by simp)
    rw [upTo, viable_iff]
    exact not_not_intro refused
  · intro j earlier
    have within : ((front ++ t :: back).map Token.kind).take (j + 1) =
        (front.map Token.kind).take (j + 1) := by
      rw [List.map_append]
      apply List.take_append_of_le_length
      rw [List.length_map]
      exact earlier
    rw [within]
    exact ((viable_iff _).mpr passed).take (j + 1)

/-! Lines. -/

theorem expect_end_refusal? {room : Nat} (complete : leadingStrength tokens = 0)
    (inside : ∀ t ∈ tokens, t.kind ≠ .endOfFile) (atEnd : stop.kind = .endOfFile)
    (texts : ∀ t ∈ tokens ++ [stop], t.text.isSome = true) :
    (behind room 0).refusal? (tokens ++ [stop]) =
      missing? [(expect stop .endOfFile tokens).token] := by
  cases tokens with
  | nil =>
    have step : (behind room 0).step? stop.kind = some done := by rw [atEnd]; rfl
    rw [List.nil_append, refusal?_cons step, expect, if_pos atEnd,
      missing?_cons_read (texts stop (by simp))]
    rfl
  | cons t rest =>
    have other := inside t (List.mem_cons_self ..)
    have step : (behind room 0).step? t.kind = none := outside_step?_eq_none complete other
    rw [List.cons_append, refusal?_refused step, expect, if_neg other]
    rfl

theorem missing?_tokens (s : String) :
    missing? (parse s).tokens = (before maxNesting 0).refusal? (Parser.ofText s).tokens := by
  have texts := ofText_tokens_text s
  rw [ofText_tokens] at texts ⊢
  have rest := (lineReading_reads s).rest_suffix
  have reading := (lineReading_reads s).refusal?_eq rfl
    (fun t member => texts t (List.mem_append_left _ member)) 0
  have last : (behind maxNesting 0).refusal? ((lineReading s).rest ++ [endToken s.length]) =
      missing? [(expect (endToken s.length) .endOfFile (lineReading s).rest).token] :=
    expect_end_refusal? (term_complete (endToken s.length) maxNesting (grammarTokens s))
      (fun t member => grammarTokens_kind (rest.subset member)) rfl
      (fun t member => texts t (append_stop_subset rest _ member))
  rw [reading, last, Tree.tokens, missing?_append, parse_eq]

/-- The first synthesized token of a tree has the place of the first token up to which the line is
no beginning of a sentence. A sentence has none. -/
theorem first_missing_token_is_earliest (s : String) :
    Sentence ((Parser.ofText s).tokens.map Token.kind) ∧
        (∀ t ∈ (parse s).tokens, t.isSynthesized = false) ∨
      ¬ Sentence ((Parser.ofText s).tokens.map Token.kind) ∧
        ∃ (k : Nat) (found missing : Token), (Parser.ofText s).tokens[k]? = some found ∧
          (parse s).tokens.find? Token.isSynthesized = some missing ∧
          missing.position = found.position ∧
          ¬ Viable (((Parser.ofText s).tokens.map Token.kind).take (k + 1)) ∧
          ∀ j < k, Viable (((Parser.ofText s).tokens.map Token.kind).take (j + 1)) := by
  have first := missing?_tokens s
  cases refusal : (before maxNesting 0).refusal? (Parser.ofText s).tokens with
  | none =>
    rw [refusal] at first
    have texts := ofText_tokens_text s
    rw [ofText_tokens] at texts refusal ⊢
    have derivation := derives_of_refusal?_eq_none rfl texts refusal
    exact .inl ⟨⟨_, derivation, List.map_append⟩, (missing?_eq_none_iff _).mp first⟩
  | some position =>
    rw [refusal, missing?, Option.map_eq_some_iff] at first
    obtain ⟨missing, found, place⟩ := first
    have noSentence := not_sentence_of_refusal? refusal
    obtain ⟨front, t, back, line, same, passed, refused⟩ := exists_refused refusal
    rw [line] at noSentence ⊢
    obtain ⟨notViable, viable⟩ := least_of_refused passed refused back
    exact .inr ⟨noSentence, front.length, t, missing, by simp, found, place.trans same.symm,
      notViable, viable⟩

end LineCalc.Syntax
