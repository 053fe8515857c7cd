import LineCalc.Syntax.Lexer

/-!
Partitions of a line into tokens: nothing is left out, no two runs of one kind meet, and every token
is where its text is. The values of numbers are no part of it.
-/
namespace LineCalc.Syntax

def Kind.Admits (kind : Kind) (cs : List Char) : Prop :=
  match kind with
  | .number => cs ≠ [] ∧ ∀ c ∈ cs, Text.isDecimalDigit c = true
  | .whiteSpace => cs ≠ [] ∧ ∀ c ∈ cs, Text.isBlank c = true
  | .bad =>
    ∃ c, cs = [c] ∧ Text.isDecimalDigit c = false ∧ Text.isBlank c = false ∧
      Lexer.operatorKind? c = none
  | kind => ∃ c, cs = [c] ∧ Lexer.operatorKind? c = some kind

def Kind.isRun (kind : Kind) : Bool := kind = .number || kind = .whiteSpace

theorem Kind.isRun_eq_false {kind : Kind} (binds : 0 < kind.binaryPrecedence) :
    kind.isRun = false := by
  cases kind <;> simp_all [Kind.binaryPrecedence, Kind.isRun]

inductive Partition : Nat → List Char → List Token → Prop where
  | stop (position : Nat) : Partition position [] [⟨.endOfFile, position, some "", none⟩]
  | token {position : Nat} {kind : Kind} {run rest : List Char} {value : Option Int}
      {tokens : List Token} (admits : kind.Admits run)
      (maximal : kind.isRun = true → (tokens.head?.map Token.kind) ≠ some kind)
      (tail : Partition (position + run.length) rest tokens) :
      Partition position (run ++ rest)
        (⟨kind, position, some (String.ofList run), value⟩ :: tokens)

theorem Kind.Admits.ne_nil {kind : Kind} {cs : List Char} (admits : kind.Admits cs) : cs ≠ [] := by
  cases kind <;> simp only [Kind.Admits] at admits
  case number | whiteSpace => exact admits.1
  all_goals
    obtain ⟨c, rfl, _⟩ := admits
    simp

theorem Kind.Admits.exists_sign {kind : Kind} {cs : List Char} (admits : kind.Admits cs)
    (noRun : kind.isRun = false) (good : kind ≠ .bad) :
    ∃ c, cs = [c] ∧ Lexer.operatorKind? c = some kind := by
  cases kind <;> simp only [Kind.Admits] at admits
  case number | whiteSpace => simp [Kind.isRun] at noRun
  case bad => exact absurd rfl good
  all_goals exact admits

theorem Partition.ne_nil {position : Nat} {cs : List Char} {tokens : List Token}
    (partition : Partition position cs tokens) : tokens ≠ [] := by
  cases partition <;> simp

theorem Partition.spelling {position : Nat} {cs : List Char} {tokens : List Token}
    (partition : Partition position cs tokens) :
    (tokens.flatMap fun t => t.spelling.toList) = cs := by
  induction partition with
  | stop => rfl
  | token admits maximal tail ih =>
    rw [List.flatMap_cons, ih]
    simp [Token.spelling]

theorem Partition.position_le {position : Nat} {cs : List Char} {tokens : List Token}
    (partition : Partition position cs tokens) : ∀ t ∈ tokens, position ≤ t.position := by
  induction partition with
  | stop => simp
  | token admits maximal tail ih =>
    rw [List.forall_mem_cons]
    exact ⟨Nat.le_refl _, fun t later => Nat.le_trans (Nat.le_add_right ..) (ih t later)⟩

theorem Partition.ascending {position : Nat} {cs : List Char} {tokens : List Token}
    (partition : Partition position cs tokens) :
    tokens.Pairwise fun a b => a.position < b.position := by
  induction partition with
  | stop => simp
  | token admits maximal tail ih =>
    refine List.pairwise_cons.mpr ⟨fun t later => ?_, ih⟩
    have behind := tail.position_le t later
    have taken := List.length_pos_iff.mpr admits.ne_nil
    simp only
    omega

end LineCalc.Syntax
