import LineCalc.Proofs.Reads
import LineCalc.Syntax.Shape

/-!
Trees of the grammar. They are the derivations of words with the tokens kept, they are the trees
that the rules make, and no two of them have the same tokens.
-/
namespace LineCalc.Syntax

namespace Expr

def numbers : Expr → List Token
  | number t => [t]
  | group _ e _ => e.numbers
  | binary l _ r => l.numbers ++ r.numbers
  | unary _ e => e.numbers

def Enclosed : Expr → Prop
  | number _ => True
  | group o e c => o.kind = .openParenthesis ∧ c.kind = .closeParenthesis ∧ e.Enclosed
  | binary l _ r => l.Enclosed ∧ r.Enclosed
  | unary _ e => e.Enclosed

instance decidableEnclosed : (e : Expr) → Decidable e.Enclosed
  | number _ => .isTrue trivial
  | group _ e _ =>
    have := decidableEnclosed e
    inferInstanceAs (Decidable (_ ∧ _ ∧ _))
  | binary l _ r =>
    have := decidableEnclosed l
    have := decidableEnclosed r
    inferInstanceAs (Decidable (_ ∧ _))
  | unary _ e => decidableEnclosed e

theorem numbers_subset_leaves (e : Expr) : e.numbers ⊆ e.leaves := by
  induction e with
  | number t => exact List.Subset.refl _
  | group o e c ih =>
    intro t member
    simp [leaves, ih member]
  | binary l op r hl hr =>
    intro t member
    rcases List.mem_append.mp member with left | right
    · simp [leaves, hl left]
    · simp [leaves, hr right]
  | unary op e ih =>
    intro t member
    simp [leaves, ih member]

end Expr

def Category.strength : Category → Nat
  | primary => 3
  | factor => 2
  | term => 1

inductive TreeOf : Category → Nat → Expr → Prop where
  | number {nesting : Nat} {t : Token} (kind : t.kind = .number) :
      TreeOf .primary nesting (.number t)
  | group {nesting : Nat} {opening closing : Token} {inside : Expr}
      (opens : opening.kind = .openParenthesis) (inner : TreeOf .term nesting inside)
      (closes : closing.kind = .closeParenthesis) :
      TreeOf .primary (nesting + 1) (.group opening inside closing)
  | lonePrimary {nesting : Nat} {e : Expr} (only : TreeOf .primary nesting e) :
      TreeOf .factor nesting e
  | product {nesting : Nat} {left right : Expr} {operator : Token}
      (first : TreeOf .factor nesting left) (strength : operator.kind.binaryPrecedence = 2)
      (last : TreeOf .primary nesting right) : TreeOf .factor nesting (.binary left operator right)
  | loneFactor {nesting : Nat} {e : Expr} (only : TreeOf .factor nesting e) :
      TreeOf .term nesting e
  | sum {nesting : Nat} {left right : Expr} {operator : Token}
      (first : TreeOf .term nesting left) (strength : operator.kind.binaryPrecedence = 1)
      (last : TreeOf .factor nesting right) : TreeOf .term nesting (.binary left operator right)

variable {category : Category} {nesting : Nat} {e : Expr}

theorem TreeOf.of_primary (tree : TreeOf .primary nesting e) : TreeOf category nesting e := by
  cases category with
  | primary => exact tree
  | factor => exact .lonePrimary tree
  | term => exact .loneFactor (.lonePrimary tree)

theorem TreeOf.mono {low high : Nat} (tree : TreeOf category low e) (le : low ≤ high) :
    TreeOf category high e := by
  induction tree generalizing high with
  | number kind => exact .number kind
  | group opens inner closes ih =>
    obtain ⟨deeper, rfl⟩ : ∃ deeper, high = deeper + 1 := ⟨high - 1, by omega⟩
    exact .group opens (ih (by omega)) closes
  | lonePrimary only ih => exact .lonePrimary (ih le)
  | product first strength last hf hl => exact .product (hf le) strength (hl le)
  | loneFactor only ih => exact .loneFactor (ih le)
  | sum first strength last hf hl => exact .sum (hf le) strength (hl le)

theorem TreeOf.mapTokens (tree : TreeOf category nesting e) {f : Token → Token}
    (kinds : ∀ t, (f t).kind = t.kind) : TreeOf category nesting (e.mapTokens f) := by
  induction tree with
  | number kind => exact .number ((kinds _).trans kind)
  | group opens inner closes ih =>
    exact .group ((kinds _).trans opens) ih ((kinds _).trans closes)
  | lonePrimary only ih => exact .lonePrimary ih
  | product first strength last hf hl =>
    exact .product hf ((congrArg Kind.binaryPrecedence (kinds _)).trans strength) hl
  | loneFactor only ih => exact .loneFactor ih
  | sum first strength last hf hl =>
    exact .sum hf ((congrArg Kind.binaryPrecedence (kinds _)).trans strength) hl

/-! Trees and words. -/

theorem TreeOf.derives (tree : TreeOf category nesting e) :
    Derives category nesting (e.leaves.map Token.kind) := by
  induction tree with
  | number kind =>
    simp only [Expr.leaves, List.map_cons, List.map_nil, kind]
    exact .number _
  | group opens inner closes ih =>
    simp only [Expr.leaves, List.map_cons, List.map_append, List.map_nil, opens, closes]
    exact .group ih
  | lonePrimary only ih => exact .lonePrimary ih
  | product first strength last hf hl =>
    simp only [Expr.leaves, List.map_append, List.map_cons]
    exact .product hf strength hl
  | loneFactor only ih => exact .loneFactor ih
  | sum first strength last hf hl =>
    simp only [Expr.leaves, List.map_append, List.map_cons]
    exact .sum hf strength hl

theorem exists_parts {tokens : List Token} {left right : List Kind} {operator : Kind}
    (kinds : tokens.map Token.kind = left ++ operator :: right) :
    ∃ front t back, tokens = front ++ t :: back ∧ front.map Token.kind = left ∧
      t.kind = operator ∧ back.map Token.kind = right := by
  obtain ⟨front, tail, rfl, first, others⟩ := List.map_eq_append_iff.mp kinds
  obtain ⟨t, back, rfl, kind, last⟩ := List.map_eq_cons_iff.mp others
  exact ⟨front, t, back, rfl, first, kind, last⟩

theorem Derives.exists_tree {word : List Kind} {tokens : List Token}
    (derivation : Derives category nesting word) (kinds : tokens.map Token.kind = word) :
    ∃ e, TreeOf category nesting e ∧ e.leaves = tokens := by
  induction derivation generalizing tokens with
  | number nesting =>
    obtain ⟨t, rfl, kind⟩ := List.map_eq_singleton_iff.mp kinds
    exact ⟨.number t, .number kind, rfl⟩
  | group inner ih =>
    obtain ⟨opening, tail, rfl, opens, others⟩ := List.map_eq_cons_iff.mp kinds
    obtain ⟨middle, last, rfl, word, final⟩ := List.map_eq_append_iff.mp others
    obtain ⟨closing, rfl, closes⟩ := List.map_eq_singleton_iff.mp final
    obtain ⟨inside, tree, leaves⟩ := ih word
    exact ⟨.group opening inside closing, .group opens tree closes, by rw [Expr.leaves, leaves]⟩
  | lonePrimary only ih =>
    obtain ⟨e, tree, leaves⟩ := ih kinds
    exact ⟨e, .lonePrimary tree, leaves⟩
  | product first strength last hf hl =>
    obtain ⟨front, operator, back, rfl, frontKinds, rfl, backKinds⟩ := exists_parts kinds
    obtain ⟨l, left, frontLeaves⟩ := hf frontKinds
    obtain ⟨r, right, backLeaves⟩ := hl backKinds
    exact ⟨.binary l operator r, .product left strength right,
      by rw [Expr.leaves, frontLeaves, backLeaves]⟩
  | loneFactor only ih =>
    obtain ⟨e, tree, leaves⟩ := ih kinds
    exact ⟨e, .loneFactor tree, leaves⟩
  | sum first strength last hf hl =>
    obtain ⟨front, operator, back, rfl, frontKinds, rfl, backKinds⟩ := exists_parts kinds
    obtain ⟨l, left, frontLeaves⟩ := hf frontKinds
    obtain ⟨r, right, backLeaves⟩ := hl backKinds
    exact ⟨.binary l operator r, .sum left strength right,
      by rw [Expr.leaves, frontLeaves, backLeaves]⟩

theorem derives_iff_exists_tree {tokens : List Token} :
    Derives category nesting (tokens.map Token.kind) ↔
      ∃ e, TreeOf category nesting e ∧ e.leaves = tokens := by
  constructor
  · intro derivation
    exact derivation.exists_tree rfl
  · rintro ⟨e, tree, rfl⟩
    exact tree.derives

/-! Trees and shapes. -/

theorem TreeOf.strength_le (tree : TreeOf category nesting e) : category.strength ≤ e.strength := by
  induction tree with
  | number kind => exact Nat.le_refl 3
  | group opens inner closes ih => exact Nat.le_refl 3
  | lonePrimary only ih => exact Nat.le_trans (by decide) ih
  | product first strength last hf hl => exact Nat.le_of_eq strength.symm
  | loneFactor only ih => exact Nat.le_trans (by decide) ih
  | sum first strength last hf hl => exact Nat.le_of_eq strength.symm

theorem TreeOf.wellShaped (tree : TreeOf category nesting e) : e.WellShaped := by
  induction tree with
  | number kind => trivial
  | group opens inner closes ih => exact ih
  | lonePrimary only ih => exact ih
  | product first strength last hf hl =>
    have left : 2 ≤ _ := first.strength_le
    have right : 3 ≤ _ := last.strength_le
    exact ⟨by omega, by omega, by omega, hf, hl⟩
  | loneFactor only ih => exact ih
  | sum first strength last hf hl =>
    have left : 1 ≤ _ := first.strength_le
    have right : 2 ≤ _ := last.strength_le
    exact ⟨by omega, by omega, by omega, hf, hl⟩

theorem TreeOf.enclosed (tree : TreeOf category nesting e) : e.Enclosed := by
  induction tree with
  | number kind => trivial
  | group opens inner closes ih => exact ⟨opens, closes, ih⟩
  | lonePrimary only ih => exact ih
  | product first strength last hf hl => exact ⟨hf, hl⟩
  | loneFactor only ih => exact ih
  | sum first strength last hf hl => exact ⟨hf, hl⟩

theorem TreeOf.numbers_kind (tree : TreeOf category nesting e) :
    ∀ t ∈ e.numbers, t.kind = .number := by
  induction tree with
  | number kind => simpa [Expr.numbers] using kind
  | group opens inner closes ih => exact ih
  | lonePrimary only ih => exact ih
  | product first strength last hf hl => exact List.forall_mem_append.mpr ⟨hf, hl⟩
  | loneFactor only ih => exact ih
  | sum first strength last hf hl => exact List.forall_mem_append.mpr ⟨hf, hl⟩

theorem TreeOf.nesting_le (tree : TreeOf category nesting e) : e.nesting ≤ nesting := by
  induction tree with
  | number kind => exact Nat.zero_le _
  | group opens inner closes ih => exact Nat.succ_le_succ ih
  | lonePrimary only ih => exact ih
  | product first strength last hf hl => exact Nat.max_le.mpr ⟨hf, hl⟩
  | loneFactor only ih => exact ih
  | sum first strength last hf hl => exact Nat.max_le.mpr ⟨hf, hl⟩

theorem strength_pos_of_wellShaped (shape : e.WellShaped) : 1 ≤ e.strength := by
  cases e with
  | number t => simp [Expr.strength]
  | group o e c => simp [Expr.strength]
  | binary l op r => exact shape.1
  | unary op e => exact shape.elim

/-- The shape that the strengths of operators allow is the one that the categories build. -/
theorem treeOf_of_shape (shape : e.WellShaped) (enclosed : e.Enclosed)
    (numbers : ∀ t ∈ e.numbers, t.kind = .number) (depth : e.nesting ≤ nesting)
    (strong : category.strength ≤ e.strength) : TreeOf category nesting e := by
  induction e generalizing category nesting with
  | number t => exact .of_primary (.number (numbers t (by simp [Expr.numbers])))
  | group o e c ih =>
    obtain ⟨opens, closes, within⟩ := enclosed
    obtain ⟨deeper, rfl⟩ : ∃ deeper, nesting = deeper + 1 :=
      ⟨nesting - 1, by simp only [Expr.nesting] at depth; omega⟩
    have inner : TreeOf .term deeper e :=
      ih shape within numbers (Nat.le_of_succ_le_succ depth) (strength_pos_of_wellShaped shape)
    exact .of_primary (.group opens inner closes)
  | binary l op r hl hr =>
    obtain ⟨positive, weaker, stronger, left, right⟩ := shape
    obtain ⟨numbersLeft, numbersRight⟩ := List.forall_mem_append.mp numbers
    obtain ⟨depthLeft, depthRight⟩ := Nat.max_le.mp depth
    have atMost := binaryPrecedence_le_two op.kind
    by_cases product : op.kind.binaryPrecedence = 2
    · have first : TreeOf .factor nesting l :=
        hl left enclosed.1 numbersLeft depthLeft (by simp only [Category.strength]; omega)
      have last : TreeOf .primary nesting r :=
        hr right enclosed.2 numbersRight depthRight (by simp only [Category.strength]; omega)
      cases category with
      | primary => simp only [Category.strength, Expr.strength] at strong; omega
      | factor => exact .product first product last
      | term => exact .loneFactor (.product first product last)
    · have sum : op.kind.binaryPrecedence = 1 := by omega
      have first : TreeOf .term nesting l :=
        hl left enclosed.1 numbersLeft depthLeft (by simp only [Category.strength]; omega)
      have last : TreeOf .factor nesting r :=
        hr right enclosed.2 numbersRight depthRight (by simp only [Category.strength]; omega)
      cases category with
      | primary | factor => simp only [Category.strength, Expr.strength] at strong; omega
      | term => exact .sum first sum last
  | unary op e ih => exact shape.elim

theorem TreeOf.primary (tree : TreeOf category nesting e) (strong : e.strength = 3) :
    TreeOf .primary nesting e :=
  treeOf_of_shape tree.wellShaped tree.enclosed tree.numbers_kind tree.nesting_le
    (Nat.le_of_eq strong.symm)

/-! Trees and rules. -/

variable {stop : Token} {allowance : Nat} {tokens : List Token} {reading : Reading}

theorem expect_kind (stop : Token) (kind : Kind) (tokens : List Token) :
    (expect stop kind tokens).token.kind = kind := by
  fun_cases expect stop kind tokens with
  | case1 same => exact same
  | case2 other => rfl
  | case3 t r same => exact same
  | case4 t r other => rfl

theorem expect_found {kind : Kind} (noStop : stop.kind ≠ kind)
    (clean : (expect stop kind tokens).reports = []) :
    tokens = (expect stop kind tokens).token :: (expect stop kind tokens).rest := by
  fun_cases expect stop kind tokens with
  | case1 same => exact absurd same noStop
  | case2 other => simp [expect, other] at clean
  | case3 t r same => rfl
  | case4 t r other => simp [expect, other] at clean

/-- A rule makes a tree of the grammar of whatever it reads. -/
theorem Reads.treeOf (reads : Reads stop category allowance tokens reading) :
    TreeOf category allowance reading.expr := by
  induction reads with
  | number noGroup => exact .number (expect_kind _ _ _)
  | skipped opens => exact .number rfl
  | group opens inner complete ih => exact .group opens ih (expect_kind _ _ _)
  | lonePrimary only ih => exact .lonePrimary ih
  | product first next strength last hf hl => exact .product hf strength hl
  | loneFactor only complete ih => exact .loneFactor ih
  | sum first next strength last complete hf hl => exact .sum hf strength hl

theorem Reads.leaves_append (reads : Reads stop category allowance tokens reading)
    (atEnd : stop.kind = .endOfFile) (clean : reading.reports = []) :
    reading.expr.leaves ++ reading.rest = tokens := by
  induction reads with
  | @number allowance tokens noGroup =>
    have found : tokens = (expect stop .number tokens).token :: (expect stop .number tokens).rest :=
      expect_found (by simp [atEnd]) clean
    exact found.symm
  | skipped opens => simp [skippedGroup] at clean
  | @group allowance opening rest inside opens inner complete ih =>
    obtain ⟨within, closed⟩ := List.append_eq_nil_iff.mp clean
    have found := expect_found (by simp [atEnd]) closed
    rw [← ih within]
    simp only [Reading.enclose, Expr.leaves, List.cons_append, List.append_assoc, List.nil_append]
    rw [← found]
  | lonePrimary only ih => exact ih clean
  | loneFactor only complete ih => exact ih clean
  | product first next strength last hf hl | sum first next strength last complete hf hl =>
    obtain ⟨before, behind⟩ := List.append_eq_nil_iff.mp clean
    rw [← hf before, next, ← hl behind]
    simp [Reading.join, Expr.leaves]

theorem Reads.rest_suffix (reads : Reads stop category allowance tokens reading) :
    reading.rest <:+ tokens := by
  induction reads with
  | number noGroup => exact expect_suffix _ _ _
  | skipped opens => exact (afterGroups_suffix 1 _).trans (List.suffix_cons _ _)
  | group opens inner complete ih =>
    exact ((expect_suffix _ _ _).trans ih).trans (List.suffix_cons _ _)
  | lonePrimary only ih => exact ih
  | loneFactor only complete ih => exact ih
  | product first next strength last hf hl | sum first next strength last complete hf hl =>
    rw [next] at hf
    exact (hl.trans (List.suffix_cons _ _)).trans hf

def Token.From (tokens : List Token) (t : Token) : Prop :=
  t ∈ tokens ∨ t = .synthesized t.kind t.position

/-- A number or a closing parenthesis that was put in its place. -/
def Token.Filled (t : Token) : Prop :=
  t = .synthesized .number t.position ∨ t = .synthesized .closeParenthesis t.position

theorem Token.Filled.eq_synthesized {t : Token} (filled : t.Filled) :
    t = .synthesized t.kind t.position := by
  rcases filled with number | closing
  · have kind : t.kind = .number := congrArg Token.kind number
    rwa [kind]
  · have kind : t.kind = .closeParenthesis := congrArg Token.kind closing
    rwa [kind]

theorem expect_source {kind : Kind} (noStop : stop.kind ≠ kind) :
    (expect stop kind tokens).token ∈ tokens ∨ (expect stop kind tokens).token =
      .synthesized kind (expect stop kind tokens).token.position := by
  fun_cases expect stop kind tokens with
  | case1 same => exact absurd same noStop
  | case2 other => exact .inr rfl
  | case3 t r same => exact .inl (List.mem_cons_self ..)
  | case4 t r other => exact .inr rfl

/-- Operators and opening parentheses are read; only operands and closings are filled in. -/
theorem Reads.leaves_source (reads : Reads stop category allowance tokens reading)
    (atEnd : stop.kind = .endOfFile) : ∀ t ∈ reading.expr.leaves, t ∈ tokens ∨ t.Filled := by
  induction reads with
  | @number allowance tokens noGroup =>
    intro t member
    obtain rfl := List.mem_singleton.mp member
    exact (expect_source (by simp [atEnd])).imp_right .inl
  | skipped opens =>
    intro t member
    obtain rfl := List.mem_singleton.mp member
    exact .inr (.inl rfl)
  | @group allowance opening rest inside opens inner complete ih =>
    have within : inside.rest ⊆ opening :: rest :=
      List.Subset.trans inner.rest_suffix.subset (List.subset_cons_self opening rest)
    intro t member
    simp only [Reading.enclose, Expr.leaves, List.mem_cons, List.mem_append, List.not_mem_nil,
      or_false] at member
    rcases member with rfl | held | rfl
    · exact .inl (List.mem_cons_self ..)
    · exact (ih t held).imp_left (List.mem_cons_of_mem opening)
    · exact (expect_source (by simp [atEnd])).imp (fun read => within read) .inr
  | lonePrimary only ih => exact ih
  | product first next strength last hf hl | sum first next strength last complete hf hl =>
    have behind := first.rest_suffix.subset
    rw [next] at behind
    intro t member
    simp only [Reading.join, Expr.leaves, List.mem_append, List.mem_cons] at member
    rcases member with left | rfl | right
    · exact hf t left
    · exact .inl (behind (List.mem_cons_self ..))
    · exact (hl t right).imp_left fun read => behind (List.mem_cons_of_mem _ read)
  | loneFactor only complete ih => exact ih

theorem Reads.leaves_from (reads : Reads stop category allowance tokens reading)
    (atEnd : stop.kind = .endOfFile) : ∀ t ∈ reading.expr.leaves, t.From tokens :=
  fun t member => (reads.leaves_source atEnd t member).imp_right Token.Filled.eq_synthesized

/-- The tokens of a tree are read as that tree, whatever follows that is no operator of its own. -/
theorem TreeOf.reads (tree : TreeOf category nesting e) (stop : Token) (rest : List Token)
    (complete : category = .term → leadingStrength rest ≠ 2) :
    Reads stop category nesting (e.leaves ++ rest) { expr := e, rest } := by
  induction tree generalizing rest with
  | @number nesting t kind =>
    have read : (numberRule stop).read (t :: rest) = { expr := .number t, rest } := by
      simp [numberRule, expect, kind]
    rw [← read]
    exact .number (by simp [Expr.leaves, kind])
  | @group nesting opening closing inside opens inner closes ih =>
    have closed : leadingStrength (closing :: rest) = 0 := by
      simp [leadingStrength, closes, Kind.binaryPrecedence]
    have within := ih (closing :: rest) (by simp [closed])
    have whole := Reads.group opens within closed
    simpa [Reading.enclose, expect, closes, Expr.leaves] using whole
  | lonePrimary only ih => exact .lonePrimary (ih rest (by simp))
  | @product nesting left right operator first strength last hf hl =>
    have whole := Reads.product (hf (operator :: (right.leaves ++ rest)) (by simp)) rfl strength
      (hl rest (by simp))
    simpa [Reading.join, Expr.leaves] using whole
  | loneFactor only ih => exact .loneFactor (ih rest (by simp)) (complete rfl)
  | @sum nesting left right operator first strength last hf hl =>
    have next : leadingStrength (operator :: (right.leaves ++ rest)) ≠ 2 := by
      simp [leadingStrength, strength]
    have whole := Reads.sum (hf _ fun _ => next) rfl strength (hl rest (by simp)) (complete rfl)
    simpa [Reading.join, Expr.leaves] using whole

theorem TreeOf.read_leaves (tree : TreeOf .term nesting e) (stop : Token) :
    (term stop nesting).read e.leaves = { expr := e, rest := [] } := by
  have reads := tree.reads stop [] (by simp [leadingStrength])
  rw [List.append_nil] at reads
  exact reads_term_iff.mp ⟨reads, rfl⟩

/-- A tree of the grammar is known by its tokens. -/
theorem TreeOf.eq_of_leaves {other : Expr} {low high : Nat} (tree : TreeOf .term low e)
    (others : TreeOf .term high other) (same : e.leaves = other.leaves) : e = other := by
  have one := (tree.mono (Nat.le_max_left low high)).read_leaves default
  have two := (others.mono (Nat.le_max_right low high)).read_leaves default
  rw [same, two] at one
  exact (congrArg Reading.expr one).symm

end LineCalc.Syntax
