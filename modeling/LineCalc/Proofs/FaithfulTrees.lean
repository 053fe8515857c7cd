import LineCalc.Proofs.MissingTokens
import LineCalc.Proofs.PrintedText
import LineCalc.Proofs.TokenReckoning

/-!
What the tree of any line keeps of the line. Reading goes along the tokens once, from left to right:
it takes one over, puts one in where another stands, or passes over a group that is nested too deep.
So no token is moved or repeated, and only the tokens of such groups are lost on the way.
-/
namespace LineCalc.Syntax

open Reckoning (openAfter openAfterAll openAfterAll_cons openAfterAll_append openAfter_operator)

/-! Going along the line. -/

inductive Follows : (line leaves : List Token) → (reports : List Diagnostic) →
    (rest : List Token) → Prop where
  | done (line : List Token) : Follows line [] [] line
  | read {t : Token} {line leaves rest : List Token} {reports : List Diagnostic}
      (later : Follows line leaves reports rest) : Follows (t :: line) (t :: leaves) reports rest
  | missing {t : Token} {line leaves rest : List Token} {reports : List Diagnostic} (kind : Kind)
      (later : Follows (t :: line) leaves reports rest) :
      Follows (t :: line) (.synthesized kind t.position :: leaves)
        (.unexpectedToken t.kind kind :: reports) rest
  | skipped {opening : Token} {group line leaves rest : List Token} {reports : List Diagnostic}
      (later : Follows line leaves reports rest) :
      Follows (opening :: (group ++ line)) (.synthesized .number opening.position :: leaves)
        (.nestingTooDeep maxNesting :: reports) rest

variable {line leaves others rest : List Token} {reports further : List Diagnostic}

theorem Follows.append {final : List Token} (one : Follows line leaves reports rest)
    (two : Follows rest others further final) :
    Follows line (leaves ++ others) (reports ++ further) final := by
  induction one with
  | done => exact two
  | read later ih => exact .read (ih two)
  | missing kind later ih => exact .missing kind (ih two)
  | skipped later ih => exact .skipped (ih two)

theorem Follows.exists_position (follows : Follows line leaves reports rest) :
    ∀ leaf ∈ leaves, ∃ t ∈ line, t.position = leaf.position := by
  induction follows with
  | done => simp
  | @read t line leaves rest reports later ih =>
    refine List.forall_mem_cons.mpr ⟨⟨t, by simp, rfl⟩, fun leaf member => ?_⟩
    obtain ⟨u, inside, same⟩ := ih leaf member
    exact ⟨u, List.mem_cons_of_mem t inside, same⟩
  | @missing t line leaves rest reports kind later ih =>
    exact List.forall_mem_cons.mpr ⟨⟨t, by simp, rfl⟩, ih⟩
  | @skipped opening group line leaves rest reports later ih =>
    refine List.forall_mem_cons.mpr ⟨⟨opening, by simp, rfl⟩, fun leaf member => ?_⟩
    obtain ⟨u, inside, same⟩ := ih leaf member
    exact ⟨u, by simp [inside], same⟩

theorem Follows.position_le {position : Nat} (follows : Follows line leaves reports rest)
    (ahead : ∀ t ∈ line, position ≤ t.position) : ∀ leaf ∈ leaves, position ≤ leaf.position := by
  intro leaf member
  obtain ⟨t, inside, same⟩ := follows.exists_position leaf member
  exact same ▸ ahead t inside

theorem Follows.ordered (follows : Follows line leaves reports rest)
    (ascending : line.Pairwise fun a b => a.position < b.position) :
    leaves.Pairwise fun a b => a.position ≤ b.position := by
  induction follows with
  | done => exact .nil
  | @read t line leaves rest reports later ih =>
    obtain ⟨behind, others⟩ := List.pairwise_cons.mp ascending
    refine List.pairwise_cons.mpr ⟨later.position_le fun u inside => ?_, ih others⟩
    exact Nat.le_of_lt (behind u inside)
  | @missing t line leaves rest reports kind later ih =>
    obtain ⟨behind, _⟩ := List.pairwise_cons.mp ascending
    have ahead : ∀ u ∈ t :: line, t.position ≤ u.position :=
      List.forall_mem_cons.mpr ⟨Nat.le_refl _, fun u inside => Nat.le_of_lt (behind u inside)⟩
    exact List.pairwise_cons.mpr ⟨later.position_le ahead, ih ascending⟩
  | @skipped opening group line leaves rest reports later ih =>
    obtain ⟨behind, others⟩ := List.pairwise_cons.mp ascending
    have kept := (List.pairwise_append.mp others).2.1
    refine List.pairwise_cons.mpr ⟨later.position_le fun u inside => ?_, ih kept⟩
    exact Nat.le_of_lt (behind u (List.mem_append_right group inside))

theorem Follows.sublist (follows : Follows line leaves reports rest) :
    (leaves.filter fun t => t.text.isSome).Sublist line := by
  induction follows with
  | done => exact List.nil_sublist _
  | @read t line leaves rest reports later ih =>
    rw [List.filter_cons]
    split
    · exact ih.cons_cons t
    · exact ih.cons t
  | missing kind later ih => exact ih
  | @skipped opening group line leaves rest reports later ih =>
    exact (ih.trans (List.sublist_append_right group line)).cons opening

/-- Where no group was skipped the leaves that were read are all tokens up to the rest. -/
theorem Follows.written_append (follows : Follows line leaves reports rest)
    (texts : ∀ t ∈ line, t.text.isSome = true) (shallow : .nestingTooDeep maxNesting ∉ reports) :
    (leaves.filter fun t => t.text.isSome) ++ rest = line := by
  induction follows with
  | done => rfl
  | @read t line leaves rest reports later ih =>
    obtain ⟨here, behind⟩ := List.forall_mem_cons.mp texts
    rw [List.filter_cons_of_pos (p := fun t : Token => t.text.isSome) here, List.cons_append,
      ih behind shallow]
  | missing kind later ih => exact ih texts fun deep => shallow (List.mem_cons_of_mem _ deep)
  | skipped later ih => exact absurd (List.mem_cons_self ..) shallow

variable {stop : Token} {category : Category} {allowance : Nat} {tokens : List Token}
  {reading : Reading}

theorem expect_follows {kind : Kind} (noStop : stop.kind ≠ kind) (tokens : List Token) :
    Follows (tokens ++ [stop]) [(expect stop kind tokens).token] (expect stop kind tokens).reports
      ((expect stop kind tokens).rest ++ [stop]) := by
  fun_cases expect stop kind tokens with
  | case1 same => exact absurd same noStop
  | case2 other => exact .missing kind (.done [stop])
  | case3 t r same => exact .read (.done (r ++ [stop]))
  | case4 t r other => exact .missing kind (.done (t :: (r ++ [stop])))

theorem Reads.follows (reads : Reads stop category allowance tokens reading)
    (atEnd : stop.kind = .endOfFile) :
    Follows (tokens ++ [stop]) reading.expr.leaves reading.reports (reading.rest ++ [stop]) := by
  induction reads with
  | number noGroup => exact expect_follows (by simp [atEnd]) _
  | @skipped opening rest opens =>
    obtain ⟨group, whole⟩ := afterGroups_suffix 1 rest
    have passed : Follows (opening :: (group ++ (afterGroups 1 rest ++ [stop])))
        [.synthesized .number opening.position] [.nestingTooDeep maxNesting]
        (afterGroups 1 rest ++ [stop]) := .skipped (.done _)
    rw [← List.append_assoc, whole] at passed
    exact passed
  | @group allowance opening rest inside opens inner complete ih =>
    exact .read (ih.append (expect_follows (by simp [atEnd]) inside.rest))
  | lonePrimary only ih => exact ih
  | loneFactor only complete ih => exact ih
  | product first next strength last hf hl | sum first next strength last complete hf hl =>
    rw [next] at hf
    exact hf.append (.read hl)

/-! Groups. -/

structure Encloses (group after : List Token) : Prop where
  opens : group.head?.map Token.kind = some .openParenthesis
  inside : ∀ part, part <+: group → part ≠ [] → part ≠ group → 0 < openAfterAll 0 part
  closes : openAfterAll 0 group = 0 ∨ after = []

/-- A token lies in a group with just `level` others around it, when `depth` groups are open before
the first token. -/
def InGroup (depth level : Nat) (line : List Token) (t : Token) : Prop :=
  ∃ before group after, line = before ++ group ++ after ∧ t ∈ group ∧
    openAfterAll depth before = level ∧ Encloses group after

theorem InGroup.append {depth inner level : Nat} {front : List Token} {t : Token}
    (within : InGroup inner level tokens t) (opened : openAfterAll depth front = inner) :
    InGroup depth level (front ++ tokens) t := by
  obtain ⟨before, group, after, rfl, member, levels, encloses⟩ := within
  refine ⟨front ++ before, group, after, by simp, member, ?_, encloses⟩
  rw [openAfterAll_append, opened, levels]

theorem afterGroups_cons (n : Nat) (t : Token) (rest : List Token) :
    afterGroups (n + 1) (t :: rest) = afterGroups (openAfter (n + 1) t) rest := by
  rw [afterGroups, openAfter]
  by_cases opens : t.kind = .openParenthesis
  · simp [opens]
  · by_cases closes : t.kind = .closeParenthesis
    · simp [closes]
    · simp [opens, closes]

/-- Skipping stops just where all groups are closed, or at the end. -/
theorem afterGroups_extent (n : Nat) (tokens : List Token) :
    ∃ group, tokens = group ++ afterGroups n tokens ∧
      (∀ part, part <+: group → part ≠ group → 0 < openAfterAll n part) ∧
      (openAfterAll n group = 0 ∨ afterGroups n tokens = []) := by
  induction tokens generalizing n with
  | nil => cases n <;> exact ⟨[], rfl, by simp, .inr rfl⟩
  | cons t rest ih =>
    cases n with
    | zero => exact ⟨[], rfl, by simp, .inl rfl⟩
    | succ n =>
      obtain ⟨group, whole, inside, closes⟩ := ih (openAfter (n + 1) t)
      rw [← afterGroups_cons] at whole closes
      refine ⟨t :: group, by rw [List.cons_append, ← whole], ?_, closes⟩
      intro part front proper
      rcases List.prefix_cons_iff.mp front with rfl | ⟨others, rfl, further⟩
      · exact Nat.succ_pos n
      · exact inside others further fun same => proper (congrArg _ same)

theorem skipped_encloses {opening : Token} (opens : opening.kind = .openParenthesis)
    (rest : List Token) :
    ∃ group, rest = group ++ afterGroups 1 rest ∧
      Encloses (opening :: group) (afterGroups 1 rest) := by
  obtain ⟨group, whole, inside, closes⟩ := afterGroups_extent 1 rest
  have opened : openAfter 0 opening = 1 := by simp [openAfter, opens]
  refine ⟨group, whole, by simp [opens], ?_, by rwa [openAfterAll_cons, opened]⟩
  intro part front nonempty proper
  rcases List.prefix_cons_iff.mp front with rfl | ⟨others, rfl, further⟩
  · exact absurd rfl nonempty
  · rw [openAfterAll_cons, opened]
    exact inside others further fun same => proper (congrArg _ same)

theorem openAfterAll_add {n : Nat} {group : List Token}
    (inside : ∀ part, part <+: group → part ≠ group → 0 < openAfterAll n part) (depth : Nat) :
    openAfterAll (depth + n) group = depth + openAfterAll n group := by
  induction group generalizing n with
  | nil => rfl
  | cons t rest ih =>
    have positive : 0 < n := inside [] (List.nil_prefix) (by simp)
    have step : openAfter (depth + n) t = depth + openAfter n t := by
      unfold openAfter
      split
      · rfl
      · split
        · omega
        · rfl
    rw [openAfterAll_cons, openAfterAll_cons, step]
    refine ih fun part front proper => ?_
    exact inside (t :: part) ((List.prefix_cons_inj t).mpr front) (by simpa using proper)

theorem Encloses.level {group after : List Token} (encloses : Encloses group after) (depth : Nat) :
    openAfterAll depth group = depth ∨ after = [] := by
  rcases encloses.closes with closed | last
  · obtain ⟨opening, others, rfl⟩ : ∃ opening others, group = opening :: others :=
      List.exists_cons_of_ne_nil fun empty => by simpa [empty] using encloses.opens
    have opens : opening.kind = .openParenthesis := by simpa using encloses.opens
    have opened (n : Nat) : openAfter n opening = n + 1 := by simp [openAfter, opens]
    rw [openAfterAll_cons, opened] at closed ⊢
    have inside : ∀ part, part <+: others → part ≠ others → 0 < openAfterAll (0 + 1) part := by
      intro part front proper
      rw [← opened 0, ← openAfterAll_cons]
      exact encloses.inside _ ((List.prefix_cons_inj opening).mpr front) (by simp)
        (by simpa using proper)
    exact .inl (by rw [openAfterAll_add inside depth, closed, Nat.add_zero])
  · exact .inr last

def Stuck (tokens : List Token) : Prop :=
  ∀ t ∈ tokens.head?, t.kind.binaryPrecedence = 0 ∧ t.kind ≠ .closeParenthesis

/-- What a reading passed on its way: it left all groups that it entered, unless it cannot go on,
and lost only tokens of groups that are nested too deep. -/
structure Passed (depth allowance : Nat) (tokens front : List Token) (reading : Reading) :
    Prop where
  line : tokens = front ++ reading.rest
  level : openAfterAll depth front = depth ∨ Stuck reading.rest
  kept : ∀ t ∈ front, t ∈ reading.expr.leaves ∨ InGroup depth (depth + allowance) tokens t

variable {depth : Nat} {left right : Reading}

theorem expect_cases {kind : Kind} (noStop : stop.kind ≠ kind) (tokens : List Token) :
    (∃ t rest, tokens = t :: rest ∧ t.kind = kind ∧
        expect stop kind tokens = { token := t, rest }) ∨
      (expect stop kind tokens).rest = tokens ∧ ∀ t ∈ tokens.head?, t.kind ≠ kind := by
  fun_cases expect stop kind tokens with
  | case1 same => exact absurd same noStop
  | case2 other => exact .inr ⟨rfl, by simp⟩
  | case3 t r same => exact .inl ⟨t, r, rfl, same, rfl⟩
  | case4 t r other => exact .inr ⟨rfl, by simpa using other⟩

theorem exists_passed_number (atEnd : stop.kind = .endOfFile) (depth allowance : Nat)
    (tokens : List Token) :
    ∃ front, Passed depth allowance tokens front ((numberRule stop).read tokens) := by
  have noStop : stop.kind ≠ .number := by simp [atEnd]
  obtain ⟨t, rest, rfl, number, found⟩ | ⟨nothing, _⟩ := expect_cases noStop tokens
  · refine ⟨[t], ?_, .inl (by simp [openAfterAll, openAfter, number]), fun u member => .inl ?_⟩
    · simp [numberRule, found]
    · simpa [numberRule, found, Expr.leaves] using member
  · exact ⟨[], nothing.symm, .inl rfl, by simp⟩

theorem exists_passed_skipped {opening : Token} (opens : opening.kind = .openParenthesis)
    (depth : Nat) (rest : List Token) :
    ∃ front, Passed depth 0 (opening :: rest) front (skippedGroup opening rest) := by
  obtain ⟨group, whole, encloses⟩ := skipped_encloses opens rest
  refine ⟨opening :: group, ?_, ?_, fun t member => .inr ?_⟩
  · rw [List.cons_append, skippedGroup, ← whole]
  · refine (encloses.level depth).imp_right fun last => ?_
    simp [Stuck, skippedGroup, last]
  · refine ⟨[], opening :: group, _, ?_, member, rfl, encloses⟩
    rw [List.nil_append, List.cons_append, ← whole]

theorem Passed.join {operator : Token} {front rest back : List Token}
    (first : Passed depth allowance tokens front left) (next : left.rest = operator :: rest)
    (strong : 0 < operator.kind.binaryPrecedence) (last : Passed depth allowance rest back right) :
    Passed depth allowance tokens (front ++ operator :: back) (left.join operator right) := by
  have line := first.line
  rw [next] at line
  have closed : openAfterAll depth (front ++ [operator]) = depth := by
    have left : openAfterAll depth front = depth := by
      refine first.level.resolve_right fun stuck => ?_
      have weak := (stuck operator (by simp [next])).1
      omega
    rw [openAfterAll_append, left]
    exact openAfter_operator strong depth
  constructor
  · rw [line, last.line]
    simp [Reading.join]
  · rw [List.append_cons, openAfterAll_append, closed]
    exact last.level
  · intro t member
    simp only [Reading.join, Expr.leaves, List.mem_append, List.mem_cons] at member ⊢
    rcases member with before | here | behind
    · exact (first.kept t before).imp_left .inl
    · exact .inl (.inr (.inl here))
    · refine (last.kept t behind).imp (fun leaf => .inr (.inr leaf)) fun lost => ?_
      rw [line, List.append_cons]
      exact lost.append closed

theorem Passed.kept_enclose (stop : Token) {opening : Token} {rest front : List Token}
    {inside : Reading} (opens : opening.kind = .openParenthesis)
    (inner : Passed (depth + 1) allowance rest front inside) :
    ∀ t ∈ opening :: front, t ∈ (inside.enclose stop opening).expr.leaves ∨
      InGroup depth (depth + (allowance + 1)) (opening :: rest) t := by
  intro t member
  simp only [Reading.enclose, Expr.leaves, List.mem_append, List.mem_cons] at member ⊢
  rcases member with here | within
  · exact .inl (.inl here)
  · refine (inner.kept t within).imp (fun leaf => .inr (.inl leaf)) fun lost => ?_
    have opened : openAfterAll depth [opening] = depth + 1 := by
      simp [openAfterAll, openAfter, opens]
    have level : depth + 1 + allowance = depth + (allowance + 1) := by omega
    rw [level] at lost
    exact lost.append opened

theorem Passed.enclose {opening : Token} {rest front : List Token} {inside : Reading}
    (opens : opening.kind = .openParenthesis)
    (inner : Passed (depth + 1) allowance rest front inside)
    (complete : leadingStrength inside.rest = 0) (atEnd : stop.kind = .endOfFile) :
    ∃ whole,
      Passed depth (allowance + 1) (opening :: rest) whole (inside.enclose stop opening) := by
  have kept := inner.kept_enclose stop opens
  have noStop : stop.kind ≠ .closeParenthesis := by simp [atEnd]
  obtain ⟨closing, behind, next, closes, found⟩ | ⟨nothing, noClosing⟩ :=
    expect_cases noStop inside.rest
  · have passed : (inside.enclose stop opening).rest = behind := by rw [Reading.enclose, found]
    refine ⟨opening :: front ++ [closing], ?_, .inl ?_, ?_⟩
    · rw [inner.line, next, passed]
      simp
    · have opened : openAfterAll depth (opening :: front) = depth + 1 := by
        have level : openAfterAll (depth + 1) front = depth + 1 := by
          refine inner.level.resolve_right fun stuck => ?_
          exact (stuck closing (by simp [next])).2 closes
        rwa [openAfterAll_cons, openAfter, if_pos opens]
      rw [openAfterAll_append, opened]
      simp [openAfterAll, openAfter, closes]
    · refine List.forall_mem_append.mpr ⟨kept, List.forall_mem_singleton.mpr (.inl ?_)⟩
      simp [Reading.enclose, Expr.leaves, found]
  · have passed : (inside.enclose stop opening).rest = inside.rest := nothing
    refine ⟨opening :: front, by rw [inner.line, passed, List.cons_append], .inr ?_, kept⟩
    -- what ends the inside is the same token, and it is no closing parenthesis
    intro t head
    rw [passed] at head
    obtain ⟨others, whole⟩ := List.head?_eq_some_iff.mp head
    rw [whole] at complete
    exact ⟨complete, noClosing t head⟩

theorem Reads.exists_passed (reads : Reads stop category allowance tokens reading)
    (atEnd : stop.kind = .endOfFile) (depth : Nat) :
    ∃ front, Passed depth allowance tokens front reading := by
  induction reads generalizing depth with
  | number noGroup => exact exists_passed_number atEnd _ _ _
  | skipped opens => exact exists_passed_skipped opens depth _
  | group opens inner complete ih =>
    obtain ⟨front, passed⟩ := ih (depth + 1)
    exact passed.enclose opens complete atEnd
  | lonePrimary only ih => exact ih depth
  | loneFactor only complete ih => exact ih depth
  | product first next strength last hf hl | sum first next strength last complete hf hl =>
    obtain ⟨front, before⟩ := hf depth
    obtain ⟨back, behind⟩ := hl depth
    exact ⟨_, before.join next (by omega) behind⟩

/-! Lines. -/

theorem Partition.exists_slice {start : Nat} {cs : List Char} {tokens : List Token}
    (partition : Partition start cs tokens) :
    ∀ t ∈ tokens, ∃ front back, cs = front ++ t.spelling.toList ++ back ∧
      t.position = start + front.length := by
  induction partition with
  | stop position => exact List.forall_mem_singleton.mpr ⟨[], [], rfl, rfl⟩
  | @token position kind run rest value tokens admits maximal tail ih =>
    refine List.forall_mem_cons.mpr ⟨⟨[], rest, by simp [Token.spelling], rfl⟩, fun t member => ?_⟩
    obtain ⟨front, back, rfl, place⟩ := ih t member
    exact ⟨run ++ front, back, by simp, by rw [place, List.length_append, Nat.add_assoc]⟩

theorem ofText_tokens_slice (s : String) :
    ∀ t ∈ (Parser.ofText s).tokens, ∃ front back,
      s.toList = front ++ t.spelling.toList ++ back ∧ front.length = t.position := by
  intro t member
  rw [ofText_tokens, ← filter_significant] at member
  obtain ⟨front, back, whole, place⟩ :=
    (Lexer.partition_scan (Lexer.ofText s)).exists_slice t (List.mem_filter.mp member).1
  exact ⟨front, back, whole, by simpa [Lexer.ofText] using place.symm⟩

theorem ofText_tokens_within (s : String) :
    ∀ t ∈ (Parser.ofText s).tokens, t.position ≤ s.length := by
  intro t member
  obtain ⟨front, back, whole, place⟩ := ofText_tokens_slice s t member
  rw [← place, ← String.length_toList, whole, List.length_append, List.length_append]
  omega

theorem expect_position (stop : Token) (kind : Kind) (tokens : List Token) :
    (expect stop kind tokens).token.position = (tokens.headD stop).position := by
  fun_cases expect stop kind tokens with
  | _ => rfl

theorem expect_end_follows (atEnd : stop.kind = .endOfFile)
    (others : ∀ t ∈ tokens, t.kind ≠ .endOfFile) :
    ∃ rest, Follows (tokens ++ [stop]) [(expect stop .endOfFile tokens).token]
      (expect stop .endOfFile tokens).reports rest := by
  fun_cases expect stop .endOfFile tokens with
  | case1 same => exact ⟨[], .read (.done [])⟩
  | case2 other => exact absurd atEnd other
  | case3 t r same => exact absurd same (others t (List.mem_cons_self ..))
  | case4 t r other => exact ⟨_, .missing .endOfFile (.done (t :: (r ++ [stop])))⟩

theorem parse_follows (s : String) :
    ∃ reports rest, Follows (Parser.ofText s).tokens (parse s).tokens reports rest := by
  have reads := lineReading_reads s
  have atEnd : (endToken s.length).kind = .endOfFile := rfl
  have others : ∀ t ∈ (lineReading s).rest, t.kind ≠ .endOfFile := fun t member =>
    grammarTokens_kind (reads.rest_suffix.subset member)
  obtain ⟨rest, last⟩ := expect_end_follows atEnd others
  rw [ofText_tokens, Tree.tokens, parse_eq]
  exact ⟨_, rest, (reads.follows atEnd).append last⟩

theorem headD_position_le {rest : List Token}
    (ascending : (rest ++ [stop]).Pairwise fun a b => a.position < b.position) :
    ∀ t ∈ rest ++ [stop], (rest.headD stop).position ≤ t.position := by
  cases rest with
  | nil => simp
  | cons u rest =>
    obtain ⟨behind, _⟩ := List.pairwise_cons.mp ascending
    exact List.forall_mem_cons.mpr ⟨Nat.le_refl _, fun t later => Nat.le_of_lt (behind t later)⟩

theorem mem_tokens_or_inGroup {s : String} {t : Token} (member : t ∈ (Parser.ofText s).tokens)
    (before : t.position < (parse s).endOfFile.position) :
    t ∈ (parse s).tokens ∨ InGroup 0 maxNesting (grammarTokens s) t := by
  obtain ⟨front, passed⟩ := (lineReading_reads s).exists_passed rfl 0
  have ascending := ofText_tokens_ascending s
  rw [ofText_tokens, passed.line, List.append_assoc] at member ascending
  rcases List.mem_append.mp member with inside | behind
  · rw [Tree.tokens, parse_eq]
    have kept := passed.kept t inside
    rw [Nat.zero_add] at kept
    exact kept.imp_left fun leaf => List.mem_append_left _ leaf
  · rw [parse_eq, expect_position] at before
    have reached := headD_position_le (List.pairwise_append.mp ascending).2.1 t behind
    exact absurd before (Nat.not_lt.mpr reached)

theorem written_append_of_shallow {s : String}
    (shallow : .nestingTooDeep maxNesting ∉ (parse s).diagnostics) :
    (parse s).root.written ++ ((lineReading s).rest ++ [endToken s.length]) =
      (Parser.ofText s).tokens := by
  have texts := ofText_tokens_text s
  rw [ofText_tokens] at texts ⊢
  rw [parse_eq] at shallow ⊢
  refine ((lineReading_reads s).follows rfl).written_append texts fun deep => shallow ?_
  exact List.mem_append_right _ (List.mem_append_left _ deep)

structure Tree.Faithful (tree : Tree) (s : String) : Prop where
  ordered : tree.tokens.Pairwise fun a b => a.position ≤ b.position
  within : ∀ t ∈ tree.tokens, t.position ≤ s.length
  read : ∀ t ∈ tree.tokens, t.text ≠ none → t ∈ (Parser.ofText s).tokens ∧
    ∃ front back, s.toList = front ++ t.spelling.toList ++ back ∧ front.length = t.position
  inOrder : (tree.tokens.filter fun t => t.text.isSome).Sublist (Parser.ofText s).tokens ∧
    (Parser.ofText s).tokens.Nodup
  /-- A token before the end of the tree is lost only in a group that is opened in a hundred
  others. -/
  lost : ∀ t ∈ (Parser.ofText s).tokens, t.position < tree.endOfFile.position →
    t ∉ tree.tokens → InGroup 0 maxNesting (grammarTokens s) t
  whole : .nestingTooDeep maxNesting ∉ tree.diagnostics →
    tree.root.written <+: (Parser.ofText s).tokens

/-- The tree of any line, also of one that cannot be parsed, is faithful to it. -/
theorem parse_is_faithful (s : String) : (parse s).Faithful s := by
  obtain ⟨reports, rest, follows⟩ := parse_follows s
  have ascending := ofText_tokens_ascending s
  constructor
  case ordered => exact follows.ordered ascending
  case within =>
    intro leaf member
    obtain ⟨t, inside, same⟩ := follows.exists_position leaf member
    exact same ▸ ofText_tokens_within s t inside
  case read =>
    intro t member text
    have kept : t ∈ (parse s).tokens.filter fun t => t.text.isSome :=
      List.mem_filter.mpr ⟨member, Option.isSome_iff_ne_none.mpr text⟩
    have found := follows.sublist.subset kept
    exact ⟨found, ofText_tokens_slice s t found⟩
  case inOrder =>
    refine ⟨follows.sublist, ascending.imp fun before same => ?_⟩
    exact Nat.ne_of_lt before (congrArg Token.position same)
  case lost =>
    intro t member before missing
    exact (mem_tokens_or_inGroup member before).resolve_left missing
  case whole => exact fun shallow => ⟨_, written_append_of_shallow shallow⟩

end LineCalc.Syntax
