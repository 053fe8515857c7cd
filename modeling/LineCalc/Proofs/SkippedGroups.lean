import LineCalc.Proofs.FaithfulTrees
import LineCalc.Proofs.ParserRuns

/-!
Where the skipping of a group stops. Up to the parenthesis that closes the group more are opened
than closed, and behind it just as many for the first time. Where that never happens the skipping
goes on to the end of file and leaves it standing.
-/
namespace LineCalc.Syntax

open Reckoning (openAfter openAfterAll openAfterAll_cons)

def occurrences (kind : Kind) (tokens : List Token) : Nat := (tokens.map Token.kind).count kind

structure BalancedRun (tokens run : List Token) : Prop where
  front : run <+: tokens
  filled : run ≠ []
  even : occurrences .closeParenthesis run = occurrences .openParenthesis run

structure ShortestBalancedRun (tokens run : List Token) : Prop extends BalancedRun tokens run where
  least : ∀ other, BalancedRun tokens other → run.length ≤ other.length

variable {tokens run rest : List Token} {t stop opening : Token}

theorem occurrences_cons (kind : Kind) (t : Token) (tokens : List Token) :
    occurrences kind (t :: tokens) = occurrences kind tokens + if t.kind = kind then 1 else 0 := by
  simp [occurrences, List.count_cons]

theorem openAfter_add {n : Nat} (positive : 0 < n) (t : Token) :
    openAfter n t + (if t.kind = .closeParenthesis then 1 else 0) =
      n + if t.kind = .openParenthesis then 1 else 0 := by
  unfold openAfter
  by_cases opens : t.kind = .openParenthesis
  · simp [opens]
  · rw [if_neg opens, if_neg opens]
    split <;> omega

theorem openAfterAll_add_occurrences {n : Nat} {group : List Token}
    (inside : ∀ part, part <+: group → part ≠ group → 0 < openAfterAll n part) :
    openAfterAll n group + occurrences .closeParenthesis group =
      n + occurrences .openParenthesis group := by
  induction group generalizing n with
  | nil => rfl
  | cons t rest ih =>
    have positive : 0 < n := inside [] List.nil_prefix (by simp)
    have step := openAfter_add positive t
    have later := ih fun part front proper =>
      inside (t :: part) ((List.prefix_cons_inj t).mpr front) (by simpa using proper)
    rw [openAfterAll_cons, occurrences_cons, occurrences_cons]
    omega

theorem even_iff (opens : opening.kind = .openParenthesis) {group others : List Token}
    (inside : ∀ part, part <+: group → part ≠ group → 0 < openAfterAll 1 part)
    (front : others <+: group) :
    occurrences .closeParenthesis (opening :: others) =
        occurrences .openParenthesis (opening :: others) ↔ openAfterAll 1 others = 0 := by
  have sooner : ∀ part, part <+: others → part ≠ others → 0 < openAfterAll 1 part :=
    fun part before proper => inside part (before.trans front) fun same =>
      proper (before.eq_of_length_le (same ▸ front.length_le))
  have counted := openAfterAll_add_occurrences sooner
  rw [occurrences_cons, occurrences_cons, opens, if_neg (by decide), if_pos rfl]
  omega

/-- A group is skipped as far as its shortest balanced run. -/
theorem skipped_extent (opens : opening.kind = .openParenthesis) (rest : List Token) :
    (∃ run, ShortestBalancedRun (opening :: rest) run ∧
        opening :: rest = run ++ afterGroups 1 rest) ∨
      (∀ run, ¬ BalancedRun (opening :: rest) run) ∧ afterGroups 1 rest = [] := by
  obtain ⟨group, whole, inside, closes⟩ := afterGroups_extent 1 rest
  have proper {others : List Token} (front : others <+: group) (shorter : others ≠ group) :
      ¬ BalancedRun (opening :: rest) (opening :: others) := by
    intro balanced
    have zero := (even_iff opens inside front).mp balanced.even
    exact Nat.ne_of_gt (inside others front shorter) zero
  by_cases closed : openAfterAll 1 group = 0
  · have here : opening :: rest = opening :: group ++ afterGroups 1 rest := by
      rw [List.cons_append, ← whole]
    have balanced : BalancedRun (opening :: rest) (opening :: group) :=
      ⟨⟨_, here.symm⟩, List.cons_ne_nil _ _,
        (even_iff opens inside (List.prefix_refl group)).mpr closed⟩
    refine .inl ⟨opening :: group, ⟨balanced, fun other found => ?_⟩, here⟩
    -- A shorter one would end inside the group, where more are opened than closed.
    by_contra shorter
    have front := List.prefix_of_prefix_length_le found.front balanced.front (by omega)
    rcases List.prefix_cons_iff.mp front with rfl | ⟨others, rfl, further⟩
    · exact found.filled rfl
    · exact proper further (fun same => by simp [same] at shorter) found
  · have last := closes.resolve_left closed
    refine .inr ⟨fun run found => ?_, last⟩
    rw [last, List.append_nil] at whole
    obtain ⟨others, rfl, further⟩ : ∃ others, run = opening :: others ∧ others <+: group := by
      rcases List.prefix_cons_iff.mp found.front with rfl | ⟨others, rfl, further⟩
      · exact absurd rfl found.filled
      · exact ⟨others, rfl, whole ▸ further⟩
    by_cases same : others = group
    · exact closed (same ▸ (even_iff opens inside further).mp found.even)
    · exact proper further same found

theorem BalancedRun.exists_without_last (noOpening : stop.kind ≠ .openParenthesis)
    (noClosing : stop.kind ≠ .closeParenthesis) (filled : tokens ≠ [])
    (balanced : BalancedRun (tokens ++ [stop]) run) :
    ∃ sooner, BalancedRun tokens sooner ∧ sooner.length ≤ run.length := by
  rcases List.prefix_concat_iff.mp balanced.front with rfl | front
  · refine ⟨tokens, ⟨List.prefix_refl tokens, filled, ?_⟩, by simp⟩
    have even := balanced.even
    simpa [occurrences, noOpening, noClosing] using even
  · exact ⟨run, ⟨front, balanced.filled, balanced.even⟩, Nat.le_refl _⟩

theorem skipped_extent_of_stop (opens : opening.kind = .openParenthesis)
    (noOpening : stop.kind ≠ .openParenthesis) (noClosing : stop.kind ≠ .closeParenthesis)
    (rest : List Token) :
    (∃ run, ShortestBalancedRun (opening :: rest ++ [stop]) run ∧
        opening :: rest = run ++ afterGroups 1 rest) ∨
      (∀ run, ¬ BalancedRun (opening :: rest ++ [stop]) run) ∧ afterGroups 1 rest = [] := by
  have filled : opening :: rest ≠ [] := List.cons_ne_nil opening rest
  rcases skipped_extent opens rest with ⟨run, shortest, whole⟩ | ⟨none, last⟩
  · refine .inl ⟨run, ⟨⟨?_, shortest.filled, shortest.even⟩, fun other found => ?_⟩, whole⟩
    · exact shortest.front.trans (List.prefix_append _ _)
    · obtain ⟨sooner, balanced, le⟩ := found.exists_without_last noOpening noClosing filled
      exact (shortest.least sooner balanced).trans le
  · refine .inr ⟨fun run found => ?_, last⟩
    obtain ⟨sooner, balanced, _⟩ := found.exists_without_last noOpening noClosing filled
    exact none sooner balanced

namespace Descent
variable {d : Descent}

def SkipsGroup (d : Descent) (e : Expr) (after : Descent) : Prop :=
  e = .number (.synthesized .number d.current.position) ∧
    Skips 1 (d.advance.report (.nestingTooDeep maxNesting)) after

def pastGroup (d : Descent) : Descent :=
  let skipped := skippedGroup d.current d.advance.parser.upcoming
  d.behind skipped.reports skipped.rest

theorem reaches_primary_iff (opens : d.current.kind = .openParenthesis)
    (deep : maxNesting ≤ d.parser.depth) (e : Expr) (last : Descent) :
    Reaches (.rule .primary) d e last ↔ d.SkipsGroup e last := by
  constructor
  · intro reaches
    cases reaches with
    | number noGroup => exact absurd opens noGroup
    | skipped _ _ skips => exact ⟨rfl, skips⟩
    | group _ shallow => omega
  · rintro ⟨rfl, skips⟩
    exact .skipped opens deep skips

section
variable (ends : d.parser.EndsOnce) (opens : d.current.kind = .openParenthesis)
include ends opens

theorem upcoming_eq : d.parser.upcoming = d.current :: d.advance.parser.upcoming := by
  cases ahead : d.parser.upcoming with
  | nil =>
    rw [Descent.current, Parser.current_eq ahead, List.headD_nil, ends.stop] at opens
    cases opens
  | cons t rest =>
    have moved := advance_eq_behind ahead
    have further : d.advance.parser.upcoming = rest :=
      moved ▸ Parser.upcoming_reach (ahead ▸ List.suffix_cons t rest)
    rw [Descent.current, Parser.current_eq ahead, further, List.headD_cons]

theorem advance_suffix : d.advance.parser.upcoming <:+ d.parser.upcoming :=
  upcoming_eq ends opens ▸ List.suffix_cons _ _

theorem skipsGroup_iff (e : Expr) (last : Descent) :
    d.SkipsGroup e last ↔
      e = .number ⟨.number, d.current.position, none, none⟩ ∧ last = d.pastGroup := by
  have step := advance_suffix ends opens
  have told := advance_report (upcoming_eq ends opens) (.nestingTooDeep maxNesting)
  have skips : Skips 1 (d.advance.report (.nestingTooDeep maxNesting)) d.pastGroup := by
    have goes := skips_behind (d := d.behind [.nestingTooDeep maxNesting] d.advance.parser.upcoming)
      (ends.of_same rfl rfl) (Parser.upcoming_reach step) 1
    rwa [behind_behind step (afterGroups_suffix 1 _), ← told] at goes
  constructor
  · rintro ⟨rfl, others⟩
    exact ⟨rfl, skips.unique others⟩
  · rintro ⟨rfl, rfl⟩
    exact ⟨rfl, skips⟩

theorem primary_of_deep (deep : maxNesting ≤ d.parser.depth) :
    d.parser.primary =
      { answer := .number ⟨.number, d.current.position, none, none⟩
        reports := [.nestingTooDeep maxNesting]
        after := d.pastGroup.parser } := by
  have level : maxNesting - d.parser.depth = 0 := Nat.sub_eq_zero_of_le deep
  have skipped : (Syntax.primary d.parser.stop 0).read d.parser.upcoming =
      skippedGroup d.current d.advance.parser.upcoming := by
    rw [upcoming_eq ends opens]
    exact if_pos opens
  rw [Parser.primary, Parser.apply, level, skipped]
  rfl

theorem length_upcoming_of_opens :
    d.parser.cursor + d.parser.upcoming.length = d.parser.lastIndex := by
  have filled := congrArg List.length (upcoming_eq ends opens)
  rw [Parser.length_upcoming, List.length_cons] at filled
  rw [Parser.length_upcoming, Parser.lastIndex_eq]
  omega

theorem drop_tokens :
    d.parser.tokens.drop d.parser.cursor = d.parser.upcoming ++ [d.parser.stop] := by
  have inside := length_upcoming_of_opens ends opens
  rw [Parser.lastIndex_eq] at inside
  exact List.drop_append_of_le_length (by omega)

theorem pastGroup_cursor :
    d.pastGroup.parser.cursor + (afterGroups 1 d.advance.parser.upcoming).length =
      d.parser.lastIndex := by
  have inside := length_upcoming_of_opens ends opens
  have fewer := (afterGroups_suffix 1 d.advance.parser.upcoming).length_le
  have one := congrArg List.length (upcoming_eq ends opens)
  rw [List.length_cons] at one
  have moved : d.pastGroup.parser.cursor = d.parser.cursor + (d.parser.upcoming.length -
    (afterGroups 1 d.advance.parser.upcoming).length) := rfl
  omega

theorem pastGroup_upcoming :
    d.pastGroup.parser.upcoming = afterGroups 1 d.advance.parser.upcoming :=
  Parser.upcoming_reach ((afterGroups_suffix 1 _).trans (advance_suffix ends opens))

end

/-- The skipping of a group at the cursor always ends, and in one way only, whatever tokens follow
and however many groups are open. It stops behind the shortest balanced run from the parenthesis on,
or at the end of file if there is none; it reports once, changes nothing but the cursor of the
parser, and gives a number that stands where the group does. Where no more groups may be opened,
that is what the rule does. -/
theorem skipping_stops_behind_the_matching_parenthesis (ends : d.parser.EndsOnce)
    (opens : d.current.kind = .openParenthesis) :
    (∀ e last, d.SkipsGroup e last ↔
      e = .number ⟨.number, d.current.position, none, none⟩ ∧ last = d.pastGroup) ∧
    d.pastGroup.log = d.log ++ [.nestingTooDeep maxNesting] ∧
    d.pastGroup.parser = { d.parser with cursor := d.pastGroup.parser.cursor } ∧
    d.pastGroup.parser.cursor ≤ d.parser.lastIndex ∧
    ((∃ run, ShortestBalancedRun (d.parser.tokens.drop d.parser.cursor) run ∧
        d.pastGroup.parser.cursor = d.parser.cursor + run.length) ∨
      (∀ run, ¬ BalancedRun (d.parser.tokens.drop d.parser.cursor) run) ∧
        d.pastGroup.parser.cursor = d.parser.lastIndex ∧
        d.pastGroup.current.kind = .endOfFile) ∧
    (maxNesting ≤ d.parser.depth →
      (∀ e last, Reaches (.rule .primary) d e last ↔ d.SkipsGroup e last) ∧
      d.parser.primary =
        { answer := .number ⟨.number, d.current.position, none, none⟩
          reports := [.nestingTooDeep maxNesting]
          after := d.pastGroup.parser }) := by
  have place := pastGroup_cursor ends opens
  refine ⟨skipsGroup_iff ends opens, rfl, rfl, by omega, ?_,
    fun deep => ⟨reaches_primary_iff opens deep, primary_of_deep ends opens deep⟩⟩
  have noOpening : d.parser.stop.kind ≠ .openParenthesis := by rw [ends.stop]; decide
  have noClosing : d.parser.stop.kind ≠ .closeParenthesis := by rw [ends.stop]; decide
  have extent := skipped_extent_of_stop opens noOpening noClosing d.advance.parser.upcoming
  rw [← upcoming_eq ends opens, ← drop_tokens ends opens] at extent
  rcases extent with ⟨run, shortest, whole⟩ | ⟨none, last⟩
  · refine .inl ⟨run, shortest, ?_⟩
    have inside := length_upcoming_of_opens ends opens
    have lengths := congrArg List.length whole
    rw [List.length_append] at lengths
    omega
  · refine .inr ⟨none, ?_, ?_⟩
    · rwa [last] at place
    · have behind := pastGroup_upcoming ends opens
      rw [last] at behind
      rw [Descent.current, Parser.current_eq behind]
      exact ends.stop

theorem unclosed_group_is_skipped_to_the_end :
    let d : Descent := ⟨Parser.ofText "(7-(1+2)", [.badCharacter "$"]⟩
    d.parser.EndsOnce ∧ d.current.kind = .openParenthesis ∧
      d.SkipsGroup (.number ⟨.number, 0, none, none⟩) d.pastGroup ∧
      d.pastGroup.parser.cursor = d.parser.lastIndex := by
  intro d
  have ends : d.parser.EndsOnce := Parser.ofText_endsOnce "(7-(1+2)"
  have opens : d.current.kind = .openParenthesis := by decide +kernel
  obtain ⟨skips, _⟩ := skipping_stops_behind_the_matching_parenthesis ends opens
  exact ⟨ends, opens, (skips _ _).mpr ⟨by decide +kernel, rfl⟩, by decide +kernel⟩

end Descent
end LineCalc.Syntax
