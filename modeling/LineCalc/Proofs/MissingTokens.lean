import LineCalc.Proofs.LineTrees
import Mathlib.Data.List.Forall2

/-!
What is missing from the tree of a line and what is said of it. A synthesized token has the place of
the token that stood where it was expected; the two of them make the report, and parsing reports
nothing else.
-/
namespace LineCalc.Syntax

/-- The report on a token that is missing where another one was found. A number is put for a group
only if that is nested too deep. -/
def absence (found missing : Token) : Diagnostic :=
  if missing.kind = .number ∧ found.kind = .openParenthesis then .nestingTooDeep maxNesting
  else .unexpectedToken found.kind missing.kind

def tokenAt? (line : List Token) (position : Nat) : Option Token :=
  line.find? fun t => t.position = position

def Tree.tokens (tree : Tree) : List Token := tree.root.leaves ++ [tree.endOfFile]

theorem absence_message (found missing : Token) :
    (absence found missing).message =
      if missing.kind = .number ∧ found.kind = .openParenthesis then
        "ERROR: Parentheses nested deeper than 100 levels"
      else
        "ERROR: Unexpected token <" ++ found.kind.name ++ ">, expected <" ++ missing.kind.name ++
          ">" := by
  unfold absence
  split
  · exact message_nestingTooDeep
  · rfl

theorem find?_of_ascending {α : Type} (key : α → Nat) {items : List α} {item : α}
    (ascending : items.Pairwise fun a b => key a < key b) (member : item ∈ items) :
    (items.find? fun other => key other = key item) = some item := by
  induction items with
  | nil => simp at member
  | cons first rest ih =>
    obtain ⟨behind, later⟩ := List.pairwise_cons.mp ascending
    rcases List.mem_cons.mp member with rfl | inside
    · simp
    · have apart : key first ≠ key item := Nat.ne_of_lt (behind item inside)
      simp [apart, ih later inside]

theorem tokenAt?_eq_some {line : List Token} {t : Token}
    (ascending : line.Pairwise fun a b => a.position < b.position) (member : t ∈ line) :
    tokenAt? line t.position = some t :=
  find?_of_ascending Token.position ascending member

/-! Readings. -/

/-- The reports are those on the synthesized ones among some tokens of a tree, in their order. -/
def Accounted (line leaves : List Token) (reports : List Diagnostic) : Prop :=
  List.Forall₂
    (fun missing report =>
      ∃ found ∈ line, found.position = missing.position ∧ report = absence found missing)
    (leaves.filter Token.isSynthesized) reports

variable {line more leaves others : List Token} {reports further : List Diagnostic}

theorem Accounted.mono (accounted : Accounted line leaves reports) (subset : line ⊆ more) :
    Accounted more leaves reports := by
  refine List.Forall₂.imp ?_ accounted
  rintro missing report ⟨found, member, same, said⟩
  exact ⟨found, subset member, same, said⟩

theorem Accounted.nil : Accounted line [] [] := List.Forall₂.nil

theorem Accounted.append (one : Accounted line leaves reports)
    (two : Accounted line others further) :
    Accounted line (leaves ++ others) (reports ++ further) := by
  rw [Accounted, List.filter_append]
  exact List.rel_append one two

theorem Accounted.cons_read {t : Token} (read : t.text.isSome = true)
    (accounted : Accounted line leaves reports) : Accounted line (t :: leaves) reports := by
  have kept : ¬ t.isSynthesized = true := by
    simpa [Token.isSynthesized, Option.isSome_iff_ne_none] using read
  rwa [Accounted, List.filter_cons_of_neg kept]

theorem accounted_synthesized {found : Token} (kind : Kind) (member : found ∈ line) :
    Accounted line [.synthesized kind found.position]
      [absence found (.synthesized kind found.position)] :=
  List.Forall₂.cons ⟨found, member, rfl, rfl⟩ List.Forall₂.nil

theorem Accounted.eq_nil_iff (accounted : Accounted line leaves reports) :
    reports = [] ↔ ∀ t ∈ leaves, t.isSynthesized = false := by
  rw [← List.length_eq_zero_iff, ← List.Forall₂.length_eq accounted, List.length_eq_zero_iff,
    List.filter_eq_nil_iff]
  simp

theorem Accounted.reports_eq (accounted : Accounted line leaves reports)
    (ascending : line.Pairwise fun a b => a.position < b.position) :
    reports.map some = (leaves.filter Token.isSynthesized).map fun missing =>
      (tokenAt? line missing.position).map fun found => absence found missing := by
  symm
  rw [← List.forall₂_eq_eq_eq, List.forall₂_map_left_iff, List.forall₂_map_right_iff]
  refine List.Forall₂.imp ?_ accounted
  rintro missing report ⟨found, member, same, rfl⟩
  rw [← same, tokenAt?_eq_some ascending member]
  rfl

variable {stop : Token} {category : Category} {allowance : Nat} {tokens : List Token}
  {reading : Reading}

theorem append_stop_subset {rest : List Token} (suffix : rest <:+ tokens) (stop : Token) :
    rest ++ [stop] ⊆ tokens ++ [stop] := by
  obtain ⟨front, rfl⟩ := suffix
  rw [List.append_assoc]
  exact List.subset_append_right front _

theorem absence_of_no_group {found : Token} {kind : Kind}
    (noGroup : kind = .number → found.kind ≠ .openParenthesis) (position : Nat) :
    absence found (.synthesized kind position) = .unexpectedToken found.kind kind := by
  rw [absence, if_neg]
  · rfl
  · rintro ⟨number, opens⟩
    exact noGroup number opens

theorem head_ne_openParenthesis (noGroup : tokens.head?.map Token.kind ≠ some .openParenthesis)
    (atEnd : stop.kind = .endOfFile) :
    ∀ t ∈ (tokens ++ [stop]).head?, t.kind ≠ .openParenthesis := by
  intro t head opens
  cases tokens with
  | nil =>
    obtain rfl : stop = t := by simpa using head
    simp [atEnd] at opens
  | cons u rest =>
    obtain rfl : u = t := by simpa using head
    simp [opens] at noGroup

theorem expect_accounted {kind : Kind} (texts : ∀ t ∈ tokens ++ [stop], t.text.isSome = true)
    (noGroup : kind = .number → ∀ t ∈ (tokens ++ [stop]).head?, t.kind ≠ .openParenthesis) :
    Accounted (tokens ++ [stop]) [(expect stop kind tokens).token]
      (expect stop kind tokens).reports := by
  fun_cases expect stop kind tokens with
  | case1 same => exact Accounted.nil.cons_read (texts stop (by simp))
  | case2 other =>
    rw [← absence_of_no_group (fun number => noGroup number stop (by simp)) stop.position]
    exact accounted_synthesized kind (by simp)
  | case3 t r same => exact Accounted.nil.cons_read (texts t (by simp))
  | case4 t r other =>
    rw [← absence_of_no_group (fun number => noGroup number t (by simp)) t.position]
    exact accounted_synthesized kind (by simp)

/-- Every rule reports what it synthesizes and nothing else. -/
theorem Reads.accounted (reads : Reads stop category allowance tokens reading)
    (texts : ∀ t ∈ tokens ++ [stop], t.text.isSome = true) (atEnd : stop.kind = .endOfFile) :
    Accounted (tokens ++ [stop]) reading.expr.leaves reading.reports := by
  induction reads with
  | @number allowance tokens noGroup =>
    exact expect_accounted texts fun _ => head_ne_openParenthesis noGroup atEnd
  | @skipped opening rest opens =>
    have said : absence opening (.synthesized .number opening.position) =
        .nestingTooDeep maxNesting := by simp [absence, Token.synthesized, opens]
    have inside : opening ∈ opening :: rest ++ [stop] := List.mem_cons_self ..
    have accounted := accounted_synthesized .number inside
    rwa [said] at accounted
  | @group allowance opening rest inside opens inner complete ih =>
    have within : rest ++ [stop] ⊆ opening :: rest ++ [stop] := List.subset_cons_self ..
    have behind := append_stop_subset inner.rest_suffix stop
    have body := ih (fun t member => texts t (within member))
    have closing : Accounted (inside.rest ++ [stop])
        [(expect stop .closeParenthesis inside.rest).token]
        (expect stop .closeParenthesis inside.rest).reports :=
      expect_accounted (fun t member => texts t (within (behind member))) (by simp)
    have whole := (body.append (closing.mono behind)).mono within
    exact whole.cons_read (texts opening (by simp))
  | lonePrimary only ih => exact ih texts
  | loneFactor only complete ih => exact ih texts
  | @product allowance tokens rest left right operator first next strength last hf hl
  | @sum allowance tokens rest left right operator first next strength last complete hf hl =>
    have behind := append_stop_subset first.rest_suffix stop
    rw [next] at behind
    have read : operator.text.isSome = true := texts operator (behind (List.mem_cons_self ..))
    have later : rest ++ [stop] ⊆ tokens ++ [stop] :=
      List.Subset.trans (List.subset_cons_self ..) behind
    have before := hf texts
    have after := (hl fun t member => texts t (later member)).mono later
    exact before.append (after.cons_read read)

/-! Lines. -/

theorem parse_accounted (s : String) :
    ∃ reports, (parse s).diagnostics = lexicalReports s ++ reports ∧
      Accounted (Parser.ofText s).tokens (parse s).tokens reports := by
  have texts := ofText_tokens_text s
  rw [ofText_tokens] at texts ⊢
  have subset := append_stop_subset (lineReading_reads s).rest_suffix (endToken s.length)
  have body := (lineReading_reads s).accounted texts rfl
  have last : Accounted ((lineReading s).rest ++ [endToken s.length])
      [(expect (endToken s.length) .endOfFile (lineReading s).rest).token]
      (expect (endToken s.length) .endOfFile (lineReading s).rest).reports :=
    expect_accounted (fun t member => texts t (subset member)) (by simp)
  rw [parse_eq]
  exact ⟨_, rfl, body.append (last.mono subset)⟩

/-- After the reports on its characters and numbers a line has one report for each synthesized token
of its tree, in their order, and no other. The token found at its place tells which one. -/
theorem diagnostics_match_missing_tokens (s : String) :
    (∃ reports, (parse s).diagnostics = lexicalReports s ++ reports ∧
      reports.map some = ((parse s).tokens.filter Token.isSynthesized).map fun missing =>
        (tokenAt? (Parser.ofText s).tokens missing.position).map fun found =>
          absence found missing) ∧
    ((Parser.ofText s).tokens.Pairwise fun a b => a.position < b.position) ∧
    (∀ found missing, (absence found missing).message =
      if missing.kind = .number ∧ found.kind = .openParenthesis then
        "ERROR: Parentheses nested deeper than 100 levels"
      else
        "ERROR: Unexpected token <" ++ found.kind.name ++ ">, expected <" ++ missing.kind.name ++
          ">") ∧
    ((parse s).diagnostics ≠ lexicalReports s ↔ ∃ t ∈ (parse s).tokens, t.text = none) := by
  have ascending := ofText_tokens_ascending s
  obtain ⟨reports, whole, accounted⟩ := parse_accounted s
  refine ⟨⟨reports, whole, accounted.reports_eq ascending⟩, ascending, absence_message, ?_⟩
  rw [whole, ne_eq, List.append_right_eq_self, accounted.eq_nil_iff]
  simp [Token.isSynthesized]

end LineCalc.Syntax
