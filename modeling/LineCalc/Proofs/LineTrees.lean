import LineCalc.Proofs.GrammarTrees
import LineCalc.Proofs.Lexing

/-!
The tree of a line in terms of its tokens: what a term reads off them, and the end of file expected
after it. A line has no diagnostics exactly if its tokens are those of a tree of the grammar and
nothing was reported on any of them.
-/
namespace LineCalc.Syntax

namespace Parser

theorem accept_eq_expect {p : Parser} {tokens : List Token} (ahead : p.upcoming = tokens)
    (kind : Kind) : (p.accept kind).answer = (expect p.stop kind tokens).token ∧
      (p.accept kind).reports = (expect p.stop kind tokens).reports := by
  have here : p.current = tokens.headD p.stop := by rw [current, ahead]
  unfold accept next expect
  rw [here]
  cases tokens with
  | nil =>
    by_cases same : p.stop.kind = kind
    · simp [same]
    · simp [same]
  | cons t rest =>
    by_cases same : t.kind = kind
    · simp [same]
    · simp [same]

def reach (p : Parser) (rest : List Token) : Parser :=
  { p with cursor := p.cursor + (p.upcoming.length - rest.length) }

theorem upcoming_reach {p : Parser} {rest : List Token} (suffix : rest <:+ p.upcoming) :
    (p.reach rest).upcoming = rest := by
  obtain ⟨front, whole⟩ := suffix
  have lengths := congrArg List.length whole
  rw [List.length_append] at lengths
  have count : p.upcoming.length - rest.length = front.length := by omega
  have behind : (p.reach rest).upcoming = p.upcoming.drop front.length := by
    rw [← count]
    exact List.drop_drop.symm
  rw [behind, ← whole, List.drop_left]

theorem apply_upcoming (p : Parser) (rule : Token → Nat → Rule) :
    (p.apply rule).after.upcoming =
      ((rule p.stop (maxNesting - p.depth)).read p.upcoming).rest :=
  upcoming_reach ((rule p.stop (maxNesting - p.depth)).suffix p.upcoming)

end Parser

variable {s : String}

def lineReading (s : String) : Reading :=
  (term (endToken s.length) maxNesting).read (grammarTokens s)

theorem parse_eq (s : String) :
    parse s =
      { diagnostics := lexicalReports s ++ ((lineReading s).reports ++
          (expect (endToken s.length) .endOfFile (lineReading s).rest).reports)
        root := (lineReading s).expr
        endOfFile := (expect (endToken s.length) .endOfFile (lineReading s).rest).token } := by
  have ahead := (Parser.ofText s).apply_upcoming Syntax.expression
  rw [ofText_eq] at ahead
  obtain ⟨answer, reports⟩ := Parser.accept_eq_expect ahead .endOfFile
  rw [parse, ofText_eq]
  simp only [Parser.parse, Parser.expression]
  rw [answer, reports]
  rfl

theorem lineReading_reads (s : String) :
    Reads (endToken s.length) .term maxNesting (grammarTokens s) (lineReading s) :=
  reads_term (endToken s.length) maxNesting (grammarTokens s)

theorem parse_treeOf (s : String) : TreeOf .term maxNesting (parse s).root := by
  rw [parse_eq]
  exact (lineReading_reads s).treeOf

theorem grammarTokens_kind {t : Token} (member : t ∈ grammarTokens s) : t.kind ≠ .endOfFile := by
  have kept := (List.mem_filter.mp member).2
  simp only [Bool.and_eq_true, decide_eq_true_eq] at kept
  exact kept.2

theorem expect_end {tokens : List Token} (subset : tokens ⊆ grammarTokens s)
    (clean : (expect (endToken s.length) .endOfFile tokens).reports = []) : tokens = [] := by
  cases tokens with
  | nil => rfl
  | cons t rest =>
    have other := grammarTokens_kind (subset (List.mem_cons_self ..))
    simp [expect, other] at clean

theorem lineReading_of_clean (clean : (parse s).diagnostics = []) :
    lexicalReports s = [] ∧ (lineReading s).reports = [] ∧ (lineReading s).rest = [] := by
  rw [parse_eq] at clean
  obtain ⟨lexical, parsing⟩ := List.append_eq_nil_iff.mp clean
  obtain ⟨reading, last⟩ := List.append_eq_nil_iff.mp parsing
  have subset := ((term (endToken s.length) maxNesting).suffix (grammarTokens s)).subset
  exact ⟨lexical, reading, expect_end subset last⟩

theorem leaves_of_clean (clean : (parse s).diagnostics = []) :
    (parse s).root.leaves = grammarTokens s := by
  obtain ⟨lexical, reports, rest⟩ := lineReading_of_clean clean
  have leaves := (lineReading_reads s).leaves_append rfl reports
  rw [rest, List.append_nil] at leaves
  rw [parse_eq]
  exact leaves

theorem root_eq_of_leaves {nesting : Nat} {root : Expr} (clean : (parse s).diagnostics = [])
    (tree : TreeOf .term nesting root) (leaves : root.leaves = grammarTokens s) :
    (parse s).root = root :=
  (parse_treeOf s).eq_of_leaves tree ((leaves_of_clean clean).trans leaves.symm)

theorem parse_of_tree {e : Expr} (tree : TreeOf .term maxNesting e)
    (leaves : e.leaves = grammarTokens s) :
    parse s = { diagnostics := lexicalReports s, root := e, endOfFile := endToken s.length } := by
  have reading : lineReading s = { expr := e, rest := [] } := by
    rw [lineReading, ← leaves]
    exact tree.read_leaves (endToken s.length)
  rw [parse_eq, reading]
  simp [expect, endToken]

theorem parse_of_clean (clean : (parse s).diagnostics = []) :
    parse s =
      { diagnostics := [], root := (parse s).root, endOfFile := endToken s.length } := by
  have whole := parse_of_tree (parse_treeOf s) (leaves_of_clean clean)
  rwa [(lineReading_of_clean clean).1] at whole

theorem clean_iff_exists_tree (s : String) : (parse s).diagnostics = [] ↔
    lexicalReports s = [] ∧ ∃ e, TreeOf .term maxNesting e ∧ e.leaves = grammarTokens s := by
  constructor
  · intro clean
    exact ⟨(lineReading_of_clean clean).1, (parse s).root, parse_treeOf s, leaves_of_clean clean⟩
  · rintro ⟨lexical, e, tree, leaves⟩
    rw [parse_of_tree tree leaves, lexical]

end LineCalc.Syntax
