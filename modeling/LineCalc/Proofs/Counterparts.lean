import LineCalc.Proofs.FaithfulTrees
import LineCalc.Proofs.MovedTokens

/-!
Lines of the same kinds. The rules ask for nothing else, so the trees of two such lines differ only
in their tokens: where the one has the token of its line with some number, the other has the token
of its own line with that number, and what is missing from the one is missing from the other.
-/
namespace LineCalc.Syntax

/-- Tokens that stand in the same place of two lines: those with one number, or missing ones of one
kind that were looked for where these are. -/
structure Counterparts (tokens other : List Token) (t u : Token) : Prop where
  kind : u.kind = t.kind
  missing : u.text = none ↔ t.text = none
  number : ∀ i : Nat, tokens[i]? = some t ↔ other[i]? = some u
  place : ∃ i : Nat, (tokens[i]?).map Token.position = some t.position ∧
    (other[i]?).map Token.position = some u.position
  read : t.text = none ∨ t ∈ tokens

structure InLine (tokens : List Token) : Prop where
  ascending : tokens.Pairwise fun a b => a.position < b.position
  texts : ∀ t ∈ tokens, t.text ≠ none

theorem ofText_inLine (s : String) : InLine (Parser.ofText s).tokens :=
  ⟨ofText_tokens_ascending s, fun t member =>
    Option.isSome_iff_ne_none.mp (ofText_tokens_text s t member)⟩

variable {tokens other : List Token} {t u : Token}

theorem InLine.nodup (inLine : InLine tokens) : tokens.Nodup :=
  inLine.ascending.imp fun before same => Nat.ne_of_lt before (congrArg Token.position same)

theorem InLine.eq_of_position (inLine : InLine tokens) (one : t ∈ tokens) (two : u ∈ tokens)
    (same : t.position = u.position) : t = u := by
  have found := tokenAt?_eq_some inLine.ascending one
  rw [same, tokenAt?_eq_some inLine.ascending two] at found
  exact (Option.some.inj found).symm

theorem InLine.number_iff (inLine : InLine tokens) {i : Nat} (here : tokens[i]? = some t)
    (j : Nat) : tokens[j]? = some t ↔ i = j := by
  obtain ⟨inside, _⟩ := List.getElem?_eq_some_iff.mp here
  rw [← here, eq_comm]
  exact List.getElem?_inj inside inLine.nodup

/-! Exchanging tokens. -/

def partnerAt? (pairs : List (Token × Token)) (position : Nat) : Option Token :=
  (pairs.find? fun pair => pair.1.position = position).map Prod.snd

/-- What becomes of a token when each of the first tokens is exchanged for the second. A missing
token goes along with the one in whose place it stands. -/
def Token.exchanged (pairs : List (Token × Token)) (t : Token) : Token :=
  match partnerAt? pairs t.position with
  | none => t
  | some partner =>
    if t.text = none then .synthesized t.kind partner.position
    else { partner with kind := t.kind }

theorem relocation_exchanged (pairs : List (Token × Token)) :
    Relocation (Token.exchanged pairs) := by
  constructor
  · intro t
    unfold Token.exchanged
    cases partnerAt? pairs t.position with
    | none => rfl
    | some partner => by_cases missing : t.text = none <;> simp [missing, Token.synthesized]
  · intro kind t
    simp only [Token.exchanged, Token.synthesized]
    cases partnerAt? pairs t.position with
    | none => rfl
    | some partner => by_cases missing : t.text = none <;> simp [missing]

theorem exists_paired (kinds : tokens.map Token.kind = other.map Token.kind) {i : Nat}
    (here : tokens[i]? = some t) : ∃ u, other[i]? = some u ∧ u.kind = t.kind := by
  have same := congrArg (fun word : List Kind => word[i]?) kinds
  simp only [List.getElem?_map, here, Option.map_some] at same
  exact Option.map_eq_some_iff.mp same.symm

theorem partnerAt?_zip (inLine : InLine tokens)
    (kinds : tokens.map Token.kind = other.map Token.kind) {i : Nat} (here : tokens[i]? = some t)
    (there : other[i]? = some u) :
    partnerAt? (tokens.zip other) t.position = some u := by
  have length : tokens.length = other.length := by simpa using congrArg List.length kinds
  have ascending : (tokens.zip other).Pairwise fun a b => a.1.position < b.1.position := by
    have firsts := inLine.ascending
    rw [← List.map_fst_zip (Nat.le_of_eq length), List.pairwise_map] at firsts
    exact firsts
  have paired : (t, u) ∈ tokens.zip other :=
    List.mem_iff_getElem?.mpr ⟨i, List.getElem?_zip_eq_some.mpr ⟨here, there⟩⟩
  have found := find?_of_ascending (fun pair : Token × Token => pair.1.position) ascending paired
  rw [partnerAt?, found, Option.map_some]

theorem exchanged_read (inLine : InLine tokens)
    (kinds : tokens.map Token.kind = other.map Token.kind) {i : Nat} (here : tokens[i]? = some t)
    (there : other[i]? = some u) : t.exchanged (tokens.zip other) = u := by
  have read := inLine.texts t (List.mem_of_getElem? here)
  obtain ⟨v, found, kind⟩ := exists_paired kinds here
  obtain rfl : u = v := Option.some.inj (there.symm.trans found)
  rw [Token.exchanged, partnerAt?_zip inLine kinds here there, ← kind]
  simp [read]

theorem map_exchanged (inLine : InLine tokens)
    (kinds : tokens.map Token.kind = other.map Token.kind) :
    tokens.map (Token.exchanged (tokens.zip other)) = other := by
  apply List.ext_getElem?
  intro i
  rw [List.getElem?_map]
  cases here : tokens[i]? with
  | none =>
    have length : tokens.length = other.length := by simpa using congrArg List.length kinds
    have behind := List.getElem?_eq_none_iff.mp here
    exact (List.getElem?_eq_none_iff.mpr (length ▸ behind)).symm
  | some t =>
    obtain ⟨u, there, _⟩ := exists_paired kinds here
    rw [Option.map_some, exchanged_read inLine kinds here there, there]

theorem counterparts_exchanged (inLine : InLine tokens) (inOther : InLine other)
    (kinds : tokens.map Token.kind = other.map Token.kind)
    (placed : ∃ found ∈ tokens, found.position = t.position) (read : t.text = none ∨ t ∈ tokens) :
    Counterparts tokens other t (t.exchanged (tokens.zip other)) := by
  obtain ⟨found, member, same⟩ := placed
  obtain ⟨i, here⟩ := List.mem_iff_getElem?.mp member
  obtain ⟨u, there, _⟩ := exists_paired kinds here
  rcases read with missing | read
  · have exchanged : t.exchanged (tokens.zip other) = .synthesized t.kind u.position := by
      rw [Token.exchanged, ← same, partnerAt?_zip inLine kinds here there]
      simp [missing]
    rw [exchanged]
    constructor
    case kind => rfl
    case missing => simp [missing, Token.synthesized]
    case number =>
      intro j
      constructor
      · intro numbered
        exact absurd missing (inLine.texts t (List.mem_of_getElem? numbered))
      · intro numbered
        exact absurd rfl (inOther.texts _ (List.mem_of_getElem? numbered))
    case place => exact ⟨i, by simp [here, same], by simp [there, Token.synthesized]⟩
    case read => exact .inl missing
  · obtain rfl : found = t := inLine.eq_of_position member read same
    rw [exchanged_read inLine kinds here there]
    obtain ⟨v, match', kind⟩ := exists_paired kinds here
    obtain rfl : u = v := Option.some.inj (there.symm.trans match')
    constructor
    case kind => exact kind
    case missing =>
      have written := inLine.texts found member
      have writtenOther := inOther.texts u (List.mem_of_getElem? there)
      simp [written, writtenOther]
    case number => exact fun j => (inLine.number_iff here j).trans (inOther.number_iff there j).symm
    case place => exact ⟨i, by simp [here], by simp [there]⟩
    case read => exact .inr member

/-! Lines. -/

variable {a b : String}

theorem tokens_placed (s : String) :
    ∀ t ∈ (parse s).tokens, ∃ found ∈ (Parser.ofText s).tokens, found.position = t.position := by
  obtain ⟨reports, rest, follows⟩ := parse_follows s
  exact follows.exists_position

theorem tokens_read (s : String) :
    ∀ t ∈ (parse s).tokens, t.text = none ∨ t ∈ (Parser.ofText s).tokens := by
  obtain ⟨reports, rest, follows⟩ := parse_follows s
  intro t member
  by_cases missing : t.text = none
  · exact .inl missing
  · refine .inr (follows.sublist.subset (List.mem_filter.mpr ⟨member, ?_⟩))
    exact Option.isSome_iff_ne_none.mpr missing

/-- Lines with the same kinds of tokens have the same reports of the rules and the same tree, but
that each token is exchanged for its counterpart in the other line. -/
theorem parse_of_same_kinds
    (kinds : (Parser.ofText a).tokens.map Token.kind = (Parser.ofText b).tokens.map Token.kind) :
    (∃ reports, (parse a).diagnostics = lexicalReports a ++ reports ∧
      (parse b).diagnostics = lexicalReports b ++ reports) ∧
    ∃ exchange : Token → Token, (parse b).root = (parse a).root.mapTokens exchange ∧
      (parse b).endOfFile = exchange (parse a).endOfFile ∧
      ∀ t ∈ (parse a).tokens,
        Counterparts (Parser.ofText a).tokens (Parser.ofText b).tokens t (exchange t) := by
  have relocation := relocation_exchanged ((Parser.ofText a).tokens.zip (Parser.ofText b).tokens)
  have whole := map_exchanged (ofText_inLine a) kinds
  rw [ofText_tokens b, ofText_tokens a, List.map_append] at whole
  obtain ⟨line, last⟩ := List.append_inj' whole rfl
  rw [← ofText_tokens b, ← ofText_tokens a] at line last
  obtain ⟨reports, reported, parsed⟩ :=
    exists_reports_of_relocation relocation line.symm (List.singleton_inj.mp last).symm
  refine ⟨⟨reports, reported, by rw [parsed]⟩, _, by rw [parsed], by rw [parsed], ?_⟩
  intro t member
  exact counterparts_exchanged (ofText_inLine a) (ofText_inLine b) kinds (tokens_placed a t member)
    (tokens_read a t member)

theorem parse_of_same_kinds_of_open_group :
    (Parser.ofText "12 + (3").tokens.map Token.kind =
        (Parser.ofText "9999999999+(0?").tokens.map Token.kind ∧
      ∃ exchange : Token → Token,
        (parse "9999999999+(0?").root = (parse "12 + (3").root.mapTokens exchange ∧
        (parse "9999999999+(0?").endOfFile = exchange (parse "12 + (3").endOfFile ∧
        ∀ t ∈ (parse "12 + (3").tokens,
          Counterparts (Parser.ofText "12 + (3").tokens (Parser.ofText "9999999999+(0?").tokens t
            (exchange t) := by
  have kinds : (Parser.ofText "12 + (3").tokens.map Token.kind =
      (Parser.ofText "9999999999+(0?").tokens.map Token.kind := by decide +kernel
  exact ⟨kinds, (parse_of_same_kinds kinds).2⟩

end LineCalc.Syntax
