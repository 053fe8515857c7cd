import LineCalc.Display.Tone
import LineCalc.Proofs.SafeEvaluation
import LineCalc.Settings.Basic
import Mathlib.Logic.Function.Iterate

/-!
Whole sessions. Lines are read in order up to the first one of blanks or to the end; what is printed
for a line follows from the line and the switch for trees alone, and the switch from how often it was
turned over before.
-/
namespace LineCalc.Session
open Syntax Display

def switchAfter (showTree : Bool) (lines : List String) : Bool :=
  (not)^[lines.count treeCommand] showTree

def treeReplies (showTree : Bool) (line : String) : List Reply :=
  if showTree then [.drawing (Drawing.ofNode (.expr (parse line).root))] else []

def treeLines (showTree : Bool) (line : String) : List StyledLine :=
  if showTree then (Drawing.ofNode (.expr (parse line).root)).map (⟨.faint, ·⟩) else []

/-- What a line is answered with, and the lines that are printed: a message for the switch, nothing
where the screen is cleared, else the tree if it is asked for and after it a value, a fault or all the
complaints, of which there is one at least. -/
inductive Prints (showTree : Bool) (line : String) : List Reply → List StyledLine → Prop
  | switch (here : line = treeCommand) : Prints showTree line [.treesSwitched (!showTree)]
      [⟨.plain, "SyntaxTree visualization " ++ if showTree then "disabled" else "enabled"⟩]
  | clear (here : line = clearCommand) : Prints showTree line [.cleared] []
  | value {n : Int} (noSwitch : line ≠ treeCommand) (noClear : line ≠ clearCommand)
      (clean : (parse line).diagnostics = []) (value : (parse line).root.evaluate = .ok n) :
      Prints showTree line (treeReplies showTree line ++ [.value n])
        (treeLines showTree line ++ [⟨.plain, toString n⟩])
  | fault (noSwitch : line ≠ treeCommand) (noClear : line ≠ clearCommand)
      (clean : (parse line).diagnostics = [])
      (fault : (parse line).root.evaluate = .error .divisionByZero) :
      Prints showTree line (treeReplies showTree line ++ [.divisionByZero])
        (treeLines showTree line ++ [⟨.alarm, "ERROR: Division by zero"⟩])
  | complaints (noSwitch : line ≠ treeCommand) (noClear : line ≠ clearCommand)
      (reported : (parse line).diagnostics ≠ []) :
      Prints showTree line (treeReplies showTree line ++ (parse line).diagnostics.map .diagnostic)
        (treeLines showTree line ++ (parse line).diagnostics.map (⟨.alarm, ·.message⟩))

variable {showTree : Bool} {line : String} {ending : Ending}

/-! One line. -/

theorem switchAfter_append (showTree : Bool) (lines rest : List String) :
    switchAfter showTree (lines ++ rest) = switchAfter (switchAfter showTree lines) rest := by
  unfold switchAfter
  rw [List.count_append, Nat.add_comm, Function.iterate_add_apply]

theorem lines_treeReplies (showTree : Bool) (line : String) :
    (treeReplies showTree line).flatMap replyLines = treeLines showTree line := by
  cases showTree <;> simp [treeReplies, treeLines, replyLines]

theorem lines_diagnostics (log : Log) :
    (log.map Reply.diagnostic).flatMap replyLines = log.map (⟨.alarm, ·.message⟩) := by
  induction log with
  | nil => rfl
  | cons d rest ih =>
    rw [List.map_cons, List.flatMap_cons, ih]
    rfl

theorem Prints.lines {replies : List Reply} {printed : List StyledLine}
    (prints : Prints showTree line replies printed) : replies.flatMap replyLines = printed := by
  cases prints with
  | switch => cases showTree <;> rfl
  | clear => rfl
  | value =>
    rw [List.flatMap_append, lines_treeReplies]
    rfl
  | fault =>
    rw [List.flatMap_append, lines_treeReplies]
    rfl
  | complaints => rw [List.flatMap_append, lines_treeReplies, lines_diagnostics]

theorem Prints.unique {replies replies' : List Reply} {printed printed' : List StyledLine}
    (first : Prints showTree line replies printed) (second : Prints showTree line replies' printed') :
    replies' = replies := by
  cases first with
  | switch here =>
    subst here
    cases second with
    | switch => rfl
    | clear there => simp [treeCommand, clearCommand] at there
    | _ => contradiction
  | clear here =>
    subst here
    cases second with
    | switch there => simp [treeCommand, clearCommand] at there
    | clear => rfl
    | _ => contradiction
  | value noSwitch noClear clean value =>
    cases second with
    | value _ _ _ value' => rw [Except.ok.inj (value'.symm.trans value)]
    | fault _ _ _ fault => simp [value] at fault
    | _ => contradiction
  | fault noSwitch noClear clean fault =>
    cases second with
    | value _ _ _ value => simp [value] at fault
    | fault => rfl
    | _ => contradiction
  | complaints noSwitch noClear reported =>
    cases second with
    | complaints => rfl
    | _ => contradiction

theorem respond_prints (showTree : Bool) (line : String) :
    ∃ replies printed, respond showTree line = .ok ⟨replies, switchAfter showTree [line]⟩ ∧
      Prints showTree line replies printed := by
  by_cases switch : line = treeCommand
  · refine ⟨_, _, ?_, .switch switch⟩
    rw [respond, if_pos switch, switch]
    rfl
  have kept : switchAfter showTree [line] = showTree := by simp [switchAfter, switch]
  by_cases clear : line = clearCommand
  · exact ⟨_, _, by rw [respond, if_neg switch, if_pos clear, kept], .clear clear⟩
  rw [kept]
  have answered (outcome : Outcome) (evaluated : evaluateLine line = .ok ⟨parse line, outcome⟩) :
      respond showTree line =
        .ok ⟨treeReplies showTree line ++ outcomeReplies outcome, showTree⟩ := by
    rw [respond, if_neg switch, if_neg clear, evaluated]
    rfl
  by_cases clean : (parse line).diagnostics = []
  · rcases evaluateLine_of_clean clean with ⟨n, evaluated, value, _⟩ | ⟨evaluated, fault⟩
    · exact ⟨_, _, answered _ evaluated, .value switch clear clean value⟩
    · exact ⟨_, _, answered _ evaluated, .fault switch clear clean fault⟩
  · exact ⟨_, _, answered _ (evaluateLine_of_diagnostics clean), .complaints switch clear clean⟩

/-! Runs. -/

structure Handles (showTree : Bool) (handled : List String) (turns : List Turn) : Prop where
  reads : turns.map Turn.line? = handled.map some
  turn : ∀ i line, handled[i]? = some line → ∃ replies printed,
    turns[i]? = some ⟨some line, replies, switchAfter showTree (handled.take (i + 1))⟩ ∧
      Prints (switchAfter showTree (handled.take i)) line replies printed ∧
      replies.flatMap replyLines = printed

theorem Handles.nil (showTree : Bool) : Handles showTree [] [] :=
  ⟨rfl, fun i line found => by simp at found⟩

theorem Handles.cons {replies : List Reply} {printed : List StyledLine} {rest : List String}
    {turns : List Turn} (first : Prints showTree line replies printed)
    (later : Handles (switchAfter showTree [line]) rest turns) :
    Handles showTree (line :: rest)
      (⟨some line, replies, switchAfter showTree [line]⟩ :: turns) := by
  constructor
  case reads => simp [later.reads]
  case turn =>
    intro i there found
    cases i with
    | zero =>
      obtain rfl : line = there := by simpa using found
      exact ⟨replies, printed, rfl, first, first.lines⟩
    | succ i =>
      obtain ⟨replies', printed', turn, prints, lines⟩ := later.turn i there (by simpa using found)
      have before : switchAfter showTree ((line :: rest).take (i + 1)) =
          switchAfter (switchAfter showTree [line]) (rest.take i) :=
        switchAfter_append showTree [line] (rest.take i)
      have after : switchAfter showTree ((line :: rest).take (i + 1 + 1)) =
          switchAfter (switchAfter showTree [line]) (rest.take (i + 1)) :=
        switchAfter_append showTree [line] (rest.take (i + 1))
      refine ⟨replies', printed', ?_, ?_, lines⟩
      · rw [after]
        exact turn
      · rw [before]
        exact prints

theorem run_cons (solid : Text.allBlank line = false) {replies : List Reply}
    (answer : respond showTree line = .ok ⟨replies, switchAfter showTree [line]⟩)
    (rest : List String) :
    run ending showTree (line :: rest) = (run ending (switchAfter showTree [line]) rest).map
      (⟨some line, replies, switchAfter showTree [line]⟩ :: ·) := by
  have bound : run ending showTree (line :: rest) =
      (run ending (switchAfter showTree [line]) rest).bind
        fun turns => .ok (⟨some line, replies, switchAfter showTree [line]⟩ :: turns) := by
    rw [run, if_neg (by simp [solid]), answer]
    rfl
  rw [bound]
  cases run ending (switchAfter showTree [line]) rest with
  | error fault => rfl
  | ok turns => rfl

theorem run_append (showTree : Bool) {handled : List String}
    (solid : ∀ line ∈ handled, Text.allBlank line = false) :
    ∃ turns, Handles showTree handled turns ∧ ∀ ending rest,
      run ending showTree (handled ++ rest) =
        (run ending (switchAfter showTree handled) rest).map (turns ++ ·) := by
  induction handled generalizing showTree with
  | nil =>
    refine ⟨[], .nil showTree, fun ending rest => ?_⟩
    show run ending showTree rest = (run ending showTree rest).map ([] ++ ·)
    cases run ending showTree rest <;> rfl
  | cons line handled ih =>
    obtain ⟨first, others⟩ := List.forall_mem_cons.mp solid
    obtain ⟨replies, printed, answer, prints⟩ := respond_prints showTree line
    obtain ⟨turns, handles, runs⟩ := ih (switchAfter showTree [line]) others
    refine ⟨_, .cons prints handles, fun ending rest => ?_⟩
    rw [List.cons_append, run_cons first answer, runs,
      ← switchAfter_append showTree [line] handled, List.singleton_append]
    cases run ending (switchAfter showTree (line :: handled)) rest <;> rfl

theorem Handles.filterMap_line? {handled : List String} {turns : List Turn}
    (handles : Handles showTree handled turns) : turns.filterMap Turn.line? = handled := by
  calc turns.filterMap Turn.line?
      = (turns.map Turn.line?).filterMap id := by rw [List.filterMap_map, Function.id_comp]
    _ = handled := by rw [handles.reads, List.filterMap_map, Function.id_comp, List.filterMap_some]

theorem exists_handled (lines : List String) :
    ∃ handled, (∀ line ∈ handled, Text.allBlank line = false) ∧
      (lines = handled ∨ ∃ blank later, lines = handled ++ blank :: later ∧
        Text.allBlank blank = true) := by
  induction lines with
  | nil => exact ⟨[], by simp, .inl rfl⟩
  | cons line rest ih =>
    cases blank : Text.allBlank line with
    | true => exact ⟨[], by simp, .inr ⟨line, rest, rfl, blank⟩⟩
    | false =>
      obtain ⟨handled, solid, split⟩ := ih
      refine ⟨line :: handled, List.forall_mem_cons.mpr ⟨blank, solid⟩, ?_⟩
      rcases split with whole | ⟨found, later, split, stops⟩
      · exact .inl (congrArg (line :: ·) whole)
      · exact .inr ⟨found, later, congrArg (line :: ·) split, stops⟩

/-- A session over these lines: those that are handled have their turns in order, and the last turn
reads a line of blanks and prints nothing, with the lines behind it unread, or finds the end of the
input and prints an empty line. -/
structure Transcript (showTree : Bool) (lines handled : List String) (turns : List Turn)
    (last : Turn) : Prop where
  solid : ∀ line ∈ handled, Text.allBlank line = false
  handles : Handles showTree handled turns
  ends : (∃ blank later, lines = handled ++ blank :: later ∧ Text.allBlank blank = true ∧
      last = ⟨some blank, [], switchAfter showTree handled⟩ ∧
      unread lines (turns ++ [last]) = later.length) ∨
    lines = handled ∧ last = ⟨none, [.lineEnd], switchAfter showTree handled⟩ ∧
      replyLines .lineEnd = [⟨.plain, ""⟩] ∧ unread lines (turns ++ [last]) = 0

theorem exists_transcript (ending : Ending) (showTree : Bool) (lines : List String) :
    ∃ handled turns last, run ending showTree lines = .ok (turns ++ [last]) ∧
      Transcript showTree lines handled turns last := by
  obtain ⟨handled, solid, whole | ⟨blank, later, split, stops⟩⟩ := exists_handled lines
  · obtain ⟨turns, handles, runs⟩ := run_append showTree solid
    have done := runs ending []
    rw [List.append_nil, ← whole] at done
    have reads := handles.filterMap_line?
    refine ⟨handled, turns, ⟨none, [.lineEnd], switchAfter showTree handled⟩, ?_, solid, handles,
      .inr ⟨whole, rfl, rfl, ?_⟩⟩
    · rw [done, run, ← whole]
      cases ending <;> rfl
    · simp [unread, reads, whole]
  · obtain ⟨turns, handles, runs⟩ := run_append showTree solid
    have done := runs ending (blank :: later)
    rw [← split] at done
    have reads := handles.filterMap_line?
    refine ⟨handled, turns, ⟨some blank, [], switchAfter showTree handled⟩, ?_, solid, handles,
      .inl ⟨blank, later, split, stops, rfl, ?_⟩⟩
    · rw [done, run, if_pos stops]
      rfl
    · simp [unread, reads, split]
      omega

def IsSteady (line : String) : Prop := Text.allBlank line = false ∧ line ≠ treeCommand

theorem exists_first_turn {rest : List String} {turns : List Turn}
    (solid : Text.allBlank line = false) (runs : run ending showTree (line :: rest) = .ok turns) :
    ∃ replies later, respond showTree line = .ok ⟨replies, switchAfter showTree [line]⟩ ∧
      run ending (switchAfter showTree [line]) rest = .ok later ∧
      turns = ⟨some line, replies, switchAfter showTree [line]⟩ :: later := by
  obtain ⟨replies, _, answer, _⟩ := respond_prints showTree line
  obtain ⟨_, first, last, continues, _⟩ :=
    exists_transcript ending (switchAfter showTree [line]) rest
  rw [run_cons solid answer, continues] at runs
  exact ⟨replies, _, answer, continues, (Except.ok.inj runs).symm⟩

theorem run_set {lines : List String} {other : String} {i : Nat} (found : lines[i]? = some line)
    (old : IsSteady line) (new : IsSteady other) {turns : List Turn}
    (runs : run ending showTree lines = .ok turns) :
    ∃ turns', run ending showTree (lines.set i other) = .ok turns' ∧
      turns'.length = turns.length ∧ ∀ j, j ≠ i → turns'[j]? = turns[j]? := by
  induction lines generalizing showTree turns i with
  | nil => simp at found
  | cons first rest ih =>
    cases i with
    | zero =>
      obtain rfl : first = line := by simpa using found
      obtain ⟨replies, later, _, continues, rfl⟩ := exists_first_turn old.1 runs
      obtain ⟨replies', _, answer', _⟩ := respond_prints showTree other
      have same : switchAfter showTree [other] = switchAfter showTree [first] := by
        simp [switchAfter, old.2, new.2]
      refine ⟨⟨some other, replies', switchAfter showTree [other]⟩ :: later, ?_, rfl, ?_⟩
      · rw [List.set_cons_zero, run_cons new.1 answer', same, continues]
        rfl
      · intro j elsewhere
        obtain ⟨k, rfl⟩ := Nat.exists_eq_succ_of_ne_zero elsewhere
        rfl
    | succ i =>
      rw [List.set_cons_succ]
      cases blank : Text.allBlank first with
      | true =>
        -- The session is over before the line, whichever it is.
        rw [run, if_pos blank] at runs ⊢
        exact ⟨turns, runs, rfl, fun _ _ => rfl⟩
      | false =>
        obtain ⟨replies, later, answer, continues, rfl⟩ := exists_first_turn blank runs
        obtain ⟨later', continues', length, same⟩ := ih (by simpa using found) continues
        refine ⟨⟨some first, replies, switchAfter showTree [first]⟩ :: later', ?_, ?_, ?_⟩
        · rw [run_cons blank answer, continues']
          rfl
        · exact congrArg (· + 1) length
        · intro j elsewhere
          cases j with
          | zero => rfl
          | succ j => exact same j (by omega)

/-- A session reads lines up to the first one of blanks or to the end. The switch before a reading is
the one of the settings, turned over once for each command for it, and with the line it decides alone
what is printed; a line that is no command for the switch changes no other turn, whatever becomes of
it. Nothing else of the settings is asked for: the reader and its prompt are left out, and what it reads
is given as lines and the way in which they end. -/
theorem session_reads_line_by_line (settings : SessionSettings) (ending : Ending)
    (lines : List String) :
    ∃ handled turns last, run ending settings.showTree lines = .ok (turns ++ [last]) ∧
      Transcript settings.showTree lines handled turns last ∧
      (∀ i line other, lines[i]? = some line → IsSteady line → IsSteady other →
        ∃ turns', run ending settings.showTree (lines.set i other) = .ok turns' ∧
          turns'.length = (turns ++ [last]).length ∧
          ∀ j, j ≠ i → turns'[j]? = (turns ++ [last])[j]?) ∧
      ∀ showTree line, ∃ replies printed, Prints showTree line replies printed ∧
        ∀ replies' printed', Prints showTree line replies' printed' →
          replies' = replies ∧ printed' = printed := by
  obtain ⟨handled, turns, last, runs, transcript⟩ :=
    exists_transcript ending settings.showTree lines
  refine ⟨handled, turns, last, runs, transcript, ?_, ?_⟩
  · intro i line other found old new
    exact run_set found old new runs
  · intro showTree line
    obtain ⟨replies, printed, -, prints⟩ := respond_prints showTree line
    refine ⟨replies, printed, prints, fun replies' printed' again => ?_⟩
    obtain rfl := prints.unique again
    exact ⟨rfl, again.lines.symm.trans prints.lines⟩

end LineCalc.Session
