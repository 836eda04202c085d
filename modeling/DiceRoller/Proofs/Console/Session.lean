/-
# A session answers every line

A session over piped input answers its lines one after the other. Nothing that the loop carries from
line to line decides what is shown: not the history, not the number of the line, and of the dice
only the numbers that are thrown for the line. With dice that leave no choice the session is
therefore put together from its lines: each leads to what it leads to when it is the only line of a
session, whatever the lines before it were and came to.

The frame around the answers is the same for all sessions (`Options.Shows`): the greeting, a word
about the history file, how the input ended, and once more a word about the file when new entries
have to be merged into it. That last word comes behind the line which tells how the input ended, and
only with badly escaped lines in a file that cannot simply grow (`session_warns_at_end`).

* `step_shown`, `steps_shown`: what one line and what a list of lines leads to, by induction on the
  lines, for every state that the loop may be in.
* `session_shows`: what is seen of a whole session.
* `session_answers_every_line`: the session over any text, and over a text with a line behind it
  that is none.
* `session_answers_two_lines`: a line that rolls and one that is refused.

Dice with more than one side are left out, because a line may then show another number for every
state of the source. The history and its file are assumed to be there or not; that the file cannot
be read or written is not described.
-/
import DiceRoller.Console.Session
import DiceRoller.Proofs.Console.Dice
import DiceRoller.Proofs.Console.Piped
import DiceRoller.Proofs.Console.Screen

namespace DiceRoller

variable {σ : Type}

/-! ## 1. The frame of a session -/

/-- A session over piped bytes. -/
def Options.pipe (o : Options) (source : DiceSource σ) (bytes : List UInt8)
    (file : Option (List String)) (s : σ) : Transcript :=
  o.session source false (.ofBytes bytes) file s

/-- The lines of warnings. -/
def warningLines (warnings : List Event) : List String := warnings.flatMap Event.loggedLines

/-- The lines before the first answer: the greeting, then what there is to say about the file. -/
def startLines : Option (List String) → List String
  | none => [banner, noHistoryWarning]
  | some lines => banner :: warningLines (fileWarnings lines)

/-- The history after these lines of input, each remembered as it is after its backspaces. -/
def historyAfter (file : Option (List String)) (lines : List String) : History :=
  (lines.map applyBackspaces).foldl History.add (startHistory file)

/-- The lines after the last answer: how the input ended, then what is found when new entries are
merged into the file. -/
def endLines (file : Option (List String)) (lines : List String) (ending : Ending) : List String :=
  ending.text :: warningLines ((historyAfter file lines).saveWarnings file)

/-- The session ends in order. Between the lines that begin it and those that end it, it shows what is
in `shown`, and nothing else. -/
structure Options.Shows (o : Options) (source : DiceSource σ) (bytes : List UInt8)
    (file : Option (List String)) (s : σ) (lines : List String) (ending : Ending)
    (shown : Screen) : Prop where
  exitCode_eq : (o.pipe source bytes file s).exitCode = 0
  out_eq : (o.pipe source bytes file s).screen.out = shown.out
  err_eq : (o.pipe source bytes file s).screen.err =
    startLines file ++ shown.err ++ endLines file lines ending

theorem fileWarnings_shown (o : Options) (lines : List String) :
    o.loggedLines (fileWarnings lines) = warningLines (fileWarnings lines) := by
  have hall : (fileWarnings lines).filter o.shows = fileWarnings lines := by
    rw [List.filter_eq_self]
    intro e he
    obtain ⟨line, -, rfl⟩ := List.mem_map.mp he
    simp [Options.shows, Event.level]
  rw [Options.loggedLines, hall, warningLines]

theorem saveWarnings_shown (o : Options) (h : History) (file : Option (List String)) :
    o.loggedLines (h.saveWarnings file) = warningLines (h.saveWarnings file) := by
  rw [History.saveWarnings]
  split
  · exact fileWarnings_shown o _
  · rfl

theorem printedLines_of_not_mem {text : String} (h : '\n' ∉ text.toList) :
    Text.printedLines text = [text] := by
  rw [Text.printedLines, List.splitOn_eq_singleton h, List.map_singleton, String.ofList_toList]

/-- A text on one line without the escape character is seen as it is. -/
theorem seen_ofErr {text : String} (hfeed : '\n' ∉ text.toList) (hescape : '\x1b' ∉ text.toList) :
    (Screen.ofErr text).seen = ⟨[], [text]⟩ := by
  rw [Screen.ofErr, printedLines_of_not_mem hfeed, Screen.seen, List.map_singleton,
    seenLine_of_not_mem hescape, List.map_nil]

theorem seen_ofLog (o : Options) (log : List Event) :
    (Screen.ofLog o log).seen = Screen.ofLog o log := by
  rw [Screen.ofLog, Screen.seen, map_seenLine_loggedLines, List.map_nil]

theorem seen_ending (ending : Ending) : (Screen.ofErr ending.text).seen = ⟨[], [ending.text]⟩ := by
  cases ending
  all_goals exact seen_ofErr (by decide) (by decide)

/-- What is seen before the first line. -/
theorem seen_showStart (o : Options) (file : Option (List String)) :
    (o.showStart file).seen = ⟨[], startLines file⟩ := by
  unfold Options.showStart
  rw [Screen.seen_append, seen_ofErr (by decide) (by decide)]
  cases file with
  | none =>
    dsimp only
    rw [seen_ofErr (by decide) (by decide)]
    rfl
  | some lines =>
    dsimp only
    rw [seen_ofLog, Screen.ofLog, fileWarnings_shown]
    rfl

/-- What is seen after the last line of piped input. -/
theorem seen_showEnd (o : Options) (lines : List String) (ending : Ending)
    (file : Option (List String)) (state : SessionState σ) :
    (o.showEnd false ⟨lines, "", ending⟩ file state).seen =
      ⟨[], ending.text :: warningLines (state.history.saveWarnings file)⟩ := by
  rw [Options.showEnd, Screen.seen_append, Screen.seen_append, seen_ending, seen_ofLog, Screen.ofLog,
    saveWarnings_shown]
  rfl

/-! ## 2. The answers -/

/-- What is seen of the answer to a line of piped input. -/
def Options.part (o : Options) (source : DiceSource σ) (s : σ) (line : String) : Screen :=
  (o.showRun (o.answer source (applyBackspaces line) s)).seen

/-- One line shows its answer, and is remembered. -/
theorem step_shown (o : Options) (source : DiceSource σ) (line : String) (state : SessionState σ) :
    (o.step source false line state).1.seen =
      (o.showRun (o.answer source line state.source)).seen ∧
    (o.step source false line state).2.history = state.history.add line := by
  rw [Options.step]
  exact ⟨rfl, rfl⟩

/-- All dice that are thrown for the line have one side. -/
def Options.HasOneSidedDice (o : Options) (line : String) : Prop :=
  ∀ sides ∈ o.dice (applyBackspaces line), sides = 1

theorem hasOneSidedDice_of_dice_eq {o : Options} {line : String} {n : Nat}
    (h : '\x08' ∉ line.toList) (hdice : o.dice line = List.replicate n 1) :
    o.HasOneSidedDice line := by
  intro sides hsides
  rw [applyBackspaces_of_not_mem h, hdice] at hsides
  exact List.eq_of_mem_replicate hsides

section

variable {source : DiceSource σ} {o : Options}

/-- With such dice, the state of the source does not show. -/
theorem part_eq {line : String} (hsource : source.ShowsOnlyFace) (hline : o.HasOneSidedDice line)
    (s s' : σ) : o.part source s line = o.part source s' line := by
  obtain ⟨hvalue, hlog⟩ := answer_alike o (sameNumbers_of_one_side hsource hsource hline s s')
  rw [Options.part, Options.part, Options.showRun, Options.showRun, hvalue, hlog]

/-- **Lines show their answers in order**, each as if the source were in the state `s`, and are
remembered in order. By induction on the lines: the step of the first one leaves some state, and the
state makes no difference. -/
theorem steps_shown (hsource : source.ShowsOnlyFace) {lines : List String}
    (hlines : ∀ l ∈ lines, o.HasOneSidedDice l) (s : σ) (state : SessionState σ) :
    (o.steps source false (lines.map applyBackspaces) state).1.seen =
      Screen.concat (lines.map (o.part source s)) ∧
    (o.steps source false (lines.map applyBackspaces) state).2.history =
      (lines.map applyBackspaces).foldl History.add state.history := by
  induction lines generalizing state with
  | nil => exact ⟨rfl, rfl⟩
  | cons line lines ih =>
    obtain ⟨hpart, hhistory⟩ := step_shown o source (applyBackspaces line) state
    obtain ⟨hparts, hhistories⟩ := ih (fun l hl => hlines l (List.mem_cons_of_mem line hl))
      (o.step source false (applyBackspaces line) state).2
    rw [List.map_cons, Options.steps]
    constructor
    · rw [Screen.seen_append, hpart, hparts, List.map_cons, Screen.concat,
        part_eq hsource (hlines line List.mem_cons_self) s state.source, Options.part]
    · rw [hhistories, hhistory, List.foldl_cons]

/-! ## 3. The whole session -/

/-- A session over bytes that make these lines shows their answers in its frame. -/
theorem session_shows (hsource : source.ShowsOnlyFace) {lines : List String}
    (hlines : ∀ l ∈ lines, o.HasOneSidedDice l) {bytes : List UInt8} {ending : Ending}
    (hinput : Input.ofBytes bytes = ⟨lines.map applyBackspaces, "", ending⟩)
    (file : Option (List String)) (s s' : σ) :
    o.Shows source bytes file s lines ending (Screen.concat (lines.map (o.part source s'))) := by
  obtain ⟨hparts, hhistory⟩ :=
    steps_shown hsource hlines s' ⟨s, startHistory file, 1⟩
  have hscreen : (o.pipe source bytes file s).screen =
      ⟨(Screen.concat (lines.map (o.part source s'))).out,
        startLines file ++ (Screen.concat (lines.map (o.part source s'))).err ++
          endLines file lines ending⟩ := by
    rw [Options.pipe, hinput, Options.session]
    dsimp only
    rw [Screen.seen_append, Screen.seen_append, seen_showStart, seen_showEnd, hparts, hhistory]
    simp [Screen.append, endLines, historyAfter]
  refine ⟨?_, by rw [hscreen], by rw [hscreen]⟩
  rw [Options.pipe, hinput, Options.session]
  cases ending <;> rfl

/-- The only line of a session shows its part. -/
theorem session_shows_one (hsource : source.ShowsOnlyFace) {line : String}
    (hline : o.HasOneSidedDice line) {t : String} (ht : Text.lines t = [line])
    (file : Option (List String)) (s s' : σ) :
    o.Shows source (Text.encode t) file s [line] .finished (o.part source s' line) := by
  have hlines : ∀ l ∈ [line], o.HasOneSidedDice l := by
    intro l hl
    obtain rfl := List.mem_singleton.mp hl
    exact hline
  have hinput := Input.ofBytes_encode t
  rw [ht] at hinput
  have hshows := session_shows hsource hlines hinput file s s'
  rwa [List.map_singleton, Screen.concat_singleton] at hshows

end

/-- **A session over piped text answers every line once and in order**, whatever the other lines came
to, when the dice leave no choice. Each line leads to its part of the screen, the same in every session
in which it is the only line, whatever the history file and the state of the source; the session over
the text shows these parts one after the other in its frame and ends in order. Where bytes follow whose
first line is no text, the lines before it are answered in the same way, and only the line that tells
how the input ended is another. -/
theorem session_answers_every_line {source : DiceSource σ} (hsource : source.ShowsOnlyFace)
    (o : Options) (t : String) (hdice : ∀ l ∈ Text.lines t, o.HasOneSidedDice l)
    (file : Option (List String)) (s : σ) :
    ∃ part : String → Screen,
      (∀ l ∈ Text.lines t, (∃ u, Text.lines u = [l]) ∧
        ∀ u file' s', Text.lines u = [l] →
          o.Shows source (Text.encode u) file' s' [l] .finished (part l)) ∧
      o.Shows source (Text.encode t) file s (Text.lines t) .finished
        (Screen.concat ((Text.lines t).map part)) ∧
      (Text.EndsLine t → ∀ bytes, BeginsUndecodable bytes →
        o.Shows source (Text.encode t ++ bytes) file s (Text.lines t) .undecodable
          (Screen.concat ((Text.lines t).map part))) := by
  refine ⟨o.part source s, fun l hl => ⟨⟨_, Text.lines_append_break hl⟩, fun u file' s' hu => ?_⟩, ?_,
    fun ht bytes hbytes => ?_⟩
  · exact session_shows_one hsource (hdice l hl) hu file' s' s
  · exact session_shows hsource hdice (Input.ofBytes_encode t) file s s
  · exact session_shows hsource hdice (Input.ofBytes_undecodable ht hbytes) file s s

/-- A line that rolls, one that is refused, and bytes behind them that are no text. -/
theorem session_answers_two_lines :
    let o : Options := ⟨false, .standard, "me", "#local", false⟩
    randomDice.ShowsOnlyFace ∧ (∀ l ∈ Text.lines "3d1\nroll\n", o.HasOneSidedDice l) ∧
    Text.EndsLine "3d1\nroll\n" ∧ BeginsUndecodable [0x33, 0xFF, 10, 0x33] ∧
    ∃ part : String → Screen,
      o.Shows randomDice (Text.encode "3d1\nroll\n") none (mkStdGen 0) ["3d1", "roll"] .finished
        (Screen.concat [part "3d1", part "roll"]) ∧
      o.Shows randomDice (Text.encode "3d1\nroll\n" ++ [0x33, 0xFF, 10, 0x33]) none (mkStdGen 0)
        ["3d1", "roll"] .undecodable (Screen.concat [part "3d1", part "roll"]) := by
  intro o
  have hlines : Text.lines "3d1\nroll\n" = ["3d1", "roll"] := by decide +kernel
  have hdice : ∀ l ∈ Text.lines "3d1\nroll\n", o.HasOneSidedDice l := by
    rw [hlines]
    intro l hl
    rcases List.mem_cons.mp hl with rfl | hl
    · exact hasOneSidedDice_of_dice_eq (n := 3) (by decide) (by decide +kernel)
    · obtain rfl := List.mem_singleton.mp hl
      exact hasOneSidedDice_of_dice_eq (n := 0) (by decide) (by decide +kernel)
  have hends : Text.EndsLine "3d1\nroll\n" := by
    have hlast : "3d1\nroll\n".toList.getLast? = some '\n' := by decide
    intro c hc
    exact (Option.mem_some_iff.mp (hlast ▸ hc)).symm
  have hbytes : BeginsUndecodable [0x33, 0xFF, 10, 0x33] := by
    rw [BeginsUndecodable]
    decide
  obtain ⟨part, -, hshows, hundecodable⟩ :=
    session_answers_every_line randomDice_showsOnlyFace o "3d1\nroll\n" hdice none (mkStdGen 0)
  have hrest := hundecodable hends _ hbytes
  rw [hlines] at hshows hrest
  exact ⟨randomDice_showsOnlyFace, hdice, hends, hbytes, part, hshows, hrest⟩

/-- A file with two badly escaped lines, which the new entry has to be merged into: whatever the line
of input shows, the line that tells how the input ended is not the last one. -/
theorem session_warns_at_end :
    ∃ o, Options.read [] ⟨[]⟩ = .ok o ∧ Text.lines "3d1\n" = ["3d1"] ∧ o.HasOneSidedDice "3d1" ∧
      ∀ shown : List String,
        (o.pipe randomDice (Text.encode "3d1\n") (some ["\\", "\\"]) (mkStdGen 0)).screen.err ≠
          banner :: shown ++ [Ending.finished.text] := by
  have hread : Options.read [] ⟨[]⟩ = .ok ⟨false, .standard, "me", "#local", false⟩ := rfl
  have hline : Options.HasOneSidedDice ⟨false, .standard, "me", "#local", false⟩ "3d1" :=
    hasOneSidedDice_of_dice_eq (n := 3) (by decide) (by decide +kernel)
  refine ⟨_, hread, rfl, hline, fun shown herr => ?_⟩
  have hwarned : ((startHistory (some ["\\", "\\"])).add "3d1").saveWarnings (some ["\\", "\\"]) =
      [.badlyEscaped "\\", .badlyEscaped "\\"] := by decide +kernel
  have hlast : (endLines (some ["\\", "\\"]) ["3d1"] .finished).getLast? =
      some "WARN bad escaped line: \\" := by
    rw [endLines, historyAfter, List.map_singleton, applyBackspaces_of_not_mem (by decide),
      List.foldl_cons, List.foldl_nil, hwarned]
    decide +kernel
  have hshows := session_shows_one randomDice_showsOnlyFace hline (t := "3d1\n") rfl
    (some ["\\", "\\"]) (mkStdGen 0) (mkStdGen 0)
  rw [hshows.err_eq] at herr
  have hends := congrArg List.getLast? herr
  rw [List.getLast?_append, hlast, Option.some_or, List.getLast?_concat] at hends
  exact absurd hends (by decide +kernel)

end DiceRoller
