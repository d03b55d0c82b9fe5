import Reckon.Proofs.FailingCommands

/-!
Lines that fail. In a session with one of the normalizations, a line that is no command or
whose command fails leaves the shell and the files as they are. So a session goes on as if
such lines had not been entered, and what is entered after it has ended is not looked at.
-/

namespace Reckon

namespace Shell

private theorem runOn_runLine_of_error
    {Files : Type} [FileAccess (StateM Files)] {files : Files} {shell : Shell}
    {rules : NameRules} {version : String}
    (steady : FileAccess.Steady Files) (again : rules.AcceptsAgain)
    (reached : Sheet.Reached rules version shell.sheet) {line : String} {error : ShellError}
    (failed : (runOn files (shell.runLine line)).1.2 = .error error) :
    runOn files (shell.runLine line) = ((shell, .error error), files) := by
  unfold runLine at failed ⊢
  cases parsed : Command.ofLine line with
  | error refusal =>
      rw [parsed] at failed
      rw [← failed]
      rfl
  | ok command =>
      rw [parsed] at failed
      have split : runOn files (shell.execute command) =
          (((runOn files (shell.execute command)).1.1, .error error),
            (runOn files (shell.execute command)).2) := by rw [← failed]
      have sameShell := eq_of_execute_eq_error again reached split
      have sameFiles := (execute_eq_error split).2 steady
      rw [sameShell, sameFiles] at split
      exact split

end Shell

namespace Session

/-! ## Lines that are answered -/

def Reply.isComplaint : Reply → Bool
  | .complaint _ => true
  | _ => false

def Reply.ofResult : Except ShellError Outcome → Reply
  | .ok (.print text) => .output text
  | .ok .quit => .finished
  | .error error => .complaint ("error: " ++ error.message)

/-- A line that is answered: the reply, and the shell and the files after it. -/
structure Turn (Files : Type) where
  reply : Reply
  shell : Shell
  files : Files

section

variable {Files : Type} [FileAccess (StateM Files)]

private theorem runOn_step (shell : Shell) (files : Files) (line : String) :
    runOn files (step shell line) =
      if isSkipped line then
        ((shell, .silent), files)
      else
        (((runOn files (shell.runLine line)).1.1,
            .ofResult (runOn files (shell.runLine line)).1.2),
          (runOn files (shell.runLine line)).2) := by
  unfold step
  by_cases skipped : isSkipped line = true
  · rw [if_pos skipped, if_pos skipped]
    rfl
  · rw [if_neg skipped, if_neg skipped, runOn_bind]
    rcases runOn files (shell.runLine line) with ⟨⟨next, result⟩, after⟩
    cases result with
    | error error => rfl
    | ok outcome =>
        cases outcome with
        | print text => rfl
        | quit => rfl

def turn (shell : Shell) (files : Files) (line : String) : Turn Files :=
  let answered := runOn files (step shell line)
  ⟨answered.1.2, answered.1.1, answered.2⟩

/-- The turns of the lines up to the first one that ends the session. -/
def turns (shell : Shell) (files : Files) : List String → List (Turn Files)
  | [] => []
  | line :: rest =>
      let first := turn shell files line
      if first.reply = .finished then
        [first]
      else
        first :: turns first.shell first.files rest

def leftBy (shell : Shell) (files : Files) (turns : List (Turn Files)) : Shell × Files :=
  turns.foldl (fun _ turn => (turn.shell, turn.files)) (shell, files)

omit [FileAccess (StateM Files)] in
private theorem leftBy_cons (shell : Shell) (files : Files) (first : Turn Files)
    (rest : List (Turn Files)) :
    leftBy shell files (first :: rest) = leftBy first.shell first.files rest :=
  rfl

variable {shell : Shell} {files : Files} {line : String} {rules : NameRules} {version : String}

private theorem length_turns_le (shell : Shell) (files : Files) (lines : List String) :
    (turns shell files lines).length ≤ lines.length := by
  induction lines generalizing shell files with
  | nil => exact Nat.le_refl _
  | cons line rest inductionHypothesis =>
      rw [turns]
      by_cases finished : (turn shell files line).reply = .finished
      · rw [if_pos finished]
        exact Nat.succ_le_succ (Nat.zero_le _)
      · rw [if_neg finished]
        exact Nat.succ_le_succ (inductionHypothesis _ _)

private theorem reached_turn
    (reached : Sheet.Reached rules version shell.sheet) (files : Files) (line : String) :
    Sheet.Reached rules version (turn shell files line).shell.sheet := by
  rw [turn, runOn_step]
  by_cases skipped : isSkipped line = true
  · rw [if_pos skipped]
    exact reached
  · rw [if_neg skipped]
    exact Shell.reached_runLine reached line files

/-- A line that is reported leaves the shell and the files as they were. -/
theorem turn_of_isComplaint
    (steady : FileAccess.Steady Files) (again : rules.AcceptsAgain)
    (reached : Sheet.Reached rules version shell.sheet)
    (reported : (turn shell files line).reply.isComplaint = true) :
    (turn shell files line).shell = shell ∧ (turn shell files line).files = files := by
  rw [turn, runOn_step] at reported ⊢
  by_cases skipped : isSkipped line = true
  · rw [if_pos skipped] at reported
    cases reported
  · rw [if_neg skipped] at reported ⊢
    dsimp only at reported ⊢
    cases result : (runOn files (shell.runLine line)).1.2 with
    | error error =>
        rw [Shell.runOn_runLine_of_error steady again reached result]
        exact ⟨rfl, rfl⟩
    | ok outcome =>
        rw [result] at reported
        cases outcome with
        | print text => cases reported
        | quit => cases reported

private theorem reply_turn_of_quit
    (shown : isSkipped line = false) (quits : Command.ofLine line = .ok .quit) :
    (turn shell files line).reply = .finished := by
  rw [turn, runOn_step, if_neg (Bool.not_eq_true _ ▸ shown), Shell.runLine, quits]
  rfl

end

end Session

/-! ## What a session writes -/

def Session.Reply.shownBefore (transcript : Transcript) : Session.Reply → Transcript
  | .silent => transcript
  | .output text => transcript.withOutput text
  | .complaint text => transcript.withComplaint text
  | .finished => .empty

def Transcript.ofReplies (replies : List Session.Reply) : Transcript :=
  replies.foldr (fun reply transcript => reply.shownBefore transcript) .empty

/-- Transcripts that are the same on the screen and for the caller of the program, whatever
was reported. -/
def Transcript.SameShown (transcript other : Transcript) : Prop :=
  transcript.output = other.output ∧ transcript.status = other.status

private theorem Transcript.SameShown.shownBefore
    {transcript other : Transcript} (same : transcript.SameShown other) (reply : Session.Reply) :
    (reply.shownBefore transcript).SameShown (reply.shownBefore other) := by
  cases reply with
  | silent => exact same
  | complaint text => exact same
  | finished => exact ⟨rfl, rfl⟩
  | output text =>
      change (transcript.withOutput text).SameShown (other.withOutput text)
      unfold withOutput
      by_cases blank : text.isEmpty = true
      · rw [if_pos blank, if_pos blank]
        exact same
      · rw [if_neg blank, if_neg blank]
        exact ⟨congrArg (text ++ "\n" ++ ·) same.1, same.2⟩

private theorem Transcript.SameShown.of_isComplaint
    {transcript other : Transcript} (same : transcript.SameShown other) {reply : Session.Reply}
    (reported : reply.isComplaint = true) : transcript.SameShown (reply.shownBefore other) := by
  cases reply with
  | complaint text => exact same
  | silent => cases reported
  | output text => cases reported
  | finished => cases reported

/-- Replies that report failing lines have no part in what is shown. -/
theorem Transcript.ofReplies_filter {α : Type}
    (answers : List α) (reply : α → Session.Reply) (leftOut : α → Bool)
    (reported : ∀ answer ∈ answers, leftOut answer = true → (reply answer).isComplaint = true) :
    (ofReplies ((answers.filter fun answer => !leftOut answer).map reply)).SameShown
      (ofReplies (answers.map reply)) := by
  induction answers with
  | nil => exact ⟨rfl, rfl⟩
  | cons first rest inductionHypothesis =>
      obtain ⟨reportedFirst, reportedRest⟩ := List.forall_mem_cons.1 reported
      have later := inductionHypothesis reportedRest
      by_cases out : leftOut first = true
      · rw [List.filter_cons_of_neg (by rw [out]; decide)]
        exact later.of_isComplaint (reportedFirst out)
      · rw [List.filter_cons_of_pos (by rw [Bool.eq_false_iff.2 out]; decide)]
        exact later.shownBefore (reply first)

namespace Session

section

variable {Files : Type} [FileAccess (StateM Files)] {rules : NameRules} {version : String}

private theorem runOn_play_cons
    (shell : Shell) (files : Files) (line : String) (rest : List (Option String)) :
    runOn files (play shell (some line :: rest)) =
      let first := turn shell files line
      let later := runOn first.files (play first.shell rest)
      if first.reply = .finished then
        ((first.shell, .empty), first.files)
      else
        ((later.1.1, first.reply.shownBefore later.1.2), later.2) := by
  rw [play, runOn_bind, turn]
  dsimp only
  generalize runOn files (step shell line) = answered
  obtain ⟨⟨next, reply⟩, after⟩ := answered
  cases reply with
  | silent => rfl
  | output text => rfl
  | complaint text => rfl
  | finished => rfl

theorem runOn_play (shell : Shell) (files : Files) (lines : List String) :
    runOn files (play shell (lines.map some)) =
      (((leftBy shell files (turns shell files lines)).1,
          .ofReplies ((turns shell files lines).map Turn.reply)),
        (leftBy shell files (turns shell files lines)).2) := by
  induction lines generalizing shell files with
  | nil => rfl
  | cons line rest inductionHypothesis =>
      rw [List.map_cons, runOn_play_cons, turns]
      dsimp only
      rw [inductionHypothesis]
      by_cases finished : (turn shell files line).reply = .finished
      · rw [if_pos finished, if_pos finished, Transcript.ofReplies, List.map_singleton,
          finished]
        rfl
      · rw [if_neg finished, if_neg finished]
        rfl

/-- Nothing is looked at after a line that ends the session. -/
theorem runOn_play_of_quit
    {line : String} (shown : isSkipped line = false) (quits : Command.ofLine line = .ok .quit)
    (shell : Shell) (files : Files) (before : List String) (after : List (Option String)) :
    runOn files (play shell (before.map some ++ some line :: after)) =
      runOn files (play shell (before.map some ++ [some line])) := by
  induction before generalizing shell files with
  | nil =>
      have finished : (turn shell files line).reply = .finished := reply_turn_of_quit shown quits
      rw [List.map_nil, List.nil_append, List.nil_append, runOn_play_cons, runOn_play_cons]
      dsimp only
      rw [if_pos finished, if_pos finished]
  | cons first rest inductionHypothesis =>
      rw [List.map_cons, List.cons_append, List.cons_append, runOn_play_cons, runOn_play_cons]
      dsimp only
      rw [inductionHypothesis]

/-! ## Sessions without some of their lines -/

def kept (lines : List (String × Bool)) : List String :=
  (lines.filter fun line => !line.2).map Prod.fst

/-- Without some of the lines that are reported, every other line is answered as it was,
and the same is left behind. -/
theorem turns_kept
    (steady : FileAccess.Steady Files) (again : rules.AcceptsAgain)
    {shell : Shell} (reached : Sheet.Reached rules version shell.sheet) (files : Files)
    (lines : List (String × Bool))
    (reported : ∀ pair ∈ lines.zip (turns shell files (lines.map Prod.fst)),
      pair.1.2 = true → pair.2.reply.isComplaint = true) :
    turns shell files (kept lines) =
        ((lines.zip (turns shell files (lines.map Prod.fst))).filter fun pair =>
          !pair.1.2).map Prod.snd ∧
      leftBy shell files (turns shell files (kept lines)) =
        leftBy shell files (turns shell files (lines.map Prod.fst)) := by
  induction lines generalizing shell files with
  | nil => exact ⟨rfl, rfl⟩
  | cons first rest inductionHypothesis =>
      obtain ⟨line, leftOut⟩ := first
      rw [List.map_cons, turns] at reported ⊢
      dsimp only at reported ⊢
      by_cases finished : (turn shell files line).reply = .finished
      · rw [if_pos finished] at reported ⊢
        rw [List.zip_cons_cons, List.zip_nil_right] at reported ⊢
        have notLeftOut : leftOut = false := by
          by_contra out
          have complaint := reported _ List.mem_cons_self (Bool.eq_true_of_not_eq_false out)
          rw [finished] at complaint
          cases complaint
        subst notLeftOut
        have first : turns shell files (kept ((line, false) :: rest)) =
            [turn shell files line] := if_pos finished
        rw [first]
        exact ⟨rfl, rfl⟩
      · rw [if_neg finished, List.zip_cons_cons] at reported ⊢
        obtain ⟨reportedFirst, reportedRest⟩ := List.forall_mem_cons.1 reported
        obtain ⟨sameTurns, sameEnd⟩ :=
          inductionHypothesis (reached_turn reached files line) _ reportedRest
        cases leftOut with
        | true =>
            obtain ⟨sameShell, sameFiles⟩ :=
              turn_of_isComplaint steady again reached (reportedFirst rfl)
            rw [leftBy_cons]
            rw [sameShell, sameFiles] at sameTurns sameEnd ⊢
            exact ⟨sameTurns, sameEnd⟩
        | false =>
            have first : turns shell files (kept ((line, false) :: rest)) =
                turn shell files line ::
                  turns (turn shell files line).shell (turn shell files line).files (kept rest) :=
              if_neg finished
            rw [first]
            exact ⟨congrArg (turn shell files line :: ·) sameTurns, sameEnd⟩

private theorem sameShown_kept
    (steady : FileAccess.Steady Files) (again : rules.AcceptsAgain)
    {shell : Shell} (reached : Sheet.Reached rules version shell.sheet) (files : Files)
    (lines : List (String × Bool))
    (reported : ∀ pair ∈ lines.zip (turns shell files (lines.map Prod.fst)),
      pair.1.2 = true → pair.2.reply.isComplaint = true) :
    (Transcript.ofReplies ((turns shell files (kept lines)).map Turn.reply)).SameShown
      (.ofReplies ((turns shell files (lines.map Prod.fst)).map Turn.reply)) := by
  have answers := Transcript.ofReplies_filter
    (lines.zip (turns shell files (lines.map Prod.fst))) (fun pair => pair.2.reply)
    (fun pair => pair.1.2) reported
  have short : (turns shell files (lines.map Prod.fst)).length ≤ lines.length := by
    rw [← List.length_map Prod.fst]
    exact length_turns_le shell files _
  have replies : ∀ pairs : List ((String × Bool) × Turn Files),
      pairs.map (fun pair => pair.2.reply) = (pairs.map Prod.snd).map Turn.reply := by
    intro pairs
    rw [List.map_map]
    rfl
  rw [replies, replies, List.map_snd_zip short] at answers
  rw [(turns_kept steady again reached files lines reported).1]
  exact answers

/-- In a session with a sheet that was opened, leaving out lines that are reported changes
neither the turns of the others nor what is shown, and leaves the same shell and the same
files behind. What is entered after a line that ends the session changes nothing at all. -/
theorem failing_lines_inert
    (steady : FileAccess.Steady Files) {options : Options} {before files : Files} {sheet : Sheet}
    (opened : runOn before (openSheet options) = (.ok sheet, files))
    (lines : List (String × Bool))
    (reported : ∀ pair ∈ lines.zip (turns ⟨sheet, options.file⟩ files (lines.map Prod.fst)),
      pair.1.2 = true → pair.2.reply.isComplaint = true) :
    let shell : Shell := ⟨sheet, options.file⟩
    let answered := turns shell files (lines.map Prod.fst)
    let whole := runOn files (play shell ((lines.map Prod.fst).map some))
    let part := runOn files (play shell ((kept lines).map some))
    whole.1.2 = .ofReplies (answered.map Turn.reply) ∧
      turns shell files (kept lines) =
        ((lines.zip answered).filter fun pair => !pair.1.2).map Prod.snd ∧
      part.1.2.output = whole.1.2.output ∧ part.1.2.status = whole.1.2.status ∧
      part.1.1 = whole.1.1 ∧ part.2 = whole.2 ∧
      ∀ (first : List String) (line : String) (later : List (Option String)),
        isSkipped line = false → Command.ofLine line = .ok .quit →
          runOn files (play shell (first.map some ++ some line :: later)) =
            runOn files (play shell (first.map some ++ [some line])) := by
  intro shell answered whole part
  have reached : Sheet.Reached options.normalization.rules options.version shell.sheet :=
    reached_of_openSheet (congrArg Prod.fst opened)
  have again := options.normalization.settled.acceptsAgain
  obtain ⟨sameTurns, sameEnd⟩ := turns_kept steady again reached files lines reported
  have sameShown := sameShown_kept steady again reached files lines reported
  have playedPart : part = _ := runOn_play shell files (kept lines)
  have playedWhole : whole = _ := runOn_play shell files (lines.map Prod.fst)
  rw [playedPart, playedWhole, sameEnd]
  refine ⟨rfl, sameTurns, sameShown.1, sameShown.2, rfl, rfl, ?_⟩
  intro first line later notSkipped quits
  exact runOn_play_of_quit notSkipped quits shell files first later

end

/-- A formula that would close a cycle, a word that is no command and a command without its
argument are left out, and so is what is entered after the session has ended. -/
theorem failing_lines_inert_of_cycle :
    let options : Options := ⟨some "s.json", "default", .upper, "info"⟩
    let sheet := Sheet.empty options.normalization.rules options.version
    let shell : Shell := ⟨sheet, options.file⟩
    let lines := [("set a1 =b1", false), ("set b1 =a1", true), ("sett b1 2", true),
      ("set b1 2", false), ("get", true), ("save", false), ("quit", false), ("set b1 3", true)]
    let answered := turns shell Disk.empty (lines.map Prod.fst)
    let whole := runOn Disk.empty (play shell ((lines.map Prod.fst).map some))
    let part := runOn Disk.empty (play shell ((kept lines).map some))
    runOn Disk.empty (openSheet options) = (.ok sheet, Disk.empty) ∧
      (∀ pair ∈ lines.zip answered, pair.1.2 = true → pair.2.reply.isComplaint = true) ∧
      answered.map (fun turn => turn.reply.isComplaint) =
        [false, true, true, false, true, false, false] ∧
      turns shell Disk.empty (kept lines) =
        ((lines.zip answered).filter fun pair => !pair.1.2).map Prod.snd ∧
      part.1.2.output = whole.1.2.output ∧ part.1.1 = whole.1.1 ∧ part.2 = whole.2 := by
  intro options sheet shell lines answered whole part
  have opened : runOn Disk.empty (openSheet options) = (.ok sheet, Disk.empty) := rfl
  have reported :
      ∀ pair ∈ lines.zip answered, pair.1.2 = true → pair.2.reply.isComplaint = true := by
    decide +kernel
  have replies : answered.map (fun turn => turn.reply.isComplaint) =
      [false, true, true, false, true, false, false] := by decide +kernel
  obtain ⟨_, sameTurns, sameOutput, _, sameShell, sameFiles, _⟩ :=
    failing_lines_inert Disk.steady opened lines reported
  exact ⟨opened, reported, replies, sameTurns, sameOutput, sameShell, sameFiles⟩

end Session

end Reckon
