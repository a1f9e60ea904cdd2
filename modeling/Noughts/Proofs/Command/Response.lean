import Noughts.Proofs.Session.Resumption
import Noughts.Proofs.Terminal.Wording

/-!
What the program leaves behind.

A command line that asks for something, or has something wrong, is answered without a
look at the input (`Command.Fixed`).  Any other plays a game, and then the exit code and
both streams tell how the run on the terminal ended (`Command.Mirrors`): a result on the
last line and exit code 0, or no result on any line, exit code 1 and a report of the
error.

That a run without an outcome never prints one takes a look at every text that the
terminal writes, since players choose some of them.  It is in
`Terminal.outcome_not_mem_lines`.
-/

namespace Noughts
namespace Command

/-! ## Arguments -/

/-- Asks by name, or by letter with anything joined to it. -/
def AsksBy (name : String) (letter : Char) (arg : String) : Prop :=
  arg = "--" ++ name ∨ ['-', letter] <+: arg.toList

def IsRequest (arg : String) : Prop :=
  AsksBy "help" 'h' arg ∨ AsksBy "version" 'V' arg

instance (name : String) (letter : Char) (arg : String) : Decidable (AsksBy name letter arg) :=
  inferInstanceAs (Decidable (_ ∨ _))

instance (arg : String) : Decidable (IsRequest arg) :=
  inferInstanceAs (Decidable (_ ∨ _))

/-- A request is reached.  Every other argument before it would be an error, and after
the mark that ends the options nothing is a request, so it is the first argument. -/
def Asks (args : List String) : Prop :=
  ∃ arg rest, args = arg :: rest ∧ IsRequest arg

/-- An error is reached: the first argument means nothing, or something follows the mark
that ends the options. -/
def Errs (args : List String) : Prop :=
  ∃ arg rest, args = arg :: rest ∧ ¬ IsRequest arg ∧ (arg = "--" → rest ≠ [])

theorem longOption_eq_ok_iff {body : List Char} {request : Request} :
    longOption body = .ok request ↔
      (request = .help ∧ body = "help".toList) ∨
        (request = .version ∧ body = "version".toList) := by
  constructor
  · intro h
    have hbody := List.takeWhile_append_dropWhile (p := (· ≠ '=')) (l := body)
    unfold longOption at h
    dsimp only at h
    split at h
    · cases h
    · -- There is no value, so the name is all there is.
      rename_i found hfound hvalue
      rw [hvalue, List.append_nil] at hbody
      rw [hbody] at hfound
      cases h
      split_ifs at hfound with hhelp hversion
      · cases hfound
        exact .inl ⟨rfl, hhelp⟩
      · cases hfound
        exact .inr ⟨rfl, hversion⟩
    · cases h
  · rintro (⟨rfl, rfl⟩ | ⟨rfl, rfl⟩)
    · rfl
    · rfl

theorem argument_eq_ok_iff {arg : String} {found : Option Request} :
    argument arg = .ok found ↔
      (found = none ∧ arg = "--") ∨ (found = some .help ∧ AsksBy "help" 'h' arg) ∨
        (found = some .version ∧ AsksBy "version" 'V' arg) := by
  constructor
  · intro h
    unfold argument at h
    split at h
    · rename_i harg
      cases h
      exact .inl ⟨rfl, String.toList_inj.1 harg⟩
    · rename_i body _ harg
      cases hbody : longOption body with
      | error e =>
        rw [hbody] at h
        cases h
      | ok request =>
        rw [hbody] at h
        cases h
        right
        rcases longOption_eq_ok_iff.1 hbody with ⟨rfl, rfl⟩ | ⟨rfl, rfl⟩
        · exact .inl ⟨rfl, .inl (String.toList_inj.1 harg)⟩
        · exact .inr ⟨rfl, .inl (String.toList_inj.1 harg)⟩
    · rename_i rest harg
      cases h
      exact .inr (.inl ⟨rfl, .inr ⟨rest, harg.symm⟩⟩)
    · rename_i rest harg
      cases h
      exact .inr (.inr ⟨rfl, .inr ⟨rest, harg.symm⟩⟩)
    · cases h
    · cases h
  · rintro (⟨rfl, rfl⟩ | ⟨rfl, rfl | ⟨rest, hrest⟩⟩ | ⟨rfl, rfl | ⟨rest, hrest⟩⟩)
    · rfl
    · rfl
    · unfold argument
      rw [← hrest]
      rfl
    · rfl
    · unfold argument
      rw [← hrest]
      rfl

theorem parse_of_asks {args : List String} (h : Asks args) :
    parse args = .ok .help ∨ parse args = .ok .version := by
  obtain ⟨arg, rest, rfl, hhelp | hversion⟩ := h
  · have harg : argument arg = .ok (some .help) := argument_eq_ok_iff.2 (.inr (.inl ⟨rfl, hhelp⟩))
    exact .inl (by simp only [parse, harg])
  · have harg : argument arg = .ok (some .version) :=
      argument_eq_ok_iff.2 (.inr (.inr ⟨rfl, hversion⟩))
    exact .inr (by simp only [parse, harg])

theorem parse_of_errs {args : List String} (h : Errs args) : ∃ e, parse args = .error e := by
  obtain ⟨arg, rest, rfl, hrequest, hrest⟩ := h
  cases harg : argument arg with
  | error e => exact ⟨e, by simp only [parse, harg]⟩
  | ok found =>
    rcases argument_eq_ok_iff.1 harg with ⟨rfl, hmark⟩ | ⟨-, hhelp⟩ | ⟨-, hversion⟩
    · obtain ⟨extra, more, rfl⟩ := List.exists_cons_of_ne_nil (hrest hmark)
      exact ⟨_, by simp only [parse, harg]; rfl⟩
    · exact absurd (.inl hhelp) hrequest
    · exact absurd (.inr hversion) hrequest

theorem parse_of_neither {args : List String} (hasks : ¬ Asks args) (herrs : ¬ Errs args) :
    parse args = .ok .play := by
  cases args with
  | nil => rfl
  | cons arg rest =>
    have hrequest : ¬ IsRequest arg := fun h => hasks ⟨arg, rest, rfl, h⟩
    obtain ⟨rfl, rfl⟩ : arg = "--" ∧ rest = [] := by
      refine Decidable.byContradiction fun hne => herrs ⟨arg, rest, rfl, hrequest, ?_⟩
      intro hmark hnil
      exact hne ⟨hmark, hnil⟩
    rfl

/-! ## Responses -/

/-- One response to every input, with an exit code and without a game on show. -/
def Fixed (args : List String) (code : Nat) : Prop :=
  ∃ r : Response, r.code = code ∧ (∀ m, Drawing.playerLine m ∉ Text.lines r.stdout.toList) ∧
    ∀ stdin, respond args stdin = .ok r

/-- The lines of an error report: the message, and then the causes, the nearest first.
They are numbered if there are several. -/
def reportLines (r : Report) : List String :=
  ["Error: " ++ r.message, "", "Caused by:"] ++ r.causes.mapIdx fun i cause =>
    (if r.causes.length = 1 then "    " else "    " ++ toString i ++ ": ") ++ cause

/-- The response tells what came of a run on the terminal, in its exit code and on both
streams. -/
structure Mirrors (run : Except SessionError Outcome × Session Terminal) (r : Response) : Prop where
  stdout : Text.encode r.stdout.toList = run.2.world.output
  opening : Drawing.screen .standard .new <+: r.stdout.toList
  success : (r.code = 0 ∧ r.stderr = "") ↔ ∃ outcome, run.1 = .ok outcome
  result : ∀ outcome, run.1 = .ok outcome →
    ∃ before, r.stdout.toList = before ++ '\n' :: outcome.text.toList ++ ['\n']
  reason : ∀ e, run.1 = .error e →
    e = .input .closed ∨ e = .input (.failed "stream did not contain valid UTF-8")
  failure : ∀ e, run.1 = .error e →
    r.code = 1 ∧ (∀ outcome : Outcome, outcome.text.toList ∉ Text.lines r.stdout.toList) ∧
      ∃ report, e.report = .ok report ∧ report.causes ≠ [] ∧
        r.stderr = String.join ((reportLines report).map (· ++ "\n"))

theorem fixed_of_asks {args : List String} (h : Asks args) : Fixed args 0 := by
  have hhelp : ∀ m, Drawing.playerLine m ∉ Text.lines helpText.toList := by
    intro m
    cases m <;> decide +kernel
  have hversion : ∀ m, Drawing.playerLine m ∉ Text.lines versionText.toList := by
    intro m
    cases m <;> decide +kernel
  rcases parse_of_asks h with hparse | hparse
  · refine ⟨{ code := 0, stdout := helpText, stderr := "" }, rfl, hhelp, fun stdin => ?_⟩
    simp only [respond, hparse]
  · refine ⟨{ code := 0, stdout := versionText, stderr := "" }, rfl, hversion, fun stdin => ?_⟩
    simp only [respond, hparse]

theorem fixed_of_errs {args : List String} (h : Errs args) : Fixed args 2 := by
  have hnothing : ∀ m, Drawing.playerLine m ∉ Text.lines "".toList := by
    intro m
    cases m <;> decide
  obtain ⟨e, hparse⟩ := parse_of_errs h
  refine ⟨{ code := 2, stdout := "", stderr := e.report }, rfl, hnothing, fun stdin => ?_⟩
  simp only [respond, hparse]

/-! ## Played games -/

theorem newline_not_mem_standard (c : Cell) : '\n' ∉ (Palette.standard.glyph c).toList := by
  rcases c with _ | _ | _ <;> decide

/-- Nothing but the end of the input and a line that is no text fails on a terminal
whose channels do not. -/
theorem failure_of_follows {lines : List (List UInt8)} {tokens : List String} {e : SessionError}
    {r : Except SessionError Outcome × Session Script}
    (h : Session.Follows .new (lines.map Terminal.lineToken) r tokens) (he : r.1 = .error e) :
    r.2.game.isOver = false ∧
      (e = .input .closed ∨ e = .input (.failed "stream did not contain valid UTF-8")) := by
  rcases h.ending with ⟨-, hok, -⟩ | ⟨hover, -, cause, hcause, hitems⟩
  · rw [hok] at he
    cases he
  · rw [hcause] at he
    cases he
    refine ⟨hover, ?_⟩
    rcases hitems with hitems | ⟨rfl, -⟩
    · have hmem : .error cause ∈ lines.map Terminal.lineToken := by
        rw [hitems]
        simp
      obtain ⟨line, -, hline⟩ := List.mem_map.1 hmem
      unfold Terminal.lineToken at hline
      split at hline
      · cases hline
      · cases hline
        exact .inr rfl
    · exact .inl rfl

theorem causeLines_eq (causes : List String) :
    causeLines causes = causes.mapIdx fun i cause =>
      (if causes.length = 1 then "    " else "    " ++ toString i ++ ": ") ++ cause := by
  rcases causes with _ | ⟨first, _ | ⟨second, rest⟩⟩
  · rfl
  · rfl
  · rw [List.mapIdx_eq_zipIdx_map]
    simp [causeLines]

theorem failureReport_eq {report : Report} (h : report.causes ≠ []) :
    failureReport report = String.join ((reportLines report).map (· ++ "\n")) := by
  have hcauses : report.causes.isEmpty = false := by simpa using h
  simp only [failureReport, reportLines, causeLines_eq, hcauses, ← String.toList_inj]
  simp

theorem scripted_recounts (lines : List (List UInt8)) :
    ∃ tokens, Session.Follows .new (lines.map Terminal.lineToken) (Terminal.scripted lines) tokens ∧
      (Terminal.scripted lines).2.world.log =
        .displayed .new :: (Game.new.exchanges tokens ++
          Session.lastCalls (Terminal.scripted lines)) :=
  Session.run_recounts (Session.sound_start (Script.ofItems (lines.map Terminal.lineToken)))

/-- What the players see of a run is the text of the calls of the run over its lines. -/
theorem exists_seen (stdin : List UInt8) :
    let run := playTerminal .standard (.fresh stdin .reliable .reliable)
    let calls := (Terminal.scripted (LineReader.lines stdin)).2.world.log
    ∃ texts, calls.mapM (Terminal.spoken .standard) = .ok texts ∧
      run.2.world.transcript.toList = texts.flatten ∧
      Text.encode run.2.world.transcript.toList = run.2.world.output := by
  intro run calls
  obtain ⟨texts, htexts, houtput⟩ := (Terminal.playsScript_lines .standard stdin).output
  have hstdout : run.2.world.transcript.toList = texts.flatten := by
    rw [Terminal.transcript_of_output houtput, String.toList_ofList]
  exact ⟨texts, htexts, hstdout, hstdout ▸ houtput.symm⟩

section Mirrors

variable {run : Except SessionError Outcome × Session Terminal} {r : Response}
  (hstdout : Text.encode r.stdout.toList = run.2.world.output)
  (hopening : Drawing.screen .standard .new <+: r.stdout.toList)
include hstdout hopening

theorem mirrors_of_ok {outcome : Outcome} (hrun : run.1 = .ok outcome) (hcode : r.code = 0)
    (hstderr : r.stderr = "")
    (hend : ∃ before, r.stdout.toList = before ++ '\n' :: outcome.text.toList ++ ['\n']) :
    Mirrors run r := by
  refine ⟨hstdout, hopening, iff_of_true ⟨hcode, hstderr⟩ ⟨_, hrun⟩, ?_, ?_, ?_⟩
  · intro other hother
    rw [hrun] at hother
    cases hother
    exact hend
  · intro e he
    rw [hrun] at he
    cases he
  · intro e he
    rw [hrun] at he
    cases he

theorem mirrors_of_error {e : SessionError} {report : Report} (hrun : run.1 = .error e)
    (hcode : r.code = 1)
    (hreason : e = .input .closed ∨ e = .input (.failed "stream did not contain valid UTF-8"))
    (hnone : ∀ outcome : Outcome, outcome.text.toList ∉ Text.lines r.stdout.toList)
    (hreport : e.report = .ok report) (hcauses : report.causes ≠ [])
    (hstderr : r.stderr = failureReport report) : Mirrors run r := by
  have hsuccess : ¬ (r.code = 0 ∧ r.stderr = "") := by
    rw [hcode]
    exact fun hzero => absurd hzero.1 Nat.one_ne_zero
  have hfailed : ¬ ∃ outcome, run.1 = .ok outcome := by
    rintro ⟨outcome, hok⟩
    rw [hrun] at hok
    cases hok
  refine ⟨hstdout, hopening, iff_of_false hsuccess hfailed, ?_, ?_, ?_⟩
  · intro outcome hok
    exact absurd ⟨outcome, hok⟩ hfailed
  · intro other hother
    rw [hrun] at hother
    cases hother
    exact hreason
  · intro other hother
    rw [hrun] at hother
    cases hother
    exact ⟨hcode, hnone, report, hreport, hcauses, hstderr.trans (failureReport_eq hcauses)⟩

end Mirrors

/-- A command line that asks for nothing and has nothing wrong plays a game, and the
response tells what came of it. -/
theorem exists_mirrors {args : List String} (h : parse args = .ok .play) (stdin : List UInt8) :
    ∃ r, respond args stdin = .ok r ∧
      Mirrors (playTerminal .standard (.fresh stdin .reliable .reliable)) r := by
  have hscript := (Terminal.playsScript_lines .standard stdin).result
  obtain ⟨tokens, hfollows, hlog⟩ := scripted_recounts (LineReader.lines stdin)
  obtain ⟨texts, htexts, hstdout, houtput⟩ := exists_seen stdin
  have hopening := Terminal.screen_prefix_of_spoken htexts hlog
  rw [← hstdout] at hopening
  generalize hrun : playTerminal .standard (.fresh stdin .reliable .reliable) = run at *
  cases hresult : run.1 with
  | ok outcome =>
    obtain ⟨hover, houtcome⟩ := (hfollows.eq_ok_iff outcome).1 (hscript ▸ hresult)
    have hconclude := hfollows.conclude_of_isOver hover
    rw [← hlog] at hconclude
    have hend := Terminal.exists_of_conclude htexts hconclude
    rw [← hstdout, ← houtcome] at hend
    let r : Response := { code := 0, stdout := run.2.world.transcript, stderr := "" }
    have hresponse : respond args stdin = .ok r := by
      simp only [respond, h, hrun, hresult, r]
    exact ⟨r, hresponse, mirrors_of_ok houtput hopening hresult rfl rfl hend⟩
  | error e =>
    obtain ⟨hover, hreason⟩ := failure_of_follows hfollows (hscript ▸ hresult)
    have hrunning := hfollows.unfinished_of_not_isOver hover
    rw [← hlog] at hrunning
    have hnone := Terminal.outcome_not_mem_lines htexts newline_not_mem_standard hrunning
    rw [← hstdout] at hnone
    obtain ⟨report, hreport, hcauses⟩ : ∃ report, e.report = .ok report ∧ report.causes ≠ [] := by
      rcases hreason with rfl | rfl
      · exact ⟨_, rfl, List.cons_ne_nil _ _⟩
      · exact ⟨_, rfl, List.cons_ne_nil _ _⟩
    let r : Response :=
      { code := 1, stdout := run.2.world.transcript, stderr := failureReport report }
    have hresponse : respond args stdin = .ok r := by
      simp only [respond, h, hrun, hresult, failure, hreport]
      rfl
    exact ⟨r, hresponse,
      mirrors_of_error houtput hopening hresult rfl hreason hnone hreport hcauses rfl⟩

/-- Of every command line and every input: the exit code and both streams are those of
the first request or error, or else of the game that is played. -/
theorem respond_mirrors_run (args : List String) :
    (Asks args → Fixed args 0) ∧ (Errs args → Fixed args 2) ∧
      (¬ Asks args → ¬ Errs args → ∀ stdin, ∃ r, respond args stdin = .ok r ∧
        Mirrors (playTerminal .standard (.fresh stdin .reliable .reliable)) r) :=
  ⟨fixed_of_asks, fixed_of_errs, fun hasks herrs => exists_mirrors (parse_of_neither hasks herrs)⟩

/-- Five lines that win, after the mark that ends the options. -/
theorem respond_mirrors_run_won :
    Fixed ["-hx"] 0 ∧ Fixed ["--", "--help"] 2 ∧
      ∃ r, respond ["--"] (Text.encode "a1\nb1\na2\nb2\na3\n".toList) = .ok r ∧
        r.code = 0 ∧ r.stderr = "" ∧
        ∃ before, r.stdout.toList = before ++ '\n' :: "winner is X".toList ++ ['\n'] := by
  have hmark : ¬ IsRequest "--" := by decide
  obtain ⟨hhelp, -, -⟩ := respond_mirrors_run ["-hx"]
  obtain ⟨-, hextra, -⟩ := respond_mirrors_run ["--", "--help"]
  obtain ⟨-, -, hplay⟩ := respond_mirrors_run ["--"]
  refine ⟨hhelp ⟨_, _, rfl, by decide⟩, hextra ⟨_, _, rfl, hmark, fun _ => by simp⟩, ?_⟩
  have hasks : ¬ Asks ["--"] := by
    rintro ⟨arg, rest, hargs, hrequest⟩
    cases hargs
    exact hmark hrequest
  have herrs : ¬ Errs ["--"] := by
    rintro ⟨arg, rest, hargs, -, hrest⟩
    cases hargs
    exact hrest rfl rfl
  have hwon : (playTerminal .standard (.fresh (Text.encode "a1\nb1\na2\nb2\na3\n".toList)
      .reliable .reliable)).1.toOption = some (.win .x) := by
    decide +kernel
  obtain ⟨r, hr, hmirrors⟩ := hplay hasks herrs (Text.encode "a1\nb1\na2\nb2\na3\n".toList)
  generalize playTerminal .standard _ = run at hwon hmirrors
  cases hresult : run.1 with
  | error e =>
    rw [hresult] at hwon
    cases hwon
  | ok outcome =>
    rw [hresult] at hwon
    cases hwon
    obtain ⟨hcode, hstderr⟩ := hmirrors.success.2 ⟨_, hresult⟩
    exact ⟨r, hr, hcode, hstderr, hmirrors.result _ hresult⟩

end Command
end Noughts
