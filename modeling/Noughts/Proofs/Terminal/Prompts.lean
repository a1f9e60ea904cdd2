import Noughts.Proofs.Session.Protocol
import Noughts.Proofs.Terminal.Transcript

/-!
Prompts that may fail.

A prompt that fails ends the run that asks it, before a line is read for it.  So a
run whose prompts go through a channel that may fail does what the run through a
reliable channel does for as long as the prompts get through (`Channel.Carries`), and
is cut short at the first one that does not (`Session.Severed`).  One of the two
holds of every run (`Session.takeTurns_echoes`).

Both runs are the same turns of the same session, which `Session.through` puts on the
other channel.  A turn prompts once and then at most draws (`Session.Turns`), so the
channel meets the prompts of the reliable run, one a turn.
-/

namespace Noughts

/-! ## Channels that carry some writes -/

namespace Channel

/-- Each of the writes gets through, one after the other. -/
def Carries : Channel → List (List UInt8) → Prop
  | _, [] => True
  | c, bytes :: rest => c.failure? bytes.length = none ∧ (c.after bytes.length).Carries rest

/-- The channel after several writes. -/
def afterAll (c : Channel) (writes : List (List UInt8)) : Channel :=
  c.after writes.flatten.length

@[simp] theorem afterAll_nil (c : Channel) : c.afterAll [] = c := by
  obtain ⟨room, flushes⟩ := c
  cases room <;> rfl

@[simp] theorem afterAll_cons (c : Channel) (bytes : List UInt8) (rest : List (List UInt8)) :
    c.afterAll (bytes :: rest) = (c.after bytes.length).afterAll rest := by
  rw [afterAll, afterAll, after_after, List.flatten_cons, List.length_append]

theorem taken_of_failure?_eq_none {c : Channel} {size : Nat} (h : c.failure? size = none) :
    c.taken size = size := by
  unfold failure? at h
  split at h
  · cases h
  · rename_i hlt
    exact Nat.le_antisymm (c.taken_le size) (Nat.le_of_not_lt hlt)

/-- A channel with room for some bytes that has no trouble flushing. -/
def limited (room : Nat) : Channel :=
  { room := some room, flushes := true }

/-- A channel that takes everything and never flushes. -/
def clogged : Channel :=
  { room := none, flushes := false }

theorem failure?_limited (room size : Nat) :
    (limited room).failure? size = if room < size then some .full else none := by
  simp only [failure?, taken, limited]
  by_cases h : room < size
  · rw [if_pos (by omega), if_pos h]
  · rw [if_neg (by omega), if_neg h]
    rfl

theorem carries_limited {room : Nat} {writes : List (List UInt8)} :
    (limited room).Carries writes ↔ writes.flatten.length ≤ room := by
  induction writes generalizing room with
  | nil => exact iff_of_true trivial (Nat.zero_le room)
  | cons bytes rest ih =>
    have hrest : ((limited room).after bytes.length).Carries rest ↔
        rest.flatten.length ≤ room - bytes.length := ih
    show (limited room).failure? bytes.length = none ∧ _ ↔ _
    rw [hrest, failure?_limited, List.flatten_cons, List.length_append]
    by_cases h : room < bytes.length
    · simp only [if_pos h]
      refine iff_of_false (fun hsome => ?_) (by omega)
      cases hsome.1
    · simp only [if_neg h, true_and]
      omega

theorem failure?_clogged (size : Nat) : clogged.failure? size = some .flush := by
  simp [failure?, taken, clogged]

theorem carries_clogged {writes : List (List UInt8)} : clogged.Carries writes ↔ writes = [] := by
  cases writes with
  | nil => exact iff_of_true trivial rfl
  | cons bytes rest =>
    refine iff_of_false (fun h => ?_) (List.cons_ne_nil _ _)
    have hnone : clogged.failure? bytes.length = none := h.1
    rw [failure?_clogged] at hnone
    cases hnone

end Channel

/-! ## A terminal with another channel for its prompts -/

namespace Terminal

/-- The prompts among some pieces of output. -/
def promptsIn (written : List (Source × List UInt8)) : List (List UInt8) :=
  (written.filter fun piece => piece.1 = .prompt).map Prod.snd

@[simp] theorem promptsIn_nil : promptsIn [] = [] := rfl

@[simp] theorem promptsIn_append (before after : List (Source × List UInt8)) :
    promptsIn (before ++ after) = promptsIn before ++ promptsIn after := by
  simp [promptsIn]

@[simp] theorem promptsIn_prompt (bytes : List UInt8) (rest : List (Source × List UInt8)) :
    promptsIn ((.prompt, bytes) :: rest) = bytes :: promptsIn rest := by
  simp [promptsIn]

@[simp] theorem promptsIn_drawing (bytes : List UInt8) (rest : List (Source × List UInt8)) :
    promptsIn ((.drawing, bytes) :: rest) = promptsIn rest := by
  simp [promptsIn]

/-- A turn adds one prompt. -/
theorem promptsIn_turn (bytes : List UInt8) {drawn : List (Source × List UInt8)}
    (h : promptsIn drawn = []) (rest : List (Source × List UInt8)) :
    promptsIn ((.prompt, bytes) :: (drawn ++ rest)) = bytes :: promptsIn rest := by
  rw [promptsIn_prompt, promptsIn_append, h, List.nil_append]

/-- The terminal with another channel for its prompts. -/
def through (t : Terminal) (c : Channel) : Terminal :=
  { t with prompts := c }

variable {t : Terminal} {c : Channel} {text : List Char} {squares : List Square}

theorem readLine_through (t : Terminal) (c : Channel) :
    (t.through c).readLine = (t.readLine.1, t.readLine.2.through c) := by
  unfold readLine through
  cases LineReader.nextLine t.input with
  | none => rfl
  | some split => rfl

theorem decline_through (t : Terminal) (c : Channel) (e : Refusal) :
    (t.through c).decline e = (t.decline e).map (·.through c) := by
  unfold decline
  cases Drawing.refusal e with
  | error f => rfl
  | ok text => rfl

theorem writePrompt_through (ht : t.prompts = .reliable)
    (h : c.failure? (Text.encode text).length = none) :
    (t.through c).writePrompt text =
      (t.writePrompt text).through (c.after (Text.encode text).length) := by
  unfold writePrompt through
  simp only [Channel.taken_of_failure?_eq_none h, ht, Channel.taken_reliable]

/-- A question that gets through is written, and then a line is read. -/
theorem ask_of_carried (htext : Drawing.prompt squares = .ok text)
    (h : t.prompts.failure? (Text.encode text).length = none) :
    t.ask squares = ((t.writePrompt text).readLine.1.mapError .input,
      (t.writePrompt text).readLine.2) := by
  simp only [ask, htext, question, h]

theorem ask_of_reliable (ht : t.prompts = .reliable) (htext : Drawing.prompt squares = .ok text) :
    t.ask squares = ((t.writePrompt text).readLine.1.mapError .input,
      (t.writePrompt text).readLine.2) :=
  ask_of_carried htext (by rw [ht, Channel.failure?_reliable])

theorem ask_through_of_none (ht : t.prompts = .reliable)
    (htext : Drawing.prompt squares = .ok text)
    (h : c.failure? (Text.encode text).length = none) :
    (t.through c).ask squares =
      ((t.ask squares).1, (t.ask squares).2.through (c.after (Text.encode text).length)) := by
  have hask := ask_of_carried (t := t.through c) htext h
  rw [writePrompt_through ht h, readLine_through] at hask
  rw [hask, ask_of_reliable ht htext]

theorem ask_through_of_some {f : Channel.Failure} (htext : Drawing.prompt squares = .ok text)
    (h : c.failure? (Text.encode text).length = some f) :
    (t.through c).ask squares =
      (.error (.input (.failed f.message)), (t.through c).writePrompt text) := by
  have hfail : (t.through c).prompts.failure? (Text.encode text).length = some f := h
  simp only [ask, htext, question, hfail]
  rfl

/-- Nothing but drawings has happened. -/
structure Draws (t next : Terminal) : Prop where
  input : next.input = t.input
  prompts : next.prompts = t.prompts
  written : ∃ drawn, next.written = t.written ++ drawn ∧ promptsIn drawn = []

theorem Draws.refl (t : Terminal) : t.Draws t :=
  ⟨rfl, rfl, [], (List.append_nil _).symm, rfl⟩

theorem draws_writeDrawing (t : Terminal) (text : List Char) : t.Draws (t.writeDrawing text) :=
  ⟨rfl, rfl, _, rfl, by simp⟩

theorem draws_decline {next : Terminal} {e : Refusal} (h : t.decline e = .ok next) :
    t.Draws next := by
  unfold decline at h
  cases hr : Drawing.refusal e with
  | ok text =>
    rw [hr] at h
    cases h
    exact draws_writeDrawing t text
  | error f =>
    rw [hr] at h
    cases h

end Terminal

/-! ## Turns -/

namespace Session

variable (palette : Palette) {s : Session Terminal} {c : Channel} {text : List Char}

/-- The session on a terminal with another channel for its prompts. -/
def through (s : Session Terminal) (c : Channel) : Session Terminal :=
  { s with world := s.world.through c }

/-- Handling a token prompts for nothing. -/
theorem handle_through (s : Session Terminal) (c : Channel) (token : String) :
    (s.through c).handle (Terminal.host palette) token =
      ((s.handle (Terminal.host palette) token).1,
        (s.handle (Terminal.host palette) token).2.through c) := by
  have hdecline : ∀ e, (Terminal.host palette).decline (s.through c).world e =
      ((Terminal.host palette).decline s.world e).map (·.through c) :=
    Terminal.decline_through s.world c
  have hgame : (s.through c).game = s.game := rfl
  have hphase : (s.through c).phase = s.phase := rfl
  unfold handle
  rw [hphase, hgame]
  cases hp : s.phase with
  | finished => rfl
  | awaitingMove =>
    cases s.game.playToken token with
    | ok next => rfl
    | error e =>
      cases e with
      | fault f => rfl
      | refused e =>
        cases e with
        | gameOver => rfl
        | flawed f =>
          simp only [hdecline]
          cases (Terminal.host palette).decline s.world (.flawed f) with
          | ok world => rfl
          | error f => rfl

theorem draws_handle (s : Session Terminal) (token : String) :
    s.world.Draws (s.handle (Terminal.host palette) token).2.world := by
  unfold handle
  split
  · exact .refl _
  · split
    · exact Terminal.draws_writeDrawing _ _
    · split
      · rename_i hdecline
        exact Terminal.draws_decline hdecline
      · exact .refl _
    · exact .refl _
    · exact .refl _

theorem turn_through_of_none (ht : s.world.prompts = .reliable)
    (htext : Drawing.prompt s.game.openSquares = .ok text)
    (h : c.failure? (Text.encode text).length = none) :
    (s.through c).turn (Terminal.host palette) =
      ((s.turn (Terminal.host palette)).1,
        (s.turn (Terminal.host palette)).2.through (c.after (Text.encode text).length)) := by
  have hask : (Terminal.host palette).ask (s.through c).world (s.through c).game.openSquares =
      (((Terminal.host palette).ask s.world s.game.openSquares).1,
        ((Terminal.host palette).ask s.world s.game.openSquares).2.through
          (c.after (Text.encode text).length)) :=
    Terminal.ask_through_of_none ht htext h
  unfold turn
  rw [hask]
  generalize (Terminal.host palette).ask s.world s.game.openSquares = asked
  obtain ⟨answer, world⟩ := asked
  cases answer with
  | error e => rfl
  | ok token => exact handle_through palette { s with world } _ token

theorem turn_through_of_some {f : Channel.Failure}
    (htext : Drawing.prompt s.game.openSquares = .ok text)
    (h : c.failure? (Text.encode text).length = some f) :
    (s.through c).turn (Terminal.host palette) =
      (.error (.input (.failed f.message)),
        { s with world := (s.world.through c).writePrompt text }) := by
  have hask : (Terminal.host palette).ask (s.through c).world (s.through c).game.openSquares =
      (.error (.input (.failed f.message)), (s.world.through c).writePrompt text) :=
    Terminal.ask_through_of_some htext h
  unfold turn
  rw [hask]
  rfl

/-- What a turn on a reliable channel does: it prompts once, and if it goes well the
line that it takes has a token, which moves the game on. -/
structure Turns (s : Session Terminal) (text : List Char)
    (r : Except SessionError Phase × Session Terminal) : Prop where
  prompts : r.2.world.prompts = .reliable
  written : ∃ drawn, r.2.world.written =
    s.world.written ++ (.prompt, Text.encode text) :: drawn ∧ Terminal.promptsIn drawn = []
  token : ∀ phase, r.1 = .ok phase → ∃ line token,
    LineReader.nextLine s.world.input = some (line, r.2.world.input) ∧
      Terminal.lineToken line = .ok token ∧ r.2.game = s.game.follow token

/-- The session once it has prompted and taken a line off its input, with `rest` left. -/
def prompted (s : Session Terminal) (text : List Char) (rest : List UInt8) : Session Terminal :=
  { s with world := { s.world.writePrompt text with input := rest } }

theorem turn_of_closed (ht : s.world.prompts = .reliable)
    (htext : Drawing.prompt s.game.openSquares = .ok text)
    (hline : LineReader.nextLine s.world.input = none) :
    s.turn (Terminal.host palette) =
      (.error (.input .closed), s.prompted text s.world.input) := by
  have hask : (Terminal.host palette).ask s.world s.game.openSquares =
      (.error (.input .closed), s.world.writePrompt text) := by
    show s.world.ask _ = _
    have hline' : LineReader.nextLine (s.world.writePrompt text).input = none := hline
    rw [Terminal.ask_of_reliable ht htext, Terminal.readLine, hline']
    rfl
  unfold turn
  rw [hask]
  rfl

theorem ask_of_line {line rest : List UInt8} (ht : s.world.prompts = .reliable)
    (htext : Drawing.prompt s.game.openSquares = .ok text)
    (hline : LineReader.nextLine s.world.input = some (line, rest)) :
    (Terminal.host palette).ask s.world s.game.openSquares =
      ((Terminal.lineToken line).mapError .input, (s.prompted text rest).world) := by
  show s.world.ask _ = _
  have hline' : LineReader.nextLine (s.world.writePrompt text).input = some (line, rest) := hline
  rw [Terminal.ask_of_reliable ht htext, Terminal.readLine, hline']
  rfl

theorem turn_of_unreadable {line rest : List UInt8} {e : InputError}
    (ht : s.world.prompts = .reliable) (htext : Drawing.prompt s.game.openSquares = .ok text)
    (hline : LineReader.nextLine s.world.input = some (line, rest))
    (he : Terminal.lineToken line = .error e) :
    s.turn (Terminal.host palette) = (.error (.input e), s.prompted text rest) := by
  unfold turn
  rw [ask_of_line palette ht htext hline, he]
  rfl

theorem turn_of_line {line rest : List UInt8} {token : String} (ht : s.world.prompts = .reliable)
    (htext : Drawing.prompt s.game.openSquares = .ok text)
    (hline : LineReader.nextLine s.world.input = some (line, rest))
    (htoken : Terminal.lineToken line = .ok token) :
    s.turn (Terminal.host palette) =
      (s.prompted text rest).handle (Terminal.host palette) token := by
  unfold turn
  rw [ask_of_line palette ht htext hline, htoken]
  rfl

theorem written_prompted (ht : s.world.prompts = .reliable) (rest : List UInt8) :
    (s.prompted text rest).world.written = s.world.written ++ [(.prompt, Text.encode text)] := by
  show s.world.written ++ [(.prompt, (Text.encode text).take _)] = _
  rw [ht, Channel.taken_reliable, List.take_length]

theorem turns_turn (hs : s.Lawful) (hphase : s.phase = .awaitingMove)
    (ht : s.world.prompts = .reliable) (htext : Drawing.prompt s.game.openSquares = .ok text) :
    s.Turns text (s.turn (Terminal.host palette)) := by
  have hprompts : ∀ rest, (s.prompted text rest).world.prompts = .reliable := by
    intro rest
    show s.world.prompts.after _ = _
    rw [ht, Channel.after_reliable]
  cases hline : LineReader.nextLine s.world.input with
  | none =>
    rw [turn_of_closed palette ht htext hline]
    exact ⟨hprompts _, ⟨[], written_prompted ht _, rfl⟩, fun phase h => nomatch h⟩
  | some split =>
    obtain ⟨line, rest⟩ := split
    cases htoken : Terminal.lineToken line with
    | error e =>
      rw [turn_of_unreadable palette ht htext hline htoken]
      exact ⟨hprompts _, ⟨[], written_prompted ht _, rfl⟩, fun phase h => nomatch h⟩
    | ok token =>
      rw [turn_of_line palette ht htext hline htoken]
      have hdraws := draws_handle palette (s.prompted text rest) token
      obtain ⟨drawn, hdrawn, hnone⟩ := hdraws.written
      refine ⟨hdraws.prompts.trans (hprompts rest), ⟨drawn, ?_, hnone⟩, fun phase _ => ?_⟩
      · rw [hdrawn, written_prompted ht, ← List.append_cons]
      · have hprompted : (s.prompted text rest).Lawful := hs.with_world _
        have hgame := game_handle (Terminal.host palette) hprompted hphase token
        rw [hdraws.input]
        exact ⟨line, token, hline, htoken, hgame⟩

/-! ## Runs -/

/-- A run through `c`, which starts with `s`, is cut short at the prompt `p`, after the
pieces `before`.  The lines taken up to then are the tokens of as many turns. -/
structure Severed (c : Channel) (s : Session Terminal) (before : List (Source × List UInt8))
    (p : List UInt8) (cut : Except SessionError Outcome × Session Terminal) : Prop where
  carries : c.Carries (Terminal.promptsIn before)
  failure : ∃ f, (c.afterAll (Terminal.promptsIn before)).failure? p.length = some f ∧
    cut.1 = .error (.input (.failed f.message))
  phase : cut.2.phase = .awaitingMove
  lines : ∃ ls tokens, ls.length = (Terminal.promptsIn before).length ∧
    ls.map Terminal.lineToken = tokens.map .ok ∧
    LineReader.lines s.world.input = ls ++ LineReader.lines cut.2.world.input ∧
    cut.2.game = s.game.followAll tokens
  written : cut.2.world.written = s.world.written ++ before ++
    [(.prompt, p.take ((c.afterAll (Terminal.promptsIn before)).taken p.length))]

theorem severed_of_failure {f : Channel.Failure} (hphase : s.phase = .awaitingMove)
    (htext : Drawing.prompt s.game.openSquares = .ok text)
    (h : c.failure? (Text.encode text).length = some f) :
    s.Severed c [] (Text.encode text) ((s.through c).takeTurns (Terminal.host palette)) := by
  have hthrough : (s.through c).phase = .awaitingMove := hphase
  rw [takeTurns_of_error hthrough (turn_through_of_some palette htext h)]
  refine ⟨trivial, ⟨f, ?_, rfl⟩, hphase, ⟨[], [], rfl, rfl, rfl, rfl⟩, ?_⟩
  · rw [Terminal.promptsIn_nil, Channel.afterAll_nil]
    exact h
  · rw [Terminal.promptsIn_nil, Channel.afterAll_nil, List.append_nil]
    rfl

/-- A run through `c` beside the run through a reliable channel, which is `full` and
writes the pieces `pieces`.  Either every prompt gets through and the runs are the same,
or the run through `c` is cut short at the first prompt that does not. -/
def Echoes (c : Channel) (s : Session Terminal) (pieces : List (Source × List UInt8))
    (full cut : Except SessionError Outcome × Session Terminal) : Prop :=
  (c.Carries (Terminal.promptsIn pieces) ∧
    cut = (full.1, full.2.through (c.afterAll (Terminal.promptsIn pieces)))) ∨
  ∃ before p after, pieces = before ++ (.prompt, p) :: after ∧ s.Severed c before p cut

section Cons

variable {next : Session Terminal} {phase : Phase} {drawn : List (Source × List UInt8)}
  {full cut : Except SessionError Outcome × Session Terminal}

/-- A turn whose prompt gets through, and then turns that are cut short. -/
theorem Severed.cons {before : List (Source × List UInt8)} {p : List UInt8}
    (hturn : s.Turns text (.ok phase, next))
    (hdrawn : next.world.written = s.world.written ++ (.prompt, Text.encode text) :: drawn)
    (hnone : Terminal.promptsIn drawn = [])
    (hcarried : c.failure? (Text.encode text).length = none)
    (h : next.Severed (c.after (Text.encode text).length) before p cut) :
    s.Severed c ((.prompt, Text.encode text) :: (drawn ++ before)) p cut := by
  have hprompts := Terminal.promptsIn_turn (Text.encode text) hnone before
  obtain ⟨line, token, hline, htoken, hgame⟩ := hturn.token phase rfl
  obtain ⟨ls, tokens, hlength, htokens, hlines, hcut⟩ := h.lines
  refine ⟨?_, ?_, h.phase, ⟨line :: ls, token :: tokens, ?_, ?_, ?_, ?_⟩, ?_⟩
  · rw [hprompts]
    exact ⟨hcarried, h.carries⟩
  · rw [hprompts, Channel.afterAll_cons]
    exact h.failure
  · rw [hprompts, List.length_cons, List.length_cons, hlength]
  · rw [List.map_cons, List.map_cons, htoken, htokens]
  · rw [LineReader.lines_of_some hline, hlines]
    rfl
  · rw [hcut, hgame]
    rfl
  · rw [h.written, hdrawn, hprompts, Channel.afterAll_cons]
    simp

theorem Echoes.cons {pieces : List (Source × List UInt8)} (hturn : s.Turns text (.ok phase, next))
    (hdrawn : next.world.written = s.world.written ++ (.prompt, Text.encode text) :: drawn)
    (hnone : Terminal.promptsIn drawn = [])
    (hcarried : c.failure? (Text.encode text).length = none)
    (h : next.Echoes (c.after (Text.encode text).length) pieces full cut) :
    s.Echoes c ((.prompt, Text.encode text) :: (drawn ++ pieces)) full cut := by
  rcases h with ⟨hcarries, hsame⟩ | ⟨before, p, after, rfl, hsevered⟩
  · left
    rw [Terminal.promptsIn_turn _ hnone, Channel.afterAll_cons]
    exact ⟨⟨hcarried, hcarries⟩, hsame⟩
  · right
    refine ⟨(.prompt, Text.encode text) :: (drawn ++ before), p, after, ?_,
      hsevered.cons hturn hdrawn hnone hcarried⟩
    rw [List.cons_append, List.append_assoc]

end Cons

theorem exists_prompt (s : Session Terminal) :
    ∃ text, Drawing.prompt s.game.openSquares = .ok text :=
  Drawing.exists_prompt fun _ hsq => (Board.mem_openSquares.1 hsq).1.spellable

theorem takeTurns_echoes (c : Channel) (hs : s.Lawful) (ht : s.world.prompts = .reliable) :
    ∃ pieces, (s.takeTurns (Terminal.host palette)).2.world.written = s.world.written ++ pieces ∧
      (s.phase = .awaitingMove → Terminal.promptsIn pieces ≠ []) ∧
      s.Echoes c pieces (s.takeTurns (Terminal.host palette))
        ((s.through c).takeTurns (Terminal.host palette)) := by
  -- Induction along the turns of the reliable run.  The other run takes the same turn
  -- if its prompt gets through, with less room for the prompts of the turns to come.
  induction s using takeTurns.induct (Terminal.host palette) generalizing c with
  | case1 s hphase =>
    have hthrough : (s.through c).phase = .finished := hphase
    rw [takeTurns_of_finished _ hphase, takeTurns_of_finished _ hthrough]
    refine ⟨[], (List.append_nil _).symm, fun h => ?_, .inl ⟨trivial, ?_⟩⟩
    · rw [hphase] at h
      cases h
    · rw [Terminal.promptsIn_nil, Channel.afterAll_nil]
      rfl
  | case2 s hphase e next hturn =>
    obtain ⟨text, htext⟩ := exists_prompt s
    have hturns := turns_turn palette hs hphase ht htext
    rw [hturn] at hturns
    obtain ⟨drawn, hdrawn, hnone⟩ := hturns.written
    rw [takeTurns_of_error hphase hturn]
    refine ⟨_, hdrawn, fun _ => by simp, ?_⟩
    cases hf : c.failure? (Text.encode text).length with
    | some f => exact .inr ⟨[], _, drawn, rfl, severed_of_failure palette hphase htext hf⟩
    | none =>
      have hthrough : (s.through c).phase = .awaitingMove := hphase
      have hcut := turn_through_of_none palette ht htext hf
      rw [hturn] at hcut
      rw [takeTurns_of_error hthrough hcut]
      left
      rw [Terminal.promptsIn_prompt, hnone, Channel.afterAll_cons, Channel.afterAll_nil]
      exact ⟨⟨hf, trivial⟩, rfl⟩
  | case3 s hphase phase next hturn ih =>
    obtain ⟨text, htext⟩ := exists_prompt s
    have hturns := turns_turn palette hs hphase ht htext
    have hnext := hs.turn (Terminal.host palette)
    rw [hturn] at hturns hnext
    obtain ⟨drawn, hdrawn, hnone⟩ := hturns.written
    obtain ⟨pieces, hwritten, -, hechoes⟩ :=
      ih (c.after (Text.encode text).length) hnext hturns.prompts
    rw [takeTurns_of_ok hphase hturn]
    refine ⟨(.prompt, Text.encode text) :: (drawn ++ pieces), ?_, fun _ => by simp, ?_⟩
    · rw [hwritten, hdrawn, List.append_assoc, List.cons_append]
    · cases hf : c.failure? (Text.encode text).length with
      | some f => exact .inr ⟨[], _, _, rfl, severed_of_failure palette hphase htext hf⟩
      | none =>
        have hthrough : (s.through c).phase = .awaitingMove := hphase
        have hcut := turn_through_of_none palette ht htext hf
        rw [hturn] at hcut
        rw [takeTurns_of_ok hthrough hcut]
        exact hechoes.cons hturns hdrawn hnone hf

end Session
end Noughts
