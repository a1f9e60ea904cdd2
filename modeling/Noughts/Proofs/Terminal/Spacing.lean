import Mathlib.Data.List.Forall2
import Mathlib.Tactic.SplitIfs
import Noughts.Proofs.Square.Grammar
import Noughts.Proofs.Terminal.Palettes
import Noughts.Proofs.Terminal.Transcript

/-!
White space at the ends of a line does not matter.

A token is trimmed before it is read, and a token that is refused is repeated as it was
trimmed.  So a session can not tell a host from the one that trims its tokens first
(`Session.run_trimming`), and two terminals that trim their tokens answer alike if their
lines differ in white space at the ends only (`Terminal.alike_respaced`).

`Terminal.Padded` adds such white space to one line, in front of its newline if it has
one.  Newlines stay where they are, since no other character has the byte of a newline
among its own (`Text.newline_mem_encode`), and therefore the lines that are read are the
padded ones (`Terminal.lines_flatten`).  Carriage returns before all newlines are one way
to pad an input (`Terminal.padded_withReturns`).
-/

namespace Noughts

/-! ## Bytes and newlines -/

namespace Text

/-- A byte of a character is the whole character, or its highest bit is set. -/
theorem toNat_of_mem_utf8EncodeChar {b : UInt8} {c : Char} (h : b ∈ String.utf8EncodeChar c) :
    b.toNat = c.toNat ∨ 128 ≤ b.toNat := by
  have hnumber : c.val.toNat = c.toNat := rfl
  simp only [String.utf8EncodeChar, hnumber] at h
  split_ifs at h <;>
    simp only [List.mem_cons, List.not_mem_nil, or_false, ← UInt8.toNat_inj,
      UInt8.toNat_ofNat'] at h <;> omega

theorem newline_mem_encode {s : List Char} : LineReader.newline ∈ encode s ↔ '\n' ∈ s := by
  constructor
  · intro h
    obtain ⟨c, hc, hbyte⟩ := List.mem_flatMap.1 h
    have hnumber : c.toNat = 10 := by
      rcases toNat_of_mem_utf8EncodeChar hbyte with hnumber | hlarge
      · exact hnumber.symm
      · exact absurd hlarge (by decide)
    obtain rfl : c = '\n' := Char.ext (UInt32.toNat_inj.1 hnumber)
    exact hc
  · intro h
    exact List.mem_flatMap.2 ⟨_, h, List.mem_singleton_self _⟩

theorem encode_newline (s : List Char) : encode (s ++ ['\n']) = encode s ++ [LineReader.newline] :=
  encode_append s ['\n']

theorem encode_ne_nil {s : List Char} (h : s ≠ []) : encode s ≠ [] := fun hnil =>
  h (encode_injective hnil)

theorem trim_trim (s : List Char) : trim (trim s) = trim s :=
  trim_of_ends (stripped_trim s).head (stripped_trim s).last

/-- The token without the white space at its ends. -/
def trimmed (token : String) : String :=
  String.ofList (trim token.toList)

end Text

/-! ## Hosts that trim their tokens -/

theorem Square.ofToken_trimmed (token : String) :
    ofToken (Text.trimmed token) = ofToken token := by
  simp only [ofToken, Text.trimmed, String.toList_ofList, Text.trim_trim]

theorem Game.playToken_trimmed (g : Game) (token : String) :
    g.playToken (Text.trimmed token) = g.playToken token := by
  simp only [playToken, Square.ofToken_trimmed]

variable {σ : Type}

namespace Host

theorem supply_lt_of_trimmed (host : Host σ) (w : σ) (squares : List Square) (token : String)
    (h : (host.ask w squares).1.map Text.trimmed = .ok token) :
    host.supply (host.ask w squares).2 < host.supply w := by
  cases hanswer : (host.ask w squares).1 with
  | error e =>
    rw [hanswer] at h
    cases h
  | ok answer => exact host.supply_ask w squares answer hanswer

/-- The same host, but it trims the tokens that it hands out. -/
def trimming (host : Host σ) : Host σ :=
  { host with
    ask := fun w squares => ((host.ask w squares).1.map Text.trimmed, (host.ask w squares).2)
    supply_ask := host.supply_lt_of_trimmed }

end Host

namespace Session

theorem handle_trimming (host : Host σ) (s : Session σ) (token : String) :
    s.handle host.trimming (Text.trimmed token) = s.handle host token := by
  unfold handle
  rw [Game.playToken_trimmed]
  rfl

theorem turn_trimming (host : Host σ) (s : Session σ) :
    s.turn host.trimming = s.turn host := by
  unfold turn
  simp only [Host.trimming]
  generalize host.ask s.world s.game.openSquares = asked
  obtain ⟨answer, world⟩ := asked
  cases answer with
  | error e => rfl
  | ok token => exact handle_trimming host { s with world } token

theorem takeTurns_trimming (host : Host σ) (s : Session σ) :
    s.takeTurns host.trimming = s.takeTurns host := by
  induction s using takeTurns.induct host with
  | case1 s hphase => rw [takeTurns_of_finished _ hphase, takeTurns_of_finished _ hphase]
  | case2 s hphase e next hturn =>
    rw [takeTurns_of_error hphase hturn,
      takeTurns_of_error hphase ((turn_trimming host s).trans hturn)]
  | case3 s hphase phase next hturn ih =>
    rw [takeTurns_of_ok hphase hturn, takeTurns_of_ok hphase ((turn_trimming host s).trans hturn)]
    exact ih

/-- A session can not tell whether its tokens have been trimmed. -/
theorem run_trimming (host : Host σ) (s : Session σ) : s.run host.trimming = s.run host :=
  takeTurns_trimming host _

end Session

namespace Terminal

/-! ## Lines with white space added -/

/-- White space that does not end a line. -/
def Padding (s : List Char) : Prop :=
  Text.White s ∧ '\n' ∉ s

theorem padding_nil : Padding [] :=
  ⟨List.forall_mem_nil _, List.not_mem_nil⟩

theorem padding_singleton {c : Char} (h : c.toNat ∈ Text.whiteSpace) (hc : c ≠ '\n') :
    Padding [c] :=
  ⟨List.forall_mem_singleton.2 h, fun hmem => hc (List.mem_singleton.1 hmem).symm⟩

/-- A line that is text may get white space at either end, before its newline if it has one.
Any line may stay as it is. -/
inductive Padded : List UInt8 → List UInt8 → Prop
  | kept (line : List UInt8) : Padded line line
  | spaced {before body after ending : List Char} (hbefore : Padding before)
      (hbody : '\n' ∉ body) (hafter : Padding after) (hending : ending = [] ∨ ending = ['\n']) :
      Padded (Text.encode (body ++ ending)) (Text.encode (before ++ body ++ after ++ ending))

/-- The lines of the second input are those of the first with white space added. -/
def Respaced (input input' : List UInt8) : Prop :=
  List.Forall₂ Padded (LineReader.lines input) (LineReader.lines input')

theorem lineToken_encode (s : List Char) : lineToken (Text.encode s) = .ok (String.ofList s) := by
  have htext : Text.decode? (Text.encode s) = some (String.ofList s) :=
    Text.decode?_eq_some_iff.2 (by rw [String.toList_ofList])
  simp only [lineToken, htext]

namespace Padded

variable {line line' rest rest' : List UInt8}

/-- A newline is white space too, so trimming removes what was added on both sides of it. -/
theorem trimmed_lineToken (h : Padded line line') :
    (lineToken line).map Text.trimmed = (lineToken line').map Text.trimmed := by
  cases h with
  | kept => rfl
  | @spaced before body after ending hbefore _ hafter hending =>
    have hwhite : Text.White ending := by
      rcases hending with rfl | rfl
      · exact List.forall_mem_nil _
      · exact List.forall_mem_singleton.2 (by decide)
    have htrim : Text.trim (before ++ body ++ after ++ ending) = Text.trim (body ++ ending) := by
      rw [Text.trim_append_right hwhite, Text.trim_append_right hafter.1,
        Text.trim_append_left hbefore.1, Text.trim_append_right hwhite]
    simp only [lineToken_encode, Except.map, Text.trimmed, String.toList_ofList, htrim]

theorem firstLine (h : Padded line line') (hfirst : LineReader.FirstLine line rest)
    (hrest : rest = [] → rest' = []) : LineReader.FirstLine line' rest' := by
  cases h with
  | kept =>
    cases hfirst with
    | ended hbody => exact .ended hbody
    | rest hne hline =>
      rw [hrest rfl]
      exact .rest hne hline
  | @spaced before body after ending hbefore hbody hafter hending =>
    have hnone : '\n' ∉ before ++ body ++ after := by
      simp only [List.mem_append, not_or]
      exact ⟨⟨hbefore.2, hbody⟩, hafter.2⟩
    rcases hending with rfl | rfl
    · -- Without a newline it is the last line, and not an empty one.
      rw [List.append_nil] at hfirst ⊢
      have hline : LineReader.newline ∉ Text.encode body := mt Text.newline_mem_encode.1 hbody
      generalize hbytes : Text.encode body = bytes at hfirst hline
      cases hfirst with
      | ended _ => exact absurd (List.mem_append_right _ (List.mem_singleton_self _)) hline
      | rest hne _ =>
        rw [hrest rfl]
        refine .rest (Text.encode_ne_nil fun hnil => hne ?_) (mt Text.newline_mem_encode.1 hnone)
        have hbody : body = [] :=
          (List.append_eq_nil_iff.1 (List.append_eq_nil_iff.1 hnil).1).2
        rw [← hbytes, hbody, Text.encode_nil]
    · rw [Text.encode_newline]
      exact .ended (mt Text.newline_mem_encode.1 hnone)

end Padded

/-- Padding moves no newline, so the padded lines are the lines of what they make up. -/
theorem lines_flatten {input : List UInt8} {padded : List (List UInt8)}
    (h : List.Forall₂ Padded (LineReader.lines input) padded) :
    LineReader.lines padded.flatten = padded := by
  induction input using LineReader.lines.induct generalizing padded with
  | case1 input hnone =>
    rw [LineReader.lines_of_none hnone, List.forall₂_nil_left_iff] at h
    rw [h]
    exact LineReader.lines_of_none rfl
  | case2 input line rest hsome ih =>
    rw [LineReader.lines_of_some hsome, List.forall₂_cons_left_iff] at h
    obtain ⟨line', padded, hline, hpadded, rfl⟩ := h
    have hrest : rest = [] → padded.flatten = [] := fun hnil => by
      rw [hnil, LineReader.lines_of_none rfl, List.forall₂_nil_left_iff] at hpadded
      rw [hpadded, List.flatten_nil]
    have hfirst := hline.firstLine (LineReader.firstLine_of_nextLine hsome) hrest
    rw [List.flatten_cons, LineReader.lines_of_some hfirst.nextLine, ih hpadded]

theorem respaced_flatten {input : List UInt8} {padded : List (List UInt8)}
    (h : List.Forall₂ Padded (LineReader.lines input) padded) :
    Respaced input padded.flatten := by
  rw [Respaced, lines_flatten h]
  exact h

/-- What the reader finds in two inputs whose lines differ in white space. -/
theorem Respaced.nextLine {input input' : List UInt8} (h : Respaced input input') :
    LineReader.nextLine input = none ∧ LineReader.nextLine input' = none ∨
      ∃ line line' rest rest', LineReader.nextLine input = some (line, rest) ∧
        LineReader.nextLine input' = some (line', rest') ∧ Padded line line' ∧
          Respaced rest rest' := by
  unfold Respaced at h
  cases hline : LineReader.nextLine input with
  | none =>
    rw [LineReader.lines_of_none hline, List.forall₂_nil_left_iff] at h
    cases hline' : LineReader.nextLine input' with
    | none => exact .inl ⟨rfl, rfl⟩
    | some split =>
      rw [LineReader.lines_of_some hline'] at h
      cases h
  | some split =>
    rw [LineReader.lines_of_some hline] at h
    cases hline' : LineReader.nextLine input' with
    | none =>
      rw [LineReader.lines_of_none hline'] at h
      cases h
    | some split' =>
      rw [LineReader.lines_of_some hline', List.forall₂_cons] at h
      exact .inr ⟨_, _, _, _, rfl, rfl, h.1, h.2⟩

/-! ## Terminals with respaced input -/

/-- The terminals differ in the white space of the lines to come. -/
structure RespacedAs (t t' : Terminal) : Prop where
  input : Respaced t.input t'.input
  written : t.written = t'.written
  prompts : t.prompts = t'.prompts
  drawings : t.drawings = t'.drawings

namespace RespacedAs

variable {t t' : Terminal}

theorem writePrompt (h : t.RespacedAs t') (text : List Char) :
    (t.writePrompt text).RespacedAs (t'.writePrompt text) := by
  refine ⟨h.input, ?_, ?_, h.drawings⟩
  · simp only [Terminal.writePrompt, h.written, h.prompts]
  · simp only [Terminal.writePrompt, h.prompts]

theorem writeDrawing (h : t.RespacedAs t') (text : List Char) :
    (t.writeDrawing text).RespacedAs (t'.writeDrawing text) := by
  refine ⟨h.input, ?_, h.prompts, ?_⟩
  · simp only [Terminal.writeDrawing, h.written, h.drawings]
  · simp only [Terminal.writeDrawing, h.drawings]

theorem readLine (h : t.RespacedAs t') :
    t.readLine.1.map Text.trimmed = t'.readLine.1.map Text.trimmed ∧
      t.readLine.2.RespacedAs t'.readLine.2 := by
  unfold Terminal.readLine
  rcases h.input.nextLine with ⟨hnone, hnone'⟩ | ⟨_, _, _, _, hsome, hsome', hline, hrest⟩
  · rw [hnone, hnone']
    exact ⟨rfl, h⟩
  · rw [hsome, hsome']
    exact ⟨hline.trimmed_lineToken, hrest, h.written, h.prompts, h.drawings⟩

theorem question (h : t.RespacedAs t') (text : List Char) :
    (t.question text).1.map Text.trimmed = (t'.question text).1.map Text.trimmed ∧
      (t.question text).2.RespacedAs (t'.question text).2 := by
  unfold Terminal.question
  rw [h.prompts]
  cases t'.prompts.failure? (Text.encode text).length with
  | some failure => exact ⟨rfl, h.writePrompt text⟩
  | none => exact (h.writePrompt text).readLine

theorem ask (h : t.RespacedAs t') (squares : List Square) :
    (t.ask squares).1.map Text.trimmed = (t'.ask squares).1.map Text.trimmed ∧
      (t.ask squares).2.RespacedAs (t'.ask squares).2 := by
  have hswap (answer : Except InputError String) :
      (answer.mapError SessionError.input).map Text.trimmed =
        (answer.map Text.trimmed).mapError SessionError.input := by
    cases answer <;> rfl
  unfold Terminal.ask
  cases Drawing.prompt squares with
  | error f => exact ⟨rfl, h⟩
  | ok text =>
    obtain ⟨hanswer, hasked⟩ := h.question text
    refine ⟨?_, hasked⟩
    rw [hswap, hswap, hanswer]

end RespacedAs

theorem alike_respaced (palette : Palette) :
    (host palette).trimming.Alike (host palette).trimming RespacedAs where
  ask t t' g h := h.ask g.openSquares
  display t t' g h := h.writeDrawing _
  decline t t' g token f h hplay := by
    obtain ⟨text, htext⟩ := Drawing.exists_refusal hplay
    have hdecline (t : Terminal) : t.decline (.flawed f) = .ok (t.writeDrawing text) := by
      simp only [Terminal.decline, htext]
      rfl
    exact ⟨_, _, hdecline t, hdecline t', h.writeDrawing text⟩

/-! ## Whole runs -/

/-- The program with any glyphs and any channels. -/
def playThrough (glyphs : Glyphs) (prompts drawings : Channel) (input : List UInt8) :
    Except Fault (Except SessionError Outcome × Session Terminal) :=
  glyphs.withPalette (Command.playTerminal · (.fresh input prompts drawings))

/-- Two runs that differ in nothing but the white space of what they have not read. -/
structure SpacedAlike (r r' : Except SessionError Outcome × Session Terminal) : Prop where
  result : r.1 = r'.1
  phase : r.2.phase = r'.2.phase
  game : r.2.game = r'.2.game
  written : r.2.world.written = r'.2.world.written
  transcript : r.2.world.transcript = r'.2.world.transcript
  unread : Respaced r.2.world.input r'.2.world.input

theorem spacedAlike_of_respaced {input input' : List UInt8} (h : Respaced input input')
    (palette : Palette) (prompts drawings : Channel) :
    SpacedAlike (Command.playTerminal palette (.fresh input prompts drawings))
      (Command.playTerminal palette (.fresh input' prompts drawings)) := by
  have hstart : (Session.start (Terminal.fresh input prompts drawings)).Together RespacedAs
      (Session.start (Terminal.fresh input' prompts drawings)) :=
    ⟨rfl, rfl, h, rfl, rfl, rfl⟩
  have hrun := hstart.run (alike_respaced palette)
  rw [Session.run_trimming, Session.run_trimming] at hrun
  obtain ⟨hresult, hend⟩ := hrun
  have hwritten := hend.world.written
  refine ⟨hresult, hend.phase, hend.game, hwritten, ?_, hend.world.input⟩
  simp only [Command.playTerminal, transcript, output, hwritten]

/-- The text with a carriage return before every newline. -/
def withReturns (text : List Char) : List Char :=
  text.flatMap fun c => if c = '\n' then ['\r', '\n'] else [c]

theorem withReturns_of_not_mem {body : List Char} (h : '\n' ∉ body) : withReturns body = body := by
  induction body with
  | nil => rfl
  | cons c rest ih =>
    obtain ⟨hc, hrest⟩ := not_or.1 (mt List.mem_cons.2 h)
    rw [withReturns, List.flatMap_cons, if_neg (Ne.symm hc), List.singleton_append]
    exact congrArg (c :: ·) (ih hrest)

theorem withReturns_line {body : List Char} (h : '\n' ∉ body) (rest : List Char) :
    withReturns (body ++ '\n' :: rest) = body ++ ['\r', '\n'] ++ withReturns rest := by
  have hbody := withReturns_of_not_mem h
  unfold withReturns at hbody ⊢
  rw [List.flatMap_append, hbody, List.flatMap_cons, if_pos rfl, List.append_assoc]

theorem padded_withReturns (text : List Char) :
    ∃ padded, List.Forall₂ Padded (LineReader.lines (Text.encode text)) padded ∧
      padded.flatten = Text.encode (withReturns text) := by
  induction hlength : text.length using Nat.strong_induction_on generalizing text with
  | _ n ih =>
    by_cases hmem : '\n' ∈ text
    · obtain ⟨body, rest, rfl, hbody⟩ := List.eq_append_cons_of_mem hmem
      obtain ⟨padded, hpadded, hflatten⟩ := ih rest.length (by simp at hlength; omega) rest rfl
      have hlines : LineReader.lines (Text.encode (body ++ '\n' :: rest)) =
          Text.encode (body ++ ['\n']) :: LineReader.lines (Text.encode rest) := by
        rw [Text.encode_newline, Text.encode_append]
        exact LineReader.lines_of_some
          (LineReader.nextLine_append (mt Text.newline_mem_encode.1 hbody) _)
      have hreturn : Padding ['\r'] := padding_singleton (by decide) (by decide)
      refine ⟨Text.encode ([] ++ body ++ ['\r'] ++ ['\n']) :: padded, ?_, ?_⟩
      · rw [hlines]
        exact .cons (.spaced padding_nil hbody hreturn (.inr rfl)) hpadded
      · rw [List.flatten_cons, hflatten, ← Text.encode_append, withReturns_line hbody,
          List.nil_append, List.append_assoc body]
        rfl
    · rw [withReturns_of_not_mem hmem]
      exact ⟨_, List.forall₂_same.2 fun line _ => .kept line, LineReader.flatten_lines _⟩

/-- For any glyphs, on channels that get everything through and on any others, white space
at the ends of lines makes no difference to a run: not to its result, the phase or the
game, and not to anything that it writes.  Ending all lines with a carriage return and a
newline is the same as ending them with a newline. -/
theorem spacing_never_matters (glyphs : Glyphs) (prompts drawings : Channel) :
    (∀ input padded, List.Forall₂ Padded (LineReader.lines input) padded →
      Fault.Alike SpacedAlike (playThrough glyphs prompts drawings input)
        (playThrough glyphs prompts drawings padded.flatten)) ∧
    ∀ text, Fault.Alike SpacedAlike (playThrough glyphs prompts drawings (Text.encode text))
      (playThrough glyphs prompts drawings (Text.encode (withReturns text))) := by
  have hpadded : ∀ input padded, List.Forall₂ Padded (LineReader.lines input) padded →
      Fault.Alike SpacedAlike (playThrough glyphs prompts drawings input)
        (playThrough glyphs prompts drawings padded.flatten) := fun input padded h =>
    Glyphs.alike_withPalette
      (fun palette => spacedAlike_of_respaced (respaced_flatten h) palette prompts drawings) glyphs
  refine ⟨hpadded, fun text => ?_⟩
  obtain ⟨padded, h, hflatten⟩ := padded_withReturns text
  rw [← hflatten]
  exact hpadded _ padded h

/-- The lines of `b2` and `zz` with an ideographic space before the first, a carriage return
before its newline and a line separator after the second, which has no newline. -/
def spacedLines : List (List UInt8) :=
  [Text.encode "\u3000b2\x0d\n".toList, Text.encode "zz\u2028".toList]

theorem spacedLines_never_matter :
    List.Forall₂ Padded (LineReader.lines (Text.encode "b2\nzz".toList)) spacedLines ∧
      Fault.Alike SpacedAlike
        (playThrough .standard .reliable .reliable (Text.encode "b2\nzz".toList))
        (playThrough .standard .reliable .reliable spacedLines.flatten) := by
  have hlines : LineReader.lines (Text.encode "b2\nzz".toList) =
      [Text.encode "b2\n".toList, Text.encode "zz".toList] := by decide +kernel
  have hfirst : Padded (Text.encode "b2\n".toList) (Text.encode "\u3000b2\x0d\n".toList) :=
    @Padded.spaced ['\u3000'] ['b', '2'] ['\x0d'] ['\n'] (padding_singleton (by decide) (by decide))
      (by decide) (padding_singleton (by decide) (by decide)) (.inr rfl)
  have hlast : Padded (Text.encode "zz".toList) (Text.encode "zz\u2028".toList) :=
    @Padded.spaced [] ['z', 'z'] ['\u2028'] [] padding_nil (by decide)
      (padding_singleton (by decide) (by decide)) (.inl rfl)
  have h : List.Forall₂ Padded (LineReader.lines (Text.encode "b2\nzz".toList)) spacedLines := by
    rw [hlines]
    exact .cons hfirst (.cons hlast .nil)
  exact ⟨h, (spacing_never_matters .standard .reliable .reliable).1 _ _ h⟩

end Terminal
end Noughts
