import Noughts.Proofs.Terminal.Palettes
import Noughts.Proofs.Terminal.Prompts

/-!
A prompt that fails stops the game.

Here are the two ways for prompts to fail: they have room for so many bytes and no
more, or they are never flushed.  With limited room a run is stopped at the first
prompt that does not fit (`Terminal.Limits`), and without flushing at the first of all
(`Terminal.StopsUnflushed`).  In either case no line is read for the prompt that
fails, the tokens before it have been played, and the game awaits a move.

This is so for any glyphs that make a palette.  With wider ones a game ends before its
first prompt, so there is none that could fail (`Terminal.prompt_failure_stops`).
-/

namespace Noughts
namespace Terminal

/-- The number of leading prompts that take up no more than `room` bytes together. -/
structure Leading (prompts : List (List UInt8)) (room k : Nat) : Prop where
  le_length : k ≤ prompts.length
  fits : (prompts.take k).flatten.length ≤ room
  most : k < prompts.length → room < (prompts.take (k + 1)).flatten.length

theorem leading_length {prompts : List (List UInt8)} {room : Nat}
    (h : prompts.flatten.length ≤ room) : Leading prompts room prompts.length where
  le_length := Nat.le_refl _
  fits := by rwa [List.take_length]
  most := fun hlt => absurd hlt (Nat.lt_irrefl _)

theorem leading_append {before after : List (List UInt8)} {p : List UInt8} {room : Nat}
    (hfits : before.flatten.length ≤ room) (hmost : room < before.flatten.length + p.length) :
    Leading (before ++ p :: after) room before.length where
  le_length := by
    rw [List.length_append]
    omega
  fits := by rwa [List.take_left]
  most := by
    intro _
    have htake : (before ++ p :: after).take (before.length + 1) = before ++ [p] := by
      rw [List.append_cons]
      exact List.take_left' List.length_append
    rw [htake, List.flatten_append, List.length_append, List.flatten_singleton]
    exact hmost

/-- Two runs that come to the same and write the same. -/
structure Same (r r' : Except SessionError Outcome × Session Terminal) : Prop where
  result : r'.1 = r.1
  phase : r'.2.phase = r.2.phase
  game : r'.2.game = r.2.game
  input : r'.2.world.input = r.2.world.input
  written : r'.2.world.written = r.2.world.written

/-- The run `full` over an input, cut short at the prompt after the first `k`, of which
no more than `stored` gets through.  The tokens of the first `k` lines are played,
and no byte after those lines is gone. -/
structure CutShort (input : List UInt8) (k : Nat) (stored : List UInt8 → List UInt8)
    (reason : String) (full cut : Except SessionError Outcome × Session Terminal) : Prop where
  result : cut.1 = .error (.input (.failed reason))
  phase : cut.2.phase = .awaitingMove
  game : ∃ tokens, tokens.length = k ∧
    ((LineReader.lines input).take k).map lineToken = tokens.map .ok ∧
    cut.2.game = Game.new.followAll tokens
  input : cut.2.world.input = ((LineReader.lines input).drop k).flatten
  output : ∃ before p after, full.2.world.written = before ++ (.prompt, p) :: after ∧
    (promptsIn before).length = k ∧
    cut.2.world.output = before.flatMap Prod.snd ++ stored p

/-- What room for `n` bytes of prompts makes of the run `full`. -/
def Limits (input : List UInt8) (n : Nat)
    (full cut : Except SessionError Outcome × Session Terminal) : Prop :=
  let prompts := promptsIn full.2.world.written
  ∃ k, Leading prompts n k ∧ (prompts.length ≤ k → Same full cut) ∧
    (k < prompts.length → CutShort input k (List.take (n - (prompts.take k).flatten.length))
      "failed to write whole buffer" full cut)

/-- The game on a terminal with a channel for its prompts. -/
def promptOn (glyphs : Glyphs) (input : List UInt8) (prompts : Channel) :
    Except Fault (Except SessionError Outcome × Session Terminal) :=
  glyphs.withPalette (Command.playTerminal · (.fresh input prompts .reliable))

/-- What should come of prompts that are never flushed: the first of them is written,
and nothing is read. -/
def StopsUnflushed (glyphs : Glyphs) (input : List UInt8) : Prop :=
  ∃ full cut, promptOn glyphs input .reliable = .ok full ∧
    promptOn glyphs input .clogged = .ok cut ∧ CutShort input 0 id "flush failed" full cut

/-- A run from the start through `c` beside the one through a reliable channel.  They
are the turns of `s`, where the new game is shown, and `pieces` is all that they write. -/
structure Starts (input : List UInt8) (c : Channel) (s : Session Terminal)
    (pieces : List (Source × List UInt8))
    (full cut : Except SessionError Outcome × Session Terminal) : Prop where
  game : s.game = .new
  input : s.world.input = input
  prompts : promptsIn s.world.written = []
  written : full.2.world.written = s.world.written ++ pieces
  asks : promptsIn pieces ≠ []
  echoes : s.Echoes c pieces full cut

theorem exists_starts (palette : Palette) (input : List UInt8) (c : Channel) :
    ∃ s pieces, Starts input c s pieces
      (Command.playTerminal palette (.fresh input .reliable .reliable))
      (Command.playTerminal palette (.fresh input c .reliable)) := by
  let shown : Terminal :=
    (Terminal.fresh input .reliable .reliable).writeDrawing (Drawing.screen palette .new)
  have hs : (Session.start shown).Lawful := Session.lawful_start _
  obtain ⟨pieces, hwritten, hasks, hechoes⟩ :=
    Session.takeTurns_echoes palette c hs rfl
  refine ⟨Session.start shown, pieces, rfl, rfl, ?_, hwritten, hasks rfl, hechoes⟩
  show promptsIn ([] ++ [(.drawing, _)]) = []
  rw [List.nil_append, promptsIn_drawing, promptsIn_nil]

namespace Starts

variable {input : List UInt8} {c : Channel} {s : Session Terminal}
  {pieces before after : List (Source × List UInt8)} {p : List UInt8}
  {full cut : Except SessionError Outcome × Session Terminal}

theorem prompts_full (h : Starts input c s pieces full cut) :
    promptsIn full.2.world.written = promptsIn pieces := by
  rw [h.written, promptsIn_append, h.prompts, List.nil_append]

theorem cutShort {f : Channel.Failure} {stored : List UInt8 → List UInt8}
    (h : Starts input c s (before ++ (.prompt, p) :: after) full cut)
    (hsevered : s.Severed c before p cut)
    (hfailure : (c.afterAll (promptsIn before)).failure? p.length = some f)
    (hstored : p.take ((c.afterAll (promptsIn before)).taken p.length) = stored p) :
    CutShort input (promptsIn before).length stored f.message full cut := by
  obtain ⟨f', hf', hresult⟩ := hsevered.failure
  obtain rfl : f = f' := Option.some.inj (hfailure.symm.trans hf')
  obtain ⟨ls, tokens, hlength, htokens, hlines, hgame⟩ := hsevered.lines
  rw [h.input] at hlines
  have hcount : tokens.length = (promptsIn before).length := by
    have hmap := congrArg List.length htokens
    rw [List.length_map, List.length_map] at hmap
    rw [← hmap, hlength]
  refine ⟨hresult, hsevered.phase, ⟨tokens, hcount, ?_, ?_⟩, ?_, ?_⟩
  · rw [hlines, ← hlength, List.take_left, htokens]
  · rw [hgame, h.game]
  · rw [hlines, ← hlength, List.drop_left, LineReader.flatten_lines]
  · refine ⟨s.world.written ++ before, p, after, ?_, ?_, ?_⟩
    · rw [h.written, List.append_assoc]
    · rw [promptsIn_append, h.prompts, List.nil_append]
    · show cut.2.world.written.flatMap Prod.snd = _
      rw [hsevered.written, hstored, List.flatMap_append, List.flatMap_singleton]

theorem limits {n : Nat} (h : Starts input (.limited n) s pieces full cut) :
    Limits input n full cut := by
  unfold Limits
  rw [h.prompts_full]
  rcases h.echoes with ⟨hcarries, hsame⟩ | ⟨before, p, after, rfl, hsevered⟩
  · have hfits := Channel.carries_limited.1 hcarries
    refine ⟨_, leading_length hfits, fun _ => ?_, fun hlt => absurd hlt (Nat.lt_irrefl _)⟩
    rw [hsame]
    exact ⟨rfl, rfl, rfl, rfl, rfl⟩
  · have hfits := Channel.carries_limited.1 hsevered.carries
    have hafter : (Channel.limited n).afterAll (promptsIn before) =
        .limited (n - (promptsIn before).flatten.length) := rfl
    -- The channel fails at `p` because what room is left is too small for it.
    obtain ⟨f, hf, -⟩ := hsevered.failure
    have hroom : n - (promptsIn before).flatten.length < p.length := by
      rw [hafter, Channel.failure?_limited] at hf
      apply Decidable.byContradiction
      intro hle
      rw [if_neg hle] at hf
      cases hf
    rw [promptsIn_append, promptsIn_prompt]
    refine ⟨_, leading_append hfits (by omega), fun hle => ?_, fun _ => ?_⟩
    · rw [List.length_append, List.length_cons] at hle
      omega
    · rw [List.take_left]
      have hfailure : ((Channel.limited n).afterAll (promptsIn before)).failure? p.length =
          some .full := by
        rw [hafter, Channel.failure?_limited, if_pos hroom]
      refine h.cutShort hsevered hfailure ?_
      show p.take (min (n - (promptsIn before).flatten.length) p.length) = _
      rw [Nat.min_eq_left (Nat.le_of_lt hroom)]

theorem cutShort_clogged (h : Starts input .clogged s pieces full cut) :
    CutShort input 0 id "flush failed" full cut := by
  rcases h.echoes with ⟨hcarries, -⟩ | ⟨before, p, after, rfl, hsevered⟩
  · exact absurd (Channel.carries_clogged.1 hcarries) h.asks
  · have hnone := Channel.carries_clogged.1 hsevered.carries
    have hfailure : (Channel.clogged.afterAll (promptsIn before)).failure? p.length =
        some .flush := Channel.failure?_clogged p.length
    have hcut : CutShort input (promptsIn before).length id _ full cut :=
      h.cutShort hsevered hfailure (List.take_length)
    rw [hnone] at hcut
    exact hcut

end Starts

theorem stopsUnflushed_of_narrow {glyphs : Glyphs} (h : glyphs.width < 65536)
    (input : List UInt8) : StopsUnflushed glyphs input := by
  obtain ⟨s, pieces, hstarts⟩ :=
    exists_starts { toGlyphs := glyphs, width_lt := h } input .clogged
  exact ⟨_, _, Glyphs.withPalette_of_narrow h _, Glyphs.withPalette_of_narrow h _,
    hstarts.cutShort_clogged⟩

theorem promptOn_of_wide {glyphs : Glyphs} (h : ¬ glyphs.width < 65536) (input : List UInt8)
    (prompts : Channel) : promptOn glyphs input prompts = .error .tooWide :=
  Glyphs.withPalette_of_wide h _

theorem not_stopsUnflushed_of_wide {glyphs : Glyphs} (h : ¬ glyphs.width < 65536)
    (input : List UInt8) : ¬ StopsUnflushed glyphs input := by
  rintro ⟨full, cut, hfull, -, -⟩
  rw [promptOn_of_wide h] at hfull
  cases hfull

/-- For any glyphs and any input, room for some bytes of prompts cuts the run short at
the first prompt that does not fit, before the next line is read.  Prompts that are
never flushed cut it short at the first prompt exactly if a field of the drawing has
less than 2^16 characters.  With wider glyphs there is no prompt, because drawing the
new game has ended the program. -/
theorem prompt_failure_stops (glyphs : Glyphs) (input : List UInt8) :
    (∀ n, Fault.Alike (Limits input n) (promptOn glyphs input .reliable)
      (promptOn glyphs input (.limited n))) ∧
    (StopsUnflushed glyphs input ↔ glyphs.width < 65536) ∧
    (¬ glyphs.width < 65536 → promptOn glyphs input .clogged = .error .tooWide) := by
  refine ⟨fun n => ?_, ⟨fun hstops => ?_, fun h => ?_⟩, fun h => promptOn_of_wide h input _⟩
  · apply Glyphs.alike_withPalette
    intro palette
    obtain ⟨s, pieces, hstarts⟩ := exists_starts palette input (.limited n)
    exact hstarts.limits
  · exact Decidable.byContradiction fun h => not_stopsUnflushed_of_wide h input hstops
  · exact stopsUnflushed_of_narrow h input

/-- With a cross that is too wide the first prompt never comes. -/
theorem not_stopsUnflushed_wide_cross :
    promptOn wideGlyphs [] .clogged = .error .tooWide ∧ ¬ StopsUnflushed wideGlyphs [] :=
  ⟨promptOn_of_wide not_width_wideGlyphs_lt [] _,
    not_stopsUnflushed_of_wide not_width_wideGlyphs_lt []⟩

end Terminal
end Noughts
