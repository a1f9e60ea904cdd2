import Noughts.Proofs.Square.Readback
import Noughts.Proofs.Terminal.Wording

/-!
Refusals are one line each, and no two are the same.

A refusal repeats what a player typed, and this can be any text.  It stands in quotes, so
it has no control character and breaks no line (`Drawing.tame_of_refusal`), and the quotes
say exactly what it was.  A quotation does not begin as the text of a square does, and
what follows a square tells why it was refused, so a refusal can be recovered from its
line (`Refusal.wording_injective`).

A refusal that is about a square without a text has no line at all
(`Drawing.oneLine_iff_and_refusal_eq_iff`).
-/

namespace Noughts

/-- The flaw is about no square, or about one that has a text. -/
def Flaw.Spellable : Flaw → Prop
  | .unreadable _ => True
  | .offBoard s => s.Spellable
  | .occupied s => s.Spellable

def Refusal.Spellable : Refusal → Prop
  | .flawed f => f.Spellable
  | .gameOver => True

instance : DecidablePred Flaw.Spellable
  | .unreadable _ => inferInstanceAs (Decidable True)
  | .offBoard s => inferInstanceAs (Decidable s.Spellable)
  | .occupied s => inferInstanceAs (Decidable s.Spellable)

instance : DecidablePred Refusal.Spellable
  | .flawed f => inferInstanceAs (Decidable f.Spellable)
  | .gameOver => inferInstanceAs (Decidable True)

/-- What is said about a flaw, if anything can be said. -/
def Flaw.wording : Flaw → List Char
  | .unreadable e =>
    Text.quote e.token.toList ++ " is not a board location (expected a1..c3)".toList
  | .offBoard s => s.spelling ++ " is off the board".toList
  | .occupied s => s.spelling ++ " is already taken".toList

def Refusal.wording : Refusal → List Char
  | .flawed f => "Invalid move: ".toList ++ f.wording
  | .gameOver => "Game is already over".toList

/-- No text of a square begins with a quotation mark. -/
theorem Square.quote_append_ne_spelling_append (t : List Char) (s : Square) (u v : List Char) :
    Text.quote t ++ u ≠ s.spelling ++ v :=
  fun h => spelling_append_ne (by decide) s v _ h.symm

theorem Flaw.wording_injective : Function.Injective wording := by
  intro f f' h
  cases f with
  | unreadable e =>
    cases f' with
    | unreadable e' =>
      have htoken := Text.quote_injective (List.append_cancel_right h)
      rw [Flaw.unreadable.injEq, Square.Unreadable.mk.injEq]
      exact String.toList_injective htoken
    | offBoard s => exact absurd h (Square.quote_append_ne_spelling_append _ s _ _)
    | occupied s => exact absurd h (Square.quote_append_ne_spelling_append _ s _ _)
  | offBoard s =>
    cases f' with
    | unreadable e => exact absurd h.symm (Square.quote_append_ne_spelling_append _ s _ _)
    | offBoard t => rw [(Square.prefixFree_spelling s t _ _ h).1]
    | occupied t => exact absurd (Square.prefixFree_spelling s t _ _ h).2 (by decide)
  | occupied s =>
    cases f' with
    | unreadable e => exact absurd h.symm (Square.quote_append_ne_spelling_append _ s _ _)
    | offBoard t => exact absurd (Square.prefixFree_spelling s t _ _ h).2 (by decide)
    | occupied t => rw [(Square.prefixFree_spelling s t _ _ h).1]

theorem Refusal.wording_injective : Function.Injective wording := by
  intro e e' h
  cases e with
  | flawed f =>
    cases e' with
    | flawed f' => rw [Flaw.wording_injective (List.append_cancel_left h)]
    | gameOver => exact absurd (List.cons.inj h).1 (by decide)
  | gameOver =>
    cases e' with
    | flawed f' => exact absurd (List.cons.inj h).1 (by decide)
    | gameOver => rfl

theorem Flaw.report_of_spellable {f : Flaw} (h : f.Spellable) :
    ∃ r, f.report = .ok r ∧ r.message.toList = f.wording := by
  cases f with
  | unreadable e =>
    refine ⟨_, rfl, ?_⟩
    show ("" ++ (Text.quoted e.token ++ _)).toList = _
    rw [String.toList_append, String.toList_append, Text.toList_quoted]
    rfl
  | offBoard s | occupied s =>
    simp only [report, Square.text_eq_spelling h]
    refine ⟨_, rfl, ?_⟩
    show (String.ofList s.spelling ++ _).toList = _
    rw [String.toList_append, String.toList_ofList]
    rfl

theorem Flaw.report_of_not_spellable {f : Flaw} (h : ¬ f.Spellable) :
    f.report = .error .overflow := by
  cases f with
  | unreadable e => exact absurd trivial h
  | offBoard s | occupied s =>
    simp only [report, Square.text_of_not_spellable h]
    rfl

namespace Drawing

variable {e e' : Refusal}

/-- The refusal is shown as one line, without any control character but the newline at
its end. -/
def OneLine (e : Refusal) : Prop :=
  ∃ line, refusal e = .ok (line ++ ['\n']) ∧ Text.Tame line

theorem refusal_of_spellable (h : e.Spellable) :
    refusal e = .ok (e.wording ++ ". Please enter again\n".toList) := by
  cases e with
  | gameOver => rfl
  | flawed f =>
    obtain ⟨r, hr, hmessage⟩ := Flaw.report_of_spellable h
    have hreport : (Refusal.flawed f).report = .ok (.wrap "Invalid move: " r) := by
      simp only [Refusal.report, hr]
      rfl
    have hwording : (Report.wrap "Invalid move: " r).message.toList =
        (Refusal.flawed f).wording := by
      show ("Invalid move: " ++ r.message).toList = _
      rw [String.toList_append, hmessage]
      rfl
    simp only [refusal, hreport]
    rw [← hwording]
    rfl

theorem refusal_of_not_spellable (h : ¬ e.Spellable) : refusal e = .error .overflow := by
  cases e with
  | gameOver => exact absurd trivial h
  | flawed f =>
    simp only [refusal, Refusal.report, Flaw.report_of_not_spellable h]
    rfl

theorem oneLine_iff : OneLine e ↔ e.Spellable := by
  constructor
  · rintro ⟨line, hline, -⟩
    refine Decidable.byContradiction fun h => ?_
    rw [refusal_of_not_spellable h] at hline
    cases hline
  · intro h
    obtain ⟨c, rest, htext, -, htame⟩ := tame_of_refusal (refusal_of_spellable h)
    exact ⟨c :: rest, htext ▸ refusal_of_spellable h, htame⟩

/-- Refusals that can not be shown end in the same fault. -/
theorem refusal_eq_iff :
    refusal e = refusal e' ↔ e = e' ∨ ¬ e.Spellable ∧ ¬ e'.Spellable := by
  have hinjective : Function.Injective fun e : Refusal =>
      e.wording ++ ". Please enter again\n".toList :=
    fun e e' h => Refusal.wording_injective (List.append_cancel_right h)
  exact eq_iff_of_injective hinjective refusal_of_spellable refusal_of_not_spellable

/-- A refusal is one line without control characters exactly if the square that it is about
has a text, and then no other refusal is the same line.  Otherwise it ends in a fault. -/
theorem oneLine_iff_and_refusal_eq_iff (e : Refusal) :
    (OneLine e ↔ e.Spellable) ∧
      (∀ e' : Refusal, refusal e = refusal e' ↔ e = e' ∨ ¬ e.Spellable ∧ ¬ e'.Spellable) ∧
        (¬ e.Spellable → refusal e = .error .overflow) :=
  ⟨oneLine_iff, fun _ => refusal_eq_iff, refusal_of_not_spellable⟩

/-- There is no telling a move in the last column off the board from one that is taken. -/
theorem not_oneLine_last_column :
    ¬ OneLine (.flawed (.offBoard ⟨0, 18446744073709551615⟩)) ∧
      refusal (.flawed (.offBoard ⟨0, 18446744073709551615⟩)) =
        refusal (.flawed (.occupied ⟨0, 18446744073709551615⟩)) := by
  have hs : ¬ (⟨0, 18446744073709551615⟩ : Square).Spellable := by decide
  exact ⟨fun h => hs (oneLine_iff.1 h), refusal_eq_iff.2 (.inr ⟨hs, hs⟩)⟩

end Drawing
end Noughts
