import Noughts.Proofs.Results
import Noughts.Proofs.Square.Spelling
import Noughts.Proofs.Text.Codes

/-!
What a text of a square says.

A name begins with a letter and a pair of coordinates with a parenthesis.  A name has two
characters, and the numerals of a pair are ended by a comma and by a parenthesis.  So a
text tells the square from any other, wherever it stands (`Square.prefixFree_spelling`).

The text of a square is a token, and it is read as the square if the square is on the
board.  A pair of coordinates is read as no square and comes back as it is
(`Square.ReadBack`).  All of this takes that the square has a text
(`Square.text_eq_iff_and_readBack_iff`).
-/

namespace Noughts
namespace Square

/-- Reading the text of a square gives the square exactly if it is on the board, and these
are the squares that have a name.  Any other text is refused, and the refusal carries it
unchanged. -/
def ReadBack (s : Square) : Prop :=
  ∃ text name, s.text = .ok text ∧ s.name = .ok name ∧
    (ofToken text = .ok s ↔ s.OnBoard) ∧ (s.OnBoard ↔ name.isSome = true) ∧
      (¬ s.OnBoard → ofToken text = .error ⟨text⟩)

variable {s t : Square}

/-! ## Texts that are told apart -/

theorem prefixFree_coordinates : Text.PrefixFree coordinates := by
  intro s t u v h
  have hopen (s : Square) (u : List Char) : s.coordinates ++ u =
      '(' :: (Nat.toDigits 10 s.row ++ ',' :: ' ' :: (Nat.toDigits 10 s.col ++ ')' :: u)) := by
    simp [coordinates]
  have hcomma (k : Nat) : ',' ≠ Nat.digitChar k := (Nat.digitChar_ne ',' rfl).symm
  have hclose (k : Nat) : ')' ≠ Nat.digitChar k := (Nat.digitChar_ne ')' rfl).symm
  rw [hopen, hopen] at h
  obtain ⟨hrow, h⟩ := Text.toDigits_append_inj (by decide) (by decide) hcomma (List.cons.inj h).2
  obtain ⟨hcol, h⟩ := Text.toDigits_append_inj (by decide) (by decide) hclose (List.cons.inj h).2
  refine ⟨?_, h⟩
  cases s
  cases t
  cases hrow
  cases hcol
  rfl

theorem columnLetter_injective : Function.Injective columnLetter := by
  intro c d
  revert c d
  decide

theorem rowDigit_injective : Function.Injective rowDigit := by
  intro r q
  revert r q
  decide

theorem columnLetter_ne_parenthesis (c : Fin 3) : columnLetter c ≠ '(' := by
  revert c
  decide

/-- A name begins with its letter and a pair of coordinates with a parenthesis. -/
theorem exists_spelling_cons (s : Square) :
    ∃ c rest, s.spelling = c :: rest ∧ c ∈ ['a', 'b', 'c', '('] := by
  have hletters : ∀ c, columnLetter c ∈ ['a', 'b', 'c', '('] := by decide
  by_cases hs : s.OnBoard
  · exact ⟨_, _, spelling_of_onBoard hs, hletters _⟩
  · exact ⟨_, _, spelling_of_not_onBoard hs, by decide⟩

theorem spelling_ne_nil (s : Square) : s.spelling ≠ [] := by
  obtain ⟨c, rest, hspelling, -⟩ := s.exists_spelling_cons
  rw [hspelling]
  exact List.cons_ne_nil c rest

/-- A text that begins with another character does not begin with a square. -/
theorem spelling_append_ne {c : Char} (h : c ∉ ['a', 'b', 'c', '(']) (s : Square)
    (u v : List Char) : s.spelling ++ u ≠ c :: v := by
  obtain ⟨d, rest, hspelling, hd⟩ := s.exists_spelling_cons
  rw [hspelling]
  intro heq
  exact h ((List.cons.inj heq).1 ▸ hd)

theorem prefixFree_spelling : Text.PrefixFree spelling := by
  intro s t u v h
  by_cases hs : s.OnBoard <;> by_cases ht : t.OnBoard
  · rw [spelling_of_onBoard hs, spelling_of_onBoard ht] at h
    obtain ⟨hletter, h⟩ := List.cons.inj h
    obtain ⟨hdigit, h⟩ := List.cons.inj h
    refine ⟨?_, h⟩
    cases s
    cases t
    cases congrArg Fin.val (columnLetter_injective hletter)
    cases congrArg Fin.val (rowDigit_injective hdigit)
    rfl
  · rw [spelling_of_onBoard hs, spelling_of_not_onBoard ht] at h
    exact absurd (List.cons.inj h).1 (columnLetter_ne_parenthesis _)
  · rw [spelling_of_not_onBoard hs, spelling_of_onBoard ht] at h
    exact absurd (List.cons.inj h).1.symm (columnLetter_ne_parenthesis _)
  · rw [spelling_of_not_onBoard hs, spelling_of_not_onBoard ht] at h
    exact prefixFree_coordinates _ _ _ _ h

theorem spelling_injective : Function.Injective spelling :=
  prefixFree_spelling.injective

/-- Squares without a text have the same fault instead of one. -/
theorem text_eq_iff : s.text = t.text ↔ s = t ∨ ¬ s.Spellable ∧ ¬ t.Spellable := by
  have hinjective : Function.Injective fun s : Square => String.ofList s.spelling :=
    fun s t h => spelling_injective (String.ofList_inj.1 h)
  exact eq_iff_of_injective hinjective text_eq_spelling text_of_not_spellable

/-! ## Texts that are read -/

theorem ofToken_coordinates (s : Square) :
    ofToken (String.ofList s.coordinates) = .error ⟨String.ofList s.coordinates⟩ := by
  have htrim : Text.trim s.coordinates = s.coordinates :=
    Text.trim_eq_self (c := '(') (d := ')') (by decide) (by decide) rfl List.getLast?_concat
  have hname : ofName? s.coordinates = none := rfl
  simp only [ofToken, String.toList_ofList, htrim, hname]

theorem readBack_of_spellable (h : s.Spellable) : s.ReadBack := by
  by_cases hs : s.OnBoard
  · have htext := text_eq_spelling h
    exact ⟨_, _, htext, name_of_onBoard hs, by simp [ofToken_of_text hs htext, hs], by simp [hs],
      fun hoff => absurd hs hoff⟩
  · have htext := text_eq_spelling h
    rw [spelling_of_not_onBoard hs] at htext
    exact ⟨_, _, htext, name_of_not_onBoard h hs, by simp [ofToken_coordinates, hs], by simp [hs],
      fun _ => s.ofToken_coordinates⟩

theorem not_readBack_of_not_spellable (h : ¬ s.Spellable) : ¬ s.ReadBack := by
  rintro ⟨text, name, htext, -⟩
  rw [text_of_not_spellable h] at htext
  cases htext

/-- A square is read back from its text as it should be exactly if it has a text, and then
no other square has the same one.  A square without a text ends in a fault instead. -/
theorem text_eq_iff_and_readBack_iff (s : Square) :
    (∀ t : Square, s.text = t.text ↔ s = t ∨ ¬ s.Spellable ∧ ¬ t.Spellable) ∧
      (s.ReadBack ↔ s.Spellable) ∧ (¬ s.Spellable → s.text = .error .overflow) := by
  refine ⟨fun t => text_eq_iff, ⟨fun h => ?_, readBack_of_spellable⟩, text_of_not_spellable⟩
  exact Decidable.byContradiction fun hs => not_readBack_of_not_spellable hs h

/-- Neither the last square of the first column nor that of the second has a text. -/
theorem not_readBack_last_row :
    (⟨18446744073709551615, 0⟩ : Square).text = (⟨18446744073709551615, 1⟩ : Square).text ∧
      ¬ ReadBack ⟨18446744073709551615, 0⟩ :=
  ⟨text_eq_iff.2 (.inr (by decide)), not_readBack_of_not_spellable (by decide)⟩

end Square
end Noughts
