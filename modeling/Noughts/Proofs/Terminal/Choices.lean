import Noughts.Proofs.Results
import Noughts.Proofs.Square.Readback
import Noughts.Proofs.Terminal.Transcript

/-!
What a question offers can be read off it.

A question lists its squares between brackets, with a comma and a space between them.  The
coordinates of a square off the board have the same comma and space inside, so the list
can not simply be split.  But the text of a square shows where it ends, and what follows
is the separator or the closing bracket, so no two lists of squares make the same question
(`Drawing.prefixFree_offer`).

The names of squares of the board have no comma in them.  Splitting what stands between
the brackets and reading each item as a token gives the squares back exactly if all of
them are on the board (`Drawing.rereads_iff`).

All of this takes that every square of the list has a text.  With one that has none there
is no question (`Drawing.prompt_eq_iff_and_rereads_iff`).
-/

namespace Noughts
namespace Text

/-- The pieces of a text between the places where a comma and a space stand. -/
def items : List Char → List (List Char)
  | ',' :: ' ' :: rest => [] :: items rest
  | c :: rest => (items rest).modifyHead (c :: ·)
  | [] => [[]]

/-- What stands behind the first opening bracket and before the closing bracket that comes
next. -/
def bracketed (text : List Char) : List Char :=
  (text.dropWhile (· ≠ '[')).tail.takeWhile (· ≠ ']')

/-- The items between the brackets.  Nothing between the brackets is no item. -/
def listed (text : List Char) : List (List Char) :=
  if bracketed text = [] then [] else items (bracketed text)

variable {text : List Char} {texts : List (List Char)}

theorem items_cons {c : Char} (h : c ≠ ',') (rest : List Char) :
    items (c :: rest) = (items rest).modifyHead (c :: ·) := by
  rw [items]
  rintro _ rfl -
  exact h rfl

theorem items_of_not_mem (h : ',' ∉ text) : items text = [text] := by
  induction text with
  | nil => rfl
  | cons c text ih =>
    rw [items_cons (List.ne_of_not_mem_cons h).symm, ih (List.not_mem_of_not_mem_cons h)]
    rfl

theorem items_append (h : ',' ∉ text) (rest : List Char) :
    items (text ++ ([',', ' '] ++ rest)) = text :: items rest := by
  induction text with
  | nil => rfl
  | cons c text ih =>
    rw [List.cons_append, items_cons (List.ne_of_not_mem_cons h).symm,
      ih (List.not_mem_of_not_mem_cons h)]
    rfl

/-- Splitting undoes joining, if the separator can not be mistaken. -/
theorem items_intercalate (h : ∀ text ∈ texts, ',' ∉ text) (hne : texts ≠ []) :
    items ([',', ' '].intercalate texts) = texts := by
  induction texts with
  | nil => exact absurd rfl hne
  | cons text texts ih =>
    obtain ⟨htext, htexts⟩ := List.forall_mem_cons.1 h
    cases texts with
    | nil => rw [List.intercalate_singleton, items_of_not_mem htext]
    | cons next texts =>
      rw [List.intercalate_cons_cons, List.append_assoc, items_append htext,
        ih htexts (List.cons_ne_nil _ _)]

end Text

namespace Square

variable {s : Square}

theorem comma_not_mem_spelling (h : s.OnBoard) : ',' ∉ s.spelling := by
  have hnames : ∀ c r, ',' ∉ [columnLetter c, rowDigit r] := by decide
  rw [spelling_of_onBoard h]
  exact hnames _ _

theorem bracket_not_mem_spelling (s : Square) : ']' ∉ s.spelling := by
  have hnames : ∀ c r, ']' ∉ [columnLetter c, rowDigit r] := by decide
  have hdigits (n : Nat) : ']' ∉ Nat.toDigits 10 n := fun hmem =>
    have ⟨k, hk⟩ := Text.exists_digitChar_of_mem hmem
    Nat.digitChar_ne ']' rfl hk.symm
  by_cases hs : s.OnBoard
  · rw [spelling_of_onBoard hs]
    exact hnames _ _
  · rw [spelling_of_not_onBoard hs]
    simp [coordinates, hdigits]

end Square

namespace Drawing

variable {squares others : List Square}

/-! ## Questions that are told apart -/

theorem prefixFree_offer : Text.PrefixFree offer := by
  have hclose (s : Square) (u v : List Char) : s.spelling ++ u ≠ "]: ".toList ++ v :=
    Square.spelling_append_ne (by decide) s u _
  have hseparator (u v : List Char) : [',', ' '] ++ u ≠ "]: ".toList ++ v := fun h =>
    absurd (List.cons.inj h).1 (by decide)
  have hoffer : offer = fun squares => "select location [".toList ++
      ([',', ' '].intercalate (squares.map Square.spelling) ++ "]: ".toList) :=
    funext fun _ => List.append_assoc _ _ _
  rw [hoffer]
  exact (Square.prefixFree_spelling.listed hclose hseparator).append_left _

/-- Questions that can not be asked end in the same fault. -/
theorem prompt_eq_iff : prompt squares = prompt others ↔
    squares = others ∨ (¬ ∀ s ∈ squares, s.Spellable) ∧ ¬ ∀ s ∈ others, s.Spellable :=
  eq_iff_of_injective prefixFree_offer.injective prompt_of_spellable prompt_of_not_spellable

theorem exists_prompt_iff : (∃ text, prompt squares = .ok text) ↔ ∀ s ∈ squares, s.Spellable := by
  refine ⟨fun ⟨text, htext⟩ => Decidable.byContradiction fun h => ?_, exists_prompt⟩
  rw [prompt_of_not_spellable h] at htext
  cases htext

/-! ## Questions that are read -/

/-- The question is asked, and its items are read as the squares, in order and as often as
they were given. -/
def Rereads (squares : List Square) : Prop :=
  ∃ text, prompt squares = .ok text ∧
    ((Text.listed text).map String.ofList).map Square.ofToken = squares.map .ok

theorem bracketed_offer (squares : List Square) :
    Text.bracketed (offer squares) = [',', ' '].intercalate (squares.map Square.spelling) := by
  have hinner : ∀ c ∈ [',', ' '].intercalate (squares.map Square.spelling),
      decide (c ≠ ']') = true := by
    refine Text.forall_mem_intercalate (by simp) (List.forall_mem_map.2 fun s _ c hc => ?_)
    exact decide_eq_true fun h => s.bracket_not_mem_spelling (h ▸ hc)
  show ([',', ' '].intercalate (squares.map Square.spelling) ++ "]: ".toList).takeWhile _ = _
  rw [List.takeWhile_append_of_pos hinner]
  exact List.append_nil _

theorem listed_offer (h : ∀ s ∈ squares, s.OnBoard) :
    Text.listed (offer squares) = squares.map Square.spelling := by
  rw [Text.listed, bracketed_offer]
  cases squares with
  | nil => rfl
  | cons s rest =>
    rw [if_neg, Text.items_intercalate _ (by simp)]
    · exact List.forall_mem_map.2 fun s hs => Square.comma_not_mem_spelling (h s hs)
    · rw [List.map_cons, Text.intercalate_cons]
      exact List.append_ne_nil_of_left_ne_nil s.spelling_ne_nil _

theorem rereads_iff : Rereads squares ↔ ∀ s ∈ squares, s.OnBoard := by
  constructor
  · rintro ⟨text, -, hread⟩ s hs
    have hmem : .ok s ∈ ((Text.listed text).map String.ofList).map Square.ofToken := by
      rw [hread]
      exact List.mem_map_of_mem hs
    obtain ⟨token, -, htoken⟩ := List.mem_map.1 hmem
    exact Square.onBoard_of_ofToken htoken
  · intro h
    refine ⟨offer squares, prompt_of_spellable fun s hs => (h s hs).spellable, ?_⟩
    rw [listed_offer h]
    exact Square.map_ofToken_spelling h

/-- A question says which squares it offers exactly if all of them have a text, and they can
be read off item by item exactly if all of them are on the board.  A list with any other
square in it ends in a fault instead. -/
theorem prompt_eq_iff_and_rereads_iff (squares : List Square) :
    (∀ others : List Square, prompt squares = prompt others ↔
        squares = others ∨ (¬ ∀ s ∈ squares, s.Spellable) ∧ ¬ ∀ s ∈ others, s.Spellable) ∧
      (Rereads squares ↔ ∀ s ∈ squares, s.OnBoard) ∧
      ((∃ text, prompt squares = .ok text) ↔ ∀ s ∈ squares, s.Spellable) ∧
      ((¬ ∀ s ∈ squares, s.Spellable) → prompt squares = .error .overflow) :=
  ⟨fun _ => prompt_eq_iff, rereads_iff, exists_prompt_iff, prompt_of_not_spellable⟩

/-- The coordinates of a square off the board are split. -/
example : Text.listed (offer [⟨0, 0⟩, ⟨3, 0⟩]) = [['a', '1'], ['(', '3'], ['0', ')']] := by
  decide +kernel

/-- No question offers a square of the last column that a word can name, so it does not show
in which row the square was. -/
theorem not_prompt_injective_last_column :
    ([⟨0, 18446744073709551615⟩] : List Square) ≠ [⟨1, 18446744073709551615⟩] ∧
      prompt [⟨0, 18446744073709551615⟩] = prompt [⟨1, 18446744073709551615⟩] ∧
        ∀ text, prompt [⟨0, 18446744073709551615⟩] ≠ .ok text := by
  have hfirst : ¬ ∀ s ∈ ([⟨0, 18446744073709551615⟩] : List Square), s.Spellable := by decide
  have hsecond : ¬ ∀ s ∈ ([⟨1, 18446744073709551615⟩] : List Square), s.Spellable := by decide
  exact ⟨by decide, prompt_eq_iff.2 (.inr ⟨hfirst, hsecond⟩), fun text htext =>
    hfirst (exists_prompt_iff.1 ⟨text, htext⟩)⟩

end Drawing
end Noughts
