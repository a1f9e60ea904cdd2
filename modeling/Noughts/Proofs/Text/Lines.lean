import Mathlib.Data.List.Chain
import Noughts.Proofs.Text.Numerals
import Noughts.Text.Quoted

/-!
The lines of a text.

What is written piece by piece need not begin a piece with a new line, so the lines
of the whole are not those of the pieces.  `LinesBegin` holds of a text if every
character that follows a newline, or stands first, is one of those with which a line
may begin.  In this form it passes from the pieces to the whole
(`linesBegin_flatten`), and it says what it should of the lines
(`LinesBegin.head_of_mem_lines`).  Lines are joined by newlines, which is one way of
putting texts together with a separator (`intercalate_cons`).

Text that is put together from pieces of one length is taken apart by counting
(`drop_flatMap_of_length`).

A text without control characters breaks no line (`Tame`).  Such are all numerals, and
whatever stands in quotes (`tame_quote`).
-/

namespace Noughts
namespace Text

/-! ## Texts with a separator between them -/

section Separated

variable {α : Type} {sep : List α} {texts : List (List α)}

/-- Each text but the first follows a separator. -/
theorem intercalate_cons (sep text : List α) (texts : List (List α)) :
    sep.intercalate (text :: texts) = text ++ texts.flatMap (sep ++ ·) := by
  induction texts generalizing text with
  | nil => simp
  | cons next texts ih =>
    rw [List.intercalate_cons_cons, ih, List.flatMap_cons, List.append_assoc, List.append_assoc]

theorem append_intercalate (h : texts ≠ []) :
    sep ++ sep.intercalate texts = texts.flatMap (sep ++ ·) := by
  cases texts with
  | nil => exact absurd rfl h
  | cons text texts => rw [intercalate_cons, List.flatMap_cons, List.append_assoc]

theorem forall_mem_intercalate {p : α → Prop} (hsep : ∀ a ∈ sep, p a)
    (h : ∀ text ∈ texts, ∀ a ∈ text, p a) : ∀ a ∈ sep.intercalate texts, p a := by
  cases texts with
  | nil => exact List.forall_mem_nil p
  | cons text texts =>
    obtain ⟨htext, htexts⟩ := List.forall_mem_cons.1 h
    rw [intercalate_cons, List.forall_mem_append, List.forall_mem_flatMap]
    exact ⟨htext, fun next hnext => List.forall_mem_append.2 ⟨hsep, htexts next hnext⟩⟩

end Separated

/-! ## Lines -/

/-- The text between the newlines. -/
def lines (text : List Char) : List (List Char) :=
  text.splitOn '\n'

def LinesBegin (p : Char → Prop) (text : List Char) : Prop :=
  ('\n' :: text).IsChain fun a b => a = '\n' → b ≠ '\n' → p b

variable {p : Char → Prop}

theorem linesBegin_nil : LinesBegin p [] :=
  .singleton '\n'

theorem LinesBegin.append {a b : List Char} (ha : LinesBegin p a) (hb : LinesBegin p b) :
    LinesBegin p (a ++ b) := by
  show ('\n' :: a ++ b).IsChain _
  refine List.isChain_append.2 ⟨ha, List.IsChain.tail hb, ?_⟩
  -- The second piece begins as a line does, so it does not matter what it follows.
  intro _ _ c hc _
  obtain ⟨rest, rfl⟩ := List.head?_eq_some_iff.1 hc
  exact (List.isChain_cons_cons.1 hb).1 rfl

theorem linesBegin_flatten {texts : List (List Char)} (h : ∀ text ∈ texts, LinesBegin p text) :
    LinesBegin p texts.flatten := by
  induction texts with
  | nil => exact linesBegin_nil
  | cons text rest ih =>
    obtain ⟨htext, hrest⟩ := List.forall_mem_cons.1 h
    exact htext.append (ih hrest)

theorem linesBegin_newline : LinesBegin p ['\n'] := by
  simp [LinesBegin]

/-- A piece without newlines. -/
theorem linesBegin_cons {c : Char} {rest : List Char} (hc : p c) (h : '\n' ∉ c :: rest) :
    LinesBegin p (c :: rest) := by
  have hchain : (c :: rest).IsChain fun a b => a = '\n' → b ≠ '\n' → p b := by
    rw [List.isChain_iff_getElem]
    intro i hi hnewline
    exact absurd (hnewline ▸ List.getElem_mem _) h
  exact .cons_cons (fun _ _ => hc) hchain

theorem linesBegin_intercalate {texts : List (List Char)}
    (h : ∀ text ∈ texts, LinesBegin p text) : LinesBegin p (['\n'].intercalate texts) := by
  cases texts with
  | nil => exact linesBegin_nil
  | cons text rest =>
    obtain ⟨htext, hrest⟩ := List.forall_mem_cons.1 h
    rw [intercalate_cons, List.flatMap_def]
    refine htext.append (linesBegin_flatten (List.forall_mem_map.2 fun next hnext => ?_))
    exact linesBegin_newline.append (hrest next hnext)

theorem cons_infix_of_mem {texts : List (List Char)} {line : List Char} (h : line ∈ texts) :
    '\n' :: line <:+: '\n' :: ['\n'].intercalate texts := by
  show ['\n'] ++ line <:+: ['\n'] ++ ['\n'].intercalate texts
  rw [append_intercalate (List.ne_nil_of_mem h), List.flatMap_def]
  exact List.infix_of_mem_flatten (List.mem_map_of_mem h)

theorem LinesBegin.head_of_mem_lines {text rest : List Char} {c : Char} (h : LinesBegin p text)
    (hline : c :: rest ∈ lines text) (hc : c ≠ '\n') : p c := by
  have hinfix := cons_infix_of_mem hline
  rw [lines, List.intercalate_splitOn] at hinfix
  have hchain : ('\n' :: c :: rest).IsChain _ := List.IsChain.infix h hinfix
  exact (List.isChain_cons_cons.1 hchain).1 rfl hc

theorem intercalate_append_newline {texts : List (List Char)} (h : texts ≠ []) :
    ['\n'].intercalate texts ++ ['\n'] = texts.flatMap (· ++ ['\n']) := by
  induction texts with
  | nil => exact absurd rfl h
  | cons text rest ih =>
    cases rest with
    | nil => simp
    | cons next rest =>
      rw [List.intercalate_cons_cons, List.append_assoc, ih (List.cons_ne_nil _ _)]
      rfl

theorem lines_intercalate {texts : List (List Char)} (h : ∀ text ∈ texts, '\n' ∉ text)
    (hne : texts ≠ []) : lines (['\n'].intercalate texts) = texts :=
  List.splitOn_intercalate '\n' h hne

/-! ## Pieces of one length -/

section Pieces

variable {α : Type} {f : α → List Char} {l : List α} {n : Nat} (h : ∀ a ∈ l, (f a).length = n)
include h

theorem length_flatMap_of_length : (l.flatMap f).length = l.length * n := by
  induction l with
  | nil => simp
  | cons a l ih =>
    obtain ⟨ha, hl⟩ := List.forall_mem_cons.1 h
    rw [List.flatMap_cons, List.length_append, ha, ih hl, List.length_cons, Nat.succ_mul,
      Nat.add_comm]

theorem drop_flatMap_of_length (k : Nat) : (l.flatMap f).drop (k * n) = (l.drop k).flatMap f := by
  induction l generalizing k with
  | nil => simp
  | cons a l ih =>
    obtain ⟨ha, hl⟩ := List.forall_mem_cons.1 h
    cases k with
    | zero => simp
    | succ k =>
      rw [Nat.succ_mul, Nat.add_comm, ← List.drop_drop, List.flatMap_cons, List.drop_left' ha, ih hl,
        List.drop_succ_cons]

end Pieces

/-! ## Texts that break no line -/

/-- There is no control character in the text. -/
def Tame (text : List Char) : Prop :=
  ∀ c ∈ text, isControl c = false

instance (text : List Char) : Decidable (Tame text) :=
  List.decidableBAll _ text

theorem tame_append {s t : List Char} : Tame (s ++ t) ↔ Tame s ∧ Tame t :=
  List.forall_mem_append

theorem tame_cons {c : Char} {s : List Char} : Tame (c :: s) ↔ isControl c = false ∧ Tame s :=
  List.forall_mem_cons

theorem tame_flatMap {α : Type} {f : α → List Char} {l : List α} (h : ∀ a ∈ l, Tame (f a)) :
    Tame (l.flatMap f) := by
  intro c hc
  obtain ⟨a, ha, hmem⟩ := List.mem_flatMap.1 hc
  exact h a ha c hmem

theorem tame_intercalate {sep : List Char} (hsep : Tame sep) {texts : List (List Char)}
    (h : ∀ text ∈ texts, Tame text) : Tame (sep.intercalate texts) :=
  forall_mem_intercalate hsep h

theorem Tame.newline_not_mem {s : List Char} (h : Tame s) : '\n' ∉ s :=
  fun hmem => Bool.noConfusion (h '\n' hmem)

theorem isControl_digitChar (n : Nat) : isControl (Nat.digitChar n) = false := by
  by_cases h : n < 16
  · have hdigits : ∀ n < 16, isControl (Nat.digitChar n) = false := by decide
    exact hdigits n h
  · rw [Nat.digitChar_eq_star.2 (Nat.le_of_not_lt h)]
    rfl

theorem tame_toDigits (base n : Nat) : Tame (Nat.toDigits base n) := by
  intro c hc
  obtain ⟨k, rfl⟩ := exists_digitChar_of_mem hc
  exact isControl_digitChar k

theorem tame_escape (c : Char) : Tame (escape c) := by
  unfold escape
  split_ifs with _ _ _ _ _ _ hhidden
  · decide
  · decide
  · decide
  · decide
  · decide
  · decide
  · exact tame_append.2 ⟨tame_append.2 ⟨by decide, tame_toDigits _ _⟩, by decide⟩
  · refine tame_cons.2 ⟨?_, nofun⟩
    rw [← Bool.not_eq_true]
    exact fun hcontrol => hhidden (isHidden_of_isControl hcontrol)

theorem tame_quote (s : List Char) : Tame (quote s) :=
  tame_append.2 ⟨tame_cons.2 ⟨rfl, tame_flatMap fun c _ => tame_escape c⟩, by decide⟩

end Text
end Noughts
