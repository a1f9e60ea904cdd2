import Mathlib.Tactic.IntervalCases
import Noughts.Json.Reader

/-!
Lists of strings as JSON text.

A string is written between quotes, with every character escaped that could not stand
there, and is read back as it was, whatever it holds (`Json.string?_quote`).  So is a
list of strings (`Json.ofText?_text_strings`).

The reader collects code units before it makes characters of them.  A character that is
written is one unit, and no such unit is half of a pair.
-/

namespace Noughts
namespace Json

/-! ## One string -/

theorem units?_cons {c : Char} (hquote : c ≠ '"') (hback : c ≠ '\\') (before : List Nat)
    (s : List Char) :
    units? before (c :: s) = if c < ' ' then none else units? (c.toNat :: before) s := by
  rw [units?.eq_def]
  split <;> simp_all

theorem units?_escape (before : List Nat) (c : Char) (s : List Char) :
    units? before (escape c ++ s) = units? (c.toNat :: before) s := by
  by_cases hcontrol : c.toNat < 0x20
  · -- Controls are written by a letter or by number.
    obtain ⟨n, hn, rfl⟩ : ∃ n < 0x20, c = Char.ofNat n := ⟨_, hcontrol, (Char.ofNat_toNat c).symm⟩
    interval_cases n <;> rfl
  · by_cases hquote : c = '"'
    · subst hquote
      rfl
    · by_cases hback : c = '\\'
      · subst hback
        rfl
      · have hescape : escape c = [c] := by
          have hne : ∀ d : Char, d.toNat < 0x20 → c ≠ d := fun d hd heq => hcontrol (heq ▸ hd)
          have hlow : ¬ c.toNat < 0x10 := by omega
          simp [escape, hquote, hback, hne, hlow, hcontrol]
        have hspace : ¬ c < ' ' := fun hlt => hcontrol hlt
        rw [hescape, List.singleton_append, units?_cons hquote hback, if_neg hspace]

theorem units?_flatMap_escape (before : List Nat) (s rest : List Char) :
    units? before (s.flatMap escape ++ '"' :: rest) =
      some (before.reverse ++ s.map Char.toNat, rest) := by
  induction s generalizing before with
  | nil => simp [units?]
  | cons c s ih =>
    rw [List.flatMap_cons, List.append_assoc, units?_escape, ih]
    simp

/-- Characters are no halves of pairs. -/
theorem pairUp?_map_toNat (before s : List Char) :
    pairUp? before (s.map Char.toNat) = some (before.reverse ++ s) := by
  induction s generalizing before with
  | nil => simp [pairUp?]
  | cons c s ih =>
    have hwhole : c.toNat < 0xd800 ∨ 0xe000 ≤ c.toNat := by
      rcases c.valid with h | h
      · exact .inl h
      · exact .inr h.1
    rw [List.map_cons, pairUp?.eq_def]
    dsimp only
    rw [if_pos hwhole, Char.ofNat_toNat, ih]
    simp

theorem string?_quote (s : String) (rest : List Char) :
    string? (s.toList.flatMap escape ++ '"' :: rest) = some (s, rest) := by
  have hchars : pairUp? [] (s.toList.map Char.toNat) = some s.toList := pairUp?_map_toNat [] _
  simp only [string?, units?_flatMap_escape, List.reverse_nil, List.nil_append]
  show (do return (String.ofList (← pairUp? [] (s.toList.map Char.toNat)), rest)) = _
  rw [hchars]
  show some (String.ofList s.toList, rest) = some (s, rest)
  rw [String.ofList_toList]

theorem value?_quote (bound : Nat) (s : String) (rest : List Char) :
    value? (bound + 1) (quote s ++ rest) = some (.string s, rest) := by
  have hquote : quote s ++ rest = '"' :: (s.toList.flatMap escape ++ '"' :: rest) := by
    simp [quote]
  have hskip : ∀ s, skipBlanks ('"' :: s) = '"' :: s := fun _ => rfl
  rw [hquote]
  simp only [value?, hskip, string?_quote]
  rfl

/-! ## Many strings -/

/-- No token takes more than its place among the parts that can be read. -/
theorem elements?_intercalate (bound : Nat) {tokens : List String} (hne : tokens ≠ [])
    {most : Nat} (hmost : tokens.length ≤ most) (rest : List Char) :
    elements? (value? (bound + 1)) most ([','].intercalate (tokens.map quote) ++ ']' :: rest) =
      some (tokens.map .string, rest) := by
  induction tokens generalizing most with
  | nil => exact absurd rfl hne
  | cons token tokens ih =>
    obtain ⟨most, rfl⟩ : ∃ n, most = n + 1 := Nat.exists_eq_add_one.2 (by simp at hmost; omega)
    have hcomma : ∀ s, skipBlanks (',' :: s) = ',' :: s := fun _ => rfl
    have hclose : ∀ s, skipBlanks (']' :: s) = ']' :: s := fun _ => rfl
    cases tokens with
    | nil =>
      simp only [List.map_cons, List.map_nil, List.intercalate_singleton, elements?, value?_quote]
      rfl
    | cons next tokens =>
      have hmore := ih (List.cons_ne_nil _ _) (Nat.le_of_succ_le_succ hmost)
      rw [List.map_cons, List.map_cons, List.intercalate_cons_cons, ← List.map_cons]
      rw [List.append_assoc, List.append_assoc, List.singleton_append]
      simp only [elements?, value?_quote, Option.bind_eq_bind, Option.bind_some, hcomma, hmore]
      rfl

theorem charsList_map_string (tokens : List String) :
    charsList (tokens.map .string) = tokens.map quote := by
  induction tokens with
  | nil => rfl
  | cons token tokens ih => rw [List.map_cons, charsList, ih, List.map_cons, chars]

theorem length_le_intercalate (tokens : List String) :
    tokens.length ≤ ([','].intercalate (tokens.map quote)).length := by
  induction tokens with
  | nil => exact Nat.zero_le _
  | cons token tokens ih =>
    have hquote : 0 < (quote token).length := Nat.succ_pos _
    cases tokens with
    | nil =>
      simp only [List.map_cons, List.map_nil, List.intercalate_singleton, List.length_singleton]
      omega
    | cons next tokens =>
      rw [List.map_cons, List.map_cons, List.intercalate_cons_cons, ← List.map_cons]
      simp only [List.length_append, List.length_cons] at ih ⊢
      omega

theorem exists_intercalate_quote (token : String) (tokens : List String) :
    ∃ rest, [','].intercalate ((token :: tokens).map quote) = '"' :: rest := by
  cases tokens with
  | nil => exact ⟨_, rfl⟩
  | cons next tokens => exact ⟨_, rfl⟩

theorem value?_strings {bound : Nat} {tokens : List String} (hbound : tokens.length ≤ bound + 1) :
    value? (bound + 2) ('[' :: ([','].intercalate (tokens.map quote) ++ [']'])) =
      some (.array (tokens.map .string), []) := by
  cases tokens with
  | nil => rfl
  | cons token tokens =>
    have helements := elements?_intercalate bound (List.cons_ne_nil token tokens) hbound []
    obtain ⟨rest, hrest⟩ := exists_intercalate_quote token tokens
    have hopen : ∀ s, skipBlanks ('[' :: s) = '[' :: s := fun _ => rfl
    have hquote : ∀ s, skipBlanks ('"' :: s) = '"' :: s := fun _ => rfl
    rw [hrest, List.cons_append] at helements ⊢
    rw [value?]
    simp only [hopen, hquote]
    show Option.map _ (elements? (value? (bound + 1)) (bound + 1) ('"' :: (rest ++ [']']))) = _
    rw [helements]
    rfl

/-- Reading the text of a list of strings gives the list. -/
theorem ofText?_text_strings (tokens : List String) :
    ofText? (text (.array (tokens.map .string))) = some (.array (tokens.map .string)) := by
  have htext : (text (.array (tokens.map .string))).toList =
      '[' :: ([','].intercalate (tokens.map quote) ++ [']']) := by
    rw [text, String.toList_ofList, chars, charsList_map_string]
    rfl
  have hlength : (text (.array (tokens.map .string))).length =
      ([','].intercalate (tokens.map quote)).length + 2 := by
    rw [← String.length_toList, htext]
    simp
  have hbound := length_le_intercalate tokens
  rw [ofText?, htext, hlength, value?_strings (by omega)]
  rfl

end Json
end Noughts
