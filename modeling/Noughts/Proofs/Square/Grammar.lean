import Mathlib.Data.List.DropRight
import Noughts.Square.Token

/-!
The grammar of names.

A token names a square if it is a letter for the column and a digit for the row, with
nothing between them and nothing but white space around them (`Square.Names`).
Reading a token trims it, takes off one character and looks the two parts up, and what
is accepted in that way is what the grammar admits (`Square.ofToken_eq_ok_iff_names`).

Everything else is refused, and the refusal carries what is left of the token between its
white space.  `Text.Stripped` describes that by its ends, and there is one such text for
each token (`Text.stripped_iff`).
-/

namespace Noughts
namespace Text

/-- The numbers of the characters that have the property White_Space. -/
def whiteSpace : List Nat :=
  [0x09, 0x0a, 0x0b, 0x0c, 0x0d, 0x20, 0x85, 0xa0, 0x1680, 0x2000, 0x2001, 0x2002, 0x2003, 0x2004,
    0x2005, 0x2006, 0x2007, 0x2008, 0x2009, 0x200a, 0x2028, 0x2029, 0x202f, 0x205f, 0x3000]

def White (s : List Char) : Prop :=
  ∀ c ∈ s, c.toNat ∈ whiteSpace

/-- A part of a text that has white space before and after it and at neither of its own
ends. -/
structure Stripped (t core : List Char) : Prop where
  split : ∃ before after, t = before ++ core ++ after ∧ White before ∧ White after
  head : ∀ c, core.head? = some c → c.toNat ∉ whiteSpace
  last : ∀ c, core.getLast? = some c → c.toNat ∉ whiteSpace

variable {t core s before after : List Char} {c : Char}

theorem isBlank_iff : isBlank c = true ↔ c.toNat ∈ whiteSpace := by
  simp only [isBlank, whiteSpace, Bool.or_eq_true, Bool.and_eq_true, decide_eq_true_eq,
    List.mem_cons, List.not_mem_nil, or_false]
  omega

theorem isBlank_eq_false_iff : isBlank c = false ↔ c.toNat ∉ whiteSpace := by
  rw [← isBlank_iff, Bool.not_eq_true]

theorem White.isBlank (h : White s) : ∀ c ∈ s, isBlank c = true :=
  fun c hc => isBlank_iff.2 (h c hc)

theorem White.reverse (h : White s) : White s.reverse :=
  fun c hc => h c (List.mem_reverse.1 hc)

theorem trim_append_left (h : White before) : trim (before ++ s) = trim s := by
  rw [trim, trim, List.dropWhile_append_of_pos h.isBlank]

theorem trim_append_right (h : White after) : trim (s ++ after) = trim s := by
  rw [trim, trim, List.dropWhile_append]
  split
  · rename_i hs
    rw [List.isEmpty_iff.1 hs, List.dropWhile_eq_nil_iff.2 h.isBlank]
  · rw [List.reverse_append, List.dropWhile_append_of_pos h.reverse.isBlank]

theorem trim_of_ends (hhead : ∀ c, s.head? = some c → c.toNat ∉ whiteSpace)
    (hlast : ∀ c, s.getLast? = some c → c.toNat ∉ whiteSpace) : trim s = s := by
  cases s with
  | nil => rfl
  | cons c rest =>
    have hd : (c :: rest).getLast? = some ((c :: rest).getLast (List.cons_ne_nil c rest)) :=
      List.getLast?_eq_some_getLast _
    exact trim_eq_self (isBlank_eq_false_iff.2 (hhead c rfl))
      (isBlank_eq_false_iff.2 (hlast _ hd)) rfl hd

theorem not_white_of_head?_dropWhile (h : (s.dropWhile isBlank).head? = some c) :
    c.toNat ∉ whiteSpace := by
  have hc := List.head?_dropWhile_not isBlank s
  rw [h] at hc
  exact isBlank_eq_false_iff.1 (by simpa using hc)

theorem stripped_trim (t : List Char) : Stripped t (trim t) := by
  -- The end is trimmed from what is left by the beginning, so the parts are joined from the end.
  have hafter : trim t ++ (t.dropWhile isBlank).rtakeWhile isBlank = t.dropWhile isBlank :=
    List.rdropWhile_append_rtakeWhile
  refine ⟨⟨t.takeWhile isBlank, (t.dropWhile isBlank).rtakeWhile isBlank, ?_, fun c hc => ?_,
    fun c hc => ?_⟩, fun c hc => ?_, fun c hc => ?_⟩
  · rw [List.append_assoc, hafter, List.takeWhile_append_dropWhile]
  · exact isBlank_iff.1 (List.mem_takeWhile_imp hc)
  · exact isBlank_iff.1 (List.mem_rtakeWhile_imp hc)
  · apply not_white_of_head?_dropWhile (s := t)
    rw [← hafter, List.head?_append, hc, Option.some_or]
  · rw [trim, List.getLast?_reverse] at hc
    exact not_white_of_head?_dropWhile hc

theorem stripped_iff : Stripped t core ↔ core = trim t := by
  constructor
  · intro h
    obtain ⟨before, after, rfl, hbefore, hafter⟩ := h.split
    rw [trim_append_right hafter, trim_append_left hbefore, trim_of_ends h.head h.last]
  · rintro rfl
    exact stripped_trim t

theorem Stripped.unique {core' : List Char} (h : Stripped t core) (h' : Stripped t core') :
    core = core' :=
  (stripped_iff.1 h).trans (stripped_iff.1 h').symm

end Text

namespace Square

/-- The letters for the columns, which are counted from the left. -/
def columnLetters : List (Char × Nat) :=
  [('a', 0), ('b', 1), ('c', 2), ('A', 0), ('B', 1), ('C', 2)]

/-- The digits for the rows, which are counted from the top. -/
def rowDigits : List (Char × Nat) :=
  [('1', 0), ('2', 1), ('3', 2)]

/-- All characters that stand in a name. -/
def nameChars : List Char :=
  (columnLetters ++ rowDigits).map Prod.fst

/-- The texts that name a square. -/
inductive Names : List Char → Square → Prop
  | intro {before after : List Char} {letter digit : Char} {s : Square}
      (hbefore : Text.White before) (hletter : (letter, s.col) ∈ columnLetters)
      (hdigit : (digit, s.row) ∈ rowDigits) (hafter : Text.White after) :
      Names (before ++ letter :: digit :: after) s

/-- What becomes of a token is what the grammar says of it.  A character from elsewhere,
white space inside and a text that is not two characters long are all refused. -/
structure ReadByGrammar (t : String) : Prop where
  accepted : ∀ s, ofToken t = .ok s ↔ Names t.toList s
  refused : (∀ s, ¬ Names t.toList s) →
    ∃ e, ofToken t = .error e ∧ ∀ core, Text.Stripped t.toList core ↔ core = e.token.toList
  onBoard : ∀ s, ofToken t = .ok s → s.OnBoard
  foreign : ∀ c ∈ t.toList, c.toNat ∉ Text.whiteSpace → c ∉ nameChars → ∃ e, ofToken t = .error e
  inner : ∀ core, Text.Stripped t.toList core → ∀ c ∈ core, c.toNat ∈ Text.whiteSpace →
    ∃ e, ofToken t = .error e
  width : ∀ core, Text.Stripped t.toList core → core.length ≠ 2 → ∃ e, ofToken t = .error e

variable {t : String} {s : Square} {letter digit c : Char} {name : List Char}

theorem column?_eq_some_iff {i : Fin 3} : column? [c] = some i ↔ (c, i.val) ∈ columnLetters := by
  constructor
  · intro h
    unfold column? at h
    split at h <;> cases h
    all_goals
      rename_i hc
      cases hc
      decide
  · intro h
    simp only [columnLetters, List.mem_cons, List.not_mem_nil, or_false, Prod.mk.injEq] at h
    rcases h with ⟨rfl, hi⟩ | ⟨rfl, hi⟩ | ⟨rfl, hi⟩ | ⟨rfl, hi⟩ | ⟨rfl, hi⟩ | ⟨rfl, hi⟩
    all_goals exact congrArg some (Fin.ext hi.symm)

theorem row?_eq_some_iff {i : Fin 3} :
    row? name = some i ↔ ∃ digit, name = [digit] ∧ (digit, i.val) ∈ rowDigits := by
  constructor
  · intro h
    unfold row? at h
    split at h <;> cases h
    all_goals exact ⟨_, rfl, by decide⟩
  · rintro ⟨digit, rfl, h⟩
    simp only [rowDigits, List.mem_cons, List.not_mem_nil, or_false, Prod.mk.injEq] at h
    rcases h with ⟨rfl, hi⟩ | ⟨rfl, hi⟩ | ⟨rfl, hi⟩
    all_goals exact congrArg some (Fin.ext hi.symm)

theorem onBoard_of_mem (hletter : (letter, s.col) ∈ columnLetters)
    (hdigit : (digit, s.row) ∈ rowDigits) : s.OnBoard :=
  have hrows : ∀ p ∈ rowDigits, p.2 < 3 := by decide
  have hcols : ∀ p ∈ columnLetters, p.2 < 3 := by decide
  ⟨hrows _ hdigit, hcols _ hletter⟩

theorem ofName?_eq_some_iff :
    ofName? name = some s ↔ ∃ letter digit,
      name = [letter, digit] ∧ (letter, s.col) ∈ columnLetters ∧ (digit, s.row) ∈ rowDigits := by
  constructor
  · intro h
    cases name with
    | nil => cases h
    | cons letter rest =>
      simp only [ofName?] at h
      split at h
      · rename_i col row hcol hrow
        cases h
        obtain ⟨digit, rfl, hdigit⟩ := row?_eq_some_iff.1 hrow
        exact ⟨letter, digit, rfl, column?_eq_some_iff.1 hcol, hdigit⟩
      · cases h
  · rintro ⟨letter, digit, rfl, hletter, hdigit⟩
    have hs := onBoard_of_mem hletter hdigit
    have hcol : column? [letter] = some ⟨s.col, hs.col_lt⟩ := column?_eq_some_iff.2 hletter
    have hrow : row? [digit] = some ⟨s.row, hs.row_lt⟩ := row?_eq_some_iff.2 ⟨digit, rfl, hdigit⟩
    simp only [ofName?, hcol, hrow]
    rfl

theorem mem_nameChars_of_letter (hletter : (letter, s.col) ∈ columnLetters) : letter ∈ nameChars :=
  List.mem_map_of_mem (List.mem_append_left _ hletter)

theorem mem_nameChars_of_digit (hdigit : (digit, s.row) ∈ rowDigits) : digit ∈ nameChars :=
  List.mem_map_of_mem (List.mem_append_right _ hdigit)

theorem not_white_of_mem_nameChars (h : c ∈ nameChars) : c.toNat ∉ Text.whiteSpace := by
  have hall : ∀ p ∈ columnLetters ++ rowDigits, p.1.toNat ∉ Text.whiteSpace := by decide
  obtain ⟨p, hp, rfl⟩ := List.mem_map.1 h
  exact hall p hp

/-- Neither part of a name is white space, so the name is what is left between it. -/
theorem names_iff : Names t.toList s ↔ ∃ letter digit,
    Text.Stripped t.toList [letter, digit] ∧ (letter, s.col) ∈ columnLetters ∧
      (digit, s.row) ∈ rowDigits := by
  generalize t.toList = text
  constructor
  · rintro @⟨before, after, letter, digit, s, hbefore, hletter, hdigit, hafter⟩
    refine ⟨letter, digit, ⟨⟨before, after, by simp, hbefore, hafter⟩, fun c hc => ?_, fun c hc => ?_⟩,
      hletter, hdigit⟩
    · cases hc
      exact not_white_of_mem_nameChars (mem_nameChars_of_letter hletter)
    · cases hc
      exact not_white_of_mem_nameChars (mem_nameChars_of_digit hdigit)
  · rintro ⟨letter, digit, hstripped, hletter, hdigit⟩
    obtain ⟨before, after, rfl, hbefore, hafter⟩ := hstripped.split
    have hnames : Names (before ++ letter :: digit :: after) s := ⟨hbefore, hletter, hdigit, hafter⟩
    simpa using hnames

theorem ofToken_eq_ok_iff_names : ofToken t = .ok s ↔ Names t.toList s := by
  rw [ofToken_eq_ok_iff, ofName?_eq_some_iff, names_iff]
  simp only [Text.stripped_iff, eq_comm]

theorem ofToken_of_not_names (h : ∀ s, ¬ Names t.toList s) :
    ∃ e, ofToken t = .error e ∧ ∀ core, Text.Stripped t.toList core ↔ core = e.token.toList := by
  cases hname : ofName? (Text.trim t.toList) with
  | some s => exact absurd (ofToken_eq_ok_iff_names.1 (ofToken_eq_ok_iff.2 hname)) (h s)
  | none =>
    refine ⟨⟨String.ofList (Text.trim t.toList)⟩, by simp only [ofToken, hname], fun core => ?_⟩
    rw [Text.stripped_iff, String.toList_ofList]

theorem exists_error_of_not_name
    (h : ∀ letter ∈ nameChars, ∀ digit ∈ nameChars, ¬ Text.Stripped t.toList [letter, digit]) :
    ∃ e, ofToken t = .error e := by
  cases htoken : ofToken t with
  | error e => exact ⟨e, rfl⟩
  | ok s =>
    obtain ⟨letter, digit, hstripped, hletter, hdigit⟩ :=
      names_iff.1 (ofToken_eq_ok_iff_names.1 htoken)
    exact absurd hstripped
      (h letter (mem_nameChars_of_letter hletter) digit (mem_nameChars_of_digit hdigit))

theorem exists_error_of_foreign (hc : c ∈ t.toList) (hwhite : c.toNat ∉ Text.whiteSpace)
    (hforeign : c ∉ nameChars) : ∃ e, ofToken t = .error e := by
  refine exists_error_of_not_name fun letter hletter digit hdigit hstripped => ?_
  obtain ⟨before, after, htext, hbefore, hafter⟩ := hstripped.split
  rw [htext, List.mem_append, List.mem_append, List.mem_pair] at hc
  rcases hc with (hc | rfl | rfl) | hc
  · exact hwhite (hbefore c hc)
  · exact hforeign hletter
  · exact hforeign hdigit
  · exact hwhite (hafter c hc)

theorem exists_error_of_inner (hcore : Text.Stripped t.toList name) (hc : c ∈ name)
    (hwhite : c.toNat ∈ Text.whiteSpace) : ∃ e, ofToken t = .error e := by
  refine exists_error_of_not_name fun letter hletter digit hdigit hstripped => ?_
  obtain rfl : name = [letter, digit] := hcore.unique hstripped
  rcases List.mem_pair.1 hc with rfl | rfl
  · exact not_white_of_mem_nameChars hletter hwhite
  · exact not_white_of_mem_nameChars hdigit hwhite

theorem exists_error_of_length (hcore : Text.Stripped t.toList name) (hlength : name.length ≠ 2) :
    ∃ e, ofToken t = .error e := by
  refine exists_error_of_not_name fun letter _ digit _ hstripped => ?_
  obtain rfl : name = [letter, digit] := hcore.unique hstripped
  exact hlength rfl

/-- The reader accepts the grammar and nothing else, whatever characters a token has, and
gives back what it refused without the white space around it. -/
theorem readByGrammar (t : String) : ReadByGrammar t where
  accepted _ := ofToken_eq_ok_iff_names
  refused := ofToken_of_not_names
  onBoard _ := onBoard_of_ofToken
  foreign _ := exists_error_of_foreign
  inner _ hcore _ := exists_error_of_inner hcore
  width _ := exists_error_of_length

/-- A no-break space is white space and a zero width space is not. -/
example : ofToken "\u00a0B3\n" = .ok ⟨2, 1⟩ ∧ ofToken "\u200bB3\n" = .error ⟨"\u200bB3"⟩ := by
  decide +kernel

end Square
end Noughts
