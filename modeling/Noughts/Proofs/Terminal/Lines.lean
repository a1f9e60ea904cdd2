import Noughts.Terminal.LineReader

/-!
What the lines of an input are.

`LineReader.Split` says it without a reader: each line ends with its first newline,
and what follows the last newline is a line of its own if there is anything.  The
lines that are read are those, and no other split of the input is one
(`LineReader.split_iff`).
-/

namespace Noughts
namespace LineReader

/-- The input cut after each newline.  The rest is a line if it is not empty. -/
inductive Split : List UInt8 → List (List UInt8) → Prop
  | nil : Split [] []
  | rest {line : List UInt8} (hne : line ≠ []) (hline : newline ∉ line) : Split line [line]
  | line {body input : List UInt8} {lines : List (List UInt8)} (hbody : newline ∉ body)
      (hinput : Split input lines) :
      Split (body ++ newline :: input) ((body ++ [newline]) :: lines)

theorem ne_newline_of_mem {body : List UInt8} (h : newline ∉ body) :
    ∀ b ∈ body, decide (b ≠ newline) = true := by
  intro b hb
  exact decide_eq_true fun heq => h (heq ▸ hb)

theorem nextLine_append {body : List UInt8} (h : newline ∉ body) (input : List UInt8) :
    nextLine (body ++ newline :: input) = some (body ++ [newline], input) := by
  have hbody := ne_newline_of_mem h
  have hdrop : (body ++ newline :: input).dropWhile (· ≠ newline) = newline :: input := by
    rw [List.dropWhile_append_of_pos hbody, List.dropWhile_cons_of_neg (by simp)]
  have htake : (body ++ newline :: input).takeWhile (· ≠ newline) = body := by
    rw [List.takeWhile_append_of_pos hbody, List.takeWhile_cons_of_neg (by simp), List.append_nil]
  unfold nextLine
  rw [hdrop, htake]

theorem nextLine_of_not_mem {line : List UInt8} (hne : line ≠ []) (h : newline ∉ line) :
    nextLine line = some (line, []) := by
  have hdrop : (line ++ []).dropWhile (· ≠ newline) = [] :=
    List.dropWhile_append_of_pos (ne_newline_of_mem h)
  rw [List.append_nil] at hdrop
  unfold nextLine
  rw [hdrop]
  exact if_neg hne

/-- The first line of what the two make together.  It ends with the first newline, and
where there is none it is all there is. -/
inductive FirstLine : List UInt8 → List UInt8 → Prop
  | ended {body rest : List UInt8} (hbody : newline ∉ body) : FirstLine (body ++ [newline]) rest
  | rest {line : List UInt8} (hne : line ≠ []) (hline : newline ∉ line) : FirstLine line []

theorem FirstLine.nextLine {line rest : List UInt8} (h : FirstLine line rest) :
    nextLine (line ++ rest) = some (line, rest) := by
  cases h with
  | ended hbody => rw [List.append_assoc, List.singleton_append, nextLine_append hbody]
  | rest hne hline => rw [List.append_nil, nextLine_of_not_mem hne hline]

theorem firstLine_of_nextLine {input line rest : List UInt8}
    (h : LineReader.nextLine input = some (line, rest)) : FirstLine line rest := by
  by_cases hmem : newline ∈ input
  · obtain ⟨body, later, rfl, hbody⟩ := List.eq_append_cons_of_mem hmem
    rw [nextLine_append hbody] at h
    cases h
    exact .ended hbody
  · by_cases hnil : input = []
    · rw [nextLine_eq_none_iff.2 hnil] at h
      cases h
    · rw [nextLine_of_not_mem hnil hmem] at h
      cases h
      exact .rest hnil hmem

theorem lines_of_none {input : List UInt8} (h : nextLine input = none) : lines input = [] := by
  rw [lines]
  split
  · rfl
  · rename_i hsome
    rw [h] at hsome
    cases hsome

theorem lines_of_some {input line rest : List UInt8} (h : nextLine input = some (line, rest)) :
    lines input = line :: lines rest := by
  rw [lines]
  split
  · rename_i hnone
    rw [h] at hnone
    cases hnone
  · rename_i hsome
    rw [h] at hsome
    cases hsome
    rfl

theorem Split.eq_lines {input : List UInt8} {ls : List (List UInt8)} (h : Split input ls) :
    ls = lines input := by
  induction h with
  | nil => exact (lines_of_none rfl).symm
  | rest hne hline =>
    rw [lines_of_some (nextLine_of_not_mem hne hline), lines_of_none rfl]
  | line hbody _ ih => rw [lines_of_some (nextLine_append hbody _), ih]

theorem split_lines (input : List UInt8) : Split input (lines input) := by
  induction input using lines.induct with
  | case1 input h =>
    rw [lines_of_none h, nextLine_eq_none_iff.1 h]
    exact .nil
  | case2 input line rest h ih =>
    rw [lines_of_some h, ← append_of_nextLine h]
    cases firstLine_of_nextLine h with
    | ended hbody =>
      rw [List.append_assoc, List.singleton_append]
      exact .line hbody ih
    | rest hne hline =>
      rw [lines_of_none rfl, List.append_nil]
      exact .rest hne hline

theorem split_iff {input : List UInt8} {ls : List (List UInt8)} :
    Split input ls ↔ ls = lines input := by
  refine ⟨Split.eq_lines, ?_⟩
  rintro rfl
  exact split_lines input

end LineReader
end Noughts
