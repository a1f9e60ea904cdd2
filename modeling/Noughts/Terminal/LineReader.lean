/-!
Input taken line by line.

A line ends after a newline, or where the input ends.  `nextLine` takes one off
the front and `lines` splits the whole input.  Neither loses or moves a byte
(`append_of_nextLine`, `flatten_lines`).
-/

namespace Noughts
namespace LineReader

def newline : UInt8 := 10

/-- The first line with its newline, if it has one, and what follows it.  There
is no line in empty input. -/
def nextLine (input : List UInt8) : Option (List UInt8 × List UInt8) :=
  match input.dropWhile (· ≠ newline) with
  | b :: rest => some (input.takeWhile (· ≠ newline) ++ [b], rest)
  | [] => if input = [] then none else some (input, [])

theorem append_of_nextLine {input line rest : List UInt8} (h : nextLine input = some (line, rest)) :
    line ++ rest = input := by
  unfold nextLine at h
  split at h
  · rename_i b later hd
    simp only [Option.some.injEq, Prod.mk.injEq] at h
    rw [← h.1, ← h.2, List.append_assoc, List.singleton_append, ← hd,
      List.takeWhile_append_dropWhile]
  · split at h
    · cases h
    · simp only [Option.some.injEq, Prod.mk.injEq] at h
      rw [← h.1, ← h.2, List.append_nil]

theorem nextLine_eq_none_iff {input : List UInt8} : nextLine input = none ↔ input = [] := by
  unfold nextLine
  split
  · rename_i hd
    refine ⟨nofun, fun h => ?_⟩
    rw [h] at hd
    cases hd
  · split <;> simp_all

theorem ne_nil_of_nextLine {input line rest : List UInt8} (h : nextLine input = some (line, rest)) :
    line ≠ [] := by
  unfold nextLine at h
  split at h
  · simp only [Option.some.injEq, Prod.mk.injEq] at h
    rw [← h.1]
    simp
  · split at h
    · cases h
    · rename_i hne
      simp only [Option.some.injEq, Prod.mk.injEq] at h
      exact h.1 ▸ hne

theorem length_lt_of_nextLine {input line rest : List UInt8}
    (h : nextLine input = some (line, rest)) : rest.length < input.length := by
  have happ := append_of_nextLine h
  have hpos := List.length_pos_iff.2 (ne_nil_of_nextLine h)
  rw [← happ, List.length_append]
  omega

def lines (input : List UInt8) : List (List UInt8) :=
  match _h : nextLine input with
  | none => []
  | some (line, rest) => line :: lines rest
termination_by input.length
decreasing_by exact length_lt_of_nextLine _h

theorem flatten_lines (input : List UInt8) : (lines input).flatten = input := by
  fun_induction lines input with
  | case1 input h => exact (nextLine_eq_none_iff.1 h).symm
  | case2 input line rest h ih => rw [List.flatten_cons, ih, append_of_nextLine h]

end LineReader
end Noughts
