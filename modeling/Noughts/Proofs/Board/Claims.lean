import Noughts.Board

/-!
How many squares are claimed.

The board counts its marks row by row.  `claimed_eq_countP` counts them over the
nine squares in reading order instead, where they are what the open squares leave
(`claimed_add_length_openSquares`).  A claim takes its square out of the open
ones (`openSquares_put`), and so it adds one mark (`claimed_put`).
-/

namespace Noughts
namespace Board

theorem flatten_rows (b : Board) : b.rows.flatten = Square.all.map b.cell := rfl

theorem claimed_eq_countP (b : Board) :
    b.claimed = Square.all.countP fun s => (b.cell s).isSome := by
  rw [claimed, flatten_rows, List.countP_map]
  rfl

theorem claimed_add_length_openSquares (b : Board) : b.claimed + b.openSquares.length = 9 := by
  have hopen : b.openSquares.length = Square.all.countP fun s => ¬ (b.cell s).isSome := by
    rw [openSquares, ← List.countP_eq_length_filter]
    exact List.countP_congr fun s _ => by simp
  rw [claimed_eq_countP, hopen, ← List.length_eq_countP_add_countP, Square.length_all]

theorem claimed_le (b : Board) : b.claimed ≤ 9 := by
  have h := b.claimed_add_length_openSquares
  omega

theorem nodup_openSquares (b : Board) : b.openSquares.Nodup :=
  Square.nodup_all.filter _

/-- A claim closes its square and leaves the others in their order. -/
theorem openSquares_put {b : Board} {s : Square} (hs : s.OnBoard) (m : Mark) :
    (b.put s (some m)).openSquares = b.openSquares.erase s := by
  rw [b.nodup_openSquares.erase_eq_filter, openSquares, openSquares, List.filter_filter]
  refine List.filter_congr fun t _ => ?_
  by_cases hts : t = s
  · simp [cell_put, hts, hs]
  · simp [cell_put, hts]

theorem claimed_put {b : Board} {s : Square} (hs : s ∈ b.openSquares) (m : Mark) :
    (b.put s (some m)).claimed = b.claimed + 1 := by
  have hb := b.claimed_add_length_openSquares
  have hput := (b.put s (some m)).claimed_add_length_openSquares
  have hpos := List.length_pos_of_mem hs
  rw [openSquares_put (mem_openSquares.1 hs).1, List.length_erase_of_mem hs] at hput
  omega

theorem isFull_iff_openSquares {b : Board} : b.isFull = true ↔ b.openSquares = [] := by
  have hflat : b.isFull = (Square.all.map b.cell).all Option.isSome := by
    rw [isFull, ← flatten_rows, List.all_flatten]
  rw [hflat, openSquares, List.filter_eq_nil_iff]
  simp [Option.isSome_iff_ne_none]

theorem isFull_iff_claimed {b : Board} : b.isFull = true ↔ b.claimed = 9 := by
  have h := b.claimed_add_length_openSquares
  rw [isFull_iff_openSquares, ← List.length_eq_zero_iff]
  omega

end Board
end Noughts
