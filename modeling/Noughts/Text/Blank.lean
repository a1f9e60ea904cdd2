/-!
Blank characters and trimming.

`isBlank` is the Unicode property White_Space.  It holds of the separators that
print as a gap, and of none of the zero-width characters, so trimming never
joins two visible characters.
-/

namespace Noughts
namespace Text

/-- Membership in White_Space. -/
def isBlank (c : Char) : Bool :=
  let n := c.toNat
  (0x09 ≤ n && n ≤ 0x0d) || n = 0x20 || n = 0x85 || n = 0xa0 || n = 0x1680 ||
  (0x2000 ≤ n && n ≤ 0x200a) || n = 0x2028 || n = 0x2029 || n = 0x202f || n = 0x205f || n = 0x3000

/-- Drops the blanks at both ends and keeps those in between. -/
def trim (s : List Char) : List Char :=
  ((s.dropWhile isBlank).reverse.dropWhile isBlank).reverse

theorem trim_eq_self {c d : Char} {s : List Char} (hc : isBlank c = false) (hd : isBlank d = false)
    (h : s.head? = some c) (h' : s.getLast? = some d) : trim s = s := by
  cases s with
  | nil => rfl
  | cons a r =>
    obtain rfl : a = c := by simpa using h
    have hrev : (a :: r).reverse.dropWhile isBlank = (a :: r).reverse := by
      cases hr : (a :: r).reverse with
      | nil => rfl
      | cons b t =>
        have hb : (a :: r).getLast? = some b := by
          rw [List.getLast?_eq_head?_reverse, hr]; rfl
        obtain rfl : b = d := by rw [hb] at h'; simpa using h'
        simp [hd]
    simp only [trim, List.dropWhile_cons, hc, Bool.false_eq_true, if_false, hrev, List.reverse_reverse]

end Text
end Noughts
