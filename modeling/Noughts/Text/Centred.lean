/-!
Text centred in a field of given width.
-/

namespace Noughts
namespace Text

/-- Fills up to the width with spaces on both sides.  An odd space goes to the
right, and a text that is wider than the field is not cut. -/
def centre (width : Nat) (s : List Char) : List Char :=
  let gap := width - s.length
  List.replicate (gap / 2) ' ' ++ s ++ List.replicate (gap - gap / 2) ' '

@[simp] theorem length_centre (width : Nat) (s : List Char) :
    (centre width s).length = max width s.length := by
  simp only [centre, List.length_append, List.length_replicate]
  omega

end Text
end Noughts
