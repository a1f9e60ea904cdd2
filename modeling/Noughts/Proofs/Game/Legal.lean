import Mathlib.Data.List.Induction
import Mathlib.Data.Nat.Find
import Noughts.Game
import Noughts.Proofs.Board.Lined

/-!
Legal lists of moves.

Everything here is said of a list of moves alone, without a board and without a
turn counter.  The first, third, fifth move and so on belong to `x` and the others
to `o` (`Moves.claimedBy`), and from that it follows which lists are finished
games (`Moves.Finished`), which are legal (`Moves.Legal`), and which move of an
illegal list is the first that can not be made (`Moves.FirstIllegal`).

A list is legal exactly if no move of it meets an objection
(`legal_iff_objection`), so a list is either legal or has a first illegal move.
-/

namespace Noughts

theorem Mark.exists_iff {p : Mark → Prop} : (∃ m, p m) ↔ p x ∨ p o :=
  ⟨fun ⟨m, h⟩ => by cases m with
    | x => exact .inl h
    | o => exact .inr h,
  fun h => h.elim (⟨x, ·⟩) (⟨o, ·⟩)⟩

theorem Mark.onTurn_eq_iff {a b : Nat} : onTurn a = onTurn b ↔ a % 2 = b % 2 := by
  unfold onTurn
  split <;> split <;> simp <;> omega

namespace Moves

/-- The squares that a mark claims.  The odd-numbered moves are those of `x` and
the even-numbered ones those of `o`. -/
def claimedBy (moves : List Square) (m : Mark) : List Square :=
  (moves.zipIdx.filter fun p => Mark.onTurn (p.2 + 1) = m).map Prod.fst

/-- A mark has claimed a whole row, column or diagonal. -/
def HasLine (moves : List Square) (m : Mark) : Prop :=
  Square.Lined (· ∈ claimedBy moves m)

instance (moves : List Square) (m : Mark) : Decidable (HasLine moves m) :=
  inferInstanceAs (Decidable (Square.Lined _))

/-- No move can follow: nine have been made, or one mark has a line. -/
def Finished (moves : List Square) : Prop :=
  moves.length = 9 ∨ ∃ m, HasLine moves m

instance (moves : List Square) : Decidable (Finished moves) :=
  decidable_of_iff (moves.length = 9 ∨ HasLine moves .x ∨ HasLine moves .o)
    (or_congr_right Mark.exists_iff.symm)

/-- Every move is on the board, no square is named twice, and the game was not
finished before its last move. -/
structure Legal (moves : List Square) : Prop where
  onBoard : ∀ s ∈ moves, s.OnBoard
  nodup : moves.Nodup
  unfinished : ∀ n, n < moves.length → ¬ Finished (moves.take n)

instance (moves : List Square) : Decidable (Legal moves) :=
  decidable_of_iff ((∀ s ∈ moves, s.OnBoard) ∧ moves.Nodup ∧
    ∀ n, n < moves.length → ¬ Finished (moves.take n))
    ⟨fun ⟨hboard, hnodup, hunfinished⟩ => ⟨hboard, hnodup, hunfinished⟩,
      fun ⟨hboard, hnodup, hunfinished⟩ => ⟨hboard, hnodup, hunfinished⟩⟩

/-- What is wrong with a move after the moves before it. -/
def objection (before : List Square) (s : Square) : Option Refusal :=
  if Finished before then some .gameOver
  else if ¬ s.OnBoard then some (.flawed (.offBoard s))
  else if s ∈ before then some (.flawed (.occupied s))
  else none

/-- The move with number `i`, counted from zero, is the first that meets an
objection. -/
structure FirstIllegal (moves : List Square) (i : Nat) (s : Square) (e : Refusal) : Prop where
  move : moves[i]? = some s
  objection : objection (moves.take i) s = some e
  first : ∀ j t, j < i → moves[j]? = some t → Moves.objection (moves.take j) t = none

/-! ## Claims -/

theorem mem_claimedBy {moves : List Square} {m : Mark} {s : Square} :
    s ∈ claimedBy moves m ↔ ∃ i, moves[i]? = some s ∧ Mark.onTurn (i + 1) = m := by
  simp [claimedBy, List.mem_zipIdx_iff_getElem?]

theorem mem_iff_claimedBy {moves : List Square} {s : Square} :
    s ∈ moves ↔ ∃ m, s ∈ claimedBy moves m := by
  rw [List.mem_iff_getElem?]
  simp only [mem_claimedBy]
  exact ⟨fun ⟨i, hi⟩ => ⟨_, i, hi, rfl⟩, fun ⟨_, i, hi, _⟩ => ⟨i, hi⟩⟩

theorem mem_claimedBy_append {moves : List Square} {m : Mark} {s t : Square} :
    s ∈ claimedBy (moves ++ [t]) m ↔
      s ∈ claimedBy moves m ∨ s = t ∧ Mark.onTurn (moves.length + 1) = m := by
  simp only [claimedBy, List.zipIdx_append, List.filter_append, List.map_append, List.mem_append]
  refine or_congr_right ?_
  by_cases h : Mark.onTurn (moves.length + 1) = m <;> simp [h]

/-- Moves of one mark are at least two apart, so its third is the fifth of the
game at the earliest. -/
theorem five_le_length {moves : List Square} {m : Mark} (h : HasLine moves m) :
    5 ≤ moves.length := by
  obtain ⟨a, b, c, ⟨hab, hac, hbc⟩, ha, hb, hc⟩ := Square.Lined.three h
  obtain ⟨i, hi, him⟩ := mem_claimedBy.1 ha
  obtain ⟨j, hj, hjm⟩ := mem_claimedBy.1 hb
  obtain ⟨k, hk, hkm⟩ := mem_claimedBy.1 hc
  have hij : i ≠ j := fun heq => hab (Option.some.inj (hi ▸ heq ▸ hj))
  have hik : i ≠ k := fun heq => hac (Option.some.inj (hi ▸ heq ▸ hk))
  have hjk : j ≠ k := fun heq => hbc (Option.some.inj (hj ▸ heq ▸ hk))
  have hparity := Mark.onTurn_eq_iff.1 (him.trans hjm.symm)
  have hparity' := Mark.onTurn_eq_iff.1 (him.trans hkm.symm)
  have hilt := (List.getElem?_eq_some_iff.1 hi).1
  have hjlt := (List.getElem?_eq_some_iff.1 hj).1
  have hklt := (List.getElem?_eq_some_iff.1 hk).1
  omega

theorem eq_mover_of_hasLine_append {moves : List Square} {m : Mark} {s : Square}
    (hbefore : ¬ HasLine moves m) (h : HasLine (moves ++ [s]) m) :
    Mark.onTurn (moves.length + 1) = m := by
  refine Decidable.byContradiction fun hne => hbefore (h.mono fun t ht => ?_)
  exact (mem_claimedBy_append.1 ht).resolve_right fun hlast => hne hlast.2

/-! ## Legal lists -/

theorem objection_eq_none_iff {before : List Square} {s : Square} :
    objection before s = none ↔ ¬ Finished before ∧ s.OnBoard ∧ s ∉ before := by
  unfold objection
  by_cases hfin : Finished before
  · simp [hfin]
  · by_cases hboard : s.OnBoard <;> by_cases hmem : s ∈ before <;> simp [hfin, hboard, hmem]

theorem legal_nil : Legal [] where
  onBoard := nofun
  nodup := List.nodup_nil
  unfinished := nofun

theorem legal_append_singleton {moves : List Square} {s : Square} :
    Legal (moves ++ [s]) ↔ Legal moves ∧ objection moves s = none := by
  rw [objection_eq_none_iff]
  constructor
  · rintro ⟨hboard, hnodup, hunfinished⟩
    have hlen : moves.length < (moves ++ [s]).length := by simp
    obtain ⟨hnodup, -, hapart⟩ := List.nodup_append.1 hnodup
    refine ⟨⟨fun t ht => hboard t (List.mem_append_left _ ht), hnodup, ?_⟩,
      ?_, hboard s (by simp), ?_⟩
    · intro n hn
      have h := hunfinished n (Nat.lt_trans hn hlen)
      rwa [List.take_append_of_le_length (Nat.le_of_lt hn)] at h
    · have h := hunfinished moves.length hlen
      rwa [List.take_left] at h
    · exact fun hmem => hapart s hmem s (by simp) rfl
  · rintro ⟨⟨hboard, hnodup, hunfinished⟩, hfin, hs, hmem⟩
    refine ⟨?_, ?_, fun n hn => ?_⟩
    · intro t ht
      rcases List.mem_append.1 ht with ht | ht
      · exact hboard t ht
      · exact List.mem_singleton.1 ht ▸ hs
    · refine List.nodup_append.2 ⟨hnodup, by simp, fun t ht u hu heq => hmem ?_⟩
      rwa [← List.mem_singleton.1 hu, ← heq]
    · rw [List.length_append, List.length_singleton] at hn
      rcases Nat.lt_succ_iff_lt_or_eq.1 hn with hlt | rfl
      · rw [List.take_append_of_le_length (Nat.le_of_lt hlt)]
        exact hunfinished n hlt
      · rwa [List.take_left]

theorem legal_iff_objection {moves : List Square} :
    Legal moves ↔ ∀ i s, moves[i]? = some s → objection (moves.take i) s = none := by
  -- Induction from the end, since an objection looks at all the moves before it.
  induction moves using List.reverseRecOn with
  | nil => simp [legal_nil]
  | append_singleton moves t ih =>
    rw [legal_append_singleton, ih]
    constructor
    · rintro ⟨hmoves, hlast⟩ i s hi
      rcases Nat.lt_trichotomy i moves.length with hlt | rfl | hgt
      · rw [List.getElem?_append_left hlt] at hi
        rw [List.take_append_of_le_length (Nat.le_of_lt hlt)]
        exact hmoves i s hi
      · rw [List.getElem?_concat_length] at hi
        rw [List.take_left, ← Option.some.inj hi]
        exact hlast
      · rw [List.getElem?_eq_none (by simp; omega)] at hi
        cases hi
    · intro h
      refine ⟨fun i s hi => ?_, ?_⟩
      · have hlt := (List.getElem?_eq_some_iff.1 hi).1
        have hobj := h i s (by rwa [List.getElem?_append_left hlt])
        rwa [List.take_append_of_le_length (Nat.le_of_lt hlt)] at hobj
      · have hobj := h moves.length t List.getElem?_concat_length
        rwa [List.take_left] at hobj

theorem exists_firstIllegal {moves : List Square} (h : ¬ Legal moves) :
    ∃ i s e, FirstIllegal moves i s e := by
  classical
  have hex : ∃ i s e, moves[i]? = some s ∧ objection (moves.take i) s = some e := by
    refine Decidable.byContradiction fun hnone => h (legal_iff_objection.2 fun i s hi => ?_)
    cases hobj : objection (moves.take i) s with
    | none => rfl
    | some e => exact absurd ⟨i, s, e, hi, hobj⟩ hnone
  obtain ⟨s, e, hmove, hobj⟩ := Nat.find_spec hex
  refine ⟨Nat.find hex, s, e, hmove, hobj, fun j t hj ht => ?_⟩
  cases hobj' : objection (moves.take j) t with
  | none => rfl
  | some e' => exact absurd ⟨t, e', ht, hobj'⟩ (Nat.find_min hex hj)

theorem FirstIllegal.not_legal {moves : List Square} {i : Nat} {s : Square} {e : Refusal}
    (h : FirstIllegal moves i s e) : ¬ Legal moves := fun hlegal => by
  have hobj := h.objection
  rw [legal_iff_objection.1 hlegal i s h.move] at hobj
  cases hobj

theorem FirstIllegal.legal_take {moves : List Square} {i : Nat} {s : Square} {e : Refusal}
    (h : FirstIllegal moves i s e) : Legal (moves.take i) := by
  refine legal_iff_objection.2 fun j t ht => ?_
  have hlt : j < i := by
    have hlen := (List.getElem?_eq_some_iff.1 ht).1
    rw [List.length_take] at hlen
    omega
  rw [List.getElem?_take_of_lt hlt] at ht
  rw [List.take_take, Nat.min_eq_left (Nat.le_of_lt hlt)]
  exact h.first j t hlt ht

theorem FirstIllegal.eq_append {moves : List Square} {i : Nat} {s : Square} {e : Refusal}
    (h : FirstIllegal moves i s e) : moves = moves.take i ++ s :: moves.drop (i + 1) := by
  obtain ⟨hlt, hs⟩ := List.getElem?_eq_some_iff.1 h.move
  rw [← hs, ← List.drop_eq_getElem_cons hlt, List.take_append_drop]

end Moves
end Noughts
