import Mathlib.Logic.Function.Basic

/-!
Numerals.

A number is written in a base up to sixteen by its digits, without zeros in front.  Two
things matter about a numeral.  It belongs to one number (`Text.toDigits_injective`), and
it is made of digits alone (`Text.exists_digitChar_of_mem`), so that any other character
behind it shows where it ends (`Text.toDigits_append_inj`).
-/

namespace Noughts
namespace Text

/-- What stands before the first occurrence of a character is known from the whole. -/
theorem append_cons_inj_of_not_mem {α : Type} [DecidableEq α] {c : α} {a b u v : List α}
    (ha : c ∉ a) (hb : c ∉ b) (h : a ++ c :: u = b ++ c :: v) : a = b ∧ u = v := by
  have hfront {l : List α} (hl : c ∉ l) (rest : List α) :
      (l ++ c :: rest).takeWhile (· ≠ c) = l := by
    have hne : ∀ d ∈ l, decide (d ≠ c) = true := fun d hd =>
      decide_eq_true fun hdc => hl (hdc ▸ hd)
    rw [List.takeWhile_append_of_pos hne, List.takeWhile_cons_of_neg (by simp), List.append_nil]
  have hab : a = b := by rw [← hfront ha u, h, hfront hb v]
  subst hab
  exact ⟨rfl, (List.cons.inj (List.append_cancel_left h)).2⟩

theorem exists_digitChar_of_mem {base n : Nat} {c : Char} (h : c ∈ Nat.toDigits base n) :
    ∃ k, c = Nat.digitChar k := by
  -- Induction on the fuel of the digits, over those that are there already.
  suffices hcore : ∀ fuel n digits, (∀ c ∈ digits, ∃ k, c = Nat.digitChar k) →
      ∀ c ∈ Nat.toDigitsCore base fuel n digits, ∃ k, c = Nat.digitChar k from
    hcore _ _ [] (List.forall_mem_nil _) c h
  intro fuel
  induction fuel with
  | zero => exact fun _ _ hdigits => hdigits
  | succ fuel ih =>
    intro n digits hdigits
    have hmore : ∀ c ∈ Nat.digitChar (n % base) :: digits, ∃ k, c = Nat.digitChar k :=
      List.forall_mem_cons.2 ⟨⟨_, rfl⟩, hdigits⟩
    rw [Nat.toDigitsCore]
    split
    · exact hmore
    · exact ih _ _ hmore

theorem digitChar_inj {m n : Nat} (hm : m < 16) (hn : n < 16)
    (h : Nat.digitChar m = Nat.digitChar n) : m = n := by
  have hall : ∀ m < 16, ∀ n < 16, Nat.digitChar m = Nat.digitChar n → m = n := by decide
  exact hall m hm n hn h

theorem toDigits_injective {base : Nat} (hlow : 1 < base) (hhigh : base ≤ 16) :
    Function.Injective (Nat.toDigits base) := by
  intro m
  induction m using Nat.strongRecOn with
  | _ m ih =>
    intro n h
    rw [Nat.toDigits_eq_if hlow, Nat.toDigits_eq_if (n := n) hlow] at h
    by_cases hm : m < base <;> by_cases hn : n < base
    · rw [if_pos hm, if_pos hn] at h
      exact digitChar_inj (by omega) (by omega) (List.singleton_inj.1 h)
    · rw [if_pos hm, if_neg hn] at h
      have hlength := congrArg List.length h
      simp [Nat.toDigits_ne_nil] at hlength
    · rw [if_neg hm, if_pos hn] at h
      have hlength := congrArg List.length h
      simp [Nat.toDigits_ne_nil] at hlength
    · rw [if_neg hm, if_neg hn] at h
      obtain ⟨hfront, hlast⟩ := List.append_inj' h rfl
      have hquotient : m / base = n / base := ih _ (Nat.div_lt_self (by omega) hlow) hfront
      have hmod (k : Nat) : k % base < 16 := Nat.lt_of_lt_of_le (Nat.mod_lt k (by omega)) hhigh
      have hremainder : m % base = n % base :=
        digitChar_inj (hmod m) (hmod n) (List.singleton_inj.1 hlast)
      rw [← Nat.div_add_mod m base, ← Nat.div_add_mod n base, hquotient, hremainder]

/-- A character that is no digit ends a numeral. -/
theorem toDigits_append_inj {base m n : Nat} {c : Char} {u v : List Char} (hlow : 1 < base)
    (hhigh : base ≤ 16) (hc : ∀ k, c ≠ Nat.digitChar k)
    (h : Nat.toDigits base m ++ c :: u = Nat.toDigits base n ++ c :: v) : m = n ∧ u = v := by
  have hend (k : Nat) : c ∉ Nat.toDigits base k := fun hmem =>
    have ⟨d, hd⟩ := exists_digitChar_of_mem hmem
    hc d hd
  obtain ⟨hdigits, hrest⟩ := append_cons_inj_of_not_mem (hend m) (hend n) h
  exact ⟨toDigits_injective hlow hhigh hdigits, hrest⟩

end Text
end Noughts
