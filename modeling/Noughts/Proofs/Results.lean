/-!
Computations that may fail.

A computation that came to a result has come to one at each of its steps.
-/

namespace Noughts

variable {α β ε : Type}

theorem of_bind {x : Except ε α} {f : α → Except ε β} {b : β} (h : x >>= f = .ok b) :
    ∃ a, x = .ok a ∧ f a = .ok b := by
  cases x with
  | error e => cases h
  | ok a => exact ⟨a, rfl, h⟩

theorem bind_eq_ok_iff {x : Except ε α} {f : α → Except ε β} {b : β} :
    x >>= f = .ok b ↔ ∃ a, x = .ok a ∧ f a = .ok b := by
  refine ⟨of_bind, fun h => ?_⟩
  obtain ⟨a, rfl, hf⟩ := h
  exact hf

theorem exists_of_mapM_append {f : α → Except ε β} {before after : List α} {results : List β}
    (h : (before ++ after).mapM f = .ok results) :
    ∃ front back, before.mapM f = .ok front ∧ after.mapM f = .ok back ∧
      results = front ++ back := by
  rw [List.mapM_append] at h
  obtain ⟨front, hfront, h⟩ := of_bind h
  obtain ⟨back, hback, h⟩ := of_bind h
  cases h
  exact ⟨front, back, hfront, hback, rfl⟩

/-- If there is one error and all results are different, arguments are told apart unless
both of them end in the error. -/
theorem eq_iff_of_injective {f : α → Except ε β} {result : α → β} {Sound : α → Prop} {e : ε}
    (hresult : Function.Injective result) (hok : ∀ {a}, Sound a → f a = .ok (result a))
    (herror : ∀ {a}, ¬ Sound a → f a = .error e) {a b : α} :
    f a = f b ↔ a = b ∨ ¬ Sound a ∧ ¬ Sound b := by
  constructor
  · intro h
    by_cases ha : Sound a <;> by_cases hb : Sound b
    · rw [hok ha, hok hb] at h
      exact .inl (hresult (Except.ok.inj h))
    · rw [hok ha, herror hb] at h
      cases h
    · rw [herror ha, hok hb] at h
      cases h
    · exact .inr ⟨ha, hb⟩
  · rintro (rfl | ⟨ha, hb⟩)
    · rfl
    · rw [herror ha, herror hb]

/-- Each of the results is that of one of the elements. -/
theorem exists_of_mem_mapM {f : α → Except ε β} {l : List α} {results : List β}
    (h : l.mapM f = .ok results) : ∀ b ∈ results, ∃ a ∈ l, f a = .ok b := by
  induction l generalizing results with
  | nil =>
    cases h
    intro b hb
    cases hb
  | cons a rest ih =>
    rw [List.mapM_cons] at h
    obtain ⟨b, hb, h⟩ := of_bind h
    obtain ⟨more, hmore, h⟩ := of_bind h
    cases h
    refine List.forall_mem_cons.2 ⟨⟨a, List.mem_cons_self, hb⟩, fun c hc => ?_⟩
    obtain ⟨d, hd, hfd⟩ := ih hmore c hc
    exact ⟨d, List.mem_cons_of_mem _ hd, hfd⟩

end Noughts
