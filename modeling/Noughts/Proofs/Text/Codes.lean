import Mathlib.Tactic.SplitIfs
import Noughts.Proofs.Text.Lines

/-!
Written forms that can be told apart.

A way of writing is prefix-free if what is written shows where it ends: two texts that
begin with written forms and are equal begin with the same one and go on in the same way
(`Text.PrefixFree`).  Things written in such a way one after another can be told apart too
(`Text.PrefixFree.flatMap_injective`).  A list of them, with a separator between the forms
and an end that is mistaken neither for a separator nor for a form, is prefix-free itself,
even if the separator stands in the forms as well (`Text.PrefixFree.listed`).

The escapes of characters are prefix-free.  A backslash is never plain, the character
behind it says which escape it is, and a closing brace ends the number.  So a quoted text
says what was quoted (`Text.quote_injective`).
-/

namespace Noughts
namespace Text

/-- A written form at the beginning of a text is known from the text. -/
def PrefixFree {α β : Type} (write : α → List β) : Prop :=
  ∀ a b u v, write a ++ u = write b ++ v → a = b ∧ u = v

section PrefixFree

variable {α β : Type} {write : α → List β}

theorem PrefixFree.injective (h : PrefixFree write) : Function.Injective write :=
  fun a b hab => (h a b [] [] (by rw [hab])).1

theorem PrefixFree.flatMap_injective (h : PrefixFree write) (hne : ∀ a, write a ≠ []) :
    Function.Injective fun l : List α => l.flatMap write := by
  intro l m hlm
  induction l generalizing m with
  | nil =>
    cases m with
    | nil => rfl
    | cons b m =>
      simp only [List.flatMap_nil, List.flatMap_cons] at hlm
      exact absurd (List.append_eq_nil_iff.1 hlm.symm).1 (hne b)
  | cons a l ih =>
    cases m with
    | nil =>
      simp only [List.flatMap_nil, List.flatMap_cons] at hlm
      exact absurd (List.append_eq_nil_iff.1 hlm).1 (hne a)
    | cons b m =>
      simp only [List.flatMap_cons] at hlm
      obtain ⟨rfl, hrest⟩ := h a b _ _ hlm
      rw [ih hrest]

variable {sep stop : List β}

theorem PrefixFree.append_left (h : PrefixFree write) (start : List β) :
    PrefixFree fun a => start ++ write a := by
  intro a b u v hab
  rw [List.append_assoc, List.append_assoc] at hab
  exact h a b u v (List.append_cancel_left hab)

/-- An end that is not the beginning of a form shows how many forms there are. -/
theorem PrefixFree.flatMap_append (h : PrefixFree write)
    (hstop : ∀ a u v, write a ++ u ≠ stop ++ v) :
    PrefixFree fun l : List α => l.flatMap write ++ stop := by
  intro l m u v hlm
  rw [List.append_assoc, List.append_assoc] at hlm
  -- Both lists are taken apart at once.  If one ends before the other, the end meets a form.
  induction l generalizing m with
  | nil =>
    cases m with
    | nil => exact ⟨rfl, List.append_cancel_left hlm⟩
    | cons b m =>
      rw [List.flatMap_nil, List.nil_append, List.flatMap_cons, List.append_assoc] at hlm
      exact absurd hlm.symm (hstop b _ _)
  | cons a l ih =>
    rw [List.flatMap_cons, List.append_assoc] at hlm
    cases m with
    | nil => exact absurd hlm (hstop a _ _)
    | cons b m =>
      rw [List.flatMap_cons, List.append_assoc] at hlm
      obtain ⟨rfl, hrest⟩ := h a b _ _ hlm
      obtain ⟨rfl, huv⟩ := ih m hrest
      exact ⟨rfl, huv⟩

/-- After a form the text goes on with the separator or it ends, and it shows which. -/
theorem PrefixFree.listed (h : PrefixFree write) (hwrite : ∀ a u v, write a ++ u ≠ stop ++ v)
    (hsep : ∀ u v, sep ++ u ≠ stop ++ v) :
    PrefixFree fun l : List α => sep.intercalate (l.map write) ++ stop := by
  -- Behind the first form there is a separator in front of each of the others.
  have hrest : PrefixFree fun l : List α => l.flatMap (fun a => sep ++ write a) ++ stop := by
    refine (h.append_left sep).flatMap_append fun a u v => ?_
    rw [List.append_assoc]
    exact hsep _ _
  have hcons (a : α) (l : List α) (u : List β) : sep.intercalate ((a :: l).map write) ++ stop ++ u =
      write a ++ (l.flatMap (fun a => sep ++ write a) ++ stop ++ u) := by
    rw [List.map_cons, intercalate_cons, List.flatMap_map]
    simp only [List.append_assoc]
  intro l m u v hlm
  cases l with
  | nil =>
    cases m with
    | nil => exact ⟨rfl, List.append_cancel_left hlm⟩
    | cons b m => exact absurd ((hcons b m v).symm.trans hlm.symm) (hwrite b _ _)
  | cons a l =>
    cases m with
    | nil => exact absurd ((hcons a l u).symm.trans hlm) (hwrite a _ _)
    | cons b m =>
      rw [hcons a l u, hcons b m v] at hlm
      obtain ⟨rfl, htail⟩ := h a b _ _ hlm
      obtain ⟨rfl, huv⟩ := hrest l m u v htail
      exact ⟨rfl, huv⟩

end PrefixFree

/-- The characters that are escaped by one character, with that one in front. -/
def shortForms : List (Char × Char) :=
  [('t', '\t'), ('r', '\r'), ('n', '\n'), ('0', '\x00'), ('\\', '\\'), ('"', '"')]

/-- The three kinds of escape. -/
inductive Escaped : Char → List Char → Prop
  | plain {c : Char} (h : c ≠ '\\') : Escaped c [c]
  | short {k c : Char} (h : (k, c) ∈ shortForms) : Escaped c ['\\', k]
  | numbered (c : Char) :
    Escaped c ('\\' :: 'u' :: '\x7b' :: (Nat.toDigits 16 c.toNat ++ ['\x7d']))

theorem escaped_escape (c : Char) : Escaped c (escape c) := by
  have hshort {k d : Char} (hk : (k, d) ∈ shortForms) (hc : c = d) : Escaped c ['\\', k] :=
    .short (hc ▸ hk)
  unfold escape
  split_ifs with htab hreturn hnewline hnull hbackslash hquote
  · exact hshort (by decide) htab
  · exact hshort (by decide) hreturn
  · exact hshort (by decide) hnewline
  · exact hshort (by decide) hnull
  · exact hshort (by decide) hbackslash
  · exact hshort (by decide) hquote
  · exact .numbered c
  · exact .plain hbackslash

theorem Escaped.append_inj {c d : Char} {s t u v : List Char} (hc : Escaped c s)
    (hd : Escaped d t) (h : s ++ u = t ++ v) : c = d ∧ u = v := by
  have hletters : ∀ p ∈ shortForms, ∀ q ∈ shortForms, p.1 = q.1 → p.2 = q.2 := by decide
  have hnumber : ∀ p ∈ shortForms, p.1 ≠ 'u' := by decide
  cases hc with
  | plain hc =>
    cases hd with
    | plain => exact List.cons.inj h
    | short => exact absurd (List.cons.inj h).1 hc
    | numbered => exact absurd (List.cons.inj h).1 hc
  | short hk =>
    cases hd with
    | plain hd => exact absurd (List.cons.inj h).1.symm hd
    | short hl =>
      obtain ⟨hkl, hrest⟩ := List.cons.inj (List.cons.inj h).2
      exact ⟨hletters _ hk _ hl hkl, hrest⟩
    | numbered => exact absurd (List.cons.inj (List.cons.inj h).2).1 (hnumber _ hk)
  | numbered =>
    cases hd with
    | plain hd => exact absurd (List.cons.inj h).1.symm hd
    | short hl => exact absurd (List.cons.inj (List.cons.inj h).2).1.symm (hnumber _ hl)
    | numbered =>
      have hdigits : Nat.toDigits 16 c.toNat ++ '\x7d' :: u =
          Nat.toDigits 16 d.toNat ++ '\x7d' :: v := by
        simpa using h
      have hbrace (k : Nat) : '\x7d' ≠ Nat.digitChar k := (Nat.digitChar_ne '\x7d' rfl).symm
      obtain ⟨hcode, hrest⟩ := toDigits_append_inj (by decide) (by decide) hbrace hdigits
      exact ⟨Char.toNat_inj.1 hcode, hrest⟩

theorem prefixFree_escape : PrefixFree escape :=
  fun c d _ _ h => (escaped_escape c).append_inj (escaped_escape d) h

theorem escape_ne_nil (c : Char) : escape c ≠ [] := by
  have hc := escaped_escape c
  intro hnil
  rw [hnil] at hc
  cases hc

/-- A quoted text is the quotation of one text. -/
theorem quote_injective : Function.Injective quote := by
  intro s t h
  refine prefixFree_escape.flatMap_injective escape_ne_nil ?_
  exact List.append_cancel_right (List.cons.inj h).2

/-- A backslash and what it would mean are told apart. -/
example : quote ['\\', 'n'] = ['"', '\\', '\\', 'n', '"'] ∧
    quote ['\n'] = ['"', '\\', 'n', '"'] := by
  decide +kernel

end Text
end Noughts
