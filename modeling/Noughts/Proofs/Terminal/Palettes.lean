import Noughts.Terminal.Glyphs

/-!
Programs that need a palette.

Glyphs that are too wide make no palette, and a program that needs one is then over
before it does anything.  Two programs are compared for any glyphs all the same.
They are over with the same fault, or each comes to a result (`Fault.Alike`), and it
is enough to compare the results for every palette (`Glyphs.alike_withPalette`).
-/

namespace Noughts

/-- Both end in the same fault, or in results that are related. -/
inductive Fault.Alike {α β : Type} (R : α → β → Prop) : Except Fault α → Except Fault β → Prop
  | fault (f : Fault) : Fault.Alike R (.error f) (.error f)
  | result {a : α} {b : β} (h : R a b) : Fault.Alike R (.ok a) (.ok b)

namespace Glyphs

variable {α β : Type}

/-- Something done with the palette of the glyphs, if they make one. -/
def withPalette (glyphs : Glyphs) (act : Palette → α) : Except Fault α := do
  return act (← glyphs.toPalette)

theorem withPalette_of_narrow {glyphs : Glyphs} (h : glyphs.width < 65536) (act : Palette → α) :
    glyphs.withPalette act = .ok (act { toGlyphs := glyphs, width_lt := h }) := by
  simp only [withPalette, toPalette_of_narrow h]
  rfl

theorem exists_palette {glyphs : Glyphs} (h : glyphs.width < 65536) :
    ∃ palette : Palette, palette.toGlyphs = glyphs ∧
      ∀ {γ : Type} (act : Palette → γ), glyphs.withPalette act = .ok (act palette) :=
  ⟨_, rfl, withPalette_of_narrow h⟩

theorem withPalette_of_wide {glyphs : Glyphs} (h : ¬ glyphs.width < 65536) (act : Palette → α) :
    glyphs.withPalette act = .error .tooWide := by
  simp only [withPalette, toPalette_of_wide h]
  rfl

theorem alike_withPalette {R : α → β → Prop} {act : Palette → α} {act' : Palette → β}
    (h : ∀ palette, R (act palette) (act' palette)) (glyphs : Glyphs) :
    Fault.Alike R (glyphs.withPalette act) (glyphs.withPalette act') := by
  by_cases hw : glyphs.width < 65536
  · rw [withPalette_of_narrow hw, withPalette_of_narrow hw]
    exact .result (h _)
  · rw [withPalette_of_wide hw, withPalette_of_wide hw]
    exact .fault .tooWide

end Glyphs
end Noughts
