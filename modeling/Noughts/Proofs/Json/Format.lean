import Mathlib.Data.List.Forall2
import Noughts.Json.Decode
import Noughts.Proofs.Results

/-!
The JSON values that are read as a game.

`Game.DenotedBy` says which values stand for a game, part by part and without a
reader: what a name alone can look like (`Json.Bare`), what a record can
(`Json.Parts`), and how the parts of a game are put together from these.  The
readers take exactly these values and find in them what they stand for, so there is
one `_eq_ok_iff` for each reader, from the marks up to the game.

A record is read from the list of its parts alone, so it does not matter whether
they come as fields or in order (`Decode.game_eq_ok_iff_denotedBy`).
-/

namespace Noughts

namespace Json

/-- A name with nothing to it. -/
inductive Bare (name : String) : Json → Prop
  | alone : Bare name (.string name)
  | field : Bare name (.object [(name, .null)])

/-- The parts of a record: its fields, among any others, or the items of an array of
just as many. -/
inductive Parts (names : List String) : Json → List Json → Prop
  | fields {fields : List (String × Json)} {parts : List Json}
      (h : List.Forall₂ (fun name part => fields.lookup name = some part) names parts) :
      Parts names (.object fields) parts
  | items {parts : List Json} (h : parts.length = names.length) : Parts names (.array parts) parts

/-- Records of the same parts, each as fields or in order. -/
def SameParts (names : List String) (j k : Json) : Prop :=
  ∃ parts, j.Parts names parts ∧ k.Parts names parts

/-- An array of any length. -/
def Listed {α : Type} (denotes : α → Json → Prop) (l : List α) (j : Json) : Prop :=
  ∃ items, j = .array items ∧ List.Forall₂ denotes l items

/-- An array of three. -/
def Triple {α : Type} (denotes : α → Json → Prop) (f : Fin 3 → α) : Json → Prop :=
  Listed denotes (List.ofFn f)

def boardFields : List String :=
  ["cells"]

def gameFields : List String :=
  ["board", "current_player", "turn", "history", "outcome"]

theorem Parts.unique {names : List String} {j : Json} {parts others : List Json}
    (h : j.Parts names parts) (hothers : j.Parts names others) : parts = others := by
  cases h with
  | items _ =>
    cases hothers
    rfl
  | fields h =>
    cases hothers with
    | fields hothers =>
      refine List.right_unique_forall₂' ?_ h hothers
      intro name part other hpart hother
      exact Option.some.inj (hpart.symm.trans hother)

theorem SameParts.parts_iff {names : List String} {j k : Json} (h : j.SameParts names k)
    (parts : List Json) : j.Parts names parts ↔ k.Parts names parts := by
  obtain ⟨shared, hj, hk⟩ := h
  constructor
  · intro h
    exact hj.unique h ▸ hk
  · intro h
    exact hk.unique h ▸ hj

end Json

def Mark.DenotedBy : Mark → Json → Prop
  | .x => Json.Bare "X"
  | .o => Json.Bare "O"

def Cell.DenotedBy : Cell → Json → Prop
  | none => Json.Bare "Empty"
  | some m => m.DenotedBy

/-- A win is never a name alone. -/
def Outcome.DenotedBy : Outcome → Json → Prop
  | .inProgress => Json.Bare "InProgress"
  | .win m => fun j => ∃ winner, j = .object [("Win", winner)] ∧ m.DenotedBy winner
  | .draw => Json.Bare "Draw"

def Square.DenotedBy (s : Square) (j : Json) : Prop :=
  ∃ token, j = .string token ∧ Square.ofToken token = .ok s

def Board.DenotedBy (b : Board) (j : Json) : Prop :=
  ∃ cells, Json.Parts Json.boardFields j [cells] ∧
    Json.Triple (Json.Triple Cell.DenotedBy) b.grid cells

/-- The turn is any word of 64 bits, and no part is held against another. -/
def Game.DenotedBy (g : Game) (j : Json) : Prop :=
  ∃ board player turn history outcome,
    Json.Parts Json.gameFields j [board, player, turn, history, outcome] ∧
      g.board.DenotedBy board ∧ g.player.DenotedBy player ∧ turn = .integer g.turn.toNat ∧
      Json.Listed Square.DenotedBy g.history history ∧ g.outcome.DenotedBy outcome

theorem Board.denotedBy_iff_of_sameParts {b : Board} {j k : Json}
    (h : j.SameParts Json.boardFields k) : b.DenotedBy j ↔ b.DenotedBy k := by
  simp only [DenotedBy, h.parts_iff]

/-- The board can be given in another form and the rest in another place. -/
theorem Game.DenotedBy.of_parts {g : Game} {j k b c : Json} {rest : List Json}
    (h : g.DenotedBy j) (hj : j.Parts Json.gameFields (b :: rest))
    (hk : k.Parts Json.gameFields (c :: rest))
    (hboard : g.board.DenotedBy b → g.board.DenotedBy c) : g.DenotedBy k := by
  obtain ⟨board, player, turn, history, outcome, hparts, hb, hp, ht, hm, ho⟩ := h
  have hsame := hparts.unique hj
  cases hsame
  exact ⟨c, player, turn, history, outcome, hk, hboard hb, hp, ht, hm, ho⟩

namespace Decode

variable {α : Type}

/-! ## Names -/

theorem choice_eq_ok_iff {j : Json} {name : String} {content : Option Json} :
    choice j = .ok (name, content) ↔
      (j = .string name ∧ content = none) ∨ ∃ k, j = .object [(name, k)] ∧ content = some k := by
  constructor
  · intro h
    unfold choice at h
    split at h
    · cases h
      exact .inl ⟨rfl, rfl⟩
    · rename_i k
      cases h
      exact .inr ⟨k, rfl, rfl⟩
    · cases h
    · cases h
  · rintro (⟨rfl, rfl⟩ | ⟨k, rfl, rfl⟩)
    · rfl
    · rfl

theorem bare_eq_ok_iff {value a : α} {content : Option Json} :
    bare value content = .ok a ↔ (content = none ∨ content = some .null) ∧ value = a := by
  constructor
  · intro h
    unfold bare at h
    split at h
    · cases h
      exact ⟨.inl rfl, rfl⟩
    · cases h
      exact ⟨.inr rfl, rfl⟩
    · cases h
  · rintro ⟨rfl | rfl, rfl⟩
    · rfl
    · rfl

/-- A table is read at the name that comes with the value. -/
theorem named_eq_ok_iff {table : List (String × (Option Json → Except DecodeError α))}
    {j : Json} {a : α} :
    named table j = .ok a ↔
      ∃ name content read, choice j = .ok (name, content) ∧ table.lookup name = some read ∧
        read content = .ok a := by
  unfold named
  rw [bind_eq_ok_iff]
  constructor
  · rintro ⟨⟨name, content⟩, hchoice, h⟩
    dsimp only at h
    split at h
    · rename_i read hread
      exact ⟨name, content, read, hchoice, hread, h⟩
    · cases h
  · rintro ⟨name, content, read, hchoice, hread, h⟩
    refine ⟨(name, content), hchoice, ?_⟩
    simp only [hread, h]

theorem named_nil_ne_ok (j : Json) (a : α) : named [] j ≠ .ok a := by
  rw [ne_eq, named_eq_ok_iff]
  rintro ⟨name, content, read, -, hread, -⟩
  cases hread

/-- The first name of a table is read or the rest of the table is.  No name is there
twice, so the rest is never read for the first name. -/
theorem named_cons_eq_ok_iff {first : String} {read : Option Json → Except DecodeError α}
    {table : List (String × (Option Json → Except DecodeError α))}
    (hfirst : table.lookup first = none) {j : Json} {a : α} :
    named ((first, read) :: table) j = .ok a ↔
      (∃ content, choice j = .ok (first, content) ∧ read content = .ok a) ∨
        named table j = .ok a := by
  rw [named_eq_ok_iff, named_eq_ok_iff]
  constructor
  · rintro ⟨name, content, found, hchoice, hfound, h⟩
    by_cases hname : name = first
    · subst hname
      rw [List.lookup_cons_self] at hfound
      cases hfound
      exact .inl ⟨content, hchoice, h⟩
    · rw [List.lookup_cons, beq_eq_false_iff_ne.2 hname] at hfound
      exact .inr ⟨name, content, found, hchoice, hfound, h⟩
  · rintro (⟨content, hchoice, h⟩ | ⟨name, content, found, hchoice, hfound, h⟩)
    · exact ⟨first, content, read, hchoice, List.lookup_cons_self, h⟩
    · have hname : name ≠ first := by
        rintro rfl
        rw [hfirst] at hfound
        cases hfound
      refine ⟨name, content, found, hchoice, ?_, h⟩
      rw [List.lookup_cons, beq_eq_false_iff_ne.2 hname]
      exact hfound

/-- A name of a table that has no content. -/
theorem exists_bare_eq_ok_iff {name : String} {value a : α} {j : Json} :
    (∃ content, choice j = .ok (name, content) ∧ bare value content = .ok a) ↔
      j.Bare name ∧ value = a := by
  simp only [choice_eq_ok_iff, bare_eq_ok_iff]
  constructor
  · rintro ⟨content, ⟨rfl, rfl⟩ | ⟨k, rfl, rfl⟩, hcontent, rfl⟩
    · exact ⟨.alone, rfl⟩
    · rcases hcontent with hcontent | hcontent
      · cases hcontent
      · cases hcontent
        exact ⟨.field, rfl⟩
  · rintro ⟨hj, rfl⟩
    cases hj with
    | alone => exact ⟨none, .inl ⟨rfl, rfl⟩, .inl rfl, rfl⟩
    | field => exact ⟨some .null, .inr ⟨.null, rfl, rfl⟩, .inr rfl, rfl⟩

/-- A name of a table that has content. -/
theorem exists_holding_eq_ok_iff {name : String} {read : Json → Except DecodeError α} {a : α}
    {j : Json} :
    (∃ content, choice j = .ok (name, content) ∧ holding read content = .ok a) ↔
      ∃ k, j = .object [(name, k)] ∧ read k = .ok a := by
  simp only [choice_eq_ok_iff]
  constructor
  · rintro ⟨content, ⟨rfl, rfl⟩ | ⟨k, rfl, rfl⟩, h⟩
    · cases h
    · exact ⟨k, rfl, h⟩
  · rintro ⟨k, rfl, h⟩
    exact ⟨some k, .inr ⟨k, rfl, rfl⟩, h⟩

theorem mark_eq_ok_iff {j : Json} {m : Mark} : mark j = .ok m ↔ m.DenotedBy j := by
  rw [mark, named_cons_eq_ok_iff rfl, named_cons_eq_ok_iff rfl]
  cases m <;> simp [exists_bare_eq_ok_iff, named_nil_ne_ok, Mark.DenotedBy]

theorem cell_eq_ok_iff {j : Json} {c : Cell} : cell j = .ok c ↔ c.DenotedBy j := by
  rw [cell, named_cons_eq_ok_iff rfl, named_cons_eq_ok_iff rfl, named_cons_eq_ok_iff rfl]
  rcases c with _ | _ | _ <;>
    simp [exists_bare_eq_ok_iff, named_nil_ne_ok, Cell.DenotedBy, Mark.DenotedBy]

theorem outcome_eq_ok_iff {j : Json} {o : Outcome} : outcome j = .ok o ↔ o.DenotedBy j := by
  rw [outcome, named_cons_eq_ok_iff rfl, named_cons_eq_ok_iff rfl, named_cons_eq_ok_iff rfl]
  have hwin : ∀ k, Outcome.win <$> mark k = .ok o ↔ ∃ m, m.DenotedBy k ∧ .win m = o := by
    intro k
    rw [map_eq_pure_bind, bind_eq_ok_iff]
    simp only [mark_eq_ok_iff, pure, Except.pure, Except.ok.injEq]
  simp only [exists_bare_eq_ok_iff, exists_holding_eq_ok_iff, hwin, named_nil_ne_ok]
  cases o <;> simp [Outcome.DenotedBy]

/-! ## Arrays -/

theorem square_eq_ok_iff {j : Json} {s : Square} : square j = .ok s ↔ s.DenotedBy j := by
  constructor
  · intro h
    unfold square at h
    split at h
    · split at h
      · rename_i hs
        cases h
        exact ⟨_, rfl, hs⟩
      · cases h
    · cases h
  · rintro ⟨token, rfl, hs⟩
    simp only [square, hs]

/-- Every word is a count, the last one included. -/
theorem count_toNat (n : UInt64) : count (.integer n.toNat) = .ok n := by
  have hnonneg : (0 : Int) ≤ n.toNat := Int.natCast_nonneg _
  have hlt : (n.toNat : Int) < UInt64.size := by
    have hword := n.toNat_lt
    show (n.toNat : Int) < 18446744073709551616
    omega
  simp only [count, if_pos (And.intro hnonneg hlt), Int.toNat_natCast, UInt64.ofNat_toNat]

theorem count_eq_ok_iff {j : Json} {n : UInt64} : count j = .ok n ↔ j = .integer n.toNat := by
  constructor
  · intro h
    unfold count at h
    split at h
    · rename_i i
      split at h
      · rename_i hi
        cases h
        have hlt : i.toNat < UInt64.size := (Int.toNat_lt hi.1).2 hi.2
        rw [UInt64.toNat_ofNat_of_lt' hlt, Int.toNat_of_nonneg hi.1]
      · cases h
    · cases h
  · rintro rfl
    exact count_toNat n

theorem each_eq_ok_iff {read : Json → Except DecodeError α} {denotes : α → Json → Prop}
    (hread : ∀ j a, read j = .ok a ↔ denotes a j) {items : List Json} {l : List α} :
    each read items = .ok l ↔ List.Forall₂ denotes l items := by
  induction items generalizing l with
  | nil =>
    rw [List.forall₂_nil_right_iff]
    exact ⟨fun h => by cases h; rfl, fun h => h ▸ rfl⟩
  | cons j rest ih =>
    unfold each
    simp only [bind_eq_ok_iff, hread, ih]
    constructor
    · rintro ⟨a, ha, more, hmore, h⟩
      cases h
      exact .cons ha hmore
    · intro h
      cases h with
      | cons ha hmore => exact ⟨_, ha, _, hmore, rfl⟩

theorem squares_eq_ok_iff {j : Json} {moves : List Square} :
    squares j = .ok moves ↔ Json.Listed Square.DenotedBy moves j := by
  have heach : ∀ items, each square items = .ok moves ↔
      List.Forall₂ Square.DenotedBy moves items :=
    fun items => each_eq_ok_iff fun _ _ => square_eq_ok_iff
  constructor
  · intro h
    unfold squares at h
    split at h
    · exact ⟨_, rfl, (heach _).1 h⟩
    · cases h
  · rintro ⟨items, rfl, h⟩
    exact (heach items).2 h

theorem exists_of_element {read : Json → Except DecodeError α} {wanted : Wanted}
    {items : List Json} {i : Nat} {a : α} (h : element read wanted items i = .ok a) :
    ∃ j, items[i]? = some j ∧ read j = .ok a := by
  unfold element at h
  split at h
  · rename_i j hj
    exact ⟨j, hj, h⟩
  · cases h

theorem element_eq_ok_iff {read : Json → Except DecodeError α} {wanted : Wanted}
    {items : List Json} {i : Nat} {a : α} :
    element read wanted items i = .ok a ↔ ∃ j, items[i]? = some j ∧ read j = .ok a := by
  refine ⟨exists_of_element, ?_⟩
  rintro ⟨j, hj, hread⟩
  simp only [element, hj, hread]

theorem noMoreThan_eq_ok_iff {size : Nat} {items : List Json} {u : Unit} :
    noMoreThan size items = .ok u ↔ items.length ≤ size := by
  unfold noMoreThan
  split
  · simp [*]
  · simp [*]

/-- Items that have `parts` at the places of these, and no further ones, are `parts`. -/
theorem eq_of_map_getElem? {items parts : List Json}
    (h : (List.range parts.length).map (fun i => items[i]?) = parts.map some)
    (hlength : items.length ≤ parts.length) : items = parts := by
  apply List.ext_getElem?
  intro i
  by_cases hi : i < parts.length
  · have hplace := congrArg (fun l => l[i]?) h
    simpa [hi] using hplace
  · have hi' : parts.length ≤ i := Nat.le_of_not_lt hi
    rw [List.getElem?_eq_none hi', List.getElem?_eq_none (Nat.le_trans hlength hi')]

theorem three_items {read : Json → Except DecodeError α} {f : Fin 3 → α} {a b c : Json}
    (ha : read a = .ok (f 0)) (hb : read b = .ok (f 1)) (hc : read c = .ok (f 2)) :
    three read (.array [a, b, c]) = .ok f := by
  simp only [three, element, List.getElem?_cons_zero, List.getElem?_cons_succ, ha, hb, hc]
  show Except.ok _ = Except.ok f
  congr
  funext i
  rcases i with ⟨_ | _ | _ | n, hi⟩
  · rfl
  · rfl
  · rfl
  · omega

theorem three_eq_ok_iff {read : Json → Except DecodeError α} {denotes : α → Json → Prop}
    (hread : ∀ j a, read j = .ok a ↔ denotes a j) {j : Json} {f : Fin 3 → α} :
    three read j = .ok f ↔ j.Triple denotes f := by
  constructor
  · intro h
    unfold three at h
    split at h
    · rename_i items
      simp only [bind_eq_ok_iff, element_eq_ok_iff, noMoreThan_eq_ok_iff, hread] at h
      obtain ⟨_, ⟨a, h0, ha⟩, _, ⟨b, h1, hb⟩, _, ⟨c, h2, hc⟩, _, hlength, hf⟩ := h
      cases hf
      have hitems : items = [a, b, c] := by
        apply eq_of_map_getElem? _ hlength
        show [items[0]?, items[1]?, items[2]?] = [some a, some b, some c]
        rw [h0, h1, h2]
      exact ⟨[a, b, c], hitems ▸ rfl, .cons ha (.cons hb (.cons hc .nil))⟩
    · cases h
  · rintro ⟨items, rfl, h⟩
    have hparts : List.ofFn f = [f 0, f 1, f 2] := rfl
    simp only [hparts, List.forall₂_cons_left_iff, List.forall₂_nil_left_iff] at h
    obtain ⟨a, _, ha, ⟨b, _, hb, ⟨c, _, hc, rfl, rfl⟩, rfl⟩, rfl⟩ := h
    exact three_items ((hread _ _).2 ha) ((hread _ _).2 hb) ((hread _ _).2 hc)

theorem grid_eq_ok_iff {j : Json} {b : Board} :
    grid j = .ok b ↔ j.Triple (Json.Triple Cell.DenotedBy) b.grid := by
  have hrow : ∀ k row, three cell k = .ok row ↔ k.Triple Cell.DenotedBy row :=
    fun _ _ => three_eq_ok_iff fun _ _ => cell_eq_ok_iff
  unfold grid
  simp only [bind_eq_ok_iff, three_eq_ok_iff hrow]
  constructor
  · rintro ⟨f, hf, h⟩
    cases h
    exact hf
  · intro h
    exact ⟨b.grid, h, rfl⟩

/-! ## Records -/

theorem exists_of_field? {read : Json → Except DecodeError α} {fields : List (String × Json)}
    {name : String} {found : Option α} {a : α} (h : field? read fields name = .ok found)
    (hfound : required name found = .ok a) : ∃ j, fields.lookup name = some j ∧ read j = .ok a := by
  unfold field? at h
  split at h
  · rename_i j hj
    obtain ⟨b, hb, hpure⟩ := of_bind h
    cases hpure
    cases hfound
    exact ⟨j, hj, hb⟩
  · cases h
    cases hfound

theorem field?_of_lookup {read : Json → Except DecodeError α} {fields : List (String × Json)}
    {name : String} {j : Json} {a : α} (hj : fields.lookup name = some j) (h : read j = .ok a) :
    field? read fields name = .ok (some a) := by
  simp only [field?, hj, h]
  rfl

theorem board_eq_ok_iff {j : Json} {b : Board} : board j = .ok b ↔ b.DenotedBy j := by
  constructor
  · intro h
    unfold board at h
    split at h
    · obtain ⟨found, hfound, h⟩ := of_bind h
      obtain ⟨cells, hcells, hgrid⟩ := exists_of_field? hfound h
      exact ⟨cells, .fields (.cons hcells .nil), grid_eq_ok_iff.1 hgrid⟩
    · rename_i items
      simp only [bind_eq_ok_iff, element_eq_ok_iff, noMoreThan_eq_ok_iff] at h
      obtain ⟨_, ⟨cells, hcells, hgrid⟩, _, hlength, h⟩ := h
      cases h
      have hitems : items = [cells] := by
        apply eq_of_map_getElem? _ hlength
        show [items[0]?] = [some cells]
        rw [hcells]
      subst hitems
      exact ⟨cells, .items rfl, grid_eq_ok_iff.1 hgrid⟩
    · cases h
  · rintro ⟨cells, hparts, hcells⟩
    have hgrid := grid_eq_ok_iff.2 hcells
    cases hparts with
    | fields h =>
      cases h with
      | cons hlookup _ =>
        simp only [board, field?_of_lookup hlookup hgrid]
        rfl
    | items _ =>
      simp only [board, element, List.getElem?_cons_zero, hgrid]
      rfl

theorem game_object_eq_ok_iff {fields : List (String × Json)} {g : Game} :
    game (.object fields) = .ok g ↔ g.DenotedBy (.object fields) := by
  constructor
  · intro h
    -- All five parts as far as they are there, then each of them.
    simp only [game, bind_eq_ok_iff] at h
    obtain ⟨b?, hb?, p?, hp?, m?, hm?, o?, ho?, t?, ht?, h⟩ := h
    obtain ⟨b, hb, p, hp, t, ht, m, hm, o, ho, h⟩ := h
    cases h
    obtain ⟨jb, hjb, hb⟩ := exists_of_field? hb? hb
    obtain ⟨jp, hjp, hp⟩ := exists_of_field? hp? hp
    obtain ⟨jt, hjt, ht⟩ := exists_of_field? ht? ht
    obtain ⟨jm, hjm, hm⟩ := exists_of_field? hm? hm
    obtain ⟨jo, hjo, ho⟩ := exists_of_field? ho? ho
    exact ⟨jb, jp, jt, jm, jo,
      .fields (.cons hjb (.cons hjp (.cons hjt (.cons hjm (.cons hjo .nil))))),
      board_eq_ok_iff.1 hb, mark_eq_ok_iff.1 hp, count_eq_ok_iff.1 ht, squares_eq_ok_iff.1 hm,
      outcome_eq_ok_iff.1 ho⟩
  · rintro ⟨jb, jp, jt, jm, jo, hparts, hb, hp, ht, hm, ho⟩
    cases hparts with
    | fields h =>
      simp only [Json.gameFields, List.forall₂_cons] at h
      obtain ⟨hjb, hjp, hjt, hjm, hjo, -⟩ := h
      simp only [game, field?_of_lookup hjb (board_eq_ok_iff.2 hb),
        field?_of_lookup hjp (mark_eq_ok_iff.2 hp), field?_of_lookup hjt (count_eq_ok_iff.2 ht),
        field?_of_lookup hjm (squares_eq_ok_iff.2 hm),
        field?_of_lookup hjo (outcome_eq_ok_iff.2 ho)]
      rfl

theorem game_array_eq_ok_iff {items : List Json} {g : Game} :
    game (.array items) = .ok g ↔ g.DenotedBy (.array items) := by
  constructor
  · intro h
    simp only [game, bind_eq_ok_iff, element_eq_ok_iff, noMoreThan_eq_ok_iff] at h
    obtain ⟨_, ⟨b, h0, hb⟩, _, ⟨p, h1, hp⟩, _, ⟨t, h2, ht⟩, _, ⟨m, h3, hm⟩, _, ⟨o, h4, ho⟩, _,
      hlength, h⟩ := h
    cases h
    have hitems : items = [b, p, t, m, o] := by
      apply eq_of_map_getElem? _ hlength
      show [items[0]?, items[1]?, items[2]?, items[3]?, items[4]?] =
        [some b, some p, some t, some m, some o]
      rw [h0, h1, h2, h3, h4]
    subst hitems
    exact ⟨b, p, t, m, o, .items rfl, board_eq_ok_iff.1 hb, mark_eq_ok_iff.1 hp,
      count_eq_ok_iff.1 ht, squares_eq_ok_iff.1 hm, outcome_eq_ok_iff.1 ho⟩
  · rintro ⟨b, p, t, m, o, hparts, hb, hp, ht, hm, ho⟩
    cases hparts with
    | items _ =>
      simp only [game, element, List.getElem?_cons_zero, List.getElem?_cons_succ,
        board_eq_ok_iff.2 hb, mark_eq_ok_iff.2 hp, count_eq_ok_iff.2 ht, squares_eq_ok_iff.2 hm,
        outcome_eq_ok_iff.2 ho]
      rfl

theorem game_eq_ok_iff {j : Json} {g : Game} : game j = .ok g ↔ g.DenotedBy j := by
  cases j with
  | object fields => exact game_object_eq_ok_iff
  | array items => exact game_array_eq_ok_iff
  | _ =>
    constructor
    · intro h
      cases h
    · rintro ⟨_, _, _, _, _, hparts, -⟩
      cases hparts

/-- A game is read from the values that denote it and from no others.  Whether a board
or a game comes as fields or in order is no part of what it denotes. -/
theorem game_eq_ok_iff_denotedBy :
    (∀ j g, game j = .ok g ↔ g.DenotedBy j) ∧
    (∀ j k, j.SameParts Json.boardFields k → ∀ b, board j = .ok b ↔ board k = .ok b) ∧
    ∀ j k b c rest, j.Parts Json.gameFields (b :: rest) → k.Parts Json.gameFields (c :: rest) →
      b = c ∨ b.SameParts Json.boardFields c → ∀ g, game j = .ok g ↔ game k = .ok g := by
  refine ⟨fun _ _ => game_eq_ok_iff, fun j k h b => ?_, fun j k b c rest hj hk h g => ?_⟩
  · rw [board_eq_ok_iff, board_eq_ok_iff]
    exact Board.denotedBy_iff_of_sameParts h
  · have hboard : g.board.DenotedBy b ↔ g.board.DenotedBy c := by
      rcases h with rfl | h
      · rfl
      · exact Board.denotedBy_iff_of_sameParts h
    rw [game_eq_ok_iff, game_eq_ok_iff]
    exact ⟨fun hg => hg.of_parts hj hk hboard.1, fun hg => hg.of_parts hk hj hboard.2⟩

/-- A turn that does not occur, a mark that nobody wrote and a draw on an open board. -/
def unrulyCells : Json :=
  .array
    [.array [.string "Empty", .string "Empty", .string "Empty"],
     .array [.string "Empty", .object [("O", .null)], .string "Empty"],
     .array [.object [("Empty", .null)], .string "Empty", .string "Empty"]]

def unrulyInOrder : Json :=
  .array
    [.array [unrulyCells], .string "X", .integer 0, .array [.string " C3\n"], .string "Draw"]

def unrulyByName : Json :=
  .object
    [("outcome", .string "Draw"), ("history", .array [.string " C3\n"]), ("mood", .null),
     ("turn", .integer 0), ("current_player", .string "X"),
     ("board", .object [("size", .integer 3), ("cells", unrulyCells)])]

/-- Both forms are read, and as one game, though no moves lead there. -/
theorem reads_unruly_both_forms :
    ∃ g, game unrulyInOrder = .ok g ∧ game unrulyByName = .ok g ∧ g.turn = 0 ∧
      g.history = [⟨2, 2⟩] ∧ g.outcome = .draw ∧ g.board.cell ⟨1, 1⟩ = some .o := by
  obtain ⟨-, -, hforms⟩ := game_eq_ok_iff_denotedBy
  have hparts : (game unrulyInOrder).toOption.map
      (fun g => (g.turn, g.history, g.outcome, g.board.cell ⟨1, 1⟩)) =
        some (0, [⟨2, 2⟩], .draw, some .o) := by
    decide +kernel
  have hboard : (Json.array [unrulyCells]).SameParts Json.boardFields
      (.object [("size", .integer 3), ("cells", unrulyCells)]) :=
    ⟨[unrulyCells], .items rfl, .fields (.cons rfl .nil)⟩
  have hsame := hforms unrulyInOrder unrulyByName _ _ _ (.items rfl)
    (.fields (.cons rfl (.cons rfl (.cons rfl (.cons rfl (.cons rfl .nil)))))) (.inr hboard)
  cases h : game unrulyInOrder with
  | error e =>
    rw [h] at hparts
    cases hparts
  | ok g =>
    rw [h] at hparts
    simp only [Except.toOption, Option.map_some, Option.some.injEq, Prod.mk.injEq] at hparts
    exact ⟨g, rfl, (hsame g).1 h, hparts⟩

end Decode
end Noughts
