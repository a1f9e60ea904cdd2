import Mathlib.Data.List.Basic
import Noughts.Proofs.Terminal.Prompts

/-!
Lines handed out one by one.

A terminal that is asked for token after token hands out the lines of its input in
order and each of them once, whatever squares it is to offer and whichever of the
prompts get through (`Terminal.HandsOutLines`).  A prompt that fails takes nothing off the
input.  Any other takes the next line, with its newline and even if it is no text, and
says that the input is closed once nothing is left.

The squares of a prompt may lie anywhere, and those that can not be spelled are the only
obstacle: asked to offer one, the terminal ends in a fault before it writes or reads
anything (`Terminal.handsOutLines_iff_spellable`).
-/

namespace Noughts
namespace Terminal

/-- A call for a token.  The channel for the prompt may have come to any state by then. -/
structure Inquiry where
  prompts : Channel
  offered : List Square

namespace Inquiry

/-- Why the prompt does not get through, if it does not. -/
def failure? (q : Inquiry) : Except Fault (Option Channel.Failure) := do
  return q.prompts.failure? (Text.encode (← Drawing.prompt q.offered)).length

def Spellable (q : Inquiry) : Prop :=
  ∀ s ∈ q.offered, s.Spellable

end Inquiry

/-- What comes of a call: the answer, and the bytes that it took off the input. -/
structure Reply where
  answer : Except SessionError String
  taken : List UInt8

/-- The token of an answer, and nothing for an answer without one. -/
def Reply.text (r : Reply) : List Char :=
  match r.answer with
  | .ok token => token.toList
  | .error _ => []

def inquire (t : Terminal) (q : Inquiry) : Reply × Terminal :=
  let asked := (t.through q.prompts).ask q.offered
  ({ answer := asked.1, taken := t.input.take (t.input.length - asked.2.input.length) }, asked.2)

def inquireAll (t : Terminal) : List Inquiry → List Reply × Terminal
  | [] => ([], t)
  | q :: calls =>
    let (reply, next) := t.inquire q
    let (replies, last) := next.inquireAll calls
    (reply :: replies, last)

/-! ## What the calls should come to -/

/-- What a call should come to with some input left. -/
inductive Inquiry.Answered (q : Inquiry) : List UInt8 → Reply → Prop
  | failed {input : List UInt8} {f : Channel.Failure} (h : q.failure? = .ok (some f)) :
      q.Answered input ⟨.error (.input (.failed f.message)), []⟩
  | closed (h : q.failure? = .ok none) : q.Answered [] ⟨.error (.input .closed), []⟩
  | line {line rest : List UInt8} {token : String} (h : q.failure? = .ok none)
      (hline : LineReader.FirstLine line rest) (htoken : line = Text.encode token.toList) :
      q.Answered (line ++ rest) ⟨.ok token, line⟩
  | unreadable {line rest : List UInt8} (h : q.failure? = .ok none)
      (hline : LineReader.FirstLine line rest)
      (htext : ∀ token : String, line ≠ Text.encode token.toList) :
      q.Answered (line ++ rest)
        ⟨.error (.input (.failed "stream did not contain valid UTF-8")), line⟩

/-- The calls one after the other.  What one has taken is gone for the next. -/
inductive Handed : List UInt8 → List Inquiry → List Reply → Prop
  | nil {input : List UInt8} : Handed input [] []
  | cons {rest : List UInt8} {q : Inquiry} {calls : List Inquiry} {r : Reply}
      {replies : List Reply} (h : q.Answered (r.taken ++ rest) r)
      (hrest : Handed rest calls replies) : Handed (r.taken ++ rest) (q :: calls) (r :: replies)

/-- The lines of the input are handed out.  Together with what is left in the end they
make up the input, and nothing is left exactly where an answer says so. -/
structure HandsOutLines (t : Terminal) (calls : List Inquiry) : Prop where
  handed : Handed t.input calls (t.inquireAll calls).1
  consumed : (t.inquireAll calls).1.flatMap Reply.taken ++ (t.inquireAll calls).2.input = t.input
  inOrder : ((t.inquireAll calls).1.map Reply.taken).filter (· ≠ []) =
    (LineReader.lines t.input).take (calls.filter (·.failure? = .ok none)).length
  closed : ∀ i q r, calls[i]? = some q → (t.inquireAll calls).1[i]? = some r →
    q.failure? = .ok none → (r.answer = .error (.input .closed) ↔
      ((t.inquireAll calls).1.take i).flatMap Reply.taken = t.input)
  whole : (∀ line ∈ LineReader.lines t.input, ∃ token : String, line = Text.encode token.toList) →
    ∀ i r, (t.inquireAll calls).1[i]? = some r → r.answer = .error (.input .closed) →
      Text.encode (((t.inquireAll calls).1.take i).flatMap Reply.text) = t.input

/-! ## One call -/

variable {t next : Terminal} {q : Inquiry} {text : List Char} {input : List UInt8}

theorem Inquiry.failure?_of_prompt (h : Drawing.prompt q.offered = .ok text) :
    q.failure? = .ok (q.prompts.failure? (Text.encode text).length) := by
  simp only [failure?, h]
  rfl

theorem Inquiry.failure?_of_not_spellable (h : ¬ q.Spellable) : q.failure? = .error .overflow := by
  simp only [failure?, Drawing.prompt_of_not_spellable h]
  rfl

theorem inquire_of_kept {answer : Except SessionError String}
    (h : (t.through q.prompts).ask q.offered = (answer, next)) (hinput : next.input = t.input) :
    t.inquire q = (⟨answer, []⟩, next) := by
  simp only [inquire, h, hinput, Nat.sub_self, List.take_zero]

theorem inquire_of_not_spellable (t : Terminal) (h : ¬ q.Spellable) :
    t.inquire q = (⟨.error (.fault .overflow), []⟩, t.through q.prompts) := by
  have hask : (t.through q.prompts).ask q.offered =
      (.error (.fault .overflow), t.through q.prompts) := by
    simp only [ask, Drawing.prompt_of_not_spellable h]
  exact inquire_of_kept hask rfl

theorem inquire_of_failed {f : Channel.Failure} (htext : Drawing.prompt q.offered = .ok text)
    (h : q.prompts.failure? (Text.encode text).length = some f) :
    t.inquire q =
      (⟨.error (.input (.failed f.message)), []⟩, (t.through q.prompts).writePrompt text) :=
  inquire_of_kept (ask_through_of_some htext h) rfl

theorem inquire_of_closed (htext : Drawing.prompt q.offered = .ok text)
    (h : q.prompts.failure? (Text.encode text).length = none)
    (hline : LineReader.nextLine t.input = none) :
    t.inquire q = (⟨.error (.input .closed), []⟩, (t.through q.prompts).writePrompt text) := by
  have hread : ((t.through q.prompts).writePrompt text).readLine =
      (.error .closed, (t.through q.prompts).writePrompt text) := by
    have hline' : LineReader.nextLine ((t.through q.prompts).writePrompt text).input = none := hline
    rw [readLine, hline']
  have hask := ask_of_carried (t := t.through q.prompts) htext h
  rw [hread] at hask
  exact inquire_of_kept hask rfl

theorem inquire_of_line {line rest : List UInt8} (htext : Drawing.prompt q.offered = .ok text)
    (h : q.prompts.failure? (Text.encode text).length = none)
    (hline : LineReader.nextLine t.input = some (line, rest)) :
    t.inquire q = (⟨(lineToken line).mapError .input, line⟩,
      { (t.through q.prompts).writePrompt text with input := rest }) := by
  have hline' : LineReader.nextLine ((t.through q.prompts).writePrompt text).input =
      some (line, rest) := hline
  have htaken : t.input.take (t.input.length - rest.length) = line := by
    simp [← LineReader.append_of_nextLine hline]
  have hask := ask_of_carried (t := t.through q.prompts) htext h
  simp only [inquire, hask, readLine, hline', htaken]

theorem lineToken_cases (line : List UInt8) :
    (∃ token : String, line = Text.encode token.toList ∧ lineToken line = .ok token) ∨
      (∀ token : String, line ≠ Text.encode token.toList) ∧
        lineToken line = .error (.failed "stream did not contain valid UTF-8") := by
  cases htext : Text.decode? line with
  | some token =>
    exact .inl ⟨token, Text.decode?_eq_some_iff.1 htext, by simp only [lineToken, htext]⟩
  | none =>
    refine .inr ⟨fun token htoken => ?_, by simp only [lineToken, htext]⟩
    rw [Text.decode?_eq_some_iff.2 htoken] at htext
    cases htext

theorem answered_inquire (t : Terminal) (hq : q.Spellable) :
    q.Answered t.input (t.inquire q).1 ∧
      (t.inquire q).1.taken ++ (t.inquire q).2.input = t.input := by
  obtain ⟨text, htext⟩ := Drawing.exists_prompt hq
  have hfailure := Inquiry.failure?_of_prompt htext
  cases hf : q.prompts.failure? (Text.encode text).length with
  | some f =>
    rw [inquire_of_failed htext hf]
    exact ⟨.failed (hf ▸ hfailure), rfl⟩
  | none =>
    rw [hf] at hfailure
    cases hline : LineReader.nextLine t.input with
    | none =>
      rw [inquire_of_closed htext hf hline]
      refine ⟨?_, rfl⟩
      rw [LineReader.nextLine_eq_none_iff.1 hline]
      exact .closed hfailure
    | some split =>
      obtain ⟨line, rest⟩ := split
      have happend := LineReader.append_of_nextLine hline
      have hfirst := LineReader.firstLine_of_nextLine hline
      rw [inquire_of_line htext hf hline]
      refine ⟨?_, happend⟩
      rw [← happend]
      rcases lineToken_cases line with ⟨token, htoken, hanswer⟩ | ⟨hnone, hanswer⟩
      · rw [hanswer]
        exact .line hfailure hfirst htoken
      · rw [hanswer]
        exact .unreadable hfailure hfirst hnone

namespace Inquiry.Answered

variable {r : Reply}

theorem spellable (h : q.Answered input r) : q.Spellable := by
  refine Classical.byContradiction fun hq => ?_
  have hfault := failure?_of_not_spellable hq
  cases h with
  | failed h | closed h | line h | unreadable h =>
    rw [hfault] at h
    cases h

theorem closed_iff (h : q.Answered input r) :
    r.answer = .error (.input .closed) ↔ q.failure? = .ok none ∧ input = [] := by
  cases h with
  | failed h => simp [h]
  | closed h => simp [h]
  | line h hline => simp [h, LineReader.ne_nil_of_nextLine hline.nextLine]
  | unreadable h hline => simp [h, LineReader.ne_nil_of_nextLine hline.nextLine]

/-- What a call takes off the input is nothing or the first line. -/
theorem taken_cases (h : q.Answered input r) :
    q.failure? ≠ .ok none ∧ r.taken = [] ∨
      q.failure? = .ok none ∧ (r.taken = [] ∧ input = [] ∨
        ∃ rest, LineReader.nextLine input = some (r.taken, rest)) := by
  cases h with
  | failed h => exact .inl ⟨by simp [h], rfl⟩
  | closed h => exact .inr ⟨h, .inl ⟨rfl, rfl⟩⟩
  | line h hline => exact .inr ⟨h, .inr ⟨_, hline.nextLine⟩⟩
  | unreadable h hline => exact .inr ⟨h, .inr ⟨_, hline.nextLine⟩⟩

/-- A call that takes text returns it. -/
theorem taken_eq (h : q.Answered input r)
    (htext : r.taken ≠ [] → ∃ token : String, r.taken = Text.encode token.toList) :
    r.taken = Text.encode r.text := by
  cases h with
  | failed | closed => rfl
  | line h hline htoken => exact htoken
  | unreadable h hline hnone =>
    obtain ⟨token, htoken⟩ := htext (LineReader.ne_nil_of_nextLine hline.nextLine)
    exact absurd htoken (hnone token)

end Inquiry.Answered

/-! ## One call after the other -/

theorem handed_inquireAll (t : Terminal) {calls : List Inquiry} (h : ∀ q ∈ calls, q.Spellable) :
    Handed t.input calls (t.inquireAll calls).1 ∧
      (t.inquireAll calls).1.flatMap Reply.taken ++ (t.inquireAll calls).2.input = t.input := by
  induction calls generalizing t with
  | nil => exact ⟨.nil, rfl⟩
  | cons q calls ih =>
    obtain ⟨hq, hcalls⟩ := List.forall_mem_cons.1 h
    obtain ⟨hanswered, htaken⟩ := answered_inquire t hq
    obtain ⟨hhanded, hconsumed⟩ := ih (t.inquire q).2 hcalls
    constructor
    · rw [← htaken] at hanswered ⊢
      exact .cons hanswered hhanded
    · simp only [inquireAll, List.flatMap_cons, List.append_assoc, hconsumed, htaken]

namespace Handed

variable {calls : List Inquiry} {replies : List Reply} {r : Reply} {i : Nat}

theorem spellable (h : Handed input calls replies) : ∀ q ∈ calls, q.Spellable := by
  induction h with
  | nil => exact List.forall_mem_nil _
  | cons h _ ih => exact List.forall_mem_cons.2 ⟨h.spellable, ih⟩

/-- Each call is answered with what the calls before it have left. -/
theorem exists_answered (h : Handed input calls replies) (hr : replies[i]? = some r) :
    ∃ q left, calls[i]? = some q ∧ (replies.take i).flatMap Reply.taken ++ left = input ∧
      q.Answered left r := by
  -- The first call finds all of the input, and a later one is a call of the run that follows.
  induction h generalizing i with
  | nil => cases hr
  | @cons rest q calls first replies h _ ih =>
    cases i with
    | zero =>
      cases hr
      exact ⟨q, _, rfl, rfl, h⟩
    | succ i =>
      obtain ⟨q, left, hq, hleft, hanswered⟩ := ih hr
      refine ⟨q, left, hq, ?_, hanswered⟩
      rw [List.take_succ_cons, List.flatMap_cons, List.append_assoc, hleft]

theorem inOrder (h : Handed input calls replies) :
    (replies.map Reply.taken).filter (· ≠ []) =
      (LineReader.lines input).take (calls.filter (·.failure? = .ok none)).length := by
  -- A call that is counted takes the next line, until none is left to be counted against it.
  induction h with
  | nil => rfl
  | @cons rest q calls r replies h _ ih =>
    rcases h.taken_cases with ⟨hq, hnil⟩ | ⟨hq, ⟨hnil, hinput⟩ | ⟨later, hline⟩⟩
    · simpa [hq, hnil] using ih
    · rw [hnil, List.nil_append] at hinput
      subst hinput
      have hlines : LineReader.lines [] = [] := LineReader.lines_of_none rfl
      simpa [hq, hnil, hlines] using ih
    · have hne := LineReader.ne_nil_of_nextLine hline
      obtain rfl : rest = later :=
        (List.append_cancel_left (LineReader.append_of_nextLine hline)).symm
      simpa [hq, hne, LineReader.lines_of_some hline] using ih

theorem closed_iff {q : Inquiry} (h : Handed input calls replies) (hq : calls[i]? = some q)
    (hr : replies[i]? = some r) (hcarried : q.failure? = .ok none) :
    r.answer = .error (.input .closed) ↔ (replies.take i).flatMap Reply.taken = input := by
  obtain ⟨q', left, hq', rfl, hanswered⟩ := h.exists_answered hr
  obtain rfl : q' = q := Option.some.inj (hq'.symm.trans hq)
  rw [hanswered.closed_iff, and_iff_right hcarried, List.self_eq_append_right]

theorem taken_of_closed (h : Handed input calls replies) (hr : replies[i]? = some r)
    (hclosed : r.answer = .error (.input .closed)) :
    (replies.take i).flatMap Reply.taken = input := by
  obtain ⟨q, left, hq, -, hanswered⟩ := h.exists_answered hr
  exact (h.closed_iff hq hr (hanswered.closed_iff.1 hclosed).1).1 hclosed

theorem taken_eq (h : Handed input calls replies)
    (htext : ∀ line ∈ LineReader.lines input, ∃ token : String, line = Text.encode token.toList) :
    ∀ r ∈ replies, r.taken = Text.encode r.text := by
  intro r hr
  obtain ⟨i, hi⟩ := List.mem_iff_getElem?.1 hr
  obtain ⟨q, left, -, -, hanswered⟩ := h.exists_answered hi
  refine hanswered.taken_eq fun hne => htext _ ?_
  apply List.mem_of_mem_take
  rw [← h.inOrder]
  exact List.mem_filter.2 ⟨List.mem_map_of_mem hr, by simpa using hne⟩

theorem whole (h : Handed input calls replies)
    (htext : ∀ line ∈ LineReader.lines input, ∃ token : String, line = Text.encode token.toList)
    (hr : replies[i]? = some r) (hclosed : r.answer = .error (.input .closed)) :
    Text.encode ((replies.take i).flatMap Reply.text) = input := by
  calc Text.encode ((replies.take i).flatMap Reply.text)
      = (replies.take i).flatMap fun r => Text.encode r.text := List.flatMap_assoc
    _ = (replies.take i).flatMap Reply.taken := List.flatMap_congr fun r hr =>
        (h.taken_eq htext r (List.mem_of_mem_take hr)).symm
    _ = input := h.taken_of_closed hr hclosed

end Handed

theorem handsOutLines_of_spellable (t : Terminal) {calls : List Inquiry}
    (h : ∀ q ∈ calls, q.Spellable) : t.HandsOutLines calls :=
  have hhanded := (handed_inquireAll t h).1
  { handed := hhanded
    consumed := (handed_inquireAll t h).2
    inOrder := hhanded.inOrder
    closed := fun _ _ _ => hhanded.closed_iff
    whole := fun htext _ _ => hhanded.whole htext }

/-- The lines are handed out, whatever the input and whichever prompts get through, exactly
if all squares that are offered can be spelled.  Any other call ends in a fault and leaves
the input as it is. -/
theorem handsOutLines_iff_spellable (t : Terminal) (calls : List Inquiry) :
    (t.HandsOutLines calls ↔ ∀ q ∈ calls, q.Spellable) ∧
      ∀ (u : Terminal) (q : Inquiry), ¬ q.Spellable →
        u.inquire q = (⟨.error (.fault .overflow), []⟩, u.through q.prompts) :=
  ⟨⟨fun h => h.handed.spellable, handsOutLines_of_spellable t⟩,
    fun u _ => inquire_of_not_spellable u⟩

/-- The second prompt fails, and the second line is no text. -/
example : ((fresh [97, 49, 10, 255, 10, 98, 50] .reliable .reliable).inquireAll
    [⟨.reliable, []⟩, ⟨.clogged, []⟩, ⟨.reliable, []⟩, ⟨.reliable, []⟩]).1.map Reply.taken =
      [[97, 49, 10], [], [255, 10], [98, 50]] := by
  decide +kernel

/-- A line is there to be read, and the square that is offered can not be spelled. -/
theorem not_handsOutLines_last_column :
    ¬ (fresh (Text.encode "a1\n".toList) .reliable .reliable).HandsOutLines
      [⟨.reliable, [⟨0, 18446744073709551615⟩]⟩] := by
  intro h
  have hspellable := h.handed.spellable _ List.mem_cons_self _ List.mem_cons_self
  exact absurd hspellable (by decide)

end Terminal
end Noughts
