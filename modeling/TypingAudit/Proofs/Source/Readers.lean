import TypingAudit.Source.Grammar.Params

/-!
What readers come to. A property of tokens that all tokens of a sequence have is kept by whatever is read off its front,
so it can be used to say of which kind the results are. Each way of putting readers together carries this along.
-/

namespace TypingAudit.Source.Grammar

open Ast

/-- Where all tokens are sound, what a reader comes to, if it comes to anything, is of a certain kind, and the tokens it
leaves are sound. -/
def Yields {α : Type} (sound : Token → Prop) (kind : α → Prop) (p : Parser α) : Prop :=
  ∀ tokens a rest, (∀ t ∈ tokens, sound t) → p tokens = some (a, rest) → kind a ∧ ∀ t ∈ rest, sound t

namespace Yields

variable {α β : Type} {sound : Token → Prop} {kind : α → Prop} {p q : Parser α}

theorem mono {wider : α → Prop} (first : Yields sound kind p) (widen : ∀ a, kind a → wider a) :
    Yields sound wider p := by
  intro tokens a rest held read
  obtain ⟨holds, left⟩ := first tokens a rest held read
  exact ⟨widen a holds, left⟩

theorem passes (first : Yields sound kind p) : Yields sound (fun _ => True) p := first.mono fun _ _ => trivial

section Sequencing

theorem pure {a : α} (holds : kind a) : Yields sound kind (pure a) := by
  intro tokens b rest held read
  cases read
  exact ⟨holds, held⟩

theorem done {a : α} : Yields sound (fun _ => True) (Pure.pure a) := pure trivial

theorem failure : Yields sound kind failure := by
  intro tokens a rest held read
  cases read

theorem bind {known : β → Prop} {p : Parser β} {f : β → Parser α} (first : Yields sound known p)
    (each : ∀ b, known b → Yields sound kind (f b)) : Yields sound kind (p >>= f) := by
  intro tokens a rest held read
  obtain ⟨⟨b, middle⟩, earlier, later⟩ := Option.bind_eq_some_iff.1 read
  obtain ⟨holds, left⟩ := first tokens b middle held earlier
  exact each b holds middle a rest left later

theorem andThen {known : β → Prop} {p : Parser β} {f : β → Parser α} (first : Yields sound known p)
    (each : ∀ b, Yields sound kind (f b)) : Yields sound kind (p >>= f) :=
  bind first fun b _ => each b

/-- Where nothing is asked of tokens, any reader may come first. -/
theorem after {p : Parser β} {f : β → Parser α} (each : ∀ b, Yields (fun _ => True) kind (f b)) :
    Yields (fun _ => True) kind (p >>= f) := by
  have first : Yields (fun _ => True) (fun _ => True) p := fun _ _ _ _ _ => ⟨trivial, fun _ _ => trivial⟩
  exact andThen first each

theorem failed {f : β → Parser α} : Yields sound kind (Alternative.failure >>= f) := by
  intro tokens a rest held read
  cases read

theorem map {known : β → Prop} {p : Parser β} {f : β → α} (first : Yields sound known p)
    (each : ∀ b, known b → kind (f b)) : Yields sound kind (f <$> p) := by
  rw [← bind_pure_comp]
  exact bind first fun b holds => pure (each b holds)

theorem mapped {known : β → Prop} {p : Parser β} {f : β → α} (first : Yields sound known p) :
    Yields sound (fun _ => True) (f <$> p) :=
  map first fun _ _ => trivial

theorem orFail {found : Option α} (holds : ∀ a, found = some a → kind a) : Yields sound kind (orFail found) := by
  cases found with
  | none => exact failure
  | some a => exact pure (holds a rfl)

theorem ite {condition : Prop} [Decidable condition] (first : Yields sound kind p) (second : Yields sound kind q) :
    Yields sound kind (if condition then p else q) := by
  split
  · exact first
  · exact second

end Sequencing

section Tokens

theorem peek : Yields sound (fun next => ∀ lexeme ∈ next, ∃ pos, sound ⟨lexeme, pos⟩) peek := by
  intro tokens next rest held read
  cases read
  refine ⟨?_, held⟩
  intro lexeme found
  obtain ⟨token, first, rfl⟩ := Option.map_eq_some_iff.1 found
  exact ⟨token.pos, held token (List.mem_of_head? first)⟩

theorem here : Yields sound (fun _ => True) here := by
  intro tokens pos rest held read
  cases tokens with
  | nil => cases read
  | cons token tokens =>
    cases read
    exact ⟨trivial, held⟩

theorem skip : Yields sound (fun _ => True) skip := by
  intro tokens a rest held read
  cases tokens with
  | nil => cases read
  | cons token tokens =>
    cases read
    exact ⟨trivial, fun t later => held t (List.mem_cons_of_mem _ later)⟩

theorem nextIs {test : Lexeme → Bool} : Yields sound (fun _ => True) (nextIs test) := by
  intro tokens a rest held read
  unfold Grammar.nextIs at read
  split at read <;> cases read <;> exact ⟨trivial, held⟩

theorem eat {test : Lexeme → Bool} : Yields sound (fun _ => True) (eat test) := by
  intro tokens a rest held read
  unfold Grammar.eat at read
  split at read
  · split at read <;> cases read
    · exact ⟨trivial, fun t later => held t (List.mem_cons_of_mem _ later)⟩
    · exact ⟨trivial, held⟩
  · cases read
    exact ⟨trivial, held⟩

theorem require {test : Lexeme → Bool} : Yields sound (fun _ => True) (require test) :=
  .andThen .eat fun _ => .ite (.pure trivial) .failure

theorem name : Yields sound (fun text => ∃ pos, sound ⟨.name text, pos⟩) name := by
  intro tokens text rest held read
  unfold Grammar.name at read
  split at read <;> cases read
  exact ⟨⟨_, held _ List.mem_cons_self⟩, fun t later => held t (List.mem_cons_of_mem _ later)⟩

theorem softKeyword {text : String} : Yields sound (fun _ => True) (softKeyword text) := by
  intro tokens a rest held read
  unfold Grammar.softKeyword at read
  split at read
  · split at read <;> cases read
    exact ⟨trivial, fun t later => held t (List.mem_cons_of_mem _ later)⟩
  · cases read

end Tokens

section Repetition

theorem optional (each : Yields sound kind p) : Yields sound (fun found => ∀ a ∈ found, kind a) (optional p) := by
  intro tokens found rest held read
  unfold Grammar.optional at read
  split at read <;> cases read
  next a stepped =>
    obtain ⟨holds, left⟩ := each tokens a rest held stepped
    refine ⟨?_, left⟩
    intro b found
    cases found
    exact holds
  next =>
    refine ⟨?_, held⟩
    intro b found
    cases found

theorem many (each : Yields sound kind p) (limit : Nat) :
    Yields sound (fun found => ∀ a ∈ found, kind a) (many p limit) := by
  induction limit with
  | zero => exact failure
  | succ limit ih =>
    intro tokens found rest held read
    simp only [Grammar.many] at read
    split at read
    · cases read
      exact ⟨List.forall_mem_nil _, held⟩
    next a middle stepped =>
      obtain ⟨holds, left⟩ := each tokens a middle held stepped
      obtain ⟨⟨later, last⟩, further, same⟩ := Option.map_eq_some_iff.1 read
      cases same
      obtain ⟨others, leftLast⟩ := ih middle later last left further
      exact ⟨List.forall_mem_cons.2 ⟨holds, others⟩, leftLast⟩

theorem repeated (each : Yields sound (fun _ => True) p) {limit : Nat} :
    Yields sound (fun _ => True) (Grammar.many p limit) :=
  (many each limit).passes

theorem many1 (each : Yields sound kind p) {limit : Nat} :
    Yields sound (fun found => ∀ a ∈ found, kind a) (many1 p limit) :=
  .bind each fun _ first => .bind (.many each limit) fun _ later => .pure (List.forall_mem_cons.2 ⟨first, later⟩)

theorem commaSeparated (each : Yields sound kind p) {limit : Nat} :
    Yields sound (fun found => ∀ a ∈ found, kind a) (commaSeparated p limit) :=
  .bind each fun _ first => .bind (.many (.andThen .require fun _ => each) limit) fun _ later =>
    .pure (List.forall_mem_cons.2 ⟨first, later⟩)

theorem extendWhile {step : α → Parser α} (keeps : ∀ a, kind a → Yields sound kind (step a)) (limit : Nat) {start : α}
    (holds : kind start) : Yields sound kind (extendWhile step limit start) := by
  induction limit generalizing start with
  | zero => exact failure
  | succ limit ih =>
    intro tokens a rest held read
    simp only [Grammar.extendWhile] at read
    split at read
    · cases read
      exact ⟨holds, held⟩
    next b middle stepped =>
      obtain ⟨holdsNext, left⟩ := keeps start holds tokens b middle held stepped
      exact ih holdsNext middle a rest left read

end Repetition

end Yields

end TypingAudit.Source.Grammar
