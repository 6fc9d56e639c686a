import TypingAudit.Proofs.Text.Identifiers
import TypingAudit.Proofs.Text.Normalization
import TypingAudit.Source.Lexer

/-!
The names among the tokens of a text. A name is made of characters that may start or continue one, and none of these is
a quote or comes to a quote in the normal form.
-/

namespace TypingAudit.Source

open Text

def SoundToken (t : Token) : Prop := ∀ text, t.lexeme = .name text → '\'' ∉ text.toList

theorem soundToken_of_other {lexeme : Lexeme} {pos : Position} (other : ∀ text, lexeme ≠ .name text) :
    SoundToken ⟨lexeme, pos⟩ :=
  fun text same => absurd same (other text)

namespace Lexer

theorem quote_notMem_of_word {chars : List Char} {text : String}
    (found : word normalizeName chars = some (.name text)) : '\'' ∉ text.toList := by
  have inert : ∀ {c : Char}, isNameContinue c = true → c ≠ '\'' := by
    intro c continues
    have kept := (Bool.and_eq_true_iff.1 (inert_of_isNameContinue continues)).1
    exact (ne_quote_of_isInert kept).1
  unfold word at found
  dsimp only at found
  split at found
  · cases found
  · cases chars with
    | nil => cases found
    | cons first rest =>
      dsimp only at found
      split at found <;> cases found
      rename_i named
      obtain ⟨starts, continues⟩ := Bool.and_eq_true_iff.1 named
      have clean : '\'' ∉ first :: rest := by
        intro among
        rcases List.mem_cons.1 among with same | later
        · exact inert (isNameContinue_of_isNameStart starts) same.symm
        · exact inert (List.all_eq_true.1 continues _ later) rfl
      rw [String.toList_ofList]
      exact quote_notMem_normalizeName clean

theorem soundToken_of_scanToken {brackets nested : List Char} {cursor after : Cursor} {lexeme : Lexeme}
    (found : scanToken normalizeName brackets cursor = some (lexeme, nested, after)) (pos : Position) :
    SoundToken ⟨lexeme, pos⟩ := by
  rintro text rfl
  unfold scanToken at found
  split at found
  · cases found
  · split at found
    · obtain ⟨_, -, same⟩ := Option.map_eq_some_iff.1 found
      cases same
    · split at found
      · split at found
        · obtain ⟨_, -, same⟩ := Option.map_eq_some_iff.1 found
          cases same
        · obtain ⟨lexeme, spelled, same⟩ := Option.map_eq_some_iff.1 found
          cases same
          exact quote_notMem_of_word spelled
      · split at found
        · obtain ⟨_, -, same⟩ := Option.map_eq_some_iff.1 found
          cases same
        · obtain ⟨symbol, -, found⟩ := Option.bind_eq_some_iff.1 found
          obtain ⟨nested, -, found⟩ := Option.bind_eq_some_iff.1 found
          cases found

theorem soundToken_of_layout {line : Indent} {pos : Position} {indents left : List Indent} {tokens : List Token}
    (laid : layout line pos indents = some (tokens, left)) : ∀ t ∈ tokens, SoundToken t := by
  unfold layout at laid
  dsimp only at laid
  split at laid
  · split at laid <;> cases laid
    exact List.forall_mem_nil _
  · split at laid
    · split at laid
      · cases laid
      · split at laid <;> cases laid
        exact List.forall_mem_singleton.2 (soundToken_of_other nofun)
    · split at laid <;> cases laid
      intro t listed
      rw [(List.mem_replicate.1 listed).2]
      exact soundToken_of_other nofun

/-- The tokens so far are sound, and each step adds sound ones. -/
theorem soundToken_of_scanFrom {fuel : Nat} {state : State} {atStart : Bool} {cursor : Cursor} {acc tokens : List Token}
    (scanned : scanFrom normalizeName fuel state atStart cursor acc = some tokens) (held : ∀ t ∈ acc, SoundToken t) :
    ∀ t ∈ tokens, SoundToken t := by
  induction fuel generalizing state atStart cursor acc with
  | zero =>
    unfold scanFrom at scanned
    cases scanned
  | succ fuel ih =>
    cases atStart with
    | true =>
      unfold scanFrom at scanned
      split at scanned
      · obtain ⟨⟨line, after⟩, -, scanned⟩ := Option.bind_eq_some_iff.1 scanned
        dsimp only at scanned
        split at scanned
        · exact ih scanned held
        · split at scanned <;> exact ih scanned held
        · obtain ⟨⟨added, indents⟩, laid, scanned⟩ := Option.bind_eq_some_iff.1 scanned
          exact ih scanned (List.forall_mem_append.2 ⟨soundToken_of_layout laid, held⟩)
      · exact ih scanned held
    | false =>
      unfold scanFrom at scanned
      dsimp only at scanned
      split at scanned
      · split at scanned <;> cases scanned
        exact List.forall_mem_cons.2 ⟨soundToken_of_other nofun, held⟩
      · exact ih scanned held
      · split at scanned
        · exact ih scanned (List.forall_mem_cons.2 ⟨soundToken_of_other nofun, held⟩)
        · exact ih scanned held
      · split at scanned
        · exact ih scanned held
        · cases scanned
      · obtain ⟨⟨lexeme, brackets, after⟩, found, scanned⟩ := Option.bind_eq_some_iff.1 scanned
        exact ih scanned (List.forall_mem_cons.2 ⟨soundToken_of_scanToken found _, held⟩)

end Lexer

theorem soundToken_of_tokensAt {pos : Position} {chars : List Char} {tokens : List Token}
    (scanned : tokensAt normalizeName pos chars = some tokens) : ∀ t ∈ tokens, SoundToken t := by
  obtain ⟨reversed, found, rfl⟩ := Option.map_eq_some_iff.1 scanned
  intro t listed
  exact Lexer.soundToken_of_scanFrom found (List.forall_mem_nil _) t (List.mem_reverse.1 listed)

end TypingAudit.Source
