import TypingAudit.Command.Usage
import TypingAudit.Proofs.Computation

/-!
What an accepted command line gives. One word at a time is taken, and each is a value that was awaited, a switch,
a setting with or without its value, or no option at all; from this it follows which words an option of the
result comes from.
-/

namespace TypingAudit.Command

/-- All that taking a word can do to the options and to the setting that awaits its value. -/
inductive Progress.Takes (p next : Progress) : Word → Prop where
  | awaited (s : Setting) (value : String) (pending : p.pending = some s)
      (applied : applySetting p.options s value = .ok next.options) : Takes p next (.plain value)
  | switch (s : Switch) (spelling : String) (applied : applySwitch p.options s = .ok next.options) :
      Takes p next (.option (.switch s) spelling none)
  | attached (s : Setting) (spelling value : String)
      (applied : applySetting p.options s value = .ok next.options) :
      Takes p next (.option (.setting s) spelling (some value))
  | opened (s : Setting) (spelling : String) (pending : next.pending = some s)
      (same : next.options = p.options) : Takes p next (.option (.setting s) spelling none)
  | passed (word : Word) (plain : ∀ flag spelling attached, word ≠ .option flag spelling attached)
      (free : p.pending = none) (same : next.options = p.options) : Takes p next word

open Progress

theorem takes_of_takeOption {p next : Progress} {flag : Flag} {spelling : String} {attached : Option String}
    (taken : p.takeOption flag spelling attached = .ok next) :
    p.Takes next (.option flag spelling attached) := by
  cases flag with
  | switch s =>
    cases attached with
    | some text => cases taken
    | none =>
      obtain ⟨options, applied, rfl⟩ := map_eq_ok_iff.1 taken
      exact .switch s spelling applied
  | setting s =>
    cases attached with
    | some value =>
      obtain ⟨options, applied, rfl⟩ := map_eq_ok_iff.1 taken
      exact .attached s spelling value applied
    | none =>
      cases taken
      exact .opened s spelling rfl rfl

theorem takePlain_options (p : Progress) (word : Word) : (p.takePlain word).options = p.options := by
  unfold takePlain
  split <;> rfl

theorem takes_of_step {p next : Progress} {word : Word} (taken : p.step word = .ok next) :
    p.Takes next word := by
  unfold step at taken
  cases pending : p.pending with
  | some s =>
    rw [pending] at taken
    cases word with
    | plain value =>
      obtain ⟨options, applied, rfl⟩ := map_eq_ok_iff.1 taken
      exact .awaited s value pending applied
    | _ => cases taken
  | none =>
    rw [pending] at taken
    cases word with
    | option flag spelling attached =>
      cases takes_of_takeOption taken with
      | switch s spelling applied => exact .switch s spelling applied
      | attached s spelling value applied => exact .attached s spelling value applied
      | opened s spelling awaits same => exact .opened s spelling awaits same
      | passed word plain => exact absurd rfl (plain _ _ _)
    | unknown text =>
      cases taken
      exact .passed _ (by simp) pending rfl
    | _ =>
      cases taken
      exact .passed _ (by simp) pending (takePlain_options p _)

def Options.isOn (o : Options) : Switch → Bool
  | .help => false
  | .ci => o.ci
  | .skipErrors => o.skipErrors
  | .listFindings => o.listFindings
  | .noColor => o.noColor

section Options

variable {o next : Options} {switch : Switch} {setting : Setting} {value : String}

theorem applySwitch_isOn (applied : applySwitch o switch = .ok next) (s : Switch) :
    next.isOn s = (o.isOn s || decide (switch = s)) := by
  cases switch <;> cases applied <;> cases s <;> simp [Options.isOn]

theorem applySwitch_disable (applied : applySwitch o switch = .ok next) : next.disable = o.disable := by
  cases switch <;> cases applied <;> rfl

theorem applySetting_isOn (applied : applySetting o setting value = .ok next) (s : Switch) :
    next.isOn s = o.isOn s := by
  obtain ⟨-, -, changed⟩ := bind_eq_ok_iff.1 applied
  cases setting with
  | jobs =>
    obtain ⟨jobs, -, set⟩ := bind_eq_ok_iff.1 changed
    cases set
    cases s <;> rfl
  | _ =>
    cases changed
    cases s <;> rfl

theorem applySetting_disable (applied : applySetting o setting value = .ok next) :
    next.disable = o.disable ++ if setting = .disable then [givenText value] else [] := by
  obtain ⟨-, -, changed⟩ := bind_eq_ok_iff.1 applied
  cases setting with
  | jobs =>
    obtain ⟨jobs, -, set⟩ := bind_eq_ok_iff.1 changed
    cases set
    simp
  | _ =>
    cases changed
    simp

end Options

section Step

variable {p next : Progress} {word : Word}

theorem step_isOn (taken : p.step word = .ok next) (given : Switch) :
    next.options.isOn given = true ↔
      p.options.isOn given = true ∨ ∃ spelling, word = .option (.switch given) spelling none := by
  cases takes_of_step taken with
  | awaited s value pending applied => simp [applySetting_isOn applied]
  | switch s spelling applied => simp [applySwitch_isOn applied]
  | attached s spelling value applied => simp [applySetting_isOn applied]
  | opened s spelling pending same => simp [same]
  | passed _ plain free same => simp [same, plain]

theorem step_keeps_disable (given : Given String) (taken : p.step word = .ok next)
    (member : given ∈ p.options.disable) : given ∈ next.options.disable := by
  cases takes_of_step taken with
  | awaited s value pending applied => simp [applySetting_disable applied, member]
  | switch s spelling applied => simpa [applySwitch_disable applied] using member
  | attached s spelling value applied => simp [applySetting_disable applied, member]
  | opened s spelling pending same => simpa [same] using member
  | passed _ plain free same => simpa [same] using member

theorem step_attached {spelling value : String}
    (taken : p.step (.option (.setting .disable) spelling (some value)) = .ok next) :
    givenText value ∈ next.options.disable := by
  cases takes_of_step taken with
  | attached s spelling value applied => simp [applySetting_disable applied]
  | passed _ plain => exact absurd rfl (plain _ _ _)

theorem step_opened {setting : Setting} {spelling : String}
    (taken : p.step (.option (.setting setting) spelling none) = .ok next) : next.pending = some setting := by
  cases takes_of_step taken with
  | opened s spelling pending same => exact pending
  | passed _ plain => exact absurd rfl (plain _ _ _)

theorem step_awaited {value : String} (pending : p.pending = some .disable)
    (taken : p.step (.plain value) = .ok next) : givenText value ∈ next.options.disable := by
  cases takes_of_step taken with
  | awaited s value awaiting applied =>
    rw [pending] at awaiting
    cases awaiting
    simp [applySetting_disable applied]
  | passed _ plain free same =>
    rw [pending] at free
    cases free

end Step

/-- The command line has the switch. -/
def SwitchGiven (s : Switch) (arguments : List String) : Prop :=
  ∃ words spelling, readWords arguments = .ok words ∧ Word.option (.switch s) spelling none ∈ words

/-- The command line gives the value to the setting, attached to it or as the next word. -/
def ValueGiven (s : Setting) (value : String) (arguments : List String) : Prop :=
  ∃ words spelling, readWords arguments = .ok words ∧
    (Word.option (.setting s) spelling (some value) ∈ words ∨
      [Word.option (.setting s) spelling none, Word.plain value] <:+: words)

theorem foldlM_isOn {words : List Word} {p last : Progress} (read : words.foldlM step p = .ok last)
    (given : Switch) :
    last.options.isOn given = true ↔
      p.options.isOn given = true ∨ ∃ spelling, Word.option (.switch given) spelling none ∈ words := by
  induction words generalizing p with
  | nil =>
    cases read
    simp
  | cons word words ih =>
    rw [List.foldlM_cons, bind_eq_ok_iff] at read
    obtain ⟨next, taken, rest⟩ := read
    rw [ih rest, step_isOn taken]
    simp only [List.mem_cons, exists_or, or_assoc, eq_comm]

theorem foldlM_disable {words : List Word} {p last : Progress} {spelling value : String}
    (read : words.foldlM step p = .ok last)
    (given : Word.option (.setting .disable) spelling (some value) ∈ words ∨
      [Word.option (.setting .disable) spelling none, Word.plain value] <:+: words) :
    givenText value ∈ last.options.disable := by
  have kept (after : List Word) (next : Progress) (rest : after.foldlM step next = .ok last)
      (member : givenText value ∈ next.options.disable) : givenText value ∈ last.options.disable :=
    foldlM_keeps (fun p => givenText value ∈ p.options.disable)
      (fun _ _ _ => step_keeps_disable (givenText value)) after next last rest member
  rcases given with attached | ⟨before, after, rfl⟩
  · obtain ⟨before, after, rfl⟩ := List.append_of_mem attached
    rw [List.foldlM_append, bind_eq_ok_iff] at read
    obtain ⟨reached, -, rest⟩ := read
    rw [List.foldlM_cons, bind_eq_ok_iff] at rest
    obtain ⟨next, taken, rest⟩ := rest
    exact kept after next rest (step_attached taken)
  · rw [List.append_assoc, List.foldlM_append, bind_eq_ok_iff] at read
    obtain ⟨reached, -, rest⟩ := read
    simp only [List.cons_append, List.nil_append, List.foldlM_cons, bind_eq_ok_iff] at rest
    obtain ⟨opened, opening, next, taken, rest⟩ := rest
    exact kept after next rest (step_awaited (step_opened opening) taken)

theorem finish_options {p : Progress} {o : Options} (finished : p.finish = .ok o) :
    (∀ s, o.isOn s = p.options.isOn s) ∧ o.disable = p.options.disable := by
  unfold finish at finished
  split at finished
  · cases finished
  · split at finished
    · cases finished
      split
      · exact ⟨fun _ => rfl, rfl⟩
      · exact ⟨fun s => by cases s <;> rfl, rfl⟩
    · cases finished

theorem readOptions_eq_ok_iff {arguments : List String} {o : Options} :
    readOptions arguments = .ok o ↔
      ∃ words last, readWords arguments = .ok words ∧ words.foldlM step .start = .ok last ∧
        last.finish = .ok o := by
  simp only [readOptions, bind_eq_ok_iff, mapError_eq_ok_iff]
  constructor
  · rintro ⟨words, split, last, read, finished⟩
    exact ⟨words, last, split, read, finished⟩
  · rintro ⟨words, last, split, read, finished⟩
    exact ⟨words, split, last, read, finished⟩

/-- A switch is on exactly when the command line has it. -/
theorem isOn_iff_given {arguments : List String} {o : Options} (accepted : readOptions arguments = .ok o)
    (s : Switch) : o.isOn s = true ↔ SwitchGiven s arguments := by
  obtain ⟨words, last, split, read, finished⟩ := readOptions_eq_ok_iff.1 accepted
  have off : Options.isOn .default s = false := by cases s <;> rfl
  rw [(finish_options finished).1, foldlM_isOn read]
  simp [SwitchGiven, split, start, off]

theorem ci_iff_given {arguments : List String} {o : Options} (accepted : readOptions arguments = .ok o) :
    o.ci = true ↔ SwitchGiven .ci arguments :=
  isOn_iff_given accepted .ci

theorem mem_disable_of_given {arguments : List String} {o : Options} {value : String}
    (accepted : readOptions arguments = .ok o) (given : ValueGiven .disable value arguments) :
    givenText value ∈ o.disable := by
  obtain ⟨words, last, split, read, finished⟩ := readOptions_eq_ok_iff.1 accepted
  obtain ⟨words', spelling, split', occurs⟩ := given
  rw [split] at split'
  cases split'
  rw [(finish_options finished).2]
  exact foldlM_disable read occurs

section Disabling

def Options.disabling (o : Options) (codes : List (Given String)) : Options :=
  { o with disable := codes ++ o.disable }

def Progress.disabling (p : Progress) (codes : List (Given String)) : Progress :=
  { p with options := p.options.disabling codes }

variable (codes : List (Given String))

theorem applySwitch_disabling (o : Options) (s : Switch) :
    applySwitch (o.disabling codes) s = (applySwitch o s).map (·.disabling codes) := by
  cases s <;> rfl

theorem applySetting_disabling (o : Options) (s : Setting) (value : String) :
    applySetting (o.disabling codes) s value = (applySetting o s value).map (·.disabling codes) := by
  unfold applySetting
  dsimp only
  cases checkChoice s (givenText value) with
  | error refusal => rfl
  | ok accepted =>
    cases s with
    | disable =>
      change Except.ok { o with disable := codes ++ o.disable ++ [givenText value] } =
        Except.ok { o with disable := codes ++ (o.disable ++ [givenText value]) }
      rw [List.append_assoc]
    | jobs => cases jobsOf (givenText value) <;> rfl
    | _ => rfl

/-- What a word does does not depend on the codes that are already left out. -/
theorem step_disabling (p : Progress) (word : Word) :
    (p.disabling codes).step word = (p.step word).map (·.disabling codes) := by
  obtain ⟨options, group, paths, pending, unrecognized⟩ := p
  cases pending with
  | some s =>
    cases word with
    | plain value =>
      change (applySetting (options.disabling codes) s value).map _ = ((applySetting options s value).map _).map _
      rw [applySetting_disabling]
      cases applySetting options s value <;> rfl
    | _ => rfl
  | none =>
    cases word with
    | option flag spelling attached =>
      cases flag with
      | switch s =>
        cases attached with
        | some text => rfl
        | none =>
          change (applySwitch (options.disabling codes) s).map _ = ((applySwitch options s).map _).map _
          rw [applySwitch_disabling]
          cases applySwitch options s <;> rfl
      | setting s =>
        cases attached with
        | none => rfl
        | some value =>
          change (applySetting (options.disabling codes) s value).map _ = ((applySetting options s value).map _).map _
          rw [applySetting_disabling]
          cases applySetting options s value <;> rfl
    | unknown text => rfl
    | plain text => cases group <;> rfl
    | separator => cases group <;> rfl

theorem foldlM_disabling (words : List Word) (p : Progress) :
    words.foldlM step (p.disabling codes) = (words.foldlM step p).map (·.disabling codes) := by
  induction words generalizing p with
  | nil => rfl
  | cons word words ih =>
    rw [List.foldlM_cons, List.foldlM_cons, step_disabling]
    cases p.step word with
    | error refusal => rfl
    | ok next => exact ih next

theorem finish_disabling (p : Progress) : (p.disabling codes).finish = p.finish.map (·.disabling codes) := by
  obtain ⟨options, group, paths, pending, unrecognized⟩ := p
  cases pending with
  | some s => rfl
  | none => cases unrecognized <;> cases paths <;> rfl

theorem readWord_of_code {code : String} (listed : code ∈ Audit.Code.all) :
    code ≠ "--" ∧ readWord code = .ok (.plain code) ∧ givenText code = .value code ∧
      checkChoice .disable (.value code) = .ok () := by
  simp only [Audit.Code.all, List.mem_cons, List.not_mem_nil, or_false] at listed
  rcases listed with rfl | rfl | rfl | rfl | rfl | rfl | rfl <;> exact ⟨by decide, rfl, rfl, rfl⟩

theorem readOptions_disable {arguments : List String} {o : Options} (accepted : readOptions arguments = .ok o)
    {code : String} (listed : code ∈ Audit.Code.all) :
    readOptions ("--disable" :: code :: arguments) = .ok (o.disabling [.value code]) := by
  obtain ⟨words, last, split, read, finished⟩ := readOptions_eq_ok_iff.1 accepted
  obtain ⟨notEnd, plain, given, chosen⟩ := readWord_of_code listed
  have opening : readWord "--disable" = .ok (.option (.setting .disable) "--disable" none) := rfl
  have opened : start.step (.option (.setting .disable) "--disable" none) =
      .ok { start with pending := some .disable } := rfl
  have awaited : step { start with pending := some .disable } (.plain code) = .ok (start.disabling [.value code]) := by
    change (applySetting .default .disable code).map _ = _
    unfold applySetting
    dsimp only
    rw [given, chosen]
    rfl
  rw [readOptions_eq_ok_iff]
  refine ⟨.option (.setting .disable) "--disable" none :: .plain code :: words, last.disabling [.value code], ?_, ?_,
    ?_⟩
  · rw [readWords, if_neg (by decide), opening, readWords, if_neg notEnd, plain, split]
    rfl
  · rw [List.foldlM_cons, opened]
    change step { start with pending := some .disable } (.plain code) >>= words.foldlM step = _
    rw [awaited]
    change words.foldlM step (start.disabling [.value code]) = _
    rw [foldlM_disabling, read]
    rfl
  · rw [finish_disabling, finished]
    rfl

theorem readOptions_disabling {arguments : List String} {o : Options} (accepted : readOptions arguments = .ok o)
    {codes : List String} (listed : ∀ code ∈ codes, code ∈ Audit.Code.all) :
    readOptions ((codes.flatMap fun code => ["--disable", code]) ++ arguments) =
      .ok (o.disabling (codes.map .value)) := by
  induction codes with
  | nil => exact accepted
  | cons code codes ih =>
    obtain ⟨first, others⟩ := List.forall_mem_cons.1 listed
    rw [List.flatMap_cons]
    exact readOptions_disable (ih others) first

end Disabling

end TypingAudit.Command
