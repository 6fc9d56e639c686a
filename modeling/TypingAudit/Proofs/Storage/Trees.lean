import TypingAudit.Storage.FileTree

/-!
Trees of files under change. Putting something at a place changes what is there and nothing else: a file that
is put where no directory was leaves the content of every other file as it was, and all directories stay.
-/

namespace TypingAudit.Storage

namespace FileTree

def content? : FileTree → Option (List UInt8)
  | .file content => some content
  | .directory _ => none

def HasDirectory (t : FileTree) (place : List String) : Prop := ∃ entries, t.get? place = some (.directory entries)

/-- No directory lists a name twice, and every name in the tree is a good one. -/
inductive Named (good : String → Prop) : FileTree → Prop where
  | file (content : List UInt8) : Named good (.file content)
  | directory (entries : List (String × FileTree)) (distinct : (entries.map Prod.fst).Nodup)
      (names : ∀ e ∈ entries, good e.1) (below : ∀ e ∈ entries, Named good e.2) : Named good (.directory entries)

section Entries

variable {α : Type}

theorem mem_of_lookup_eq_some {entries : List (String × α)} {name : String} {a : α}
    (found : entries.lookup name = some a) : (name, a) ∈ entries := by
  obtain ⟨before, after, rfl, -⟩ := List.lookup_eq_some_iff.1 found
  simp

theorem lookup_eq_some_of_mem {entries : List (String × α)} {name : String} {a : α}
    (distinct : (entries.map Prod.fst).Nodup) (listed : (name, a) ∈ entries) : entries.lookup name = some a := by
  induction entries with
  | nil => cases listed
  | cons entry entries ih =>
    rw [List.map_cons, List.nodup_cons] at distinct
    rw [List.lookup_cons]
    rcases List.mem_cons.1 listed with rfl | later
    · simp
    · have other : name ≠ entry.1 := by
        rintro rfl
        exact distinct.1 (List.mem_map.2 ⟨_, later, rfl⟩)
      simp only [beq_eq_false_iff_ne.2 other]
      exact ih distinct.2 later

theorem lookup_assign_self (name : String) (node : FileTree) (entries : List (String × FileTree)) :
    (assign name node entries).lookup name = some node := by
  induction entries with
  | nil => simp [assign]
  | cons entry entries ih =>
    rw [assign]
    by_cases same : entry.1 = name
    · simp [same]
    · rw [if_neg same, List.lookup_cons, beq_eq_false_iff_ne.2 (Ne.symm same)]
      exact ih

theorem lookup_assign_of_ne {name other : String} (different : other ≠ name) (node : FileTree)
    (entries : List (String × FileTree)) : (assign name node entries).lookup other = entries.lookup other := by
  induction entries with
  | nil => simp [assign, List.lookup_cons, beq_eq_false_iff_ne.2 different]
  | cons entry entries ih =>
    rw [assign]
    by_cases same : entry.1 = name
    · rw [if_pos same, List.lookup_cons, List.lookup_cons, same, beq_eq_false_iff_ne.2 different]
    · rw [if_neg same, List.lookup_cons, List.lookup_cons, ih]

theorem mem_assign {name : String} {node : FileTree} {entries : List (String × FileTree)}
    {entry : String × FileTree} (listed : entry ∈ assign name node entries) :
    entry = (name, node) ∨ entry ∈ entries := by
  induction entries with
  | nil => simpa [assign] using listed
  | cons first entries ih =>
    rw [assign] at listed
    by_cases same : first.1 = name
    · rw [if_pos same] at listed
      rcases List.mem_cons.1 listed with rfl | later
      · exact Or.inl rfl
      · exact Or.inr (List.mem_cons_of_mem first later)
    · rw [if_neg same] at listed
      rcases List.mem_cons.1 listed with rfl | later
      · exact Or.inr (List.mem_cons_self ..)
      · exact (ih later).imp_right (List.mem_cons_of_mem first)

theorem nodup_assign {name : String} {node : FileTree} {entries : List (String × FileTree)}
    (distinct : (entries.map Prod.fst).Nodup) : ((assign name node entries).map Prod.fst).Nodup := by
  induction entries with
  | nil => simp [assign]
  | cons first entries ih =>
    rw [assign]
    rw [List.map_cons, List.nodup_cons] at distinct
    by_cases same : first.1 = name
    · rw [if_pos same, List.map_cons, List.nodup_cons, ← same]
      exact distinct
    · rw [if_neg same, List.map_cons, List.nodup_cons]
      refine ⟨fun twice => ?_, ih distinct.2⟩
      obtain ⟨entry, listed, named⟩ := List.mem_map.1 twice
      rcases mem_assign listed with rfl | earlier
      · exact same named.symm
      · exact distinct.1 (List.mem_map.2 ⟨entry, earlier, named⟩)

end Entries

@[simp] theorem get?_nil (t : FileTree) : t.get? [] = some t := by
  cases t <;> rfl

theorem get?_append (t : FileTree) (place rest : List String) :
    t.get? (place ++ rest) = (t.get? place).bind fun node => node.get? rest := by
  induction place generalizing t with
  | nil => simp
  | cons name place ih =>
    cases t with
    | file content => rfl
    | directory entries =>
      rw [List.cons_append, get?, get?]
      cases entries.lookup name with
      | none => rfl
      | some node => exact ih node

theorem get?_file {content : List UInt8} {place : List String} (below : place ≠ []) :
    (FileTree.file content).get? place = none := by
  cases place with
  | nil => exact absurd rfl below
  | cons name place => rfl

theorem hasDirectory_of_get?_append {t node : FileTree} {place rest : List String}
    (found : t.get? (place ++ rest) = some node) (below : rest ≠ []) : t.HasDirectory place := by
  rw [get?_append, Option.bind_eq_some_iff] at found
  obtain ⟨above, there, found⟩ := found
  cases above with
  | file content =>
    rw [get?_file below] at found
    cases found
  | directory entries => exact ⟨entries, there⟩

theorem HasDirectory.of_append {t : FileTree} {place rest : List String} (there : t.HasDirectory (place ++ rest)) :
    t.HasDirectory place := by
  by_cases above : rest = []
  · rwa [above, List.append_nil] at there
  · obtain ⟨entries, found⟩ := there
    exact hasDirectory_of_get?_append found above

theorem HasDirectory.dropLast {t : FileTree} {place : List String} (there : t.HasDirectory place) :
    t.HasDirectory place.dropLast := by
  rcases List.eq_nil_or_concat place with rfl | ⟨above, name, rfl⟩
  · exact there
  · rw [List.concat_eq_append] at there ⊢
    rw [List.dropLast_concat]
    exact there.of_append

theorem HasDirectory.content? {t : FileTree} {place : List String} (there : t.HasDirectory place) :
    (t.get? place).bind FileTree.content? = none := by
  obtain ⟨entries, found⟩ := there
  rw [found]
  rfl

theorem get?_put_of_some {t old : FileTree} {place : List String} (found : t.get? place = some old)
    (node : FileTree) : (t.put place node).get? place = some node := by
  induction place generalizing t with
  | nil => simp [put]
  | cons name place ih =>
    cases t with
    | file content => cases found
    | directory entries =>
      rw [get?, Option.bind_eq_some_iff] at found
      obtain ⟨child, listed, found⟩ := found
      rw [put, get?, lookup_assign_self, listed]
      exact ih found

/-- Putting something further below is putting a changed part in place of the old one. -/
theorem put_append {t part : FileTree} {place : List String} (found : t.get? place = some part)
    (rest : List String) (node : FileTree) : t.put (place ++ rest) node = t.put place (part.put rest node) := by
  induction place generalizing t with
  | nil =>
    rw [get?_nil] at found
    cases found
    simp [put]
  | cons name place ih =>
    cases t with
    | file content => cases found
    | directory entries =>
      rw [get?, Option.bind_eq_some_iff] at found
      obtain ⟨child, listed, found⟩ := found
      rw [List.cons_append, put, put, listed, Option.getD_some, ih found]

theorem get?_put_child {t : FileTree} {place : List String} (there : t.HasDirectory place) (name : String)
    (node : FileTree) : (t.put (place ++ [name]) node).get? (place ++ [name]) = some node := by
  obtain ⟨entries, found⟩ := there
  rw [put_append found, get?_append, get?_put_of_some found]
  simp [put, get?, lookup_assign_self]

section Frame

theorem content?_branch {place other : List String} (different : other ≠ place) {node : FileTree}
    (leaf : ∀ below, below ≠ [] → node.get? below = none) :
    ((empty.put place node).get? other).bind content? = none := by
  induction place generalizing other with
  | nil =>
    rw [put, leaf other different]
    rfl
  | cons name place ih =>
    cases other with
    | nil => rfl
    | cons first other =>
      by_cases same : first = name
      · subst same
        rw [empty, put, get?, lookup_assign_self]
        exact ih fun equal => different (by rw [equal])
      · rw [empty, put, get?, lookup_assign_of_ne same]
        rfl

/-- A leaf that is put where no directory is changes the content of no file but the one in its place. -/
theorem content?_put {t : FileTree} {place other : List String} (different : other ≠ place) {node : FileTree}
    (leaf : ∀ below, below ≠ [] → node.get? below = none) (free : ¬t.HasDirectory place) :
    ((t.put place node).get? other).bind content? = (t.get? other).bind content? := by
  induction place generalizing t other with
  | nil =>
    cases t with
    | file content => rw [put, leaf other different, get?_file different]
    | directory entries => exact absurd ⟨entries, get?_nil _⟩ free
  | cons name place ih =>
    cases t with
    | file content => rfl
    | directory entries =>
      cases other with
      | nil => rfl
      | cons first other =>
        by_cases same : first = name
        · subst same
          have further : other ≠ place := fun equal => different (by rw [equal])
          rw [put, get?, lookup_assign_self, get?]
          cases listed : entries.lookup first with
          | none => exact content?_branch further leaf
          | some child =>
            refine ih further ?_
            rintro ⟨inside, found⟩
            exact free ⟨inside, by rw [get?, listed]; exact found⟩
        · rw [put, get?, lookup_assign_of_ne same, get?]

theorem HasDirectory.put {t : FileTree} {place directory : List String} (there : t.HasDirectory directory)
    (free : ¬t.HasDirectory place) (node : FileTree) : (t.put place node).HasDirectory directory := by
  induction place generalizing t directory with
  | nil =>
    cases t with
    | file content =>
      obtain ⟨entries, found⟩ := there
      cases directory <;> cases found
    | directory entries => exact absurd ⟨entries, get?_nil _⟩ free
  | cons name place ih =>
    cases t with
    | file content => exact there
    | directory entries =>
      cases directory with
      | nil => exact ⟨_, rfl⟩
      | cons first directory =>
        obtain ⟨inside, found⟩ := there
        rw [get?, Option.bind_eq_some_iff] at found
        obtain ⟨child, listed, found⟩ := found
        by_cases same : first = name
        · subst same
          have stays : (child.put place node).HasDirectory directory := by
            refine ih ⟨inside, found⟩ ?_
            rintro ⟨others, below⟩
            exact free ⟨others, by rw [get?, listed]; exact below⟩
          obtain ⟨after, kept⟩ := stays
          refine ⟨after, ?_⟩
          rw [FileTree.put, get?, lookup_assign_self, listed]
          exact kept
        · refine ⟨inside, ?_⟩
          rw [FileTree.put, get?, lookup_assign_of_ne same, listed]
          exact found

end Frame

namespace Named

variable {good : String → Prop} {t node : FileTree} {place : List String}

theorem directory_iff {entries : List (String × FileTree)} :
    (FileTree.directory entries).Named good ↔
      (entries.map Prod.fst).Nodup ∧ (∀ e ∈ entries, good e.1) ∧ ∀ e ∈ entries, e.2.Named good := by
  constructor
  · intro named
    cases named with
    | directory entries distinct names below => exact ⟨distinct, names, below⟩
  · rintro ⟨distinct, names, below⟩
    exact .directory entries distinct names below

theorem perm {entries others : List (String × FileTree)} (named : (FileTree.directory entries).Named good)
    (perm : entries.Perm others) : (FileTree.directory others).Named good := by
  obtain ⟨distinct, names, below⟩ := directory_iff.1 named
  refine directory_iff.2 ⟨(perm.map Prod.fst).nodup_iff.1 distinct, ?_, ?_⟩
  · exact fun e listed => names e (perm.mem_iff.2 listed)
  · exact fun e listed => below e (perm.mem_iff.2 listed)

theorem mono {better : String → Prop} (named : t.Named better) (weaker : ∀ name, better name → good name) :
    t.Named good := by
  induction named with
  | file content => exact .file content
  | directory entries distinct names _ ih =>
    exact .directory entries distinct (fun e listed => weaker _ (names e listed)) ih

/-- The way to anything in the tree consists of good names. -/
theorem of_get? (named : t.Named good) (found : t.get? place = some node) :
    node.Named good ∧ ∀ name ∈ place, good name := by
  induction place generalizing t with
  | nil =>
    rw [get?_nil] at found
    cases found
    exact ⟨named, by simp⟩
  | cons first place ih =>
    cases named with
    | file content => cases found
    | directory entries distinct names below =>
      rw [get?, Option.bind_eq_some_iff] at found
      obtain ⟨child, listed, found⟩ := found
      have member := mem_of_lookup_eq_some listed
      obtain ⟨inside, rest⟩ := ih (below _ member) found
      exact ⟨inside, List.forall_mem_cons.2 ⟨names _ member, rest⟩⟩

theorem put (named : t.Named good) (names : ∀ name ∈ place, good name) (new : node.Named good) :
    (t.put place node).Named good := by
  induction place generalizing t with
  | nil => exact new
  | cons first place ih =>
    obtain ⟨goodFirst, goodRest⟩ := List.forall_mem_cons.1 names
    cases named with
    | file content => exact .file content
    | directory entries distinct known below =>
      have child : ((entries.lookup first).getD empty).Named good := by
        cases listed : entries.lookup first with
        | none => exact .directory [] List.nodup_nil (by simp) (by simp)
        | some old => exact below _ (mem_of_lookup_eq_some listed)
      refine .directory _ (nodup_assign distinct) ?_ ?_
      · intro e listed
        rcases mem_assign listed with rfl | earlier
        · exact goodFirst
        · exact known e earlier
      · intro e listed
        rcases mem_assign listed with rfl | earlier
        · exact ih child goodRest
        · exact below e earlier

end Named

end FileTree

end TypingAudit.Storage
