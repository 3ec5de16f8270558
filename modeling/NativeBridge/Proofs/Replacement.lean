/-
  NativeBridge/Proofs/Replacement.lean
  ====================================
  **Replacing a file is all or nothing.**  `Names` is what a path needs to name an entry
  that may be a file: a sound text, and a name at its end, below a directory that is
  there.  Reading and replacing both need it and nothing else but the entry itself
  (`find_file_iff`, `replaceable_ok_iff`), so what was written is what is read back.

  `replaceFile_cases` says all that a replacement can do to a tree.
-/
import NativeBridge.Files.UnitFile
import NativeBridge.Proofs.Encoding
import NativeBridge.Proofs.Lines
import NativeBridge.Proofs.Ways

namespace NativeBridge

namespace FileTree

/-! ### What a path names -/

/-- The location that a path leads to. -/
def place (t : FileTree) (path : String) : Location :=
  follow (t.start (.ofPath path)) (Route.ofPath path).steps

/-- The text of a path is sound, and it ends in a name below a directory. -/
structure Names (t : FileTree) (path : String) : Prop where
  sound : pathFault path = none
  plain : (Route.ofPath path).ending = .plain
  named : ∃ above name, (Route.ofPath path).steps = above ++ [.down name] ∧
    t.Reaches (t.start (.ofPath path)) above ∧ (Text.bytes name).length ≤ nameLimit

section

variable {t t' : FileTree} {path : String} {l k : Location} {steps : List Step}

theorem follow_concat (l : Location) (above : List Step) (name : String) :
    follow l (above ++ [.down name]) = follow l above ++ [name] := by
  rw [follow, List.foldl_append]
  rfl

theorem place_of_steps {above : List Step} {name : String}
    (h : (Route.ofPath path).steps = above ++ [.down name]) :
    t.place path = follow (t.start (.ofPath path)) above ++ [name] := by
  rw [place, h, follow_concat]

theorem Names.above (h : t.Names path) : t.entry (t.place path).dropLast = some .directory := by
  obtain ⟨above, name, hsteps, hreaches, -⟩ := h.named
  rw [place_of_steps hsteps, List.dropLast_concat]
  exact hreaches.ends

theorem place_of_working (h : t'.working = t.working) : t'.place path = t.place path := by
  rw [place, place, start, start, h]

/-- More directories take no name away. -/
theorem Names.mono (h : t.Names path) (hworking : t'.working = t.working)
    (stay : ∀ k, t.entry k = some .directory → t'.entry k = some .directory) :
    t'.Names path := by
  obtain ⟨above, name, hsteps, hreaches, hshort⟩ := h.named
  refine ⟨h.sound, h.plain, above, name, hsteps, ?_, hshort⟩
  rw [start, hworking, ← start]
  exact hreaches.mono stay

/-- The directory part of the path leads to the directory that the name is in. -/
theorem Names.holder (h : t.Names path) :
    t.Reaches (t.start (.ofPath (holderPart path))) (Route.ofPath (holderPart path)).steps := by
  obtain ⟨above, name, hsteps, hreaches, -⟩ := h.named
  have hsome : (Route.ofPath path).steps ≠ [] := by simp [hsteps]
  rw [steps_holderPart, start, absolute_holderPart hsome, ← start, hsteps, List.dropLast_concat]
  exact hreaches

/-! ### Finding a file -/

theorem walk_concat (h : t.Reaches l steps) (name : String)
    (hshort : (Text.bytes name).length ≤ nameLimit) {e : Entry}
    (he : t.entry (follow l steps ++ [name]) = some e) :
    t.walk l (steps ++ [.down name]) = .ok (follow l steps ++ [name]) := by
  induction h with
  | here stands =>
    have hchild := child_ok_iff.2 ⟨stands, hshort, rfl, rfl⟩
    rw [List.nil_append, walk, hchild]
    simp only [follow, List.foldl_nil] at he
    simp only [he]
    rfl
  | down stands short next ih =>
    have hchild := child_ok_iff.2 ⟨stands, short, rfl, rfl⟩
    rw [List.cons_append, walk, hchild, next.starts]
    exact ih he
  | up stands _ ih =>
    rw [List.cons_append, walk, stands]
    exact ih he

/-- A walk ends at a file only by a name, since no step goes on from a file. -/
theorem walk_to_file {bytes : List UInt8} (hl : t.entry l = some .directory)
    (h : t.walk l steps = .ok k) (hk : t.entry k = some (.file bytes)) :
    ∃ above name, steps = above ++ [.down name] ∧ t.Reaches l above ∧
      (Text.bytes name).length ≤ nameLimit ∧ k = follow l above ++ [name] := by
  induction steps generalizing l with
  | nil =>
    cases h
    rw [hl] at hk
    cases hk
  | cons s steps ih =>
    cases s with
    | up =>
      rw [walk, hl] at h
      obtain ⟨above, name, rfl, hreaches, hshort, rfl⟩ := ih (entry_dropLast hl) h
      exact ⟨.up :: above, name, rfl, .up hl hreaches, hshort, rfl⟩
    | down name =>
      rw [walk] at h
      rcases hchild : t.child l name with f | ⟨k', e⟩
      · rw [hchild] at h
        cases h
      · obtain ⟨-, hshort, rfl, he⟩ := child_ok_iff.1 hchild
        rw [hchild] at h
        rcases e with _ | _ | bytes'
        · cases h
        · obtain ⟨above, last, rfl, hreaches, hlast, rfl⟩ := ih he.symm h
          exact ⟨.down name :: above, last, rfl, .down hl hshort hreaches, hlast, rfl⟩
        · cases steps with
          | nil =>
            cases h
            exact ⟨[], name, rfl, .here hl, hshort, rfl⟩
          | cons s steps =>
            cases s <;> simp [walk, child, ← he] at h

theorem names_of_find {bytes : List UInt8} (h : t.find path = .ok (l, .file bytes)) :
    t.Names path ∧ l = t.place path ∧ t.entry l = some (.file bytes) := by
  rw [find] at h
  cases hsound : pathFault path with
  | some f => simp [hsound] at h
  | none =>
    simp only [hsound, reach] at h
    rcases hwalk : t.walk (t.start (.ofPath path)) (Route.ofPath path).steps with f | k
    · simp [hwalk] at h
    · simp only [hwalk] at h
      rcases hk : t.entry k with _ | _ | bytes'
      · simp [hk] at h
      · simp [hk] at h
      · simp only [hk] at h
        split at h
        · rename_i hplain
          cases h
          obtain ⟨above, name, hsteps, hreaches, hshort, rfl⟩ :=
            walk_to_file (t.entry_start _) hwalk hk
          exact ⟨⟨hsound, hplain, above, name, hsteps, hreaches, hshort⟩,
            (place_of_steps hsteps).symm, hk⟩
        · cases h

theorem find_of_names {bytes : List UInt8} (hnames : t.Names path)
    (hentry : t.entry (t.place path) = some (.file bytes)) :
    t.find path = .ok (t.place path, .file bytes) := by
  obtain ⟨above, name, hsteps, hreaches, hshort⟩ := hnames.named
  have hplace : t.place path = follow (t.start (.ofPath path)) above ++ [name] :=
    place_of_steps hsteps
  rw [hplace] at hentry ⊢
  have hwalk := walk_concat hreaches name hshort hentry
  rw [find, hnames.sound]
  simp only [reach, hsteps, hwalk, hentry, hnames.plain, if_true]

theorem find_file_iff {bytes : List UInt8} :
    t.find path = .ok (l, .file bytes) ↔
      t.Names path ∧ l = t.place path ∧ t.entry l = some (.file bytes) := by
  refine ⟨names_of_find, ?_⟩
  rintro ⟨hnames, rfl, hentry⟩
  exact find_of_names hnames hentry

theorem read_ok_iff {bytes : List UInt8} :
    t.read path = .ok bytes ↔ t.Names path ∧ t.entry (t.place path) = some (.file bytes) := by
  rw [read]
  constructor
  · intro h
    rcases hfind : t.find path with f | ⟨l, _ | bytes'⟩
    · simp [hfind] at h
    · simp [hfind] at h
    · simp only [hfind] at h
      cases h
      obtain ⟨hnames, rfl, hentry⟩ := find_file_iff.1 hfind
      exact ⟨hnames, hentry⟩
  · rintro ⟨hnames, hentry⟩
    rw [find_of_names hnames hentry]

theorem readText_ok_iff {text : String} :
    t.readText path = .ok text ↔ t.read path = .ok (Text.bytes text) := by
  rw [readText]
  cases t.read path with
  | error f => simp
  | ok bytes =>
    have hdecode : Text.Utf8.decode bytes = .ok text.toList ↔ bytes = Text.bytes text :=
      Text.Utf8.decode_ok_iff
    dsimp only
    rw [Except.ok.injEq, ← hdecode]
    cases Text.Utf8.decode bytes with
    | error f => simp
    | ok cs =>
      rw [Except.ok.injEq, Except.ok.injEq]
      constructor
      · rintro rfl
        exact String.toList_ofList.symm
      · rintro rfl
        exact String.ofList_toList

/-- A path that names an entry leads to what comes to stand there, while directories stay. -/
theorem Names.read {bytes : List UInt8} (h : t.Names path) (hworking : t'.working = t.working)
    (stay : ∀ k, t.entry k = some .directory → t'.entry k = some .directory)
    (hentry : t'.entry (t.place path) = some (.file bytes)) : t'.read path = .ok bytes := by
  refine read_ok_iff.2 ⟨h.mono hworking stay, ?_⟩
  rw [place_of_working hworking]
  exact hentry

/-! ### Where a file may be put -/

theorem moveFault_eq_none_iff : moveFault path = none ↔ pathFault path = none := by
  rw [moveFault]
  rcases pathFault path with _ | f
  · simp
  · cases f <;> simp

theorem names_of_replaceable (h : t.replaceable path = .ok l) :
    t.Names path ∧ l = t.place path ∧ t.entry l ≠ some .directory := by
  rw [replaceable] at h
  cases hsound : moveFault path with
  | some f => simp [hsound] at h
  | none =>
    simp only [hsound] at h
    split at h
    · rcases hwalk : t.walkToDirectory (.ofPath path) (Route.ofPath path).steps with f | k <;>
        simp [hwalk] at h
    rename_i hdot
    rcases hwalk : t.walkToDirectory (.ofPath path) (Route.ofPath path).steps.dropLast with f | k
    · simp [hwalk] at h
    obtain ⟨hreaches, rfl⟩ := walkToDirectory_ok_iff.1 hwalk
    simp only [hwalk] at h
    rcases hlast : (Route.ofPath path).steps.getLast? with _ | name | _
    · simp [hlast] at h
    · simp only [hlast] at h
      obtain ⟨above, hsteps⟩ := List.getLast?_eq_some_iff.1 hlast
      rw [hsteps, List.dropLast_concat] at hreaches h
      rcases hchild : t.child (follow (t.start (.ofPath path)) above) name with f | ⟨k, e⟩
      · simp [hchild] at h
      · obtain ⟨-, hshort, rfl, rfl⟩ := child_ok_iff.1 hchild
        simp only [hchild] at h
        split at h
        · cases h
        rename_i hslash
        split at h
        · cases h
        rename_i hfree
        cases h
        have hplain : (Route.ofPath path).ending = .plain := by
          cases hending : (Route.ofPath path).ending
          · rfl
          · exact absurd hending hslash
          · exact absurd hending hdot
        exact ⟨⟨moveFault_eq_none_iff.1 hsound, hplain, above, name, hsteps, hreaches, hshort⟩,
          (place_of_steps hsteps).symm, hfree⟩
    · simp [hlast] at h

theorem replaceable_of_names (hnames : t.Names path)
    (hfree : t.entry (t.place path) ≠ some .directory) :
    t.replaceable path = .ok (t.place path) := by
  obtain ⟨above, name, hsteps, hreaches, hshort⟩ := hnames.named
  have hplace : t.place path = follow (t.start (.ofPath path)) above ++ [name] :=
    place_of_steps hsteps
  have hwalk := walkToDirectory_ok_iff.2 ⟨hreaches, rfl⟩
  have hchild := child_ok_iff.2 ⟨hreaches.ends, hshort, rfl, rfl⟩
  rw [hplace] at hfree ⊢
  rw [replaceable, moveFault_eq_none_iff.2 hnames.sound]
  simp only [hnames.plain, hsteps, List.dropLast_concat, List.getLast?_concat, hwalk, hchild,
    hfree, reduceCtorEq, if_false]

theorem replaceable_ok_iff :
    t.replaceable path = .ok l ↔
      t.Names path ∧ l = t.place path ∧ t.entry l ≠ some .directory := by
  refine ⟨names_of_replaceable, ?_⟩
  rintro ⟨hnames, rfl, hfree⟩
  exact replaceable_of_names hnames hfree

/-! ### Replacing -/

/-- Nothing is lost and no file is new: at most there are more directories, on the way
    to the directory of a path. -/
def HolderGrown (t : FileTree) (path : String) (t' : FileTree) : Prop :=
  Grown t t' (t.start (.ofPath (holderPart path))) (Route.ofPath (holderPart path)).steps

/-- What a replacement can do to a tree: directories appear on the way to the
    destination, and then either it fails or it puts the file at its place. -/
theorem replaceFile_cases (t : FileTree) (path : String) (bytes : List UInt8) :
    ∃ t', HolderGrown t path t' ∧
      ((∃ f, t.replaceFile path bytes = (t', .error f)) ∨
        t'.Names path ∧ t'.entry (t'.place path) ≠ some .directory ∧
          t'.stagingFault (holderPart path) = none ∧
          t.replaceFile path bytes = (t'.put (t'.place path) (.file bytes), .ok ())) := by
  have hgrown := t.ensureDirectory_grown (holderPart path)
  rcases hmade : t.ensureDirectory (holderPart path) with ⟨t', made⟩
  rw [hmade] at hgrown
  refine ⟨t', hgrown, ?_⟩
  rw [replaceFile, hmade]
  cases made with
  | error f => exact .inl ⟨f, rfl⟩
  | ok _ =>
    cases hstaging : t'.stagingFault (holderPart path) with
    | some f => exact .inl ⟨f, by simp only [hstaging]⟩
    | none =>
      cases hplace : t'.replaceable path with
      | error f => exact .inl ⟨f, by simp only [hstaging, hplace]⟩
      | ok l =>
        obtain ⟨hnames, rfl, hfree⟩ := replaceable_ok_iff.1 hplace
        refine .inr ⟨hnames, hfree, rfl, ?_⟩
        simp only [hstaging, hplace]

theorem entry_put_place {bytes : List UInt8} (hnames : t.Names path)
    (hfree : t.entry (t.place path) ≠ some .directory) (k : Location) :
    (t.put (t.place path) (.file bytes)).entry k =
      if k = t.place path then some (.file bytes) else t.entry k :=
  entry_put t k _ hnames.above hfree

/-! ### What is read back -/

theorem holdsText_of_read {bytes : List UInt8} (h : t.read path = .ok bytes) (text : String) :
    t.holdsText path text = .ok (bytes == Text.bytes text) := by
  rw [holdsText, h]

theorem holdsText_true_iff {text : String} :
    t.holdsText path text = .ok true ↔ t.read path = .ok (Text.bytes text) := by
  rw [holdsText]
  cases t.read path with
  | ok bytes => simp
  | error f => cases f <;> simp

end

/-! ### All or nothing -/

/-- The path names a file that holds exactly a text, where no directory was, and its
    place apart only missing directories on the way to it are new.  Of all texts the
    file is current for this one alone. -/
structure Written (t : FileTree) (path text : String) (t' : FileTree) : Prop where
  working : t'.working = t.working
  free : t.entry (t.place path) ≠ some .directory
  holds : t'.find path = .ok (t.place path, .file (Text.bytes text))
  kept : ∀ k e, k ≠ t.place path → t.entry k = some e → t'.entry k = some e
  added : ∀ k e, k ≠ t.place path → t.entry k = none → t'.entry k = some e →
    e = .directory ∧
      OnWay (t.start (.ofPath (holderPart path))) (Route.ofPath (holderPart path)).steps k
  current : t'.holdsText path text = .ok true
  outdated : ∀ other, other ≠ text → t'.holdsText path other = .ok false

/-- A write either happens as a whole or leaves every file as it is. -/
def AllOrNothing (t : FileTree) (path text : String) :
    FileTree × Except FileFault Unit → Prop
  | (t', .ok ()) => Written t path text t'
  | (t', .error _) => HolderGrown t path t'

section

variable {t t' t'' : FileTree} {path text : String}

/-- A tree that differs from a grown one by the file alone. -/
theorem written_of_entry (hgrown : HolderGrown t path t') (hnames : t'.Names path)
    (hfree : t'.entry (t'.place path) ≠ some .directory) (hworking : t''.working = t'.working)
    (hentry : ∀ k, t''.entry k =
      if k = t'.place path then some (.file (Text.bytes text)) else t'.entry k) :
    Written t path text t'' := by
  have hplace : t'.place path = t.place path := place_of_working hgrown.working
  have hplace' : t''.place path = t'.place path := place_of_working hworking
  have hstay (k : Location) (hk : t'.entry k = some .directory) :
      t''.entry k = some .directory := by
    have hother : k ≠ t'.place path := fun h => hfree (h ▸ hk)
    rw [hentry, if_neg hother, hk]
  have hfile : t''.entry (t''.place path) = some (.file (Text.bytes text)) := by
    rw [hplace', hentry, if_pos rfl]
  have hnames' : t''.Names path := hnames.mono hworking hstay
  have hread : t''.read path = .ok (Text.bytes text) := read_ok_iff.2 ⟨hnames', hfile⟩
  refine ⟨hworking.trans hgrown.working, ?_, ?_, ?_, ?_, holdsText_true_iff.2 hread, ?_⟩
  · rw [← hplace]
    exact fun h => hfree (hgrown.stays _ h)
  · rw [← hplace, ← hplace']
    exact find_of_names hnames' hfile
  · intro k e hk he
    rw [hentry, if_neg (hplace ▸ hk)]
    exact hgrown.kept k e he
  · intro k e hk hnone hsome
    rw [hentry, if_neg (hplace ▸ hk)] at hsome
    exact hgrown.added k e hnone hsome
  · intro other hother
    rw [holdsText_of_read hread, beq_eq_false_iff_ne.2]
    exact fun hbytes => hother (bytes_injective hbytes.symm)

theorem HolderGrown.of_entry (hgrown : HolderGrown t path t') (hworking : t''.working = t'.working)
    (hentry : ∀ k, t''.entry k = t'.entry k) : HolderGrown t path t'' where
  working := hworking.trans hgrown.working
  kept k e he := (hentry k).trans (hgrown.kept k e he)
  added k e hnone hsome := hgrown.added k e hnone ((hentry k).symm.trans hsome)

end

/-- Ends of a write that show the same tree and agree on success. -/
structure Alike (a b : FileTree × Except FileFault Unit) : Prop where
  working : a.1.working = b.1.working
  entry : ∀ k, a.1.entry k = b.1.entry k
  ends : a.2 = .ok () ↔ b.2 = .ok ()

theorem Alike.of_parts {t t' : FileTree} {r r' : Except FileFault Unit}
    (working : t.working = t'.working) (entry : ∀ k, t.entry k = t'.entry k)
    (ends : r = .ok () ↔ r' = .ok ()) : Alike (t, r) (t', r') := ⟨working, entry, ends⟩

theorem Alike.refl (a : FileTree × Except FileFault Unit) : Alike a a :=
  .of_parts rfl (fun _ => rfl) .rfl

/-- However a file is written, if it ends as a replacement does it is all or nothing. -/
theorem allOrNothing_of_alike {t : FileTree} {path text : String}
    {a : FileTree × Except FileFault Unit}
    (h : Alike a (t.replaceFile path (Text.bytes text))) : AllOrNothing t path text a := by
  obtain ⟨t'', ended⟩ := a
  obtain ⟨t', hgrown, ⟨f, hfailed⟩ | ⟨hnames, hfree, -, hdone⟩⟩ :=
    t.replaceFile_cases path (Text.bytes text)
  · rw [hfailed] at h
    cases ended with
    | ok _ => cases h.ends.1 rfl
    | error f' => exact hgrown.of_entry h.working h.entry
  · rw [hdone] at h
    cases ended with
    | error f' => cases h.ends.2 rfl
    | ok _ =>
      refine written_of_entry hgrown hnames hfree (h.working.trans (t'.working_put _ _)) ?_
      intro k
      exact (h.entry k).trans (entry_put_place hnames hfree k)

theorem writeText_allOrNothing (t : FileTree) (path text : String) :
    AllOrNothing t path text (t.writeText path text) := allOrNothing_of_alike (.refl _)

/-! ### Reading on -/

section

variable {t t' : FileTree} {path text other : String}

theorem Written.stays (h : Written t path text t') (k : Location)
    (hk : t.entry k = some .directory) : t'.entry k = some .directory :=
  h.kept k _ (fun hplace => h.free (hplace ▸ hk)) hk

/-- Another file is read as before. -/
theorem Written.read_other (h : Written t path text t') {bytes : List UInt8}
    (hother : t.place path ≠ t.place other) (hread : t.read other = .ok bytes) :
    t'.read other = .ok bytes := by
  obtain ⟨hnames, hentry⟩ := read_ok_iff.1 hread
  exact hnames.read h.working h.stays (h.kept _ _ (Ne.symm hother) hentry)

/-- Another path to the same place leads to what was written. -/
theorem Written.read_same (h : Written t path text t') (hsame : t.place path = t.place other)
    (hnames : t.Names other) : t'.read other = .ok (Text.bytes text) := by
  obtain ⟨-, -, hentry⟩ := find_file_iff.1 h.holds
  rw [hsame] at hentry
  exact hnames.read h.working h.stays hentry

/-- Where only directories are new, every file is read as before. -/
theorem HolderGrown.read (h : HolderGrown t path t') {bytes : List UInt8}
    (hread : t.read other = .ok bytes) : t'.read other = .ok bytes := by
  obtain ⟨hnames, hentry⟩ := read_ok_iff.1 hread
  exact hnames.read h.working h.stays (h.kept _ _ hentry)

/-! ### Writing what is there -/

theorem stagingFault_of_working (h : t'.working = t.working) (directory : String) :
    t'.stagingFault directory = t.stagingFault directory := by
  rw [stagingFault, stagingFault, workingPath, workingPath, h]

theorem stagingFault_of_writeText (h : t.writeText path text = (t', .ok ())) :
    t.stagingFault (holderPart path) = none := by
  obtain ⟨t₁, hgrown, ⟨f, hfailed⟩ | ⟨-, -, hstaging, -⟩⟩ :=
    t.replaceFile_cases path (Text.bytes text)
  · rw [writeText, hfailed] at h
    cases h
  · rw [← stagingFault_of_working hgrown.working]
    exact hstaging

end

end FileTree

namespace Directory

theorem setNode_same {name : String} {n : Node} {d : Directory} (h : d.lookup name = some n) :
    setNode name n d = d := by
  induction d with
  | nil => cases h
  | cons slot d ih =>
    obtain ⟨k, m⟩ := slot
    by_cases hk : name = k
    · subst hk
      rw [List.lookup_cons_self] at h
      rw [setNode, if_pos rfl, Option.some.inj h]
    · rw [List.lookup_cons, beq_eq_false_iff_ne.2 hk] at h
      rw [setNode, if_neg hk, ih h]

/-- Putting a file where it is already changes nothing. -/
theorem putAt_same {bytes : List UInt8} {l : Location} {d : Directory}
    (h : entryAt l d = some (.file bytes)) : putAt (.file bytes) l d = d := by
  induction l generalizing d with
  | nil => cases h
  | cons name l ih =>
    rcases hn : d.lookup name with _ | bytes' | inner
    · simp [entryAt, hn] at h
    · by_cases hl : l = []
      · have hbytes : bytes' = bytes := by simpa [entryAt, hn, hl] using h
        simp only [putAt, hn, if_pos hl]
        exact setNode_same (hbytes ▸ hn)
      · simp [entryAt, hn, hl] at h
    · have hinner : entryAt l inner = some (.file bytes) := by simpa [entryAt, hn] using h
      simp only [putAt, hn, ih hinner]
      exact setNode_same hn

end Directory

namespace FileTree

theorem put_same {t : FileTree} {l : Location} {bytes : List UInt8}
    (h : t.entry l = some (.file bytes)) : t.put l (.file bytes) = t := by
  obtain ⟨root, working, stands⟩ := t
  have hroot : root.putAt (.file bytes) l = root := Directory.putAt_same h
  simp only [put, Node.ofEntry, hroot]

/-- A text that the file holds already is written without a trace, if it can be staged. -/
theorem writeText_of_read {t : FileTree} {path text : String}
    (hread : t.read path = .ok (Text.bytes text))
    (hstaging : t.stagingFault (holderPart path) = none) :
    t.writeText path text = (t, .ok ()) := by
  obtain ⟨hnames, hentry⟩ := read_ok_iff.1 hread
  have hmade : t.ensureDirectory (holderPart path) = (t, .ok ()) :=
    ensureDirectory_of_reaches (pathFault_holderPart hnames.sound) hnames.holder
  have hplace : t.replaceable path = .ok (t.place path) :=
    replaceable_of_names hnames (by simp [hentry])
  rw [writeText, replaceFile, hmade]
  simp only [hstaging, hplace, put_same hentry]

end FileTree

end NativeBridge
