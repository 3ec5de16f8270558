/-
  NativeBridge/Proofs/Staging.lean
  ================================
  **Staging.**  A file is replaced in one move, but not made in one: a file of a fresh
  name is made beside the destination, the bytes are written to it, and it is moved.
  `replaceStaged` goes through these steps on the tree.  The bytes may be cut off by
  any fault; a staged file that does not get to its place is removed.

  Afterwards nothing of this can be seen (`replaceStaged_alike`), so a write is all or
  nothing in its steps, too.
-/
import NativeBridge.Proofs.Replacement

namespace NativeBridge

/-! ### Removing a file -/

namespace Directory

/-- Removes the file at a location; a directory stays. -/
def removeAt : Location → Directory → Directory
  | [], d => d
  | name :: l, d =>
    match d.lookup name with
    | some (.directory inner) => setNode name (.directory (removeAt l inner)) d
    | some (.file _) => if l = [] then d.filter fun slot => name != slot.1 else d
    | none => d

theorem lookup_filter (name k : String) (d : Directory) :
    (d.filter fun slot => name != slot.1).lookup k = if k = name then none else d.lookup k := by
  induction d with
  | nil => simp
  | cons slot d ih =>
    obtain ⟨j, n⟩ := slot
    by_cases hj : name = j
    · subst hj
      by_cases hk : k = name
      · simp [hk]
      · simp [List.lookup_cons, hk, beq_eq_false_iff_ne.2 hk, ih]
    · by_cases hk : k = j
      · subst hk
        simp [hj, Ne.symm hj]
      · simp [hj, List.lookup_cons, beq_eq_false_iff_ne.2 hk, ih]

theorem entryAt_removeAt (k l : Location) (d : Directory) :
    entryAt k (removeAt l d) =
      if k = l ∧ entryAt l d ≠ some .directory then none else entryAt k d := by
  induction l generalizing k d with
  | nil => simp [removeAt, entryAt]
  | cons name l ih =>
    cases k with
    | nil => simp [entryAt]
    | cons other k =>
      by_cases ho : other = name
      · subst ho
        rcases hn : d.lookup other with _ | bytes | inner
        · simp [removeAt, entryAt, hn]
        · by_cases hl : l = []
          · subst hl
            cases k <;> simp [removeAt, entryAt, hn, lookup_filter]
          · by_cases hk : k = l
            · subst hk
              simp [removeAt, entryAt, hn, hl]
            · simp [removeAt, entryAt, hn, hl, hk]
        · simp [removeAt, entryAt, hn, lookup_setNode, ih k inner]
      · have same : (removeAt (name :: l) d).lookup other = d.lookup other := by
          rw [removeAt]
          split
          · simp [lookup_setNode, ho]
          · split <;> simp [lookup_filter, ho]
          · rfl
        simp [entryAt, same, ho]

end Directory

namespace FileTree

/-- Takes the file at a location away. -/
def remove (t : FileTree) (l : Location) : FileTree where
  root := t.root.removeAt l
  working := t.working
  stands := by
    have hstands := t.stands
    rw [Directory.entryAt_removeAt, if_neg]
    · exact hstands
    · rintro ⟨rfl, hfile⟩
      exact hfile hstands

theorem working_remove (t : FileTree) (l : Location) : (t.remove l).working = t.working := rfl

theorem entry_remove (t : FileTree) (k : Location) {l : Location}
    (h : t.entry l ≠ some .directory) :
    (t.remove l).entry k = if k = l then none else t.entry k := by
  refine (Directory.entryAt_removeAt k l t.root).trans ?_
  change (if k = l ∧ t.entry l ≠ some .directory then none else t.entry k) = _
  simp [h]

/-! ### The steps of a write -/

/-- Where a file of a fresh name is staged for a destination. -/
def stage (t : FileTree) (fresh path : String) : Location :=
  t.place (holderPart path) ++ [stagedName fresh]

/-- Moves the file that stands at one location to another. -/
def move (t : FileTree) (s l : Location) : FileTree :=
  match t.entry s with
  | some (.file bytes) => (t.remove s).put l (.file bytes)
  | _ => t

theorem working_move (t : FileTree) (s l : Location) : (t.move s l).working = t.working := by
  rw [move]
  split <;> rfl

/-- A write in its steps.  `cut` is a fault that ends the writing of the staged file,
    with the bytes that got there before it. -/
def replaceStaged (t : FileTree) (fresh : String) (cut : Option (List UInt8 × FileFault))
    (path : String) (bytes : List UInt8) : FileTree × Except FileFault Unit :=
  match t.ensureDirectory (holderPart path) with
  | (t', .error f) => (t', .error f)
  | (t', .ok ()) =>
    match t'.stagingFault (holderPart path), cut with
    | some f, _ => (t', .error f)
    | none, some (part, f) =>
      ((t'.put (t'.stage fresh path) (.file part)).remove (t'.stage fresh path), .error f)
    | none, none =>
      let staged := t'.put (t'.stage fresh path) (.file bytes)
      match staged.replaceable path with
      | .error f => (staged.remove (t'.stage fresh path), .error f)
      | .ok l => (staged.move (t'.stage fresh path) l, .ok ())

/-- A name is fresh for a destination when nothing in its directory has it. -/
def Fresh (t : FileTree) (fresh path : String) : Prop :=
  t.entry (t.stage fresh path) = none

/-! ### What is seen of them -/

section

variable {t t' : FileTree} {fresh path : String}

theorem entry_put_stage (bytes : List UInt8)
    (hdirectory : t.entry (t.place (holderPart path)) = some .directory)
    (hfresh : t.Fresh fresh path) (k : Location) :
    (t.put (t.stage fresh path) (.file bytes)).entry k =
      if k = t.stage fresh path then some (.file bytes) else t.entry k := by
  have habove : t.entry (t.stage fresh path).dropLast = some .directory := by
    rw [stage, List.dropLast_concat]
    exact hdirectory
  have hfree : t.entry (t.stage fresh path) ≠ some .directory := by
    rw [hfresh]
    simp
  exact entry_put t k _ habove hfree

/-- A staged file that is removed leaves nothing behind. -/
theorem entry_remove_stage (bytes : List UInt8)
    (hdirectory : t.entry (t.place (holderPart path)) = some .directory)
    (hfresh : t.Fresh fresh path) (k : Location) :
    ((t.put (t.stage fresh path) (.file bytes)).remove (t.stage fresh path)).entry k =
      t.entry k := by
  have hentry := entry_put_stage bytes hdirectory hfresh
  have hfile : (t.put (t.stage fresh path) (.file bytes)).entry (t.stage fresh path) ≠
      some .directory := by
    rw [hentry, if_pos rfl]
    simp
  rw [entry_remove _ k hfile]
  split
  · rename_i hk
    rw [hk, hfresh]
  · rename_i hk
    rw [hentry, if_neg hk]

/-- A staged file stands in no way: paths name the same with it as without it. -/
theorem names_put_stage_iff (bytes : List UInt8)
    (hdirectory : t.entry (t.place (holderPart path)) = some .directory)
    (hfresh : t.Fresh fresh path) {other : String} :
    (t.put (t.stage fresh path) (.file bytes)).Names other ↔ t.Names other := by
  constructor
  · intro h
    refine h.mono (t.working_put _ _).symm fun k hk => ?_
    rw [entry_put_stage bytes hdirectory hfresh] at hk
    split at hk
    · cases hk
    · exact hk
  · intro h
    exact h.mono (t.working_put _ _) fun k => t.entry_put_of_directory _ _

theorem replaceable_stage_iff (bytes : List UInt8)
    (hdirectory : t.entry (t.place (holderPart path)) = some .directory)
    (hfresh : t.Fresh fresh path) (l : Location) :
    (t.put (t.stage fresh path) (.file bytes)).replaceable path = .ok l ↔
      t.replaceable path = .ok l := by
  have hplace : (t.put (t.stage fresh path) (.file bytes)).place path = t.place path :=
    place_of_working (t.working_put _ _)
  rw [replaceable_ok_iff, replaceable_ok_iff, names_put_stage_iff bytes hdirectory hfresh,
    hplace, entry_put_stage bytes hdirectory hfresh]
  by_cases hl : l = t.stage fresh path
  · rw [if_pos hl, hl, hfresh]
    simp
  · rw [if_neg hl]

theorem entry_move_stage (bytes : List UInt8)
    (hdirectory : t.entry (t.place (holderPart path)) = some .directory)
    (hfresh : t.Fresh fresh path) {l : Location} (hl : t.replaceable path = .ok l)
    (k : Location) :
    ((t.put (t.stage fresh path) (.file bytes)).move (t.stage fresh path) l).entry k =
      (t.put l (.file bytes)).entry k := by
  obtain ⟨hnames, rfl, hfree⟩ := replaceable_ok_iff.1 hl
  have hremoved := entry_remove_stage bytes hdirectory hfresh
  have hstaged : (t.put (t.stage fresh path) (.file bytes)).entry (t.stage fresh path) =
      some (.file bytes) := by
    rw [entry_put_stage bytes hdirectory hfresh, if_pos rfl]
  rw [move, hstaged, entry_put_place hnames hfree]
  rw [entry_put _ k _ ((hremoved _).trans hnames.above) (by rw [hremoved]; exact hfree), hremoved]

/-- The directory that was made for a destination is there. -/
theorem entry_holder_of_ensured (h : t.ensureDirectory (holderPart path) = (t', .ok ())) :
    t'.entry (t'.place (holderPart path)) = some .directory := by
  have hgrown := t.ensureDirectory_grown (holderPart path)
  have hreaches := ensureDirectory_reaches (t := t) (holderPart_ne_empty path) (by rw [h])
  rw [h] at hgrown hreaches
  rw [place, hgrown.start]
  exact hreaches.ends

/-- A file of a fresh name, once moved, leaves the tree that one move leaves. -/
theorem replaceStaged_alike (bytes : List UInt8)
    (hfresh : (t.ensureDirectory (holderPart path)).1.Fresh fresh path) :
    Alike (t.replaceStaged fresh none path bytes) (t.replaceFile path bytes) := by
  rw [replaceStaged, replaceFile]
  rcases hmade : t.ensureDirectory (holderPart path) with ⟨t', f | _⟩
  · exact .refl _
  rw [hmade] at hfresh
  have hdirectory := entry_holder_of_ensured hmade
  cases hstaging : t'.stagingFault (holderPart path) with
  | some f =>
    simp only [hstaging]
    exact .refl _
  | none =>
    simp only [hstaging]
    have hiff := replaceable_stage_iff bytes hdirectory hfresh
    cases hplace : t'.replaceable path with
    | error f =>
      cases hstaged : (t'.put (t'.stage fresh path) (.file bytes)).replaceable path with
      | error f' =>
        refine .of_parts ?_ (entry_remove_stage bytes hdirectory hfresh) (by simp)
        exact (working_remove _ _).trans (t'.working_put _ _)
      | ok l =>
        rw [(hiff l).1 hstaged] at hplace
        cases hplace
    | ok l =>
      simp only [(hiff l).2 hplace]
      refine .of_parts ?_ (entry_move_stage bytes hdirectory hfresh hplace) .rfl
      exact (working_move _ _ _).trans ((t'.working_put _ _).trans (t'.working_put _ _).symm)

/-- A write that is cut off while it is staged leaves no file behind. -/
theorem replaceStaged_cut (bytes part : List UInt8) (f : FileFault)
    (hfresh : (t.ensureDirectory (holderPart path)).1.Fresh fresh path) :
    ∃ t' f', t.replaceStaged fresh (some (part, f)) path bytes = (t', .error f') ∧
      HolderGrown t path t' := by
  have hgrown : HolderGrown t path (t.ensureDirectory (holderPart path)).1 :=
    t.ensureDirectory_grown (holderPart path)
  rw [replaceStaged]
  rcases hmade : t.ensureDirectory (holderPart path) with ⟨t', f' | _⟩
  · rw [hmade] at hgrown
    exact ⟨t', f', rfl, hgrown⟩
  rw [hmade] at hfresh hgrown
  have hdirectory := entry_holder_of_ensured hmade
  cases hstaging : t'.stagingFault (holderPart path) with
  | some f' => exact ⟨t', f', by simp only [hstaging], hgrown⟩
  | none =>
    refine ⟨(t'.put (t'.stage fresh path) (.file part)).remove (t'.stage fresh path), f,
      by simp only [hstaging], hgrown.of_entry ?_ ?_⟩
    · exact (working_remove _ _).trans (t'.working_put _ _)
    · exact entry_remove_stage part hdirectory hfresh

theorem replaceStaged_allOrNothing {text : String} (cut : Option (List UInt8 × FileFault))
    (hfresh : (t.ensureDirectory (holderPart path)).1.Fresh fresh path) :
    AllOrNothing t path text (t.replaceStaged fresh cut path (Text.bytes text)) := by
  cases cut with
  | none => exact allOrNothing_of_alike (replaceStaged_alike _ hfresh)
  | some fault =>
    obtain ⟨t', f', h, hgrown⟩ := replaceStaged_cut (Text.bytes text) fault.1 fault.2 hfresh
    rw [h]
    exact hgrown

end

end FileTree

/-! ### Publishing -/

/-- What publishing a catalog comes to: nothing at all if it has no unit, and otherwise
    the write of the text of its unit. -/
structure Publishes (c : Catalog) (t : FileTree) (path : String) : Prop where
  refused : ∀ e, c.unit.result = .error e →
    (c.publish t path).1 = t ∧ (c.publish t path).2.result = .error e
  written : ∀ u, c.unit.result = .ok u →
    (c.publish t path).1 = (t.writeText path u.text).1 ∧
      (c.publish t path).2.result = match (t.writeText path u.text).2 with
        | .ok () => .ok u
        | .error f => .error (.file f)

theorem publish_publishes (c : Catalog) (t : FileTree) (path : String) : Publishes c t path := by
  rcases hunit : c.unit with ⟨log, e | u⟩
  · constructor <;> intro x hx <;> rw [hunit] at hx <;> cases hx
    simp [Catalog.publish, hunit]
  · constructor <;> intro x hx <;> rw [hunit] at hx <;> cases hx
    rcases hwrite : t.writeText path u.text with ⟨t', f | _⟩ <;>
      simp [Catalog.publish, hunit, BridgeUnit.store, BridgeUnit.written, hwrite, Logged.fail,
        Except.map]

/-- **A write is all or nothing**, as one replacement and in its steps, whatever cuts
    the staging off; and publishing a catalog is such a write, or leaves the tree alone. -/
theorem writing_is_allOrNothing (t : FileTree) (path : String) :
    (∀ text, FileTree.AllOrNothing t path text (t.writeText path text)) ∧
      (∀ text fresh cut, (t.ensureDirectory (holderPart path)).1.Fresh fresh path →
        FileTree.AllOrNothing t path text
          (t.replaceStaged fresh cut path (Text.bytes text))) ∧
      ∀ c : Catalog, Publishes c t path := by
  refine ⟨t.writeText_allOrNothing path, ?_, fun c => publish_publishes c t path⟩
  intro text fresh cut hfresh
  exact FileTree.replaceStaged_allOrNothing cut hfresh

/-- A destination in a directory that is missing, and a staging that is cut off. -/
theorem newUnit_written :
    (∃ t', (FileTree.empty ["home"]).writeText "out/unit.rs" "// unit\n" = (t', .ok ()) ∧
      FileTree.Written (.empty ["home"]) "out/unit.rs" "// unit\n" t') ∧
    ((FileTree.empty ["home"]).ensureDirectory "out").1.Fresh "000000" "out/unit.rs" ∧
    FileTree.AllOrNothing (.empty ["home"]) "out/unit.rs" "// unit\n"
      ((FileTree.empty ["home"]).replaceStaged "000000" (some ([47], .isDirectory)) "out/unit.rs"
        (Text.bytes "// unit\n")) := by
  have hall := writing_is_allOrNothing (.empty ["home"]) "out/unit.rs"
  have hfresh : ((FileTree.empty ["home"]).ensureDirectory "out").1.Fresh
      "000000" "out/unit.rs" := by
    rw [FileTree.Fresh]
    decide +kernel
  refine ⟨?_, hfresh, hall.2.1 _ _ _ hfresh⟩
  have hdone : ((FileTree.empty ["home"]).writeText "out/unit.rs" "// unit\n").2 = .ok () := by
    rfl
  have hwritten := hall.1 "// unit\n"
  rcases hwrite : (FileTree.empty ["home"]).writeText "out/unit.rs" "// unit\n" with ⟨t', ended⟩
  rw [hwrite] at hdone hwritten
  cases hdone
  exact ⟨t', rfl, hwritten⟩

end NativeBridge
