/-
  NativeBridge/Proofs/Staleness.lean
  ==================================
  **Checking tells whether generating would change anything.**  The check compares
  bytes and the write replaces a file, and still they agree: a path that a file can be
  read at is one that a file can be put at, its directory is there already, and the
  same bytes again leave the same tree (`FileTree.writeText_of_read`).  What was just
  written is current (`FileTree.Written`), so after a run that generates, a check
  succeeds and another run repeats the first.
-/
import NativeBridge.Proofs.Footprint

namespace NativeBridge

/-- The path of a file that is staged beside a path is not too long.  Should that of the
    working directory hold a NUL, which none on a disk does, it does not pass it on. -/
structure FileTree.Roomy (t : FileTree) (path : String) : Prop where
  short : t.stagingFault (holderPart path) ≠ some .nameTooLong
  sound : '\x00' ∈ t.workingPath.toList → t.stagingFault (holderPart path) ≠ some .invalidPath

/-- Length apart, a file can be staged beside whatever can be a path. -/
theorem FileTree.Roomy.stagingFault_eq {t : FileTree} {path : String} (h : t.Roomy path)
    (hpath : pathFault path = none) : t.stagingFault (holderPart path) = none := by
  obtain ⟨hholder, hnonempty, -⟩ := pathFault_eq_none_iff.1 (pathFault_holderPart hpath)
  rcases pathFault_cases (joinPath (joinPath t.workingPath (holderPart path))
    (stagedName "000000")) with hnone | ⟨hinvalid, hnul⟩ | ⟨-, hempty⟩ | hlong
  · exact hnone
  · by_cases hworking : '\x00' ∈ t.workingPath.toList
    · exact absurd hinvalid (h.sound hworking)
    · exact absurd hnul (not_mem_joinPath (not_mem_joinPath hworking hholder) (by decide))
  · exact absurd hempty (joinPath_ne_empty _ (by decide))
  · exact absurd hlong h.short

namespace Command

/-- Command lines for the same catalog and the same destination: one that writes, and
    one that checks. -/
structure Counterparts (writing checking : List String) (catalog : String)
    (output : Option String) : Prop where
  writes : ∃ v, Invocation.ofArguments writing = .run v (.generate ⟨catalog, output, false⟩)
  checks : ∃ v, Invocation.ofArguments checking = .run v (.generate ⟨catalog, output, true⟩)

section

variable {t t' : FileTree} {catalog : String} {output : Option String} {c : Catalog} {p : Plan}

/-- What is meant and what is planned does not depend on checking. -/
theorem Prepared.recheck {b : Bool} (h : Prepared t ⟨catalog, output, b⟩ c p) (b' : Bool) :
    Prepared t ⟨catalog, output, b'⟩ c p where
  catalog := h.catalog
  destination := h.destination.recheck b'
  unit := h.unit

theorem check_code_iff (h : Prepared t ⟨catalog, output, true⟩ c p) :
    (generate t ⟨catalog, output, true⟩).2.code = 0 ↔
      t.read p.destination = .ok (Text.bytes p.unit.text) := by
  obtain ⟨log, hrun⟩ := generate_prepared h
  rw [hrun, ← FileTree.holdsText_true_iff]
  exact compared_code_iff

/-- A file that is current is written again without a trace. -/
theorem generate_of_read (h : Prepared t ⟨catalog, output, false⟩ c p)
    (hread : t.read p.destination = .ok (Text.bytes p.unit.text))
    (hstaging : t.stagingFault (holderPart p.destination) = none) :
    ∃ log, generate t ⟨catalog, output, false⟩ = (t, p.written log (.ok ())) := by
  obtain ⟨log, hrun⟩ := generate_written h rfl
  rw [FileTree.writeText_of_read hread hstaging] at hrun
  exact ⟨log, hrun⟩

theorem read_of_written {path text : String} (h : t.Written path text t') :
    t'.read path = .ok (Text.bytes text) := FileTree.holdsText_true_iff.1 h.current

/-- A write beside the catalog leaves what was planned for it. -/
theorem Prepared.after (h : Prepared t ⟨catalog, output, false⟩ c p)
    (hother : t.place p.destination ≠ t.place catalog)
    (hwritten : t.Written p.destination p.unit.text t') :
    Prepared t' ⟨catalog, output, false⟩ c p where
  catalog := by
    obtain ⟨text, hread, hparse⟩ := hasCatalog_iff.1 h.catalog
    exact hasCatalog_iff.2 ⟨text, hwritten.read_other hother hread, hparse⟩
  destination := h.destination
  unit := h.unit

/-- A check succeeds exactly if generating succeeds and changes nothing. -/
theorem check_exact
    (hroom : ∀ c p, Prepared t ⟨catalog, output, false⟩ c p → t.Roomy p.destination) :
    (generate t ⟨catalog, output, true⟩).2.code = 0 ↔
      (generate t ⟨catalog, output, false⟩).2.code = 0 ∧
        (generate t ⟨catalog, output, false⟩).1 = t := by
  constructor
  · intro hcode
    obtain ⟨c, p, hprepared⟩ := prepared_of_code hcode
    have hread := (check_code_iff hprepared).1 hcode
    have hprepared' := hprepared.recheck false
    have hpath := (FileTree.read_ok_iff.1 hread).1.sound
    obtain ⟨log, hrun⟩ :=
      generate_of_read hprepared' hread ((hroom c p hprepared').stagingFault_eq hpath)
    rw [hrun]
    exact ⟨written_code_iff.2 rfl, rfl⟩
  · rintro ⟨hcode, hsame⟩
    obtain ⟨c, p, hprepared⟩ := prepared_of_code hcode
    have hwritten := generate_finished hprepared rfl hcode
    rw [hsame] at hwritten
    exact (check_code_iff (hprepared.recheck true)).2 (read_of_written hwritten)

/-- What was generated beside the catalog is planned, read and staged as it was. -/
theorem generated_again (hprepared : Prepared t ⟨catalog, output, false⟩ c p)
    (hother : t.place p.destination ≠ t.place catalog)
    (hcode : (generate t ⟨catalog, output, false⟩).2.code = 0) :
    Prepared (generate t ⟨catalog, output, false⟩).1 ⟨catalog, output, false⟩ c p ∧
      (generate t ⟨catalog, output, false⟩).1.read p.destination =
        .ok (Text.bytes p.unit.text) ∧
      (generate t ⟨catalog, output, false⟩).1.stagingFault (holderPart p.destination) = none := by
  have hwritten := generate_finished hprepared rfl hcode
  refine ⟨hprepared.after hother hwritten, read_of_written hwritten, ?_⟩
  -- the directory was good for staging once, and that does not depend on what is in it
  rw [FileTree.stagingFault_of_working hwritten.working]
  obtain ⟨log, hrun⟩ := generate_written hprepared rfl
  rw [hrun] at hcode
  exact FileTree.stagingFault_of_writeText (Prod.ext rfl (written_code_iff.1 hcode))

theorem generate_settles (hprepared : Prepared t ⟨catalog, output, false⟩ c p)
    (hother : t.place p.destination ≠ t.place catalog)
    (hcode : (generate t ⟨catalog, output, false⟩).2.code = 0) :
    (generate (generate t ⟨catalog, output, false⟩).1 ⟨catalog, output, true⟩).2.code = 0 ∧
      ∃ log, generate (generate t ⟨catalog, output, false⟩).1 ⟨catalog, output, false⟩ =
        ((generate t ⟨catalog, output, false⟩).1, p.written log (.ok ())) := by
  obtain ⟨hafter, hread, hstaging⟩ := generated_again hprepared hother hcode
  exact ⟨(check_code_iff (hafter.recheck true)).2 hread, generate_of_read hafter hread hstaging⟩

end

/-! ### Staleness -/

/-- What a check says of a tree.  It succeeds exactly if generating succeeds and changes
    nothing, unless the path of a file staged beside the destination is too long; and
    unless the destination is the catalog itself, what was generated passes the check and
    is generated again in the same way. -/
structure TellsStaleness (t : FileTree) (writing checking : List String) (catalog : String)
    (output : Option String) : Prop where
  exact :
    (∀ c p, Prepared t ⟨catalog, output, false⟩ c p → t.Roomy p.destination) →
    ((run t checking).2.code = 0 ↔ (run t writing).2.code = 0 ∧ (run t writing).1 = t)
  settles : ∀ c p, Prepared t ⟨catalog, output, false⟩ c p →
    t.place p.destination ≠ t.place catalog → (run t writing).2.code = 0 →
    (run (run t writing).1 checking).2.code = 0 ∧
      (run (run t writing).1 writing).2.code = 0 ∧
      (run (run t writing).1 writing).2.stdout = (run t writing).2.stdout ∧
      (run (run t writing).1 writing).1 = (run t writing).1

theorem check_tells_staleness (t : FileTree) {writing checking : List String} {catalog : String}
    {output : Option String} (h : Counterparts writing checking catalog output) :
    TellsStaleness t writing checking catalog output := by
  obtain ⟨⟨v, hwrites⟩, ⟨w, hchecks⟩⟩ := h
  have hwriting (t : FileTree) : run t writing = generate t ⟨catalog, output, false⟩ := by
    rw [run, hwrites]
    rfl
  have hchecking (t : FileTree) : run t checking = generate t ⟨catalog, output, true⟩ := by
    rw [run, hchecks]
    rfl
  constructor
  · intro hroom
    rw [hwriting, hchecking]
    exact check_exact hroom
  · intro c p hprepared hother hcode
    rw [hwriting] at hcode
    obtain ⟨hchecked, log, hagain⟩ := generate_settles hprepared hother hcode
    obtain ⟨log', hfirst⟩ := generate_written hprepared rfl
    have hdone : (t.writeText p.destination p.unit.text).2 = .ok () := by
      rw [hfirst] at hcode
      exact written_code_iff.1 hcode
    rw [hwriting, hchecking, hwriting, hagain]
    refine ⟨hchecked, written_code_iff.2 rfl, ?_, rfl⟩
    rw [hfirst, hdone]
    rfl

/-- An empty catalog that no unit was generated from. -/
def catalogAlone : FileTree := (FileTree.empty ["home"]).put ["home", "bridges.toml"] (.file [])

/-- It is stale, generating succeeds and changes it, and then it is current. -/
theorem catalogAlone_stale :
    (run catalogAlone ["generate", "--output", "unit.rs", "--check"]).2.code = 1 ∧
      (run catalogAlone ["generate", "--output", "unit.rs"]).2.code = 0 ∧
      (run catalogAlone ["generate", "--output", "unit.rs"]).1 ≠ catalogAlone ∧
      (run (run catalogAlone ["generate", "--output", "unit.rs"]).1
        ["generate", "--output", "unit.rs", "--check"]).2.code = 0 := by
  have hstale : (run catalogAlone ["generate", "--output", "unit.rs", "--check"]).2.code = 1 := by
    decide +kernel
  have hdone : (run catalogAlone ["generate", "--output", "unit.rs"]).2.code = 0 := by
    decide +kernel
  have hcounterparts : Counterparts ["generate", "--output", "unit.rs"]
      ["generate", "--output", "unit.rs", "--check"] "bridges.toml" (some "unit.rs") :=
    ⟨⟨0, by decide +kernel⟩, ⟨0, by decide +kernel⟩⟩
  have htells := check_tells_staleness catalogAlone hcounterparts
  have hgiven (c : Catalog) (p : Plan)
      (h : Prepared catalogAlone ⟨"bridges.toml", some "unit.rs", false⟩ c p) :
      p.destination = "unit.rs" := h.destination.eq_given rfl
  refine ⟨hstale, hdone, ?_, ?_⟩
  · intro hsame
    have hroom : catalogAlone.Roomy "unit.rs" := by
      constructor <;> decide +kernel
    have hfresh := (htells.exact fun c p h => hgiven c p h ▸ hroom).2 ⟨hdone, hsame⟩
    rw [hstale] at hfresh
    cases hfresh
  · have hplanned : ∃ c p, Prepared catalogAlone ⟨"bridges.toml", some "unit.rs", false⟩ c p :=
      prepared_of_code (by decide +kernel)
    obtain ⟨c, p, hprepared⟩ := hplanned
    refine (htells.settles c p hprepared ?_ hdone).1
    rw [hgiven c p hprepared]
    decide +kernel

end Command

end NativeBridge
