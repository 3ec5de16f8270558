/-
  NativeBridge/Proofs/CatalogFile.lean
  ====================================
  **What a run leaves of its catalog.**  Only a write can change the catalog, and a write
  keeps every file but the one that it replaces.  So the catalog holds what it held unless
  the destination leads to it, and nothing keeps a destination from that: it may be given so,
  or the catalog may name itself, by whatever steps (`Request.Overwrites`).

  Then the catalog is gone.  The text of a unit starts with a slash, and no document does
  (`parse_unitText`), so it is never what the catalog held, and no later run finds a catalog.
-/
import NativeBridge.Proofs.Staleness
import NativeBridge.Proofs.UnitText

namespace NativeBridge

/-! ### Units are no documents -/

namespace Toml

/-- A slash starts no key, and so no line. -/
theorem linesWithin_slash (fuel : Nat) (cs : List Char) :
    linesWithin (fuel + 1) ('/' :: cs) = none := rfl

theorem parse_slash {text : String} {cs : List Char} (h : text.toList = '/' :: cs) :
    parse text = none := by
  have hlines : lines ('/' :: cs) = none := linesWithin_slash cs.length cs
  rw [parse, h, hlines]
  rfl

end Toml

theorem unitText_slash (bs : List Bridge) (o : RenderOptions) :
    ∃ cs, (unitText bs o).toList = '/' :: cs := by
  have hmarker : unitMarker.toList = '/' :: unitMarker.toList.tail := by
    decide
  have hlines : preamble o = unitMarker :: (preamble o).tail := rfl
  rw [unitText_eq, hlines, linesText_cons, String.toList_append, String.toList_append,
    String.toList_append, hmarker, List.cons_append, List.cons_append]
  exact ⟨_, rfl⟩

theorem parse_unitText (bs : List Bridge) (o : RenderOptions) :
    Catalog.parse (unitText bs o) = .error (.document .malformed) := by
  obtain ⟨cs, hcs⟩ := unitText_slash bs o
  rw [Catalog.parse, Toml.parse_slash hcs]

namespace Command

/-! ### The catalog of a request -/

def Request.catalog : Request → String
  | .generate o => o.catalog
  | .check o => o.catalog

/-- A request whose destination leads to its own catalog, and that writes what is planned. -/
inductive Request.Overwrites (t : FileTree) (p : Plan) : Request → Prop
  | generate {o : GenerateOptions} {c : Catalog} (prepared : Prepared t o c p)
      (writes : o.check = false) (meets : t.place p.destination = t.place o.catalog) :
      Overwrites t p (.generate o)

section

variable {t : FileTree} {o : GenerateOptions} {c : Catalog} {p : Plan}

theorem Prepared.text_eq (h : Prepared t o c p) :
    p.unit.text = unitText p.unit.bridges c.renderOptions := by
  obtain ⟨hunit, -⟩ := unit_ok h.unit
  exact congrArg BridgeUnit.text hunit

/-- A unit in the place of a catalog is none. -/
theorem not_hasCatalog_of_read (h : Prepared t o c p) {t' : FileTree} {path : String}
    (hread : t'.read path = .ok (Text.bytes p.unit.text)) (c' : Catalog) :
    ¬ HasCatalog t' path c' := by
  intro hcatalog
  obtain ⟨text, hread', hparse⟩ := hasCatalog_iff.1 hcatalog
  have htext : p.unit.text = text := bytes_injective (Except.ok.inj (hread.symm.trans hread'))
  rw [← htext, h.text_eq, parse_unitText] at hparse
  cases hparse

theorem generate_keeps_catalog
    (h : ¬ ∃ p, Request.Overwrites t p (.generate o) ∧ (generate t o).2.code = 0) :
    (generate t o).1.read o.catalog = t.read o.catalog := by
  rcases refused_or_prepared t o with ⟨e, hrefused⟩ | ⟨c, p, hprepared⟩
  · obtain ⟨log, hrun⟩ := generate_refused hrefused
    rw [hrun]
  · obtain ⟨text, hread, -⟩ := hasCatalog_iff.1 hprepared.catalog
    rw [hread]
    by_cases hcode : (generate t o).2.code = 0
    · cases hcheck : o.check with
      | true =>
        rw [generate_checked hcheck]
        exact hread
      | false =>
        have hother : t.place p.destination ≠ t.place o.catalog := by
          intro hmeets
          exact h ⟨p, .generate hprepared hcheck hmeets, hcode⟩
        exact (generate_finished hprepared hcheck hcode).read_other hother hread
    · -- a run that fails may have made directories, but it has put no file
      exact (generate_interrupted hprepared hcode).read hread

theorem generate_overwrites (h : Request.Overwrites t p (.generate o))
    (hcode : (generate t o).2.code = 0) :
    (generate t o).1.read o.catalog = .ok (Text.bytes p.unit.text) ∧
      ∀ c, ¬ HasCatalog (generate t o).1 o.catalog c := by
  cases h with
  | generate prepared writes meets =>
    obtain ⟨text, hread, -⟩ := hasCatalog_iff.1 prepared.catalog
    have hnames := (FileTree.read_ok_iff.1 hread).1
    have hwritten := (generate_finished prepared writes hcode).read_same meets hnames
    exact ⟨hwritten, not_hasCatalog_of_read prepared hwritten⟩

end

/-! ### Whole runs -/

/-- What becomes of the catalog of a request: it is as it was exactly if the request does not
    overwrite it, or fails.  Overwritten, it holds the text of the unit, and is no catalog. -/
structure Request.Spares (t : FileTree) (q : Request) (t' : FileTree) (r : Response) : Prop where
  kept_iff : t'.read q.catalog = t.read q.catalog ↔ ¬ ∃ p, q.Overwrites t p ∧ r.code = 0
  overwritten : ∀ p, q.Overwrites t p → r.code = 0 →
    t'.read q.catalog = .ok (Text.bytes p.unit.text) ∧ ∀ c, ¬ HasCatalog t' q.catalog c

/-- Whatever makes no request leaves the tree as it is. -/
def Invocation.Spares (t : FileTree) (after : FileTree × Response) : Invocation → Prop
  | .run _ q => q.Spares t after.1 after.2
  | _ => after.1 = t

theorem generate_spares (t : FileTree) (o : GenerateOptions) :
    Request.Spares t (.generate o) (generate t o).1 (generate t o).2 where
  kept_iff := by
    refine ⟨?_, generate_keeps_catalog⟩
    rintro hsame ⟨p, hoverwrites, hcode⟩
    obtain ⟨-, hlost⟩ := generate_overwrites hoverwrites hcode
    cases hoverwrites with
    | generate prepared =>
      obtain ⟨text, hread, hparse⟩ := hasCatalog_iff.1 prepared.catalog
      exact hlost _ (hasCatalog_iff.2 ⟨text, hsame.trans hread, hparse⟩)
  overwritten p := generate_overwrites

theorem check_spares (t : FileTree) (o : CheckOptions) :
    Request.Spares t (.check o) (check t o).1 (check t o).2 where
  kept_iff := by
    refine ⟨?_, fun _ => rfl⟩
    rintro - ⟨p, hoverwrites, -⟩
    cases hoverwrites
  overwritten p hoverwrites := by cases hoverwrites

/-- **Every run spares its catalog unless it is told to write there**, for every tree and all
    arguments. -/
theorem run_spares_catalog (t : FileTree) (args : List String) :
    (Invocation.ofArguments args).Spares t (run t args) := by
  rw [run]
  cases Invocation.ofArguments args with
  | run verbosity request =>
    cases request with
    | generate o => exact generate_spares t o
    | check o => exact check_spares t o
  | version => rfl
  | help topic => rfl
  | misuse => rfl

/-- A run that leaves the catalog of its request as it was. -/
def KeepsCatalog (t : FileTree) (args : List String) : Prop :=
  ∀ v q, Invocation.ofArguments args = .run v q →
    (run t args).1.read q.catalog = t.read q.catalog

/-- A catalog that names itself as its output, on a way through a missing directory. -/
def selfNamed : FileTree :=
  (FileTree.empty ["home"]).put ["home", "bridges.toml"]
    (.file (Text.bytes "output = ['new/../bridges.toml']"))

/-- Given as the destination, or naming itself as one, a catalog is not kept. -/
theorem ownCatalog_not_kept :
    ¬ KeepsCatalog catalogAlone ["generate", "--output", "bridges.toml"] ∧
      ¬ KeepsCatalog selfNamed ["generate"] := by
  have hgiven : Invocation.ofArguments ["generate", "--output", "bridges.toml"] =
      .run 0 (.generate ⟨"bridges.toml", some "bridges.toml", false⟩) := by
    decide +kernel
  have hnamed : Invocation.ofArguments ["generate"] =
      .run 0 (.generate ⟨"bridges.toml", none, false⟩) := by
    decide +kernel
  constructor
  · intro hkeeps
    have hsame := hkeeps 0 _ hgiven
    exact absurd hsame (by decide +kernel)
  · intro hkeeps
    have hsame := hkeeps 0 _ hnamed
    exact absurd hsame (by decide +kernel)

end Command

end NativeBridge
