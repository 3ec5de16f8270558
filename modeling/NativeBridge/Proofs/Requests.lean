/-
  NativeBridge/Proofs/Requests.lean
  =================================
  **What a request to generate comes to before anything is written.**  It is refused
  for one of five reasons (`Refused`), or there is a catalog with a unit and a
  destination for it (`Prepared`).  Both are said of the tree, the catalog and the
  options; `plan_error_iff` and `plan_ok_iff` say that planning finds out which.
-/
import NativeBridge.Command.Execution
import NativeBridge.Proofs.Replacement

namespace NativeBridge.Command

/-! ### Refusals and plans -/

/-- The destination that is meant: the one that is given, or else the one that the
    catalog names, below the directory of the catalog. -/
inductive GenerateOptions.ResolvesTo (o : GenerateOptions) (c : Catalog) : String → Prop
  | given {path : String} (h : o.output = some path) : o.ResolvesTo c path
  | named {path : String} (none_given : o.output = none) (h : c.output.path = some path) :
      o.ResolvesTo c (joinPath (directoryPart o.catalog) path)

/-- The catalog of a request, as it stands in the tree. -/
def HasCatalog (t : FileTree) (path : String) (c : Catalog) : Prop :=
  ∃ text, t.readText path = .ok text ∧ Catalog.parse text = .ok c

structure Prepared (t : FileTree) (o : GenerateOptions) (c : Catalog) (p : Plan) : Prop where
  catalog : HasCatalog t o.catalog c
  destination : o.ResolvesTo c p.destination
  unit : c.unit.result = .ok p.unit

/-- Why a request comes to nothing before there is anything to write. -/
inductive Refused (t : FileTree) (o : GenerateOptions) : CommandError → Prop
  | missing (absent : t.isFile o.catalog = false) : Refused t o (.noCatalog o.catalog)
  | unreadable {f : FileFault} (present : t.isFile o.catalog = true)
      (fault : t.readText o.catalog = .error f) :
      Refused t o (.during (.loading o.catalog) (.file f))
  | malformed {text : String} {e : BridgeError} (read : t.readText o.catalog = .ok text)
      (fault : Catalog.parse text = .error e) : Refused t o (.during (.loading o.catalog) e)
  | homeless {c : Catalog} (catalog : HasCatalog t o.catalog c) (none_given : o.output = none)
      (none_named : c.output.path = none) : Refused t o (.noDestination o.catalog)
  | ungenerated {c : Catalog} {path : String} {e : BridgeError}
      (catalog : HasCatalog t o.catalog c) (destination : o.ResolvesTo c path)
      (fault : c.unit.result = .error e) : Refused t o (.during (.generating o.catalog) e)

section

variable {t : FileTree} {o : GenerateOptions} {c : Catalog} {p : Plan} {e : CommandError}

theorem GenerateOptions.ResolvesTo.eq_given {path given : String} (h : o.ResolvesTo c path)
    (hgiven : o.output = some given) : path = given := by
  cases h with
  | given h => exact Option.some.inj (h.symm.trans hgiven)
  | named none_given => cases none_given.symm.trans hgiven

theorem GenerateOptions.ResolvesTo.recheck {catalog path : String} {output : Option String}
    {b : Bool} (h : ResolvesTo ⟨catalog, output, b⟩ c path) (b' : Bool) :
    ResolvesTo ⟨catalog, output, b'⟩ c path := by
  cases h with
  | given h => exact .given h
  | named none_given h => exact .named none_given h

theorem destination_ok_iff {path : String} :
    o.destination c = .ok path ↔ o.ResolvesTo c path := by
  rw [GenerateOptions.destination]
  constructor
  · intro h
    cases hgiven : o.output with
    | some given =>
      simp only [hgiven] at h
      cases h
      exact .given hgiven
    | none =>
      cases hnamed : c.output.path with
      | some named =>
        simp only [hgiven, hnamed] at h
        cases h
        exact .named hgiven hnamed
      | none => simp [hgiven, hnamed] at h
  · intro h
    cases h with
    | given h => simp only [h]
    | named none_given h => simp only [none_given, h]

theorem destination_error_iff :
    o.destination c = .error e ↔
      o.output = none ∧ c.output.path = none ∧ e = .noDestination o.catalog := by
  rw [GenerateOptions.destination]
  cases o.output with
  | some given => simp
  | none =>
    cases c.output.path with
    | some named => simp
    | none => simp [eq_comm]

theorem hasCatalog_iff {path : String} :
    HasCatalog t path c ↔
      ∃ text, t.read path = .ok (Text.bytes text) ∧ Catalog.parse text = .ok c := by
  simp only [HasCatalog, FileTree.readText_ok_iff]

theorem isFile_of_readText {path text : String} (h : t.readText path = .ok text) :
    t.isFile path = true := by
  obtain ⟨hnames, hentry⟩ := FileTree.read_ok_iff.1 (FileTree.readText_ok_iff.1 h)
  rw [FileTree.isFile, FileTree.find_of_names hnames hentry]

theorem catalogAt_ok_iff {path : String} :
    catalogAt path (readingOf t path) = .ok c ↔ HasCatalog t path c := by
  rw [readingOf]
  constructor
  · intro h
    cases hfile : t.isFile path with
    | false => simp [hfile, catalogAt] at h
    | true =>
      cases htext : t.readText path with
      | error f => simp [hfile, htext, catalogAt] at h
      | ok text =>
        cases hparse : Catalog.parse text with
        | error e => simp [hfile, htext, catalogAt, hparse] at h
        | ok c' =>
          simp only [hfile, htext, catalogAt, hparse, if_true] at h
          cases h
          exact ⟨text, htext, hparse⟩
  · rintro ⟨text, htext, hparse⟩
    simp only [isFile_of_readText htext, htext, catalogAt, hparse, if_true]

theorem plan_result (r : Reading) :
    (o.plan r).result = match catalogAt o.catalog r with
      | .error e => .error e
      | .ok c => match o.destination c with
        | .error e => .error e
        | .ok path => match c.unit.result with
          | .error e => .error (.during (.generating o.catalog) e)
          | .ok u => .ok ⟨path, u⟩ := by
  rw [GenerateOptions.plan]
  cases catalogAt o.catalog r with
  | error e => rfl
  | ok c =>
    cases hpath : o.destination c with
    | error e => simp only [hpath]
    | ok path => cases hunit : c.unit.result <;> simp only [hpath, hunit]

theorem plan_ok_iff : (o.plan (readingOf t o.catalog)).result = .ok p ↔ ∃ c, Prepared t o c p := by
  rw [plan_result]
  constructor
  · intro h
    cases hcatalog : catalogAt o.catalog (readingOf t o.catalog) with
    | error e => simp [hcatalog] at h
    | ok c =>
      cases hpath : o.destination c with
      | error e => simp [hcatalog, hpath] at h
      | ok path =>
        cases hunit : c.unit.result with
        | error e => simp [hcatalog, hpath, hunit] at h
        | ok u =>
          simp only [hcatalog, hpath, hunit] at h
          cases h
          exact ⟨c, catalogAt_ok_iff.1 hcatalog, destination_ok_iff.1 hpath, hunit⟩
  · rintro ⟨c, hcatalog, hpath, hunit⟩
    simp only [catalogAt_ok_iff.2 hcatalog, destination_ok_iff.2 hpath, hunit]

theorem catalogAt_error (h : catalogAt o.catalog (readingOf t o.catalog) = .error e) :
    Refused t o e := by
  rw [readingOf] at h
  cases hfile : t.isFile o.catalog with
  | false =>
    simp only [hfile, catalogAt] at h
    cases h
    exact .missing hfile
  | true =>
    cases htext : t.readText o.catalog with
    | error f =>
      simp only [hfile, htext, catalogAt, if_true] at h
      cases h
      exact .unreadable hfile htext
    | ok text =>
      cases hparse : Catalog.parse text with
      | error e' =>
        simp only [hfile, htext, catalogAt, hparse, if_true] at h
        cases h
        exact .malformed htext hparse
      | ok c => simp [hfile, htext, catalogAt, hparse] at h

theorem plan_error_iff : (o.plan (readingOf t o.catalog)).result = .error e ↔ Refused t o e := by
  rw [plan_result]
  constructor
  · intro h
    cases hcatalog : catalogAt o.catalog (readingOf t o.catalog) with
    | error e' =>
      simp only [hcatalog] at h
      cases h
      exact catalogAt_error hcatalog
    | ok c =>
      have hcatalog' := catalogAt_ok_iff.1 hcatalog
      cases hpath : o.destination c with
      | error e' =>
        simp only [hcatalog, hpath] at h
        cases h
        obtain ⟨hgiven, hnamed, rfl⟩ := destination_error_iff.1 hpath
        exact .homeless hcatalog' hgiven hnamed
      | ok path =>
        cases hunit : c.unit.result with
        | error e' =>
          simp only [hcatalog, hpath, hunit] at h
          cases h
          exact .ungenerated hcatalog' (destination_ok_iff.1 hpath) hunit
        | ok u => simp [hcatalog, hpath, hunit] at h
  · intro h
    cases h with
    | missing absent => simp [readingOf, absent, catalogAt]
    | unreadable present fault => simp [readingOf, present, fault, catalogAt]
    | malformed read fault =>
      simp [readingOf, isFile_of_readText read, read, fault, catalogAt]
    | homeless catalog none_given none_named =>
      simp only [catalogAt_ok_iff.2 catalog,
        destination_error_iff.2 ⟨none_given, none_named, rfl⟩]
    | ungenerated catalog destination fault =>
      simp only [catalogAt_ok_iff.2 catalog, destination_ok_iff.2 destination, fault]

/-- A request is refused or prepared. -/
theorem refused_or_prepared (t : FileTree) (o : GenerateOptions) :
    (∃ e, Refused t o e) ∨ ∃ c p, Prepared t o c p := by
  cases hplan : (o.plan (readingOf t o.catalog)).result with
  | error e => exact .inl ⟨e, plan_error_iff.1 hplan⟩
  | ok p =>
    obtain ⟨c, hprepared⟩ := plan_ok_iff.1 hplan
    exact .inr ⟨c, p, hprepared⟩

/-! ### What is done -/

theorem generate_refused (h : Refused t o e) :
    ∃ log, generate t o = (t, .failure log e) := by
  have hplan := plan_error_iff.2 h
  rw [generate]
  rcases hplanned : o.plan (readingOf t o.catalog) with ⟨log, e' | p⟩
  · rw [hplanned] at hplan
    cases hplan
    exact ⟨log, rfl⟩
  · rw [hplanned] at hplan
    cases hplan

theorem prepared_of_code (h : (generate t o).2.code = 0) :
    ∃ c p, Prepared t o c p := by
  rcases refused_or_prepared t o with ⟨e, hrefused⟩ | hprepared
  · obtain ⟨log, hrun⟩ := generate_refused hrefused
    rw [hrun] at h
    cases h
  · exact hprepared

theorem generate_prepared (h : Prepared t o c p) :
    ∃ log, generate t o =
      if o.check then (t, o.compared log p (t.holdsText p.destination p.unit.text))
      else ((t.writeText p.destination p.unit.text).1,
        p.written log (t.writeText p.destination p.unit.text).2) := by
  have hplan := plan_ok_iff.2 ⟨c, h⟩
  rw [generate]
  rcases hplanned : o.plan (readingOf t o.catalog) with ⟨log, e' | p'⟩
  · rw [hplanned] at hplan
    cases hplan
  · rw [hplanned] at hplan
    cases hplan
    exact ⟨log, rfl⟩

/-! ### Exit codes -/

theorem compared_code_iff {log : List Event} {r : Except FileFault Bool} :
    (o.compared log p r).code = 0 ↔ r = .ok true := by
  rcases r with f | _ | _ <;>
    simp [GenerateOptions.compared, Response.failure, Response.success]

theorem written_code_iff {log : List Event} {r : Except FileFault Unit} :
    (p.written log r).code = 0 ↔ r = .ok () := by
  rcases r with f | _ <;> simp [Plan.written, Response.failure, Response.success]

end

end NativeBridge.Command
