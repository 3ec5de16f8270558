/-
  NativeBridge/Proofs/Counts.lean
  ===============================
  **The numbers of a check are exact.**  A check counts the conversions of a bridge by the
  names in its body: a statement counts if it binds a name that starts with the mark.  The
  mark is given to every converted value (`isConvertedName_convertedName`) and to nothing
  else, so the statements of the argument loop count once for each index whose type has a
  rule (`countP_argumentStatements`), the call of the implementation does not count, and
  the result counts if it is converted.

  The number of types is exact because no registration takes the place of another
  (`registerAll_perm`), and bridges are as many as functions that are not excluded.  The
  numbers are printed as they are (`Report.listed_shown`).
-/
import NativeBridge.Proofs.Prediction
import NativeBridge.Proofs.Relevance

namespace NativeBridge

/-! ### Rules in a registry -/

namespace TypeRegistry

variable {r : TypeRegistry}

/-- There is a rule that makes values of the type from native ones. -/
def hasFromNative (r : TypeRegistry) (type : String) : Bool :=
  (r.find? type).any fun d => d.fromNative.isSome

/-- There is a rule that makes native values from those of the type. -/
def hasToNative (r : TypeRegistry) (type : String) : Bool :=
  (r.find? type).any fun d => d.toNative.isSome

theorem hasFromNative_of_found {type : String} {d : TypeDescriptor}
    (h : r.find? type = some d) : r.hasFromNative type = d.convertsArguments := by
  rw [hasFromNative, h]
  rfl

theorem hasToNative_of_found {type : String} {d : TypeDescriptor}
    (h : r.find? type = some d) : r.hasToNative type = d.convertsResults := by
  rw [hasToNative, h]
  rfl

theorem countP_hasFromNative {types : List String} {ds : List TypeDescriptor}
    (h : List.Forall₂ (fun type d => r.find? type = some d) types ds) :
    types.countP r.hasFromNative = ds.countP (·.convertsArguments) := by
  induction h with
  | nil => rfl
  | cons hfound _ ih =>
    rw [List.countP_cons, List.countP_cons, ih, hasFromNative_of_found hfound]

/-- A registry has a slot for each standard type and for each declared one. -/
theorem size_of_registerAll {r' : TypeRegistry} {ds : List TypeDescriptor}
    (h : r.registerAll ds = .ok r') : r'.size = r.size + ds.length := by
  have hlength := (registerAll_perm h).length_eq
  rw [List.length_append, List.length_map, Nat.add_comm] at hlength
  exact hlength

end TypeRegistry

namespace Command

/-! ### Conversions in a body -/

theorem isConvertedName_convertedName (name : String) :
    isConvertedName (convertedName name) = true := by
  rw [isConvertedName, convertedName, String.toList_append, List.isPrefixOf_iff_prefix]
  exact List.prefix_append ..

theorem isConvertedName_resultName : isConvertedName resultName = false := by
  decide

/-- The argument loop makes a conversion for each type that has a rule, and nothing else. -/
theorem countP_argumentStatements (ds : List TypeDescriptor) :
    ∀ i : Nat, (argumentStatements i ds).countP isConversion =
      ds.countP (·.convertsArguments) := by
  induction ds with
  | nil =>
    intro i
    rfl
  | cons d ds ih =>
    intro i
    rw [argumentStatements, List.countP_cons, TypeDescriptor.convertsArguments]
    cases d.fromNative with
    | none => exact ih (i + 1)
    | some rule =>
      rw [List.countP_cons, ih (i + 1), isConversion, isConvertedName_convertedName]
      rfl

theorem countP_resultStatements (d : TypeDescriptor) :
    (resultStatements d).countP isConversion = if d.convertsResults then 1 else 0 := by
  rw [resultStatements, TypeDescriptor.convertsResults]
  cases d.toNative with
  | none => rfl
  | some rule =>
    rw [List.countP_singleton, isConversion, isConvertedName_convertedName]
    rfl

theorem countP_scopeStatements (implementation : String) (pair : FunctionPair)
    (arguments : List TypeDescriptor) (result : TypeDescriptor) :
    (scopeStatements implementation pair arguments result).countP isConversion =
      arguments.countP (·.convertsArguments) + if result.convertsResults then 1 else 0 := by
  rw [scopeStatements, List.countP_append, List.countP_cons, countP_argumentStatements,
    countP_resultStatements, isConversion, isConvertedName_resultName]
  rfl

/-! ### Summaries -/

/-- What the summary of a function says. -/
structure Summary.Counts (r : TypeRegistry) (f : FunctionDeclaration) (s : Summary) : Prop where
  symbol : s.symbol = f.symbol
  params : s.params.length = f.native.arity + 2
  returns : s.returns = f.native.returns
  conversions : s.conversions = f.actual.params.countP r.hasFromNative +
    if r.hasToNative f.actual.returns then 1 else 0

theorem counts_of_bridgeOf {r : TypeRegistry} {implementation : String}
    {f : FunctionDeclaration} {b : Bridge} (h : bridgeOf r implementation f.pair = .ok b) :
    Summary.Counts r f (Summary.ofBridge b) := by
  obtain ⟨ident, arguments, result, hchecked, rfl⟩ := bridgeOf_ok_iff.1 h
  constructor
  case symbol => rfl
  case params =>
    change ((bridgeParams f.native).map _).length = _
    simp [bridgeParams, Signature.arity]
  case returns => rfl
  case conversions =>
    change (scopeStatements implementation f.pair arguments result).countP isConversion = _
    rw [countP_scopeStatements, ← TypeRegistry.countP_hasFromNative hchecked.forall₂_found,
      ← TypeRegistry.hasToNative_of_found hchecked.result.found]
    rfl

/-! ### Reports -/

/-- What the report on a catalog says. -/
structure Report.Counts (c : Catalog) (r : TypeRegistry) (report : Report) : Prop where
  types : report.types = TypeRegistry.standard.size + c.types.length
  functions : report.excluded + report.bridges.length = c.functions.length
  excluded : report.excluded = c.functions.countP (·.excluded)
  bridges : List.Forall₂ (Summary.Counts r) c.active report.bridges

/-- A function is excluded or active. -/
theorem length_active (c : Catalog) :
    c.active.length + c.functions.countP (·.excluded) = c.functions.length := by
  rw [Catalog.active, ← List.countP_eq_length_filter, Nat.add_comm,
    List.length_eq_countP_add_countP FunctionDeclaration.excluded]
  simp

theorem counts_of_yields {t : FileTree} {path : String} {c : Catalog} {r : TypeRegistry}
    {u : BridgeUnit} (h : Yields t path c r u) :
    Report.Counts c r (Report.ofUnit path c r u) := by
  have hbridges : List.Forall₂ (Summary.Counts r) c.active (u.bridges.map Summary.ofBridge) := by
    have hall := Catalog.bridges_of_active h.registry h.unit
    rw [List.forall₂_map_right_iff]
    exact hall.imp fun f b hb => counts_of_bridgeOf hb
  have hactive := length_active c
  have hexcluded : c.functions.length - c.active.length = c.functions.countP (·.excluded) := by
    omega
  constructor
  case types => exact TypeRegistry.size_of_registerAll h.registry
  case functions =>
    change c.functions.length - c.active.length + (u.bridges.map Summary.ofBridge).length = _
    rw [← hbridges.length_eq]
    omega
  case excluded => exact hexcluded
  case bridges => exact hbridges

/-- **A check counts exactly.**  Whenever a check succeeds, it makes a report on the catalog
    that it read, prints it, and the numbers of this report are those of the catalog. -/
theorem check_counts_exactly (t : FileTree) {args : List String} {v : Nat} {o : CheckOptions}
    (hargs : Invocation.ofArguments args = .run v (.check o))
    (hcode : (run t args).2.code = 0) :
    ∃ c r report, HasCatalog t o.catalog c ∧ c.registry = .ok r ∧
      (o.report (readingOf t o.catalog)).result = .ok report ∧
      (run t args).2.stdout = report.shown o.json ∧
      report.Listed o.json (run t args).2.stdout ∧ Report.Counts c r report := by
  have hrun : run t args = check t o := by
    rw [run, hargs]
    rfl
  rw [hrun] at hcode ⊢
  obtain ⟨c, r, u, hyields⟩ := yields_of_check hcode
  obtain ⟨log, hcheck⟩ := check_of_yields hyields o.json
  have hstdout : (check t o).2.stdout = (Report.ofUnit o.catalog c r u).shown o.json := by
    rw [hcheck]
    rfl
  refine ⟨c, r, .ofUnit o.catalog c r u, hyields.catalog, hyields.registry,
    report_of_yields o hyields, hstdout, ?_, counts_of_yields hyields⟩
  rw [hstdout]
  exact Report.listed_shown _ o.json

/-- A type, a function that converts its argument and its result, and one that is excluded. -/
def countedText : String :=
  "types=[['T','jint','f','t','0']]\n" ++
  "functions=[['f',['f',['jint'],'jint'],['f',['T'],'T']],['g',['g'],['g'],true,true]]"

def countedTree : FileTree :=
  (FileTree.empty ["home"]).put ["home", "bridges.toml"] (.file (Text.bytes countedText))

theorem countedTree_counted :
    Invocation.ofArguments ["check", "--json"] = .run 0 (.check ⟨"bridges.toml", true⟩) ∧
      (run countedTree ["check", "--json"]).2.code = 0 ∧
      ∃ c r report, HasCatalog countedTree "bridges.toml" c ∧ c.registry = .ok r ∧
        report.Listed true (run countedTree ["check", "--json"]).2.stdout ∧
        Report.Counts c r report := by
  have hargs : Invocation.ofArguments ["check", "--json"] =
      .run 0 (.check ⟨"bridges.toml", true⟩) := rfl
  have hcode : (run countedTree ["check", "--json"]).2.code = 0 := by
    decide +kernel
  obtain ⟨c, r, report, hcatalog, hr, -, -, hlisted, hcounts⟩ :=
    check_counts_exactly countedTree hargs hcode
  exact ⟨hargs, hcode, c, r, report, hcatalog, hr, hlisted, hcounts⟩

end Command

end NativeBridge
