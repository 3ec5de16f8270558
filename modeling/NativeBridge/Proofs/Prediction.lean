/-
  NativeBridge/Proofs/Prediction.lean
  ===================================
  **Checking a catalog predicts what generating does.**  Both commands succeed for the
  catalogs that yield a unit (`Yields`): the one lists it (`check_of_yields`), and the
  other, given the name of a new file in the working directory, writes it
  (`generate_new`).  The directory of such a name is the working directory, which is always
  there (`FileName.route`), so two things are left that a check does not see: the working
  directory may lie too deep to stage a file in it (`FileTree.stagingFault_here`), and a
  name that looks like an option is not read as a value unless an equals sign stands in
  front of it (`Askable`).
-/
import NativeBridge.Proofs.Footprint
import NativeBridge.Proofs.Listing
import NativeBridge.Proofs.UnitText

namespace NativeBridge

/-! ### Names of files -/

/-- A text that can be the name of a file. -/
structure FileName (name : String) : Prop where
  nonempty : name ≠ ""
  part : '/' ∉ name.toList
  sound : '\x00' ∉ name.toList
  here : name ≠ "."
  above : name ≠ ".."
  short : (Text.bytes name).length ≤ FileTree.nameLimit

namespace FileName

variable {name : String}

/-- The name of a file is a route of one step. -/
theorem route (h : FileName name) : Route.ofPath name = ⟨false, [.down name], .plain⟩ := by
  have hnonempty : name.toList ≠ [] := by simpa using h.nonempty
  have hhere : name.toList ≠ ['.'] := by simpa [← String.toList_inj] using h.here
  have habove : name.toList ≠ ['.', '.'] := by simpa [← String.toList_inj] using h.above
  have hrelative : (name.toList.head? == some '/') = false :=
    beq_eq_false_iff_ne.2 fun hhead => h.part (List.mem_of_head? hhead)
  have hstep : Step.ofPart name.toList = some (.down name) := by
    simp [Step.ofPart, hnonempty, hhere, habove]
  have hending : Ending.ofParts [name.toList] = .plain := by
    simp [Ending.ofParts, hnonempty]
  simp [Route.ofPath, splitSlashes_part h.part, hrelative, hstep, hending]

theorem holderPart_eq (h : FileName name) : holderPart name = "." := by
  have hpart : directoryPart name = "" := by
    rcases directoryPart_cases name with ⟨-, hempty⟩ | ⟨-, hempty⟩ |
      ⟨part, tail, step, -, -, hsplit, -⟩
    · exact hempty
    · exact hempty
    · have hslash : '/' ∈ trimReversed name.toList.reverse := by simp [hsplit]
      exact absurd (List.mem_reverse.1 ((trimReversed_suffix _).subset hslash)) h.part
  rw [holderPart, if_pos hpart]

theorem place_eq (h : FileName name) (t : FileTree) : t.place name = t.working ++ [name] := by
  rw [FileTree.place, FileTree.start, h.route]
  rfl

theorem names (h : FileName name) (t : FileTree) : t.Names name := by
  have hlimit : FileTree.nameLimit ≤ FileTree.pathLimit := by decide
  have hsound : FileTree.pathFault name = none :=
    FileTree.pathFault_eq_none_iff.2 ⟨h.sound, h.nonempty, h.short.trans hlimit⟩
  refine ⟨hsound, by rw [h.route], [], name, by rw [h.route]; rfl, ?_, h.short⟩
  exact .here (t.entry_start _)

end FileName

/-! ### New files in the working directory -/

namespace FileTree

variable {t : FileTree} {name : String}

/-- A path made of names is sound, and it ends in a name. -/
theorem path_of_names {first : String} {names : List String}
    (h : ∀ name ∈ first :: names, FileName name) :
    '\x00' ∉ ("/".intercalate (first :: names)).toList ∧
      ∃ cs c, ("/".intercalate (first :: names)).toList = cs ++ [c] ∧ c ≠ '/' := by
  induction names generalizing first with
  | nil =>
    have hfirst := h first List.mem_cons_self
    rw [String.intercalate_singleton]
    have hnonempty : first.toList ≠ [] := by simpa using hfirst.nonempty
    refine ⟨hfirst.sound, _, _, (List.dropLast_append_getLast hnonempty).symm, ?_⟩
    exact fun hslash => hfirst.part (hslash ▸ List.getLast_mem hnonempty)
  | cons second names ih =>
    obtain ⟨hsound, cs, c, hsplit, hc⟩ := ih fun name hname => h name (List.mem_cons_of_mem _ hname)
    have hfirst := (h first List.mem_cons_self).sound
    have hpath : ("/".intercalate (first :: second :: names)).toList =
        first.toList ++ '/' :: ("/".intercalate (second :: names)).toList := by
      rw [String.intercalate_cons_cons]
      simp
    rw [hsplit] at hsound hpath
    rw [hpath]
    refine ⟨?_, first.toList ++ '/' :: cs, c, by rw [List.append_assoc, List.cons_append], hc⟩
    exact List.not_mem_append hfirst (List.not_mem_cons_of_ne_of_not_mem (by decide) hsound)

/-- The path of a working directory below the root can be gone on from by a slash. -/
theorem workingPath_of_names (hbelow : t.working ≠ []) (h : ∀ name ∈ t.working, FileName name) :
    '\x00' ∉ t.workingPath.toList ∧ t.workingPath ≠ "" ∧
      t.workingPath.toList.getLast? ≠ some '/' := by
  obtain ⟨first, names, hworking⟩ := List.exists_cons_of_ne_nil hbelow
  rw [hworking] at h
  obtain ⟨hsound, cs, c, hsplit, hc⟩ := path_of_names h
  have hpath : t.workingPath.toList = '/' :: (cs ++ [c]) := by
    rw [workingPath, hworking, String.toList_append, hsplit]
    rfl
  rw [← String.toList_inj.ne, hpath]
  refine ⟨?_, List.cons_ne_nil _ _, ?_⟩
  · rw [← hsplit]
    exact List.not_mem_cons_of_ne_of_not_mem (by decide) hsound
  · rw [← List.cons_append, List.getLast?_concat]
    exact fun hslash => hc (Option.some.inj hslash)

/-- A file can be staged in the working directory, unless that lies too deep. -/
theorem stagingFault_here (h : ∀ name ∈ t.working, FileName name) :
    t.stagingFault "." =
      if (Text.bytes t.workingPath).length + 13 ≤ pathLimit then none else some .nameTooLong := by
  by_cases hbelow : t.working = []
  · rw [stagingFault, workingPath, hbelow]
    decide +kernel
  · obtain ⟨hsound, hnonempty, hend⟩ := workingPath_of_names hbelow h
    have hdot : joinPath t.workingPath "." = t.workingPath ++ "/" ++ "." :=
      joinPath_relative (by decide) hnonempty hend
    have hstaged : joinPath (joinPath t.workingPath ".") (stagedName "000000") =
        t.workingPath ++ "/./.tmp000000" := by
      rw [hdot, joinPath_relative (by decide) (by simp) (by simp)]
      simp only [String.append_assoc]
      rfl
    have hlength : (Text.bytes "/./.tmp000000").length = 13 := by decide
    rw [stagingFault, hstaged, pathFault_of_sound, bytes_append, List.length_append, hlength]
    · simp [hsound]
    · simp [hnonempty]

theorem ensureDirectory_holderPart (h : FileName name) (t : FileTree) :
    t.ensureDirectory (holderPart name) = (t, .ok ()) :=
  ensureDirectory_of_reaches (pathFault_holderPart (h.names t).sound) (h.names t).holder

/-- A new file in the working directory is written, unless nothing can be staged there. -/
theorem writeText_new (h : FileName name) (hnew : t.entry (t.working ++ [name]) = none)
    (text : String) :
    t.writeText name text =
      match t.stagingFault "." with
      | some f => (t, .error f)
      | none => (t.put (t.working ++ [name]) (.file (Text.bytes text)), .ok ()) := by
  have hfree : t.entry (t.place name) ≠ some .directory := by
    rw [h.place_eq, hnew]
    simp
  have hplace : t.replaceable name = .ok (t.working ++ [name]) := by
    rw [replaceable_of_names (h.names t) hfree, h.place_eq]
  rw [writeText, replaceFile, ensureDirectory_holderPart h, h.holderPart_eq]
  cases hstaging : t.stagingFault "." <;> simp only [hstaging, hplace]

end FileTree

namespace Command

/-! ### What both commands need -/

/-- The catalog at a path is read, and it yields a unit. -/
structure Yields (t : FileTree) (path : String) (c : Catalog) (r : TypeRegistry)
    (u : BridgeUnit) : Prop where
  catalog : HasCatalog t path c
  registry : c.registry = .ok r
  unit : c.unit.result = .ok u

section

variable {t : FileTree} {path name : String} {json : Bool} {c : Catalog} {r : TypeRegistry}
  {u : BridgeUnit}

theorem yields_of_unit (hcatalog : HasCatalog t path c) (hunit : c.unit.result = .ok u) :
    ∃ r, Yields t path c r u := by
  obtain ⟨r, hregistry⟩ := Catalog.registry_of_unit hunit
  exact ⟨r, hcatalog, hregistry, hunit⟩

theorem report_of_yields (o : CheckOptions) (h : Yields t o.catalog c r u) :
    (o.report (readingOf t o.catalog)).result = .ok (.ofUnit o.catalog c r u) := by
  simp only [CheckOptions.report, catalogAt_ok_iff.2 h.catalog, h.registry, h.unit]

theorem yields_of_report {o : CheckOptions} {report : Report}
    (h : (o.report (readingOf t o.catalog)).result = .ok report) :
    ∃ c r u, Yields t o.catalog c r u := by
  rw [CheckOptions.report] at h
  cases hcatalog : catalogAt o.catalog (readingOf t o.catalog) with
  | error e => simp [hcatalog] at h
  | ok c =>
    cases hregistry : c.registry with
    | error e => simp [hcatalog, hregistry] at h
    | ok r =>
      cases hunit : c.unit.result with
      | error e => simp [hcatalog, hregistry, hunit] at h
      | ok u => exact ⟨c, r, u, catalogAt_ok_iff.1 hcatalog, hregistry, hunit⟩

/-- A check succeeds for the catalogs that yield a unit, and shows its report. -/
theorem check_of_yields (h : Yields t path c r u) (json : Bool) :
    ∃ log, (check t ⟨path, json⟩).2 =
      .success log ((Report.ofUnit path c r u).shown json) := by
  have hreport := report_of_yields ⟨path, json⟩ h
  rw [check, CheckOptions.answer]
  rcases hchecked : CheckOptions.report ⟨path, json⟩ (readingOf t path) with ⟨log, e | report⟩
  · rw [hchecked] at hreport
    cases hreport
  · rw [hchecked] at hreport
    cases hreport
    exact ⟨log, rfl⟩

theorem yields_of_check (h : (check t ⟨path, json⟩).2.code = 0) :
    ∃ c r u, Yields t path c r u := by
  rw [check, CheckOptions.answer] at h
  rcases hchecked : CheckOptions.report ⟨path, json⟩ (readingOf t path) with ⟨log, e | report⟩
  · rw [hchecked] at h
    cases h
  · exact yields_of_report (o := ⟨path, json⟩) (congrArg Checked.result hchecked)

theorem prepared_of_yields (h : Yields t path c r u) (name : String) :
    Prepared t ⟨path, some name, false⟩ c ⟨name, u⟩ :=
  ⟨h.catalog, .given rfl, h.unit⟩

theorem yields_of_generate (h : (generate t ⟨path, some name, false⟩).2.code = 0) :
    ∃ c r u, Yields t path c r u := by
  obtain ⟨c, p, hprepared⟩ := prepared_of_code h
  obtain ⟨r, hyields⟩ := yields_of_unit hprepared.catalog hprepared.unit
  exact ⟨c, r, p.unit, hyields⟩

section

variable (h : Yields t path c r u) (hname : FileName name)
  (hnew : t.entry (t.working ++ [name]) = none)
include h hname hnew

/-- What is generated to a new file is written. -/
theorem generate_new (hstaging : t.stagingFault "." = none) :
    ∃ log, generate t ⟨path, some name, false⟩ =
      (t.put (t.working ++ [name]) (.file (Text.bytes u.text)),
        Plan.written ⟨name, u⟩ log (.ok ())) := by
  obtain ⟨log, hrun⟩ := generate_written (prepared_of_yields h name) rfl
  rw [FileTree.writeText_new hname hnew, hstaging] at hrun
  exact ⟨log, hrun⟩

/-- If nothing can be staged beside it, nothing is written. -/
theorem generate_obstructed {f : FileFault} (hstaging : t.stagingFault "." = some f) :
    ∃ log, generate t ⟨path, some name, false⟩ =
      (t, .failure log (.during (.writing name) (.file f))) := by
  obtain ⟨log, hrun⟩ := generate_written (prepared_of_yields h name) rfl
  rw [FileTree.writeText_new hname hnew, hstaging] at hrun
  exact ⟨log, hrun⟩

end

end

/-! ### Command lines -/

/-- Command lines for one catalog: one that checks it, and one that generates from it to a
    given destination. -/
structure ForCatalog (checking generating : List String) (catalog : String) (json : Bool)
    (destination : String) : Prop where
  checks : ∃ v, Invocation.ofArguments checking = .run v (.check ⟨catalog, json⟩)
  generates : ∃ v, Invocation.ofArguments generating =
    .run v (.generate ⟨catalog, some destination, false⟩)

theorem splitAttached_append {option : String} (h : '=' ∉ option.toList) (value : String) :
    splitAttached ("--" ++ option ++ "=" ++ value) = some ("--" ++ option, value) := by
  have hpast : ∀ c ∈ option.toList, (c != '=') = true := by
    intro c hc
    simpa using fun hsame : c = '=' => h (hsame ▸ hc)
  have htext : ("--" ++ option ++ "=" ++ value).toList =
      '-' :: '-' :: (option.toList ++ '=' :: value.toList) := by
    simp
  have hname : String.ofList ('-' :: '-' :: option.toList) = "--" ++ option := by
    simp [← String.toList_inj]
  rw [splitAttached, htext]
  simp [List.dropWhile_append_of_pos hpast, List.takeWhile_append_of_pos hpast, hname]

/-- An option takes the value behind its equals sign, whatever that looks like. -/
theorem readOptions_attached {k : Kind} {g g' : Given} {option value : String}
    (hoption : '=' ∉ option.toList) (htakes : k.takesValue ("--" ++ option) = true)
    (hset : g.setValue ("--" ++ option) value = some g') (rest : List String) :
    readOptions k g (("--" ++ option ++ "=" ++ value) :: rest) = readOptions k g' rest := by
  have hother : ∀ s : String, '=' ∉ s.toList → "--" ++ option ++ "=" ++ value ≠ s := by
    rintro s hs rfl
    simp at hs
  have hflag : "--" ++ option ++ "=" ++ value ≠ k.flagName := hother _ (by cases k <;> decide)
  have htakes' : ¬ k.takesValue ("--" ++ option ++ "=" ++ value) = true := by
    simp [Kind.takesValue, hother "--catalog" (by decide), hother "--output" (by decide)]
  rw [readOptions.eq_def]
  simp only
  rw [if_neg (hother "--" (by decide)), if_neg (hother "--help" (by decide)),
    if_neg (hother "--verbose" (by decide)), if_neg hflag, if_neg htakes',
    splitAttached_append hoption]
  simp only [htakes, if_true, hset]

/-- A destination in an argument of its own must not look like an option. -/
theorem readOptions_output (g : Given) (value : String) (rest : List String) :
    readOptions .generate g ("--output" :: value :: rest) =
      if looksLikeOption value then .misuse
      else
        match g.setValue "--output" value with
        | some g' => readOptions .generate g' rest
        | none => .misuse := rfl

/-- The command line that checks a catalog. -/
def checkLine (catalog : String) (json : Bool) : List String :=
  "check" :: ("--catalog=" ++ catalog) :: if json then ["--json"] else []

/-- How a catalog is checked and how something is generated from it to a destination.  The
    destination can always be attached to its option; set apart from it, it is refused if
    it looks like an option itself. -/
structure Askable (catalog destination : String) (json : Bool) : Prop where
  attached : ForCatalog (checkLine catalog json)
    ["generate", "--catalog=" ++ catalog, "--output=" ++ destination] catalog json destination
  separate : looksLikeOption destination = false → ForCatalog (checkLine catalog json)
    ["generate", "--catalog=" ++ catalog, "--output", destination] catalog json destination
  refused : looksLikeOption destination = true → ∀ t : FileTree,
    run t ["generate", "--catalog=" ++ catalog, "--output", destination] = (t, .misuse)

section

variable {catalog destination : String}

theorem readOptions_catalog (hcatalog : catalog ≠ "") (k : Kind) (rest : List String) :
    readOptions k ⟨0, none, none, false⟩ (("--catalog=" ++ catalog) :: rest) =
      readOptions k ⟨0, some catalog, none, false⟩ rest := by
  have hsplit : "--catalog=" ++ catalog = "--" ++ "catalog" ++ "=" ++ catalog := rfl
  rw [hsplit]
  apply readOptions_attached
  · decide
  · cases k <;> rfl
  · simp [Given.setValue, hcatalog]

theorem ofArguments_checkLine (hcatalog : catalog ≠ "") (json : Bool) :
    Invocation.ofArguments (checkLine catalog json) = .run 0 (.check ⟨catalog, json⟩) := by
  change readOptions .check ⟨0, none, none, false⟩ _ = _
  rw [readOptions_catalog hcatalog]
  cases json <;> rfl

theorem ofArguments_generate (hcatalog : catalog ≠ "") (rest : List String) :
    Invocation.ofArguments ("generate" :: ("--catalog=" ++ catalog) :: rest) =
      readOptions .generate ⟨0, some catalog, none, false⟩ rest :=
  readOptions_catalog hcatalog .generate rest

/-- Every catalog and every destination can be asked for, unless they are empty. -/
theorem askable (hcatalog : catalog ≠ "") (hdestination : destination ≠ "") (json : Bool) :
    Askable catalog destination json := by
  have hset : Given.setValue ⟨0, some catalog, none, false⟩ "--output" destination =
      some ⟨0, some catalog, some destination, false⟩ := by
    simp [Given.setValue, hdestination]
  have hchecks := ofArguments_checkLine hcatalog json
  constructor
  case attached =>
    have hsplit : "--output=" ++ destination = "--" ++ "output" ++ "=" ++ destination := rfl
    refine ⟨⟨0, hchecks⟩, 0, ?_⟩
    rw [ofArguments_generate hcatalog, hsplit, readOptions_attached (by decide) rfl hset]
    rfl
  case separate =>
    intro hplain
    refine ⟨⟨0, hchecks⟩, 0, ?_⟩
    rw [ofArguments_generate hcatalog, readOptions_output, hplain, hset]
    rfl
  case refused =>
    intro hoption t
    rw [run, ofArguments_generate hcatalog, readOptions_output, hoption]
    rfl

end

/-! ### Prediction -/

/-- What a listing says of a bridge. -/
structure Summary.Describes (s : Summary) (b : Bridge) : Prop where
  symbol : s.symbol = b.exportName
  params : s.params = b.params.map fun p => p.name ++ ": " ++ p.type
  returns : s.returns = b.returns

/-- What is listed is what is written: the report of a unit is listed, its summaries
    describe the bridges of the unit one by one, the text of these bridges is in the new
    file, and their number is said.  No other bridges have that text, if a name breaks no
    line. -/
structure Realized (t t' : FileTree) (catalog name : String) (json : Bool)
    (listed said : String) (c : Catalog) (r : TypeRegistry) (u : BridgeUnit) : Prop where
  yields : Yields t catalog c r u
  shown : listed = (Report.ofUnit catalog c r u).shown json
  lists : (Report.ofUnit catalog c r u).Listed json listed
  bridges : List.Forall₂ Summary.Describes (Report.ofUnit catalog c r u).bridges u.bridges
  text : u.text = unitText u.bridges c.renderOptions
  legible : (∀ b ∈ u.bridges, b.Unbroken) → ∀ bs : List Bridge, (∀ b ∈ bs, b.Readable) →
    unitText bs c.renderOptions = u.text → bs = u.bridges
  written : t'.entry (t.working ++ [name]) = some (.file (Text.bytes u.text))
  others : ∀ k, k ≠ t.working ++ [name] → t'.entry k = t.entry k
  number : said =
    s!"Generated {(Report.ofUnit catalog c r u).bridges.length} bridge(s) → {name}\n"

/-- How a check and a generation to a new file compare.  They succeed together, and then
    what the one lists the other writes.  All that can come between them is that nothing
    can be staged in the working directory; for that its path must be too long. -/
structure Predicts (t : FileTree) (checking generating : List String) (catalog name : String)
    (json : Bool) : Prop where
  exits : t.stagingFault "." = none →
    ((run t checking).2.code = 0 ↔ (run t generating).2.code = 0)
  room : (∀ above ∈ t.working, FileName above) → t.stagingFault "." =
    if (Text.bytes t.workingPath).length + 13 ≤ FileTree.pathLimit then none
    else some .nameTooLong
  foreseen : (run t generating).2.code = 0 → (run t checking).2.code = 0
  obstructed : ∀ f, t.stagingFault "." = some f → (run t checking).2.code = 0 →
    ∃ log, run t generating = (t, .failure log (.during (.writing name) (.file f)))
  realized : (run t generating).2.code = 0 →
    ∃ c r u, Realized t (run t generating).1 catalog name json (run t checking).2.stdout
      (run t generating).2.stdout c r u

section

variable {t : FileTree} {path name : String} {json : Bool} {c : Catalog} {r : TypeRegistry}
  {u : BridgeUnit}

theorem describes_bridges (path : String) (c : Catalog) (r : TypeRegistry) (u : BridgeUnit) :
    List.Forall₂ Summary.Describes (Report.ofUnit path c r u).bridges u.bridges := by
  rw [Report.ofUnit, List.forall₂_map_left_iff, List.forall₂_same]
  intro b _
  exact ⟨rfl, rfl, rfl⟩

theorem realized_of_yields (json : Bool) (h : Yields t path c r u) (hname : FileName name)
    (hnew : t.entry (t.working ++ [name]) = none) (hstaging : t.stagingFault "." = none) :
    (generate t ⟨path, some name, false⟩).2.code = 0 ∧
      Realized t (generate t ⟨path, some name, false⟩).1 path name json
        (check t ⟨path, json⟩).2.stdout (generate t ⟨path, some name, false⟩).2.stdout c r u := by
  obtain ⟨log, hrun⟩ := generate_new h hname hnew hstaging
  obtain ⟨log', hcheck⟩ := check_of_yields h json
  rw [hrun, hcheck]
  have hentry (k : Location) : (t.put (t.working ++ [name]) (.file (Text.bytes u.text))).entry k =
      if k = t.working ++ [name] then some (.file (Text.bytes u.text)) else t.entry k := by
    apply FileTree.entry_put
    · rw [List.dropLast_concat]
      exact t.stands
    · rw [hnew]
      simp
  obtain ⟨hunit, hgenerated⟩ := unit_ok h.unit
  have htext : u.text = unitText u.bridges c.renderOptions := congrArg BridgeUnit.text hunit
  refine ⟨rfl, h, rfl, Report.listed_shown _ json, describes_bridges path c r u, htext, ?_, ?_,
    ?_, ?_⟩
  · intro hunbroken bs hreadable hsame
    rw [htext] at hsame
    exact unitText_injective hreadable (fun b hb => ⟨hgenerated b hb, hunbroken b hb⟩) hsame
  · rw [hentry, if_pos rfl]
  · intro k hk
    rw [hentry, if_neg hk]
  · rw [Report.ofUnit, List.length_map]
    rfl

end

theorem predicts_of_lines (t : FileTree) {checking generating : List String}
    {catalog name : String} {json : Bool}
    (hlines : ForCatalog checking generating catalog json name) (hname : FileName name)
    (hnew : t.entry (t.working ++ [name]) = none) :
    Predicts t checking generating catalog name json := by
  obtain ⟨⟨v, hchecks⟩, ⟨w, hgenerates⟩⟩ := hlines
  have hchecking : run t checking = check t ⟨catalog, json⟩ := by
    rw [run, hchecks]
    rfl
  have hgenerating : run t generating = generate t ⟨catalog, some name, false⟩ := by
    rw [run, hgenerates]
    rfl
  have hforeseen : (generate t ⟨catalog, some name, false⟩).2.code = 0 →
      (check t ⟨catalog, json⟩).2.code = 0 := by
    intro hcode
    obtain ⟨c, r, u, hyields⟩ := yields_of_generate hcode
    obtain ⟨log, hcheck⟩ := check_of_yields hyields json
    rw [hcheck]
    rfl
  constructor
  case exits =>
    rw [hchecking, hgenerating]
    refine fun hstaging => ⟨fun hcode => ?_, hforeseen⟩
    obtain ⟨c, r, u, hyields⟩ := yields_of_check hcode
    exact (realized_of_yields json hyields hname hnew hstaging).1
  case foreseen => rwa [hchecking, hgenerating]
  case obstructed =>
    rw [hchecking, hgenerating]
    intro f hstaging hcode
    obtain ⟨c, r, u, hyields⟩ := yields_of_check hcode
    exact generate_obstructed hyields hname hnew hstaging
  case room => exact FileTree.stagingFault_here
  case realized =>
    rw [hchecking, hgenerating]
    intro hcode
    obtain ⟨c, r, u, hyields⟩ := yields_of_generate hcode
    refine ⟨c, r, u, ?_⟩
    cases hstaging : t.stagingFault "." with
    | some f =>
      obtain ⟨log, hrun⟩ := generate_obstructed hyields hname hnew hstaging
      rw [hrun] at hcode
      cases hcode
    | none => exact (realized_of_yields json hyields hname hnew hstaging).2

/-- **A check predicts generation** to any new file in the working directory, for every
    tree and catalog, in both forms of its listing, and however the commands are spelled. -/
theorem check_predicts_generate (t : FileTree) (catalog : String) {name : String} (json : Bool)
    (hname : FileName name) (hnew : t.entry (t.working ++ [name]) = none) :
    (catalog ≠ "" → Askable catalog name json) ∧
      ∀ checking generating, ForCatalog checking generating catalog json name →
        Predicts t checking generating catalog name json :=
  ⟨fun hcatalog => askable hcatalog hname.nonempty json,
    fun _ _ hlines => predicts_of_lines t hlines hname hnew⟩

/-- A catalog with one function, in the shortest spelling. -/
def functionAlone : FileTree :=
  (FileTree.empty ["home"]).put ["home", "bridges.toml"]
    (.file (Text.bytes "functions = [['f', ['f'], ['f']]]"))

/-- It is generated to a name that looks like an option, which the check foresees. -/
theorem functionAlone_predicted :
    FileName "-v.rs" ∧ functionAlone.entry (functionAlone.working ++ ["-v.rs"]) = none ∧
    Predicts functionAlone (checkLine "bridges.toml" true)
      ["generate", "--catalog=bridges.toml", "--output=-v.rs"] "bridges.toml" "-v.rs" true ∧
    (run functionAlone ["generate", "--catalog=bridges.toml", "--output=-v.rs"]).2.code = 0 := by
  have hname : FileName "-v.rs" := by
    constructor <;> decide
  have hnew : functionAlone.entry (functionAlone.working ++ ["-v.rs"]) = none := by
    decide +kernel
  obtain ⟨haskable, hpredicts⟩ :=
    check_predicts_generate functionAlone "bridges.toml" true hname hnew
  have hlines : ForCatalog (checkLine "bridges.toml" true)
      ["generate", "--catalog=bridges.toml", "--output=-v.rs"] "bridges.toml" true "-v.rs" :=
    (haskable (by decide)).attached
  have hpredicted := hpredicts _ _ hlines
  have hchecked : (run functionAlone (checkLine "bridges.toml" true)).2.code = 0 := by
    decide +kernel
  exact ⟨hname, hnew, hpredicted, (hpredicted.exits (by decide +kernel)).1 hchecked⟩

/-- A name that is one letter over and over. -/
def longName (n : Nat) : String := String.ofList (List.replicate n 'd')

theorem toList_longName (n : Nat) : (longName n).toList = List.replicate n 'd' :=
  String.toList_ofList

theorem length_bytes_longName (n : Nat) : (Text.bytes (longName n)).length = n := by
  have hsize : 'd'.utf8Size = 1 := rfl
  simp [Text.bytes, toList_longName, Text.Utf8.encode, List.length_flatMap, hsize]

theorem fileName_longName {n : Nat} (hpos : n ≠ 0) (hshort : n ≤ FileTree.nameLimit) :
    FileName (longName n) := by
  have hletters (c : Char) (hc : c ≠ 'd') : c ∉ (longName n).toList := by
    simp [toList_longName, hc]
  have hother (s : String) (c : Char) (hc : c ≠ 'd') (hs : c ∈ s.toList) : longName n ≠ s := by
    rintro rfl
    exact hletters c hc hs
  constructor
  case nonempty =>
    rw [← String.toList_inj.ne, toList_longName]
    simpa using hpos
  case part => exact hletters '/' (by decide)
  case sound => exact hletters '\x00' (by decide)
  case here => exact hother "." '.' (by decide) (by decide)
  case above => exact hother ".." '.' (by decide) (by decide)
  case short => rwa [length_bytes_longName]

theorem length_bytes_replicate (n : Nat) (name : String) :
    (Text.bytes ("/".intercalate (List.replicate (n + 1) name))).length =
      n * ((Text.bytes name).length + 1) + (Text.bytes name).length := by
  induction n with
  | zero => simp
  | succ n ih =>
    have hslash : (Text.bytes "/").length = 1 := by decide
    rw [List.replicate_succ, List.replicate_succ, String.intercalate_cons_cons,
      ← List.replicate_succ, bytes_append, bytes_append, List.length_append, List.length_append,
      ih, hslash, Nat.succ_mul]
    omega

/-- The same catalog in the last of seventeen nested directories with long names. -/
def deepTree : FileTree :=
  let working := List.replicate 17 (longName 250)
  (FileTree.empty working).put (working ++ ["bridges.toml"])
    (.file (Text.bytes "functions = [['f', ['f'], ['f']]]"))

theorem names_deepTree : ∀ name ∈ deepTree.working, FileName name := by
  intro name hname
  have hworking : deepTree.working = List.replicate 17 (longName 250) := rfl
  rw [hworking] at hname
  rw [List.eq_of_mem_replicate hname]
  exact fileName_longName (by decide) (by decide)

theorem stagingFault_deepTree : deepTree.stagingFault "." = some .nameTooLong := by
  have hlength : (Text.bytes deepTree.workingPath).length = 4267 := by
    have hpath : deepTree.workingPath =
        "/" ++ "/".intercalate (List.replicate (16 + 1) (longName 250)) := rfl
    have hslash : (Text.bytes "/").length = 1 := by decide
    rw [hpath, bytes_append, List.length_append, length_bytes_replicate, length_bytes_longName,
      hslash]
  rw [FileTree.stagingFault_here names_deepTree, hlength]
  rfl

/-- A check succeeds although the name of the new file is read as an option, and although
    no file can be staged. -/
theorem dash_and_depth_unforeseen :
    (FileName "-v.rs" ∧ functionAlone.entry (functionAlone.working ++ ["-v.rs"]) = none ∧
      (run functionAlone ["check"]).2.code = 0 ∧
      (run functionAlone ["generate", "--output", "-v.rs"]).2.code = 2) ∧
    (∀ name ∈ deepTree.working, FileName name) ∧
      FileName "d.rs" ∧ deepTree.entry (deepTree.working ++ ["d.rs"]) = none ∧
      (run deepTree ["check"]).2.code = 0 ∧
      (run deepTree ["generate", "--output", "d.rs"]).2.code = 1 := by
  have hname : FileName "d.rs" := by
    constructor <;> decide
  have hnew : deepTree.entry (deepTree.working ++ ["d.rs"]) = none := by
    decide +kernel
  have hchecked : (run deepTree ["check"]).2.code = 0 := by
    decide +kernel
  have hlines : ForCatalog ["check"] ["generate", "--output", "d.rs"] "bridges.toml" false "d.rs" :=
    ⟨⟨0, rfl⟩, 0, rfl⟩
  have hpredicts := predicts_of_lines deepTree hlines hname hnew
  obtain ⟨log, hfailed⟩ := hpredicts.obstructed _ stagingFault_deepTree hchecked
  refine ⟨⟨?_, ?_, ?_, ?_⟩, names_deepTree, hname, hnew, hchecked, ?_⟩
  · constructor <;> decide
  · decide +kernel
  · decide +kernel
  · decide +kernel
  · rw [hfailed]
    rfl

end Command

end NativeBridge
