/-
  NativeBridge/Proofs/Scoping.lean
  ================================
  **Bodies use each value once.**  A body knows the parameters of its bridge and binds
  further names.  `WellScoped` says that no two of these names are spelled alike, that a
  name is bound before it is used, and that apart from the two handles every name is used
  exactly once: as the argument of one call or as the value of the scope.  So no value is
  dropped, used after it was given away, or passed in the place of another.

  The argument loop builds two lists in step, the statements and the names that the
  implementation is called on.  `count_argumentNames` is its invariant: whatever comes in
  or is bound is used once in one of the two.  That the names differ rests on
  `Role.name_injective`, for every arity.

  Names are what stands in the place of a value.  The path of a call and the default of a
  scope are not: they stand for a function and for a constant.
-/
import NativeBridge.Proofs.Acceptance
import NativeBridge.Proofs.Registry

namespace NativeBridge

/-! ### Names in a body -/

/-- The name that a statement binds, if it binds one. -/
def Statement.bound? : Statement → Option String
  | run _ => none
  | bind name _ => some name

/-- The names that statements bind, in order. -/
def boundNames (ss : List Statement) : List String := ss.filterMap Statement.bound?

/-- The names that statements call on, each as often as it stands there. -/
def usedNames (ss : List Statement) : List String := ss.flatMap (·.call.args)

/-- Statements that call on nothing but known names, or names bound further up. -/
def ScopedFrom : (known : List String) → List Statement → Prop
  | _, [] => True
  | known, s :: ss =>
    (∀ name ∈ s.call.args, name ∈ known) ∧ ScopedFrom (known ++ s.bound?.toList) ss

namespace Bridge

def paramNames (b : Bridge) : List String := b.params.map (·.name)

/-- What is executed: the prologue, then the scope. -/
def body (b : Bridge) : List Statement := b.prologue ++ b.scope.statements

/-- All names that a body can speak of. -/
def names (b : Bridge) : List String := b.paramNames ++ boundNames b.body

/-- All places of values: the arguments of the calls, and the value of the scope. -/
def uses (b : Bridge) : List String := usedNames b.body ++ [b.scope.value]

end Bridge

/-! ### The statement -/

/-- The conversions in the bridge of a pair: the call of a rule, and the name of the value
    that it converts. -/
inductive Converts (r : TypeRegistry) (pair : FunctionPair) : Call → String → Prop
  | argument {i : Nat} {type path : String} {d : TypeDescriptor}
      (actual : pair.actual.params[i]? = some type) (found : r.find? type = some d)
      (rule : d.fromNative = some path) :
      Converts r pair ⟨path, ["env", paramName i], true⟩ (paramName i)
  | result {path : String} {d : TypeDescriptor} (found : r.find? pair.actual.returns = some d)
      (rule : d.toNative = some path) :
      Converts r pair ⟨path, ["env", "callResult"], true⟩ "callResult"

/-- **The body of a bridge is well scoped** and uses every value once. -/
structure WellScoped (r : TypeRegistry) (implementation : String) (pair : FunctionPair)
    (b : Bridge) : Prop where
  params : b.paramNames = "env" :: "clazz" :: (List.range pair.native.arity).map paramName
  distinct : b.names.Nodup
  arguments : ScopedFrom b.paramNames b.body
  value : b.scope.value ∈ b.names
  /-- The scope reports to the environment, -/
  env : b.scope.env = "env"
  /-- which otherwise is only the first argument of conversions, -/
  envOnly : ∀ s ∈ b.body, ∀ k : Nat, s.call.args[k]? = some "env" →
    k = 0 ∧ ∃ name, name ≠ "env" ∧ Converts r pair s.call name
  envNotValue : b.scope.value ≠ "env"
  /-- and the class is not used at all. -/
  noCaller : "clazz" ∉ b.uses
  once : ∀ name ∈ (List.range pair.native.arity).map paramName ++ boundNames b.body,
    b.uses.count name = 1
  /-- The implementation gets, for every index, the parameter or what it was converted to. -/
  implementation : ∃ (before after : List Statement) (args : List String),
    b.body = before ++ .bind "callResult"
      ⟨calleePath implementation pair.actual.name, args, pair.fallible⟩ :: after ∧
    args.length = pair.native.arity ∧
    ∀ (i : Nat) (name : String), args[i]? = some name →
      name = paramName i ∨
        ∃ c, Statement.bind name c ∈ before ∧ Converts r pair c (paramName i)

/-! ### Lists of statements -/

theorem boundNames_append (ss ts : List Statement) :
    boundNames (ss ++ ts) = boundNames ss ++ boundNames ts :=
  List.filterMap_append

theorem usedNames_append (ss ts : List Statement) :
    usedNames (ss ++ ts) = usedNames ss ++ usedNames ts :=
  List.flatMap_append

theorem boundNames_cons (s : Statement) (ss : List Statement) :
    boundNames (s :: ss) = s.bound?.toList ++ boundNames ss := by
  rcases s with c | ⟨name, c⟩ <;> rfl

theorem usedNames_cons (s : Statement) (ss : List Statement) :
    usedNames (s :: ss) = s.call.args ++ usedNames ss :=
  List.flatMap_cons

theorem boundNames_bind (name : String) (c : Call) (ss : List Statement) :
    boundNames (.bind name c :: ss) = name :: boundNames ss :=
  rfl

/-- Except for the environment, a conversion calls on the value that it converts. -/
theorem count_usedNames_rule {name : String} (h : name ≠ envParameter.name)
    (bound path value : String) (ss : List Statement) :
    (usedNames (.bind bound (.rule path envParameter.name value) :: ss)).count name =
      [value].count name + (usedNames ss).count name := by
  rw [usedNames_cons, List.count_append]
  change [envParameter.name, value].count name + _ = _
  rw [List.count_cons_of_ne h.symm]

theorem scopedFrom_append {ss ts : List Statement} :
    ∀ {known : List String}, ScopedFrom known (ss ++ ts) ↔
      ScopedFrom known ss ∧ ScopedFrom (known ++ boundNames ss) ts := by
  induction ss with
  | nil => intro known; simp [ScopedFrom, boundNames]
  | cons s ss ih =>
    intro known
    rw [List.cons_append, ScopedFrom, ScopedFrom, ih, boundNames_cons, List.append_assoc,
      and_assoc]

/-- Statements that only call on what was known before them are scoped. -/
theorem scopedFrom_of_forall {ss : List Statement} :
    ∀ {known : List String}, (∀ s ∈ ss, ∀ name ∈ s.call.args, name ∈ known) →
      ScopedFrom known ss := by
  induction ss with
  | nil => intro known _; trivial
  | cons s ss ih =>
    intro known h
    refine ⟨h s List.mem_cons_self, ih ?_⟩
    intro t ht name hname
    exact List.mem_append_left _ (h t (List.mem_cons_of_mem s ht) name hname)

/-! ### The argument loop -/

/-- What the loop binds: for each index whose type has a rule, its use on the parameter. -/
theorem mem_argumentStatements_iff {ds : List TypeDescriptor} {s : Statement} :
    ∀ {i : Nat}, s ∈ argumentStatements i ds ↔
      ∃ (j : Nat) (d : TypeDescriptor) (path : String), ds[j]? = some d ∧
        d.fromNative = some path ∧ s = .bind (convertedName (paramName (i + j)))
          (.rule path envParameter.name (paramName (i + j))) := by
  induction ds with
  | nil => intro i; simp [argumentStatements]
  | cons d ds ih =>
    intro i
    have hshift (j : Nat) : i + 1 + j = i + (j + 1) := by omega
    constructor
    · intro h
      unfold argumentStatements at h
      rcases hrule : d.fromNative with _ | path
      · rw [hrule] at h
        obtain ⟨j, e, path, hj, hpath, rfl⟩ := ih.1 h
        exact ⟨j + 1, e, path, hj, hpath, by rw [hshift]⟩
      · rw [hrule] at h
        rcases List.mem_cons.1 h with rfl | h
        · exact ⟨0, d, path, rfl, hrule, rfl⟩
        · obtain ⟨j, e, path, hj, hpath, rfl⟩ := ih.1 h
          exact ⟨j + 1, e, path, hj, hpath, by rw [hshift]⟩
    · rintro ⟨j, e, path, hj, hpath, rfl⟩
      unfold argumentStatements
      rcases j with _ | j
      · obtain rfl : d = e := Option.some.inj hj
        rw [hpath]
        exact List.mem_cons_self
      · have hrest : Statement.bind (convertedName (paramName (i + (j + 1))))
            (.rule path envParameter.name (paramName (i + (j + 1)))) ∈
              argumentStatements (i + 1) ds :=
          ih.2 ⟨j, e, path, hj, hpath, by rw [hshift]⟩
        rcases d.fromNative with _ | path'
        · exact hrest
        · exact List.mem_cons_of_mem _ hrest

/-- The argument of an index is the parameter, or the name that it was converted to. -/
theorem getElem?_argumentNames {ds : List TypeDescriptor} :
    ∀ (i j : Nat), (argumentNames i ds)[j]? = ds[j]?.map fun d =>
      if d.convertsArguments then convertedName (paramName (i + j)) else paramName (i + j) := by
  induction ds with
  | nil => intro i j; rfl
  | cons d ds ih =>
    intro i j
    unfold argumentNames
    rcases j with _ | j
    · rfl
    · rw [List.getElem?_cons_succ, List.getElem?_cons_succ, ih (i + 1) j,
        show i + 1 + j = i + (j + 1) by omega]

theorem paramName_ne_env (i : Nat) : paramName i ≠ "env" :=
  Role.name_ne (a := .param i) (b := .env) (by simp)

/-- The implementation is not called on the environment. -/
theorem ne_env_of_mem_argumentNames {i : Nat} {ds : List TypeDescriptor} {name : String}
    (h : name ∈ argumentNames i ds) : name ≠ "env" := by
  obtain ⟨j, hj⟩ := List.mem_iff_getElem?.1 h
  rw [getElem?_argumentNames] at hj
  obtain ⟨d, -, rfl⟩ := Option.map_eq_some_iff.1 hj
  split
  · exact (env_ne_convertedName (i + j)).symm
  · exact paramName_ne_env (i + j)

theorem length_argumentNames (ds : List TypeDescriptor) :
    ∀ i : Nat, (argumentNames i ds).length = ds.length := by
  induction ds with
  | nil => intro i; rfl
  | cons d ds ih =>
    intro i
    rw [argumentNames, List.length_cons, List.length_cons, ih (i + 1)]

/-- The loop binds names of converted parameters, in the order of the indices. -/
theorem boundNames_argumentStatements_sublist (ds : List TypeDescriptor) :
    ∀ i : Nat, (boundNames (argumentStatements i ds)).Sublist
      ((List.range' i ds.length).map fun j => convertedName (paramName j)) := by
  induction ds with
  | nil => intro i; exact .slnil
  | cons d ds ih =>
    intro i
    rw [List.length_cons, List.range'_succ, List.map_cons, argumentStatements]
    rcases d.fromNative with _ | path
    · exact (ih (i + 1)).cons _
    · exact (ih (i + 1)).cons_cons _

/-- Except for the environment, what the loop and the implementation together call on is
    what comes in and what the loop binds, each name as often there as here. -/
theorem count_argumentNames {name : String} (h : name ≠ envParameter.name)
    (ds : List TypeDescriptor) :
    ∀ i : Nat, (usedNames (argumentStatements i ds)).count name +
        (argumentNames i ds).count name =
      ((List.range' i ds.length).map paramName).count name +
        (boundNames (argumentStatements i ds)).count name := by
  induction ds with
  | nil => intro i; rfl
  | cons d ds ih =>
    intro i
    have hrest := ih (i + 1)
    rw [List.length_cons, List.range'_succ, List.map_cons, argumentStatements, argumentNames,
      TypeDescriptor.convertsArguments]
    rcases d.fromNative with _ | path
    · simp only [Option.isSome_none, Bool.false_eq_true, if_false, List.count_cons]
      omega
    · rw [count_usedNames_rule h, boundNames_bind]
      simp only [Option.isSome_some, if_true, List.count_cons, List.count_nil]
      omega

/-! ### The whole body -/

/-- The roles of all names that the body of a bridge may have. -/
def bodyRoles (arity : Nat) : List Role :=
  parameterRoles arity ++
    ((List.range arity).map Role.convertedParam ++ [.result, .convertedResult])

theorem bodyRoles_nodup (arity : Nat) : (bodyRoles arity).Nodup := by
  have hconverted : ((List.range arity).map Role.convertedParam).Nodup :=
    List.Nodup.map (fun _ _ h => Role.convertedParam.inj h) List.nodup_range
  apply List.Nodup.append (parameterRoles_nodup arity)
  · apply List.Nodup.append hconverted (by simp)
    simp
  · intro role hparam hother
    simp only [parameterRoles, List.mem_cons, List.mem_append, List.mem_map] at hparam hother
    rcases hparam with rfl | rfl | ⟨i, -, rfl⟩ <;> simp at hother

section

variable (ident implementation : String) (pair : FunctionPair) (arguments : List TypeDescriptor)
  (result : TypeDescriptor)

theorem paramNames_draftedBridge :
    (draftedBridge ident implementation pair arguments result).paramNames =
      "env" :: "clazz" :: (List.range pair.native.arity).map paramName := by
  change (bridgeParams pair.native).map (·.name) = _
  rw [names_bridgeParams, parameterRoles, List.map_cons, List.map_cons, List.map_map]
  rfl

theorem body_draftedBridge :
    (draftedBridge ident implementation pair arguments result).body =
      attachStatement :: (argumentStatements 0 arguments ++
        .bind resultName ⟨calleePath implementation pair.actual.name, argumentNames 0 arguments,
          pair.fallible⟩ :: resultStatements result) :=
  rfl

theorem boundNames_resultStatements :
    boundNames (resultStatements result) =
      if result.convertsResults then [convertedName resultName] else [] := by
  rw [resultStatements, TypeDescriptor.convertsResults]
  rcases result.toNative with _ | path <;> rfl

theorem boundNames_draftedBridge :
    boundNames (draftedBridge ident implementation pair arguments result).body =
      boundNames (argumentStatements 0 arguments) ++
        resultName :: boundNames (resultStatements result) := by
  rw [body_draftedBridge, boundNames_cons, boundNames_append, boundNames_cons]
  rfl

/-- The names of a body are spelled from different roles. -/
theorem names_draftedBridge_sublist (harity : arguments.length = pair.native.arity) :
    (draftedBridge ident implementation pair arguments result).names.Sublist
      ((bodyRoles pair.native.arity).map Role.name) := by
  have hloop := boundNames_argumentStatements_sublist arguments 0
  rw [harity, ← List.range_eq_range'] at hloop
  have hresult : (boundNames (resultStatements result)).Sublist [convertedName resultName] := by
    rw [boundNames_resultStatements]
    split
    · exact .refl _
    · exact List.nil_sublist _
  rw [Bridge.names, boundNames_draftedBridge, bodyRoles, List.map_append, List.map_append,
    List.map_map]
  apply List.Sublist.append
  · rw [← names_bridgeParams]
    exact .refl _
  · exact hloop.append (hresult.cons_cons resultName)

theorem names_draftedBridge_nodup (harity : arguments.length = pair.native.arity) :
    (draftedBridge ident implementation pair arguments result).names.Nodup := by
  have hroles := names_draftedBridge_sublist ident implementation pair arguments result harity
  exact ((bodyRoles_nodup _).map Role.name_injective).sublist hroles

/-- The two handles differ from each other and from all values, and those among themselves. -/
theorem handles_apart (harity : arguments.length = pair.native.arity) :
    ("env" :: "clazz" :: ((List.range pair.native.arity).map paramName ++
      boundNames (draftedBridge ident implementation pair arguments result).body)).Nodup := by
  have hdistinct := names_draftedBridge_nodup ident implementation pair arguments result harity
  rwa [Bridge.names, paramNames_draftedBridge] at hdistinct

/-- Except for the environment, a body uses the parameters for the arguments and what it
    binds, each as often as it is named there. -/
theorem count_uses_draftedBridge (harity : arguments.length = pair.native.arity) {name : String}
    (h : name ≠ envParameter.name) :
    (draftedBridge ident implementation pair arguments result).uses.count name =
      ((List.range pair.native.arity).map paramName ++
        boundNames (draftedBridge ident implementation pair arguments result).body).count
          name := by
  have hloop := count_argumentNames h arguments 0
  rw [harity, ← List.range_eq_range'] at hloop
  have hresult : (usedNames (resultStatements result)).count name +
        [resultValue result].count name =
      [resultName].count name + (boundNames (resultStatements result)).count name := by
    rw [resultStatements, resultValue, TypeDescriptor.convertsResults]
    rcases result.toNative with _ | path
    · exact Nat.add_comm ..
    · exact congrArg (· + [convertedName resultName].count name)
        (count_usedNames_rule h _ path resultName [])
  rw [boundNames_draftedBridge, Bridge.uses, body_draftedBridge, usedNames_cons,
    usedNames_append, usedNames_cons]
  change ([] ++ (_ ++ (argumentNames 0 arguments ++ _)) ++ [resultValue result]).count name = _
  rw [← List.singleton_append (l := boundNames (resultStatements result))]
  simp only [List.nil_append, List.count_append]
  omega

end

/-! ### Checked pairs -/

section

variable {r : TypeRegistry} {pair : FunctionPair} {ident implementation : String}
  {arguments : List TypeDescriptor} {result : TypeDescriptor}

/-- A rule that was found for an index converts the parameter of that index. -/
theorem Checked.converts_at (h : Checked r pair ident arguments result) {i : Nat}
    {d : TypeDescriptor} {path : String} (hd : arguments[i]? = some d)
    (hrule : d.fromNative = some path) :
    Converts r pair (.rule path envParameter.name (paramName i)) (paramName i) := by
  obtain ⟨hi, rfl⟩ := List.getElem?_eq_some_iff.1 hd
  have hactual : i < pair.actual.params.length := by
    rw [h.forall₂_found.length_eq]
    exact hi
  have hfound := h.forall₂_found.get hactual hi
  exact .argument (List.getElem?_eq_getElem hactual) hfound hrule

theorem Checked.lt_arity (h : Checked r pair ident arguments result) {i : Nat}
    {d : TypeDescriptor} (hd : arguments[i]? = some d) : i < pair.native.arity := by
  rw [← h.length_arguments]
  exact (List.getElem?_eq_some_iff.1 hd).1

/-- What the loop binds are conversions of the pair, each of one parameter. -/
theorem Checked.converts_argument (h : Checked r pair ident arguments result) {s : Statement}
    (hs : s ∈ argumentStatements 0 arguments) :
    ∃ i < pair.native.arity, Converts r pair s.call (paramName i) := by
  obtain ⟨i, d, path, hd, hrule, rfl⟩ := mem_argumentStatements_iff.1 hs
  rw [Nat.zero_add]
  exact ⟨i, h.lt_arity hd, h.converts_at hd hrule⟩

theorem Checked.converts_result (h : Checked r pair ident arguments result) {s : Statement}
    (hs : s ∈ resultStatements result) : Converts r pair s.call resultName := by
  unfold resultStatements at hs
  rcases hrule : result.toNative with _ | path
  · rw [hrule] at hs
    cases hs
  · rw [hrule] at hs
    obtain rfl := List.mem_singleton.1 hs
    exact .result h.result.found hrule

/-- For every index the implementation gets the parameter, or what the loop made of it. -/
theorem Checked.argument_cases (h : Checked r pair ident arguments result) {i : Nat}
    {name : String} (hi : (argumentNames 0 arguments)[i]? = some name) :
    i < pair.native.arity ∧ (name = paramName i ∨
      ∃ c, Statement.bind name c ∈ argumentStatements 0 arguments ∧
        Converts r pair c (paramName i)) := by
  rw [getElem?_argumentNames, Nat.zero_add] at hi
  obtain ⟨d, hd, rfl⟩ := Option.map_eq_some_iff.1 hi
  refine ⟨h.lt_arity hd, ?_⟩
  rw [TypeDescriptor.convertsArguments]
  rcases hrule : d.fromNative with _ | path
  · exact .inl rfl
  · have hbound : Statement.bind (convertedName (paramName i))
        (.rule path envParameter.name (paramName i)) ∈ argumentStatements 0 arguments :=
      mem_argumentStatements_iff.2 ⟨i, d, path, hd, hrule, by rw [Nat.zero_add]⟩
    exact .inr ⟨_, hbound, h.converts_at hd hrule⟩

/-- What the implementation is called on was there before the loop or is bound by it. -/
theorem Checked.mem_of_argument (h : Checked r pair ident arguments result) {name : String}
    (hname : name ∈ argumentNames 0 arguments) :
    name ∈ (List.range pair.native.arity).map paramName ++
      boundNames (argumentStatements 0 arguments) := by
  obtain ⟨i, hi⟩ := List.mem_iff_getElem?.1 hname
  obtain ⟨hlt, rfl | ⟨c, hc, -⟩⟩ := h.argument_cases hi
  · exact List.mem_append_left _ (List.mem_map_of_mem (List.mem_range.2 hlt))
  · exact List.mem_append_right _ (List.mem_filterMap.2 ⟨_, hc, rfl⟩)

/-- A conversion calls on the environment and on its value. -/
theorem Converts.args_eq {c : Call} {name : String} (h : Converts r pair c name) :
    c.args = ["env", name] := by
  rcases h with _ | _ <;> rfl

theorem Converts.ne_env {c : Call} {name : String} (h : Converts r pair c name) :
    name ≠ "env" := by
  rcases h with _ | _
  · exact paramName_ne_env _
  · exact env_ne_resultName.symm

/-- A conversion has the environment in the first place only. -/
theorem Converts.env_first {c : Call} {name : String} (h : Converts r pair c name) {k : Nat}
    (hk : c.args[k]? = some "env") : k = 0 := by
  rw [h.args_eq] at hk
  rcases k with _ | _ | k
  · rfl
  · exact absurd (Option.some.inj hk) h.ne_env
  · cases hk

/-- No statement calls on a name that is not there yet. -/
theorem Checked.scopedFrom (h : Checked r pair ident arguments result) :
    ScopedFrom (draftedBridge ident implementation pair arguments result).paramNames
      (draftedBridge ident implementation pair arguments result).body := by
  rw [paramNames_draftedBridge, body_draftedBridge]
  generalize hnatives : (List.range pair.native.arity).map paramName = natives
  have hparam {i : Nat} (hi : i < pair.native.arity) : paramName i ∈ natives := by
    rw [← hnatives]
    exact List.mem_map_of_mem (List.mem_range.2 hi)
  refine ⟨by simp [attachStatement, Statement.call], ?_⟩
  rw [scopedFrom_append]
  refine ⟨?_, ?_, ?_⟩
  · apply scopedFrom_of_forall
    intro s hs name hname
    obtain ⟨i, hi, hconverts⟩ := h.converts_argument hs
    rw [hconverts.args_eq] at hname
    rcases List.mem_pair.1 hname with rfl | rfl
    · simp
    · simp [hparam hi]
  · intro name hname
    have hmem := h.mem_of_argument hname
    rw [hnatives] at hmem
    rcases List.mem_append.1 hmem with hnative | hbound
    · simp [hnative]
    · exact List.mem_append_right _ hbound
  · apply scopedFrom_of_forall
    intro s hs name hname
    rw [(h.converts_result hs).args_eq] at hname
    rcases List.mem_pair.1 hname with rfl | rfl
    · simp
    · exact List.mem_append_right _ List.mem_cons_self

/-- Only conversions are called on the environment, and only in the first place. -/
theorem Checked.env_only (h : Checked r pair ident arguments result) {s : Statement}
    (hs : s ∈ (draftedBridge ident implementation pair arguments result).body) {k : Nat}
    (hk : s.call.args[k]? = some "env") :
    k = 0 ∧ ∃ name, name ≠ "env" ∧ Converts r pair s.call name := by
  rw [body_draftedBridge, List.mem_cons, List.mem_append, List.mem_cons] at hs
  rcases hs with rfl | hs | rfl | hs
  · cases hk
  · obtain ⟨i, -, hconverts⟩ := h.converts_argument hs
    exact ⟨hconverts.env_first hk, _, hconverts.ne_env, hconverts⟩
  · have hargument : "env" ∈ argumentNames 0 arguments := List.mem_of_getElem? hk
    exact absurd rfl (ne_env_of_mem_argumentNames hargument)
  · have hconverts := h.converts_result hs
    exact ⟨hconverts.env_first hk, _, hconverts.ne_env, hconverts⟩

theorem resultValue_mem_boundNames (ident implementation : String) (pair : FunctionPair)
    (arguments : List TypeDescriptor) (result : TypeDescriptor) :
    resultValue result ∈
      boundNames (draftedBridge ident implementation pair arguments result).body := by
  rw [boundNames_draftedBridge, boundNames_resultStatements, resultValue]
  split <;> simp

end

/-! ### Bridges -/

theorem bridgeOf_wellScoped {r : TypeRegistry} {implementation : String} {pair : FunctionPair}
    {b : Bridge} (hb : bridgeOf r implementation pair = .ok b) :
    WellScoped r implementation pair b := by
  obtain ⟨ident, arguments, result, hchecked, rfl⟩ := bridgeOf_ok_iff.1 hb
  have harity := hchecked.length_arguments
  have hcount (name : String) (h : name ≠ "env") :=
    count_uses_draftedBridge ident implementation pair arguments result harity h
  have hvalue := resultValue_mem_boundNames ident implementation pair arguments result
  obtain ⟨henv, hhandles⟩ := List.nodup_cons.1
    (handles_apart ident implementation pair arguments result harity)
  obtain ⟨hcaller, hothers⟩ := List.nodup_cons.1 hhandles
  have hneEnv {name : String} (h : name ∈ (List.range pair.native.arity).map paramName ++
      boundNames (draftedBridge ident implementation pair arguments result).body) :
      name ≠ "env" := by
    rintro rfl
    exact henv (List.mem_cons_of_mem _ h)
  exact {
    params := paramNames_draftedBridge ident implementation pair arguments result
    distinct := names_draftedBridge_nodup ident implementation pair arguments result harity
    arguments := hchecked.scopedFrom
    value := List.mem_append_right _ hvalue
    env := rfl
    envOnly := fun s hs k hk => hchecked.env_only hs hk
    envNotValue := hneEnv (List.mem_append_right _ hvalue)
    noCaller := by
      rw [← List.count_eq_zero, hcount "clazz" (by decide)]
      exact List.count_eq_zero.2 hcaller
    once := by
      intro name hname
      rw [hcount name (hneEnv hname)]
      exact List.count_eq_one_of_mem hothers hname
    implementation := by
      refine ⟨attachStatement :: argumentStatements 0 arguments, resultStatements result,
        argumentNames 0 arguments, rfl, ?_, ?_⟩
      · rw [length_argumentNames, harity]
      · intro i name hi
        obtain ⟨-, rfl | ⟨c, hc, hconverts⟩⟩ := hchecked.argument_cases hi
        · exact .inl rfl
        · exact .inr ⟨c, List.mem_cons_of_mem _ hc, hconverts⟩ }

/-- The pair of the demo that converts both arguments and the result. -/
theorem prepareStmt_wellScoped :
    ∃ b, bridgeOf Demo.registry "SqliteApi" Demo.prepareStmtPair = .ok b ∧
      WellScoped Demo.registry "SqliteApi" Demo.prepareStmtPair b :=
  ⟨_, rfl, bridgeOf_wellScoped rfl⟩

end NativeBridge
