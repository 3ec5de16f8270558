/-
  NativeBridge/Proofs/DemoBridges.lean
  ====================================
  **The bridges of the demo are those of its catalog.**  The catalog is read from its
  text, a unit is generated, and each of its bridges is executed: for every way in which
  the implementation and its conversions may behave, that is the same run as the bridge
  that is written out (`Entry.Refined.same`).

  Both sides are compared with the exchange that the protocol prescribes.  A bridge that
  is executed performs it by `execute_eq_exchange`, and so does the one written out
  (`Means.contained_exchange`), for every meaning of the paths that goes by the
  implementation.  If the meaning records what is called, the transcript of the exchange
  tells in which order things happen and what is returned.
-/
import NativeBridge.Demo.Meaning
import NativeBridge.Proofs.Batch
import NativeBridge.Proofs.Protocol

namespace NativeBridge

namespace Demo

variable {τ Db Status : Type}

/-! ### What the calls come to -/

namespace Entry

def pair : Entry → FunctionPair
  | openDatabase _ => openDatabasePair
  | prepareStmt _ _ => prepareStmtPair
  | close _ => closePair
  | libVersion => libVersionPair

def callee : Entry → String
  | openDatabase _ => "SqliteApi::openDatabase"
  | prepareStmt _ _ => "SqliteApi::prepareStmt"
  | close _ => "SqliteApi::close"
  | libVersion => "SqliteApi::libVersion"

def fallible : Entry → Bool
  | libVersion => false
  | _ => true

/-- The conversion of each argument. -/
def rules : Entry → List (Option String)
  | openDatabase _ => [some "convert::string_from_native"]
  | prepareStmt _ _ => [some "DbRef::from_native", some "convert::string_from_native"]
  | close _ => [some "DbRef::from_native"]
  | libVersion => []

/-- The conversion of the result. -/
def toNative : Entry → Option String
  | openDatabase _ => some "DbRef::to_native"
  | prepareStmt _ _ => some "StatusCode::to_native"
  | close _ => none
  | libVersion => some "convert::string_to_native"

/-- What is returned when anything fails. -/
def sentinel : Entry → Value Db Status
  | openDatabase _ => .pointer .null
  | prepareStmt _ _ => .number (-1)
  | close _ => .nothing
  | libVersion => .string none

end Entry

/-- A meaning of the paths that goes by an implementation. -/
structure Means (api : Implementation τ Db Status) (m : Meaning τ (Value Db Status)) :
    Prop where
  textFromNative : ∀ env s, m.call "convert::string_from_native" [.env env, .string s] =
    (api.textFromNative env s).map .text
  textToNative : ∀ env s, m.call "convert::string_to_native" [.env env, .text s] =
    (api.textToNative env s).map fun bs => .string (some bs)
  dbFromNative : ∀ env p, m.call "DbRef::from_native" [.env env, .pointer p] =
    (api.dbFromNative env p).map .db
  dbToNative : ∀ env d, m.call "DbRef::to_native" [.env env, .db d] =
    (api.dbToNative env d).map .pointer
  statusToNative : ∀ env s, m.call "StatusCode::to_native" [.env env, .status s] =
    (api.statusToNative env s).map .number
  openDatabase : ∀ path, m.call "SqliteApi::openDatabase" [.text path] =
    (api.openDatabase path).map .db
  prepareStmt : ∀ d sql, m.call "SqliteApi::prepareStmt" [.db d, .text sql] =
    (api.prepareStmt d sql).map .status
  close : ∀ d, m.call "SqliteApi::close" [.db d] = (api.close d).map fun _ => .nothing
  libVersion : m.call "SqliteApi::libVersion" [] = api.libVersion.map .text

theorem means_meaning (api : Implementation τ Db Status) (attached : List Event) :
    Means api (meaning api attached) := by
  constructor <;> intros <;> rfl

/-- The bridge that is written out performs the exchange of the protocol. -/
theorem Means.contained_exchange {api : Implementation τ Db Status}
    {m : Meaning τ (Value Db Status)} (hm : Means api m) (env : EnvHandle) (entry : Entry) :
    (exchange m (.env env) entry.callee entry.fallible entry.rules entry.toNative
      entry.natives).contained env entry.sentinel = entry.run api env := by
  cases entry with
  | openDatabase p0 =>
    rw [Entry.run, Demo.openDatabase, Run.map_contained]
    simp only [exchange, Entry.rules, Entry.natives, convertAll, convertWith, Entry.callee,
      Entry.fallible, callImplementation, Entry.toNative, if_true, hm.textFromNative,
      hm.openDatabase, hm.dbToNative, Run.map_andThen, Run.andThen_assoc, Run.andThen_map,
      Run.ofOutcome_done_andThen, Run.bind_eq_andThen]
    rfl
  | prepareStmt p0 p1 =>
    rw [Entry.run, Demo.prepareStmt, Run.map_contained]
    simp only [exchange, Entry.rules, Entry.natives, convertAll, convertWith, Entry.callee,
      Entry.fallible, callImplementation, Entry.toNative, if_true, hm.dbFromNative,
      hm.textFromNative, hm.prepareStmt, hm.statusToNative, Run.map_andThen,
      Run.andThen_assoc, Run.andThen_map, Run.ofOutcome_done_andThen, Run.bind_eq_andThen]
    rfl
  | close p0 =>
    rw [Entry.run, Demo.close, Run.map_contained]
    simp only [exchange, Entry.rules, Entry.natives, convertAll, convertWith, Entry.callee,
      Entry.fallible, callImplementation, Entry.toNative, if_true, hm.dbFromNative, hm.close,
      Run.map_andThen, Run.andThen_assoc, Run.andThen_map, Run.ofOutcome_done_andThen,
      Run.bind_eq_andThen, Run.andThen_done_map]
    rfl
  | libVersion =>
    rw [Entry.run, Demo.libVersion, Run.map_contained]
    simp only [exchange, Entry.rules, Entry.natives, convertAll, convertWith, Entry.callee,
      Entry.fallible, callImplementation, Entry.toNative, Bool.false_eq_true, if_false,
      hm.libVersion, hm.textToNative, Run.map_unfailing, Run.map_andThen, Run.andThen_map,
      Run.ofOutcome_done_andThen, Run.bind_eq_andThen, Run.map_pure, Run.andThen_done_map]
    rfl

/-! ### Recorded calls -/

/-- How the conversions of the declared types and the implementation answer. -/
structure Answers (Db Status : Type) where
  dbFromNative : EnvHandle → NativePointer → Outcome Db
  dbToNative : EnvHandle → Db → Outcome NativePointer
  statusToNative : EnvHandle → Status → Outcome Int32
  openDatabase : String → Outcome Db
  prepareStmt : Db → String → Outcome Status
  close : Db → Outcome Unit
  libVersion : Outcome String

namespace Answers

variable (a : Answers Db Status)

/-- The implementation that answers so, with every call recorded as that of a path. -/
def implementation : Implementation (PathCall (Value Db Status)) Db Status where
  dbFromNative env p :=
    ⟨[⟨"DbRef::from_native", [.env env, .pointer p]⟩], [], a.dbFromNative env p⟩
  dbToNative env d := ⟨[⟨"DbRef::to_native", [.env env, .db d]⟩], [], a.dbToNative env d⟩
  statusToNative env s :=
    ⟨[⟨"StatusCode::to_native", [.env env, .status s]⟩], [], a.statusToNative env s⟩
  openDatabase path := ⟨[⟨"SqliteApi::openDatabase", [.text path]⟩], [], a.openDatabase path⟩
  prepareStmt d sql :=
    ⟨[⟨"SqliteApi::prepareStmt", [.db d, .text sql]⟩], [], a.prepareStmt d sql⟩
  close d := ⟨[⟨"SqliteApi::close", [.db d]⟩], [], a.close d⟩
  libVersion := ⟨[⟨"SqliteApi::libVersion", []⟩], [], a.libVersion⟩
  recorded
    | .fromNative env s => [⟨"convert::string_from_native", [.env env, .string s]⟩]
    | .toNative env s => [⟨"convert::string_to_native", [.env env, .text s]⟩]

/-- The answer to the call of a path. -/
def reply (callee : String) (args : List (Value Db Status)) : Outcome (Value Db Status) :=
  (callPath a.implementation [] callee args).outcome

theorem means_recorded :
    Means a.implementation (.recorded a.reply constantValue handleOf) := by
  constructor <;> intros <;> rfl

end Answers

/-! ### What a transcript tells -/

section

variable {α : Type} {reply : String → List α → Outcome α} {env : α} {callee : String}
  {fallible : Bool} {rules : List (Option String)} {toNative : Option String}
  {natives : List α} {calls : List (PathCall α)} {o : Outcome α}

/-- Converting arguments calls nothing but their rules. -/
theorem callee_mem_rules {c : PathCall α} :
    c ∈ (rules.zipWith (ruleCalls env) natives).flatten → some c.callee ∈ rules := by
  induction rules generalizing natives with
  | nil => intro h; cases h
  | cons rule rules ih =>
    intro h
    cases natives with
    | nil => cases h
    | cons a natives =>
      rw [List.zipWith_cons_cons, List.flatten_cons] at h
      rcases List.mem_append.1 h with h | h
      · cases rule with
        | none => cases h
        | some path =>
          cases List.mem_singleton.1 h
          exact List.mem_cons_self
      · exact List.mem_cons_of_mem _ (ih h)

/-- The implementation is reached exactly when all arguments can be converted. -/
theorem reached_iff (h : Transcript reply env callee fallible rules toNative natives calls o)
    (hcallee : some callee ∉ rules) :
    (∃ args, ⟨callee, args⟩ ∈ calls) ↔
      ∀ answer ∈ rules.zipWith (ruleAnswer reply env) natives, ∃ v, answer = .done v := by
  have hdone : ∀ {cs : List α}, rules.zipWith (ruleAnswer reply env) natives = cs.map .done →
      ∀ answer ∈ rules.zipWith (ruleAnswer reply env) natives, ∃ v, answer = .done v := by
    intro cs hanswers answer hanswer
    rw [hanswers] at hanswer
    obtain ⟨v, -, rfl⟩ := List.mem_map.1 hanswer
    exact ⟨v, rfl⟩
  cases h with
  | refused answers stops =>
    constructor
    · rintro ⟨args, hcall⟩
      obtain ⟨tried, htried, hmem⟩ := List.mem_flatten.1 hcall
      have hall := List.mem_flatten.2 ⟨tried, List.mem_of_mem_take htried, hmem⟩
      exact absurd (callee_mem_rules hall) hcallee
    · intro hall
      obtain ⟨v, hv⟩ := hall o (by rw [answers]; simp)
      exact absurd hv (stops v)
  | stopped answers answer stops =>
    exact ⟨fun _ => hdone answers, fun _ => ⟨_, List.mem_append_right _ List.mem_cons_self⟩⟩
  | returned answers answer =>
    exact ⟨fun _ => hdone answers, fun _ => ⟨_, List.mem_append_right _ List.mem_cons_self⟩⟩

end

/-! ### Generated bridges -/

theorem registry_ok : catalog.registry = .ok registry := rfl

/-- What the registry says of the types of a call. -/
theorem rules_eq {entry : Entry} {arguments : List TypeDescriptor}
    (h : List.Forall₂ (fun type d => registry.find? type = some d) entry.pair.actual.params
      arguments) : arguments.map (·.fromNative) = entry.rules := by
  have hmap : arguments.map (·.fromNative) =
      entry.pair.actual.params.map fun type => (registry.find? type).bind (·.fromNative) := by
    generalize entry.pair.actual.params = types at h
    induction h with
    | nil => rfl
    | cons hd _ ih => rw [List.map_cons, List.map_cons, ih, hd]; rfl
  rw [hmap]
  cases entry <;> rfl

/-- What the registry says of the type of a result. -/
theorem result_eq {entry : Entry} {result : TypeDescriptor}
    (h : registry.find? entry.pair.actual.returns = some result) :
    result.toNative = entry.toNative ∧
      (constantValue result.default : Value Db Status) = entry.sentinel := by
  cases entry <;> cases h <;> exact ⟨rfl, rfl⟩

/-! ### The written bridges refine the generated ones -/

/-- The run of a bridge whose exchange makes some calls and ends in some way: it returns
    the value, or else the sentinel, and then the failure is logged. -/
def Entry.ended (entry : Entry) (env : EnvHandle) (calls : List (PathCall (Value Db Status))) :
    Outcome (Value Db Status) → Run (PathCall (Value Db Status)) (Value Db Status)
  | .done v => ⟨calls, [], .done v⟩
  | .failed chain =>
    ⟨calls, [.contained env.address (BoundaryError.failed chain).message],
      .done entry.sentinel⟩
  | .panicked p =>
    ⟨calls, [.contained env.address (BoundaryError.panicked p.message).message],
      .done entry.sentinel⟩

/-- **A generated bridge and the one that is written out are the same**, and this is
    what they do. -/
structure Entry.Refined (entry : Entry) (b : Bridge) : Prop where
  exported : b.exportName = entry.pair.symbol
  /-- Executing the generated bridge is entering the written one: the same value, the
      same events, the same calls, on every thread and whatever is called does. -/
  same : ∀ {τ Db Status : Type} (api : Implementation τ Db Status) (ts : Threads)
    (thread : Nat) (outer : Assignment (Value Db Status)) (env : EnvHandle)
    (caller : ClassHandle),
    b.execute (meaning api (ts.attach thread).2) outer
      (.env env :: .caller caller :: entry.natives) = (ts.enter thread (entry.run api env)).2
  /-- Arguments are converted from left to right up to the first that fails; then comes
      the implementation, and then the conversion of its result.  A failure of any of
      them is logged once and gives the sentinel. -/
  course : ∀ {Db Status : Type} (a : Answers Db Status) (env : EnvHandle), ∃ calls o,
    Transcript a.reply (.env env) entry.callee entry.fallible entry.rules entry.toNative
      entry.natives calls o ∧
    entry.run a.implementation env = entry.ended env calls o
  /-- The implementation is reached exactly when all arguments can be converted. -/
  reached : ∀ {Db Status : Type} (a : Answers Db Status) (env : EnvHandle),
    (∃ args, ⟨entry.callee, args⟩ ∈ (entry.run a.implementation env).calls) ↔
      ∀ answer ∈ entry.rules.zipWith (ruleAnswer a.reply (.env env)) entry.natives,
        ∃ v, answer = .done v

namespace Entry

variable {entry : Entry} {b : Bridge}

/-- The run of a written bridge, when what it calls is recorded. -/
theorem run_recorded (entry : Entry) (a : Answers Db Status) (env : EnvHandle) :
    ∃ calls o,
      Transcript a.reply (.env env) entry.callee entry.fallible entry.rules entry.toNative
        entry.natives calls o ∧
      entry.run a.implementation env = entry.ended env calls o := by
  obtain ⟨calls, o, htranscript, hexchange⟩ := exchange_transcript a.reply (.env env)
    constantValue handleOf entry.callee entry.fallible entry.rules entry.toNative entry.natives
  refine ⟨calls, o, htranscript, ?_⟩
  rw [← a.means_recorded.contained_exchange env entry, hexchange]
  cases o <;> rfl

theorem pair_mem_pairs (entry : Entry) : entry.pair ∈ catalog.pairs := by
  have hpairs : catalog.pairs = [openDatabasePair, prepareStmtPair, closePair, libVersionPair] :=
    rfl
  cases entry <;> simp [hpairs, pair]

/-- The implementation is none of the conversions. -/
theorem callee_not_mem_rules (entry : Entry) : some entry.callee ∉ entry.rules := by
  cases entry <;> simp [callee, rules]

theorem execute_bridge (hb : bridgeOf registry catalog.output.implementation entry.pair = .ok b)
    {τ : Type} (api : Implementation τ Db Status) (ts : Threads) (thread : Nat)
    (outer : Assignment (Value Db Status)) (env : EnvHandle) (caller : ClassHandle) :
    b.execute (meaning api (ts.attach thread).2) outer
      (.env env :: .caller caller :: entry.natives) =
        (ts.enter thread (entry.run api env)).2 := by
  obtain ⟨ident, arguments, result, hchecked, rfl⟩ := bridgeOf_ok_iff.1 hb
  have harity : (entry.natives : List (Value Db Status)).length = entry.pair.native.arity := by
    cases entry <;> rfl
  have hcallee : calleePath catalog.output.implementation entry.pair.actual.name =
      entry.callee := by
    cases entry <;> rfl
  have hfallible : entry.pair.fallible = entry.fallible := by
    cases entry <;> rfl
  obtain ⟨htoNative, hdefault⟩ :
      result.toNative = entry.toNative ∧
        (constantValue result.default : Value Db Status) = entry.sentinel :=
    result_eq hchecked.result.found
  rw [execute_eq_exchange _ _ hchecked outer _ _ harity, hcallee, hfallible,
    rules_eq hchecked.forall₂_found, htoNative]
  change Run.andThen _ (fun _ => Run.contained env (constantValue result.default) _) = _
  rw [hdefault, (means_meaning api _).contained_exchange env entry]
  rfl

theorem refined_of_bridgeOf
    (hb : bridgeOf registry catalog.output.implementation entry.pair = .ok b) :
    entry.Refined b := by
  constructor
  case exported =>
    obtain ⟨ident, arguments, result, -, rfl⟩ := bridgeOf_ok_iff.1 hb
    rfl
  case same =>
    intro τ Db Status api ts thread outer env caller
    exact execute_bridge hb api ts thread outer env caller
  case course =>
    intro Db Status a env
    exact entry.run_recorded a env
  case reached =>
    intro Db Status a env
    obtain ⟨calls, o, htranscript, hrun⟩ := entry.run_recorded a env
    have hcalls : (entry.run a.implementation env).calls = calls := by
      rw [hrun]
      cases o <;> rfl
    rw [hcalls]
    exact reached_iff htranscript entry.callee_not_mem_rules

end Entry

theorem catalog_parsed : Catalog.parse catalogText = .ok catalog := by
  have h : (Catalog.parse catalogText).toOption = some catalog := by
    rw [catalogText, Catalog.parse, Toml.parse, String.toList_ofList]
    decide +kernel
  cases hparse : Catalog.parse catalogText with
  | ok c => rw [hparse] at h; rw [Option.some.inj h]
  | error e => rw [hparse] at h; cases h

theorem unit_ok : ∃ u, catalog.unit.result = .ok u := by
  have hpairs : ∃ bs, (bridgesOf registry catalog.output.implementation
      catalog.pairs).result = .ok bs := ⟨_, rfl⟩
  obtain ⟨bs, hbs⟩ := hpairs
  refine ⟨.ofBridges catalog.renderOptions bs, ?_⟩
  simp only [Catalog.unit, registry_ok]
  exact Logged.map_ok_iff.2 ⟨bs, hbs, rfl⟩

/-- **The bridges that are written out refine the generated ones.**  The unit that is
    generated from the text of the catalog exports their four symbols, and among its
    bridges is the one for every call. -/
theorem written_refine_generated :
    Catalog.parse catalogText = .ok catalog ∧
    ∃ u, catalog.unit.result = .ok u ∧
      u.bridges.map (·.exportName) = [openDatabasePair.symbol, prepareStmtPair.symbol,
        closePair.symbol, libVersionPair.symbol] ∧
      ∀ entry : Entry, ∃ b ∈ u.bridges, entry.Refined b := by
  obtain ⟨u, hu⟩ := unit_ok
  have hbridges := Catalog.bridges_of_unit registry_ok hu
  refine ⟨catalog_parsed, u, hu, map_exportName_of_forall₂ hbridges, ?_⟩
  intro entry
  obtain ⟨b, hb, hbridge⟩ := exists_mem_of_forall₂ hbridges entry.pair_mem_pairs
  exact ⟨b, hb, Entry.refined_of_bridgeOf hbridge⟩

end Demo
end NativeBridge
