/-
  NativeBridge/Proofs/Reading.lean
  ================================
  **How a catalog is spelled does not matter.**  From every document that spells a
  catalog that catalog is read (`Catalog.read_of_spelled`), and the same holds of each
  record that it is made of.

  Tables are read slot by slot.  A slot sees only the entries under its own keys
  (`Receives`), and slots do not interfere, so the order of the entries is of no
  importance (`Lawful.absorbAll_eq`).  Lists are read field by field, and where a list is
  cut the fields that follow have their defaults (`nextOr_eq`).
-/
import Mathlib
import NativeBridge.Catalog.Decoding
import NativeBridge.Proofs.Registration
import NativeBridge.Proofs.Spelling

namespace NativeBridge

open Toml (Value)
open Spelling

namespace Decoding

/-! ### Slots -/

section

variable {δ : Type}

/-- Neither of two slots takes the keys of the other or changes what is in it. -/
@[mk_iff]
structure Slot.Apart (s t : Slot δ) : Prop where
  keys : ∀ k ∈ s.keys, k ∉ t.keys
  left : ∀ d x, s.get (t.put d x) = s.get d
  right : ∀ d x, t.get (s.put d x) = t.get d

instance : Std.Symm (@Slot.Apart δ) :=
  ⟨fun _ _ h => ⟨fun k ht hs => h.keys k hs ht, h.right, h.left⟩⟩

/-- Slots that do not interfere and leave nothing out. -/
structure Lawful (slots : List (Slot δ)) : Prop where
  apart : slots.Pairwise Slot.Apart
  ext : ∀ d d', (∀ s ∈ slots, s.get d = s.get d') → d = d'

/-- What some entries do to a value that is being read. -/
inductive Receives {α : Type} (read : Reader α) : Toml.Table → Option α → Option α → Prop
  | nothing (x : Option α) : Receives read [] x x
  | value {key : String} {v : Value} {a : α} (hread : read v = .ok a) :
      Receives read [(key, v)] none (some a)

theorem receives_nil {α : Type} {read : Reader α} {x y : Option α}
    (h : Receives read [] x y) : x = y := by
  cases h
  rfl

theorem receives_cons {α : Type} {read : Reader α} {key : String} {v : Value}
    {rest : Toml.Table} {x y : Option α} (h : Receives read ((key, v) :: rest) x y) :
    x = none ∧ rest = [] ∧ ∃ a, read v = .ok a ∧ y = some a := by
  cases h with
  | value hread => exact ⟨rfl, rfl, _, hread, rfl⟩

theorem absorb_of_unknown {slots : List (Slot δ)} {key : String}
    (h : ∀ s ∈ slots, key ∉ s.keys) (d : δ) (v : Value) : absorb slots d key v = .ok d := by
  induction slots with
  | nil => rfl
  | cons s slots ih =>
    rw [absorb, if_neg (h s List.mem_cons_self)]
    exact ih fun t ht => h t (List.mem_cons_of_mem s ht)

/-- The first slot that takes a key is the only one. -/
theorem absorb_of_mem {slots : List (Slot δ)} (hapart : slots.Pairwise Slot.Apart)
    {s : Slot δ} (hs : s ∈ slots) {key : String} (hkey : key ∈ s.keys) (d : δ) (v : Value) :
    absorb slots d key v = (fill s.field s.read (s.get d) v).map (s.put d) := by
  induction slots with
  | nil => cases hs
  | cons t slots ih =>
    obtain ⟨ht, hslots⟩ := List.pairwise_cons.1 hapart
    rw [absorb]
    rcases List.mem_cons.1 hs with rfl | hrest
    · rw [if_pos hkey]
    · have hother : key ∉ t.keys := fun h => (ht s hrest).keys key h hkey
      rw [if_neg hother]
      exact ih hslots hrest

theorem entriesOf_cons_of_mem {keys : List String} {key : String} (h : key ∈ keys) (v : Value)
    (entries : Toml.Table) :
    entriesOf keys ((key, v) :: entries) = (key, v) :: entriesOf keys entries := by
  simp [entriesOf, h]

theorem entriesOf_cons_of_not_mem {keys : List String} {key : String} (h : key ∉ keys)
    (v : Value) (entries : Toml.Table) :
    entriesOf keys ((key, v) :: entries) = entriesOf keys entries := by
  simp [entriesOf, h]

/-- **A table is read slot by slot**: what is read in the end is determined by what each
    slot makes of its own entries. -/
theorem Lawful.absorbAll_eq {slots : List (Slot δ)} (hlawful : Lawful slots) {d' : δ} :
    ∀ {entries : Toml.Table} {d : δ},
      (∀ s ∈ slots, Receives s.read (entriesOf s.keys entries) (s.get d) (s.get d')) →
      absorbAll slots d entries = .ok d' := by
  intro entries
  induction entries with
  | nil =>
    intro d h
    rw [absorbAll, hlawful.ext d d' fun s hs => receives_nil (h s hs)]
  | cons entry entries ih =>
    obtain ⟨key, v⟩ := entry
    intro d h
    by_cases hknown : ∃ s ∈ slots, key ∈ s.keys
    · obtain ⟨s, hs, hkey⟩ := hknown
      have hvalue := h s hs
      rw [entriesOf_cons_of_mem hkey] at hvalue
      obtain ⟨hfree, hrest, a, hread, hfilled⟩ := receives_cons hvalue
      have habsorb : absorb slots d key v = .ok (s.put d (some a)) := by
        rw [absorb_of_mem hlawful.apart hs hkey, hfree, fill, hread]
        rfl
      rw [absorbAll, habsorb]
      apply ih
      intro t ht
      by_cases hst : t = s
      · subst hst
        rw [t.get_put, hrest, hfilled]
        exact .nothing _
      · -- the other slots have neither this entry nor its value
        have hapart : s.Apart t :=
          hlawful.apart.forall hs ht (Ne.symm hst)
        have hother := h t ht
        rw [entriesOf_cons_of_not_mem (hapart.keys key hkey)] at hother
        rw [hapart.right]
        exact hother
    · have hunknown : ∀ s ∈ slots, key ∉ s.keys := fun s hs hkey => hknown ⟨s, hs, hkey⟩
      rw [absorbAll, absorb_of_unknown hunknown]
      apply ih
      intro s hs
      have hsame := h s hs
      rw [entriesOf_cons_of_not_mem (hunknown s hs)] at hsame
      exact hsame

end

/-! ### Values -/

/-- A reader understands every way in which its content may be written. -/
def Reads {α : Type} (read : Reader α) (Written : Value → Prop) (a : α) : Prop :=
  ∀ v, Written v → read v = .ok a

theorem reads_text (s : String) : Reads text (IsText s) s := by
  rintro v rfl
  rfl

theorem reads_truth (b : Bool) : Reads truth (IsTruth b) b := by
  rintro v rfl
  rfl

theorem reads_optional (x : Option String) : Reads (optional text) (IsPresent x) x := by
  rintro v ⟨s, rfl, rfl⟩
  rfl

theorem items_eq {α : Type} {read : Reader α} {Item : α → Value → Prop}
    (hread : ∀ x, Reads read (Item x) x) {xs : List α} {vs : List Value}
    (h : List.Forall₂ Item xs vs) : items read vs = .ok xs := by
  induction h with
  | nil => rfl
  | cons hitem _ ih =>
    rw [items, hread _ _ hitem, ih]
    rfl

theorem reads_list {α : Type} {read : Reader α} {Item : α → Value → Prop}
    (hread : ∀ x, Reads read (Item x) x) (xs : List α) :
    Reads (list read) (IsListOf Item xs) xs := by
  rintro v ⟨vs, rfl, h⟩
  exact items_eq hread h

/-- A record is read from either form. -/
theorem reads_record {α : Type} {r : Record} {ofTable : Toml.Table → Except SchemaFault α}
    {ofList : List Value → Except SchemaFault α} {fields : List Field} {a : α}
    (htable : ∀ {entries}, TableOf fields entries → ofTable entries = .ok a)
    (hlist : ∀ {vs}, ListOf fields vs → ofList vs = .ok a) :
    Reads (record r ofTable ofList) (RecordOf fields) a := by
  intro v hv
  cases hv with
  | table h => exact htable h
  | list h => exact hlist h

/-! ### Fields -/

section

variable {α : Type} {read : Reader α} {keys : List String} {Written : Value → Prop}
  {default content : α} {fields : List Field} {vs : List Value}

theorem receives_required {entries : Toml.Table} (hread : Reads read Written content)
    (h : (Field.required keys Written).Entries entries) :
    Receives read entries none (some content) := by
  cases h with
  | leftOut h => exact h.elim
  | written _ hv => exact .value (hread _ hv)

/-- A field that is left out has its default afterwards. -/
theorem receives_defaulted {entries : Toml.Table} (hread : Reads read Written content)
    (h : (Field.defaulted keys default content Written).Entries entries) :
    ∃ x, Receives read entries none x ∧ x.getD default = content := by
  cases h with
  | leftOut h => exact ⟨none, .nothing none, h.symm⟩
  | written _ hv => exact ⟨some content, .value (hread _ hv), rfl⟩

theorem nextRequired_eq (r : Record) (i : Nat) (hread : Reads read Written content)
    (h : ListOf (.required keys Written :: fields) vs) :
    ∃ rest, nextRequired r i read vs = .ok (content, rest) ∧ ListOf fields rest := by
  cases h with
  | cut h => exact (h _ List.mem_cons_self).elim
  | next hv h =>
    refine ⟨_, ?_, h⟩
    rw [nextRequired, hread _ hv]
    rfl

/-- Where a list is cut, all fields that follow have their defaults. -/
theorem nextOr_eq (hread : Reads read Written content)
    (h : ListOf (.defaulted keys default content Written :: fields) vs) :
    ∃ rest, nextOr default read vs = .ok (content, rest) ∧ ListOf fields rest := by
  cases h with
  | cut h =>
    have hdefault : content = default := h _ List.mem_cons_self
    refine ⟨[], ?_, .cut fun f hf => h f (List.mem_cons_of_mem _ hf)⟩
    rw [nextOr, hdefault]
  | next hv h =>
    refine ⟨_, ?_, h⟩
    rw [nextOr, hread _ hv]
    rfl

end

/-! ### Signatures -/

theorem lawful_signatureSlots : Lawful SignatureFields.slots := by
  constructor
  · simp [SignatureFields.slots, Slot.apart_iff]
  · rintro ⟨_, _, _⟩ ⟨_, _, _⟩ h
    simpa [SignatureFields.slots] using h

theorem signatureOfTable_eq {s : Signature} {entries : Toml.Table}
    (h : TableOf (signatureFields s) entries) : signatureOfTable entries = .ok s := by
  simp only [signatureFields, tableOf_cons_iff] at h
  obtain ⟨hname, hparams, hreturns, -⟩ := h
  have hname := receives_required (reads_text s.name) hname
  obtain ⟨params, hparams, hparams'⟩ :=
    receives_defaulted (reads_list reads_text s.params) hparams
  obtain ⟨returns, hreturns, hreturns'⟩ := receives_defaulted (reads_text s.returns) hreturns
  have hread : absorbAll SignatureFields.slots ⟨none, none, none⟩ entries =
      .ok ⟨some s.name, params, returns⟩ := by
    apply lawful_signatureSlots.absorbAll_eq
    simp only [SignatureFields.slots, List.forall_mem_cons]
    exact ⟨hname, hparams, hreturns, by simp⟩
  simp only [signatureOfTable, bind, Except.bind, hread, required, hparams', unitType, hreturns']

theorem signatureOfList_eq {s : Signature} {vs : List Value}
    (h : ListOf (signatureFields s) vs) : signatureOfList vs = .ok s := by
  obtain ⟨vs₁, hname, h⟩ := nextRequired_eq .signature 0 (reads_text s.name) h
  obtain ⟨vs₂, hparams, h⟩ := nextOr_eq (reads_list reads_text s.params) h
  obtain ⟨vs₃, hreturns, -⟩ := nextOr_eq (reads_text s.returns) h
  simp only [signatureOfList, bind, Except.bind, hname, hparams, unitType, hreturns]

theorem reads_signature (s : Signature) : Reads signature (RecordOf (signatureFields s)) s :=
  reads_record signatureOfTable_eq signatureOfList_eq

/-! ### Types -/

theorem lawful_typeSlots : Lawful TypeFields.slots := by
  constructor
  · simp [TypeFields.slots, Slot.apart_iff]
  · rintro ⟨_, _, _, _, _⟩ ⟨_, _, _, _, _⟩ h
    simpa [TypeFields.slots] using h

theorem typeOfTable_eq {d : TypeDescriptor} {entries : Toml.Table}
    (h : TableOf (typeFields d) entries) : typeOfTable entries = .ok d := by
  simp only [typeFields, tableOf_cons_iff] at h
  obtain ⟨hname, hnative, hfrom, hto, hdefault, -⟩ := h
  have hname := receives_required (reads_text d.name) hname
  have hnative := receives_required (reads_text d.native) hnative
  obtain ⟨fromNative, hfrom, hfrom'⟩ := receives_defaulted (reads_optional d.fromNative) hfrom
  obtain ⟨toNative, hto, hto'⟩ := receives_defaulted (reads_optional d.toNative) hto
  have hdefault := receives_required (reads_text d.default) hdefault
  have hread : absorbAll TypeFields.slots ⟨none, none, none, none, none⟩ entries =
      .ok ⟨some d.name, some d.native, fromNative, toNative, some d.default⟩ := by
    apply lawful_typeSlots.absorbAll_eq
    simp only [TypeFields.slots, List.forall_mem_cons]
    exact ⟨hname, hnative, hfrom, hto, hdefault, by simp⟩
  simp only [typeOfTable, bind, Except.bind, hread, required, hfrom', hto']

theorem typeOfList_eq {d : TypeDescriptor} {vs : List Value} (h : ListOf (typeFields d) vs) :
    typeOfList vs = .ok d := by
  obtain ⟨vs₁, hname, h⟩ := nextRequired_eq .type 0 (reads_text d.name) h
  obtain ⟨vs₂, hnative, h⟩ := nextRequired_eq .type 1 (reads_text d.native) h
  obtain ⟨vs₃, hfrom, h⟩ := nextOr_eq (reads_optional d.fromNative) h
  obtain ⟨vs₄, hto, h⟩ := nextOr_eq (reads_optional d.toNative) h
  obtain ⟨vs₅, hdefault, -⟩ := nextRequired_eq .type 4 (reads_text d.default) h
  simp only [typeOfList, bind, Except.bind, hname, hnative, hfrom, hto, hdefault]

theorem reads_type (d : TypeDescriptor) : Reads type (RecordOf (typeFields d)) d :=
  reads_record typeOfTable_eq typeOfList_eq

/-! ### Functions -/

theorem lawful_functionSlots : Lawful FunctionFields.slots := by
  constructor
  · simp [FunctionFields.slots, Slot.apart_iff]
  · rintro ⟨_, _, _, _, _⟩ ⟨_, _, _, _, _⟩ h
    simpa [FunctionFields.slots] using h

theorem functionOfTable_eq {f : FunctionDeclaration} {entries : Toml.Table}
    (h : TableOf (functionFields f) entries) : functionOfTable entries = .ok f := by
  simp only [functionFields, tableOf_cons_iff] at h
  obtain ⟨hsymbol, hnative, hactual, hfallible, hexcluded, -⟩ := h
  have hsymbol := receives_required (reads_text f.symbol) hsymbol
  have hnative := receives_required (reads_signature f.native) hnative
  have hactual := receives_required (reads_signature f.actual) hactual
  obtain ⟨fallible, hfallible, hfallible'⟩ :=
    receives_defaulted (reads_truth f.fallible) hfallible
  obtain ⟨excluded, hexcluded, hexcluded'⟩ :=
    receives_defaulted (reads_truth f.excluded) hexcluded
  have hread : absorbAll FunctionFields.slots ⟨none, none, none, none, none⟩ entries =
      .ok ⟨some f.symbol, some f.native, some f.actual, fallible, excluded⟩ := by
    apply lawful_functionSlots.absorbAll_eq
    simp only [FunctionFields.slots, List.forall_mem_cons]
    exact ⟨hsymbol, hnative, hactual, hfallible, hexcluded, by simp⟩
  simp only [functionOfTable, bind, Except.bind, hread, required, hfallible', hexcluded']

theorem functionOfList_eq {f : FunctionDeclaration} {vs : List Value}
    (h : ListOf (functionFields f) vs) : functionOfList vs = .ok f := by
  obtain ⟨vs₁, hsymbol, h⟩ := nextRequired_eq .function 0 (reads_text f.symbol) h
  obtain ⟨vs₂, hnative, h⟩ := nextRequired_eq .function 1 (reads_signature f.native) h
  obtain ⟨vs₃, hactual, h⟩ := nextRequired_eq .function 2 (reads_signature f.actual) h
  obtain ⟨vs₄, hfallible, h⟩ := nextOr_eq (reads_truth f.fallible) h
  obtain ⟨vs₅, hexcluded, -⟩ := nextOr_eq (reads_truth f.excluded) h
  simp only [functionOfList, bind, Except.bind, hsymbol, hnative, hactual, hfallible, hexcluded]

theorem reads_function (f : FunctionDeclaration) :
    Reads function (RecordOf (functionFields f)) f :=
  reads_record functionOfTable_eq functionOfList_eq

/-! ### Output -/

theorem lawful_outputSlots : Lawful OutputFields.slots := by
  constructor
  · simp [OutputFields.slots, Slot.apart_iff]
  · rintro ⟨_, _, _, _⟩ ⟨_, _, _, _⟩ h
    simpa [OutputFields.slots] using h

theorem outputOfTable_eq {o : OutputSettings} {entries : Toml.Table}
    (h : TableOf (outputFields o) entries) : outputOfTable entries = .ok o := by
  simp only [outputFields, tableOf_cons_iff] at h
  obtain ⟨hpath, himplementation, himports, hruntime, -⟩ := h
  obtain ⟨path, hpath, hpath'⟩ := receives_defaulted (reads_optional o.path) hpath
  obtain ⟨implementation, himplementation, himplementation'⟩ :=
    receives_defaulted (reads_text o.implementation) himplementation
  obtain ⟨imports, himports, himports'⟩ :=
    receives_defaulted (reads_list reads_text o.imports) himports
  obtain ⟨runtime, hruntime, hruntime'⟩ := receives_defaulted (reads_text o.runtime) hruntime
  have hread : absorbAll OutputFields.slots ⟨none, none, none, none⟩ entries =
      .ok ⟨path, implementation, imports, runtime⟩ := by
    apply lawful_outputSlots.absorbAll_eq
    simp only [OutputFields.slots, List.forall_mem_cons]
    exact ⟨hpath, himplementation, himports, hruntime, by simp⟩
  simp only [outputOfTable, bind, Except.bind, hread, hpath', himplementation', himports',
    standardRuntime, hruntime']

theorem outputOfList_eq {o : OutputSettings} {vs : List Value} (h : ListOf (outputFields o) vs) :
    outputOfList vs = .ok o := by
  obtain ⟨vs₁, hpath, h⟩ := nextOr_eq (reads_optional o.path) h
  obtain ⟨vs₂, himplementation, h⟩ := nextOr_eq (reads_text o.implementation) h
  obtain ⟨vs₃, himports, h⟩ := nextOr_eq (reads_list reads_text o.imports) h
  obtain ⟨vs₄, hruntime, -⟩ := nextOr_eq (reads_text o.runtime) h
  simp only [outputOfList, bind, Except.bind, hpath, himplementation, himports, standardRuntime,
    hruntime]

theorem reads_output (o : OutputSettings) : Reads output (RecordOf (outputFields o)) o :=
  reads_record outputOfTable_eq outputOfList_eq

/-! ### Catalogs -/

theorem lawful_catalogSlots : Lawful CatalogFields.slots := by
  constructor
  · simp [CatalogFields.slots, Slot.apart_iff]
  · rintro ⟨_, _, _⟩ ⟨_, _, _⟩ h
    simpa [CatalogFields.slots] using h

end Decoding

namespace Catalog

open Decoding

theorem ofTable_eq {c : Catalog} {entries : Toml.Table} (h : c.Spelled entries) :
    ofTable entries = .ok c := by
  simp only [Spelled, catalogFields, tableOf_cons_iff] at h
  obtain ⟨houtput, htypes, hfunctions, -⟩ := h
  obtain ⟨output, houtput, houtput'⟩ := receives_defaulted (reads_output c.output) houtput
  obtain ⟨types, htypes, htypes'⟩ := receives_defaulted (reads_list reads_type c.types) htypes
  obtain ⟨functions, hfunctions, hfunctions'⟩ :=
    receives_defaulted (reads_list reads_function c.functions) hfunctions
  have hread : absorbAll CatalogFields.slots ⟨none, none, none⟩ entries =
      .ok ⟨output, types, functions⟩ := by
    apply lawful_catalogSlots.absorbAll_eq
    simp only [CatalogFields.slots, List.forall_mem_cons]
    exact ⟨houtput, htypes, hfunctions, by simp⟩
  simp only [ofTable, bind, Except.bind, hread, OutputSettings.standard, standardRuntime,
    houtput', htypes', hfunctions']

theorem flawFrom_eq_none {fs : List FunctionDeclaration} (i : Nat)
    (h : ∀ f ∈ fs, ¬ Blank f.symbol ∧ ¬ Blank f.actual.name) : flawFrom i fs = none := by
  induction fs generalizing i with
  | nil => rfl
  | cons f fs ih =>
    obtain ⟨hsymbol, hname⟩ := h f List.mem_cons_self
    rw [flawFrom, if_neg (mt isBlank_iff.1 hsymbol), if_neg (mt isBlank_iff.1 hname)]
    exact ih (i + 1) fun g hg => h g (List.mem_cons_of_mem f hg)

/-- **Every spelling of a catalog is read as that catalog.** -/
theorem read_of_spelled {c : Catalog} {entries : Toml.Table}
    (hnamed : ∀ f ∈ c.functions, ¬ Blank f.symbol ∧ ¬ Blank f.actual.name)
    (hspelled : c.Spelled entries) :
    (ofTable entries = .ok c ∧ c.checked = .ok c) ∧
      ∀ source, Toml.parse source = some entries → parse source = .ok c := by
  have hread := ofTable_eq hspelled
  have hchecked : c.checked = .ok c := by
    rw [checked, flawFrom_eq_none 0 hnamed]
  refine ⟨⟨hread, hchecked⟩, ?_⟩
  intro source hsource
  rw [parse, hsource]
  simp only [hread, hchecked]

end Catalog

/-! ### A catalog in another spelling -/

namespace Demo

def briefLines : List String :=
  ["output = []",
   "functions = [[\"Java_lib_open\", [\"open\", [\"NativeString\"]], " ++
     "\x7breturns = \"()\", name = \"open\", params = [\"String\"]\x7d, false]]",
   "[[types]]",
   "to_native = \"Code::to_native\"",
   "since = 2024-05-01",
   "default = \"-1\"",
   "native = \"jint\"",
   "name = \"Code\""]

def briefText : String := String.ofList (briefLines.flatMap fun l => l.toList ++ ['\n'])

/-- The value of the text: an output without any field, a function by position, and a
    type that has a key of no meaning. -/
def briefTable : Toml.Table :=
  [("output", .list []),
   ("functions", .list [.list [.text "Java_lib_open",
      .list [.text "open", .list [.text "NativeString"]],
      .table [("returns", .text "()"), ("name", .text "open"),
        ("params", .list [.text "String"])],
      .truth false]]),
   ("types", .list [.table [("to_native", .text "Code::to_native"), ("since", .moment),
      ("default", .text "-1"), ("native", .text "jint"), ("name", .text "Code")]])]

def briefCatalog : Catalog :=
  ⟨.standard, [⟨"Code", "jint", "-1", none, some "Code::to_native"⟩],
    [⟨"Java_lib_open", ⟨"open", ["NativeString"], unitType⟩, ⟨"open", ["String"], unitType⟩,
      false, false⟩]⟩

theorem parse_briefText : Toml.parse briefText = some briefTable := by
  cbv

theorem briefCatalog_spelled : briefCatalog.Spelled briefTable := by
  have htexts (s : String) : IsListOf IsText [s] (.list [.text s]) := isListOf_texts [s]
  have houtput : RecordOf (outputFields .standard) (.list []) := by
    apply RecordOf.list
    apply ListOf.cut
    simp [outputFields, OutputSettings.standard, standardRuntime]
  have htype : RecordOf (typeFields ⟨"Code", "jint", "-1", none, some "Code::to_native"⟩)
      (.table [("to_native", .text "Code::to_native"), ("since", .moment),
        ("default", .text "-1"), ("native", .text "jint"), ("name", .text "Code")]) := by
    apply RecordOf.table
    have hto : IsPresent (some "Code::to_native") (.text "Code::to_native") := ⟨_, rfl, rfl⟩
    simp [typeFields, hto]
  have hnative : RecordOf (signatureFields ⟨"open", ["NativeString"], unitType⟩)
      (.list [.text "open", .list [.text "NativeString"]]) := by
    apply RecordOf.list
    refine .next rfl (.next (htexts "NativeString") (.cut ?_))
    simp [unitType]
  have hactual : RecordOf (signatureFields ⟨"open", ["String"], unitType⟩)
      (.table [("returns", .text "()"), ("name", .text "open"),
        ("params", .list [.text "String"])]) := by
    simp [signatureFields, unitType, htexts]
  have hfunction : RecordOf (functionFields ⟨"Java_lib_open", ⟨"open", ["NativeString"], unitType⟩,
        ⟨"open", ["String"], unitType⟩, false, false⟩)
      (.list [.text "Java_lib_open", .list [.text "open", .list [.text "NativeString"]],
        .table [("returns", .text "()"), ("name", .text "open"),
          ("params", .list [.text "String"])], .truth false]) := by
    apply RecordOf.list
    refine .next rfl (.next hnative (.next hactual (.next rfl (.cut ?_))))
    simp
  simp only [Catalog.Spelled, catalogFields, tableOf_cons_iff]
  exact ⟨.written List.mem_cons_self houtput,
    .written List.mem_cons_self ⟨_, rfl, .cons htype .nil⟩,
    .written List.mem_cons_self ⟨_, rfl, .cons hfunction .nil⟩, tableOf_nil _⟩

/-- The text is read as the catalog. -/
theorem briefText_read : Catalog.parse briefText = .ok briefCatalog := by
  have hnamed : ∀ f ∈ briefCatalog.functions, ¬ Blank f.symbol ∧ ¬ Blank f.actual.name := by
    simp only [briefCatalog, List.forall_mem_singleton, ← isBlank_iff]
    decide
  exact (Catalog.read_of_spelled hnamed briefCatalog_spelled).2 briefText parse_briefText

end Demo
end NativeBridge
