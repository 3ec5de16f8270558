/-
  NativeBridge/Proofs/UnitText.lean
  =================================
  **The text of a unit tells its bridges.**  Behind the preamble, which depends on the
  options only, the text is one block for every bridge.  An empty line leads a block
  in and none is inside it, so the blocks are known, and the lines of a block tell its
  bridge (`lines_injective`).  A file that matches a unit therefore holds the bridges
  of that unit and no others.
-/
import NativeBridge.Demo.Catalog
import NativeBridge.Proofs.Batch
import NativeBridge.Proofs.BridgeText
import NativeBridge.Proofs.Replacement

namespace NativeBridge

/-- Bridges that generation makes, from any pair, registry and path, and whose free
    text has no line feed. -/
structure Bridge.Readable (b : Bridge) : Prop where
  generated : ∃ r implementation pair, bridgeOf r implementation pair = .ok b
  unbroken : b.Unbroken

theorem Bridge.Readable.regular {b : Bridge} (h : b.Readable) : b.Regular := by
  obtain ⟨r, implementation, pair, hb⟩ := h.generated
  exact regular_of_bridgeOf hb

theorem Bridge.Readable.properLines {b : Bridge} (h : b.Readable) :
    ∀ l ∈ b.lines, ProperLine l := h.regular.properLines h.unbroken

/-! ### Blocks -/

section

variable {o : RenderOptions} {bs bs' : List Bridge}

/-- Everything behind the preamble. -/
def blockLines (bs : List Bridge) : List String := bs.flatMap fun b => "" :: b.lines

theorem unitText_eq (bs : List Bridge) (o : RenderOptions) :
    unitText bs o = linesText (preamble o) ++ linesText (blockLines bs) :=
  linesText_append (preamble o) (blockLines bs)

theorem linesText_blockLines (bs : List Bridge) :
    linesText (blockLines bs) = String.join (bs.map fun b => "\n" ++ linesText b.lines) := by
  induction bs with
  | nil => rfl
  | cons b bs ih =>
    have hblock : linesText ("" :: b.lines) = "\n" ++ linesText b.lines := by
      rw [linesText_cons, String.empty_append]
    rw [blockLines, List.flatMap_cons, linesText_append, List.map_cons, String.join_cons,
      ← blockLines, ih, hblock]

theorem oneLine_of_mem_blockLines (h : ∀ b ∈ bs, b.Readable) :
    ∀ l ∈ blockLines bs, OneLine l := by
  intro l hl
  obtain ⟨b, hb, hl⟩ := List.mem_flatMap.1 hl
  rcases List.mem_cons.1 hl with rfl | hl
  · decide
  · exact ((h b hb).properLines l hl).1

/-- Empty lines separate the blocks, and a block tells its bridge. -/
theorem blockLines_injective (h : ∀ b ∈ bs, b.Readable) (h' : ∀ b ∈ bs', b.Readable)
    (hequal : blockLines bs = blockLines bs') : bs = bs' := by
  have hvisible : ∀ cs : List Bridge, (∀ b ∈ cs, b.Readable) →
      ∀ block ∈ cs.map Bridge.lines, ∀ l ∈ block, Text.isBlank l = false := by
    intro cs hcs block hblock l hl
    obtain ⟨b, hb, rfl⟩ := List.mem_map.1 hblock
    exact ((hcs b hb).properLines l hl).2
  have hblocks (cs : List Bridge) : (cs.map Bridge.lines).flatMap ("" :: ·) = blockLines cs := by
    rw [List.flatMap_map, blockLines]
  have hlines : bs.map Bridge.lines = bs'.map Bridge.lines := by
    apply preceded_injective (p := (Text.isBlank · = false)) (c := "") (by decide)
      (hvisible bs h) (hvisible bs' h')
    rw [hblocks, hblocks, hequal]
  exact map_injective_on lines_injective (fun b hb => (h b hb).regular)
    (fun b hb => (h' b hb).regular) hlines

theorem unitText_injective (h : ∀ b ∈ bs, b.Readable) (h' : ∀ b ∈ bs', b.Readable)
    (hequal : unitText bs o = unitText bs' o) : bs = bs' := by
  rw [unitText_eq, unitText_eq] at hequal
  apply blockLines_injective h h'
  exact linesText_injective (oneLine_of_mem_blockLines h) (oneLine_of_mem_blockLines h')
    ((String.append_right_inj _).1 hequal)

end

/-! ### Files -/

theorem matchesFile_iff {u : BridgeUnit} {t : FileTree} {path : String} :
    u.matchesFile t path = .ok true ↔ t.read path = .ok (Text.bytes u.text) := by
  rw [BridgeUnit.matchesFile, ← FileTree.holdsText_true_iff]
  cases t.holdsText path u.text <;> simp

/-! ### Units -/

/-- **The text of these bridges is the text of no others.**  It is the preamble and one
    block for every bridge, in order; an empty line leads a block in, and no line of a
    block is blank.  A file that a unit of the bridges matches holds the text of exactly
    these bridges. -/
structure Determined (o : RenderOptions) (bs : List Bridge) : Prop where
  unique : ∀ bs' : List Bridge, (∀ b ∈ bs', b.Readable) → unitText bs' o = unitText bs o →
    bs' = bs
  framed : unitText bs o =
    linesText (preamble o) ++ String.join (bs.map fun b => "\n" ++ linesText b.lines)
  blocks : ∀ b ∈ bs, b.lines ≠ [] ∧ ∀ l ∈ b.lines, ProperLine l
  current : ∀ (t : FileTree) (path : String),
    (BridgeUnit.ofBridges o bs).matchesFile t path = .ok true →
    ∀ bs' : List Bridge, (∀ b ∈ bs', b.Readable) →
      (t.read path = .ok (Text.bytes (unitText bs' o)) ↔ bs' = bs)

theorem unitText_determines_bridges {o : RenderOptions} {bs : List Bridge}
    (h : ∀ b ∈ bs, b.Readable) : Determined o bs where
  unique _ h' hequal := unitText_injective h' h hequal
  framed := by rw [unitText_eq, linesText_blockLines]
  blocks b hb := by
    refine ⟨?_, (h b hb).properLines⟩
    rw [(h b hb).regular.lines_eq]
    exact List.cons_ne_nil _ _
  current t path hmatches bs' h' := by
    have hread := matchesFile_iff.1 hmatches
    constructor
    · intro hread'
      rw [hread] at hread'
      exact unitText_injective h' h (bytes_injective (Except.ok.inj hread')).symm
    · rintro rfl
      exact hread

/-- A unit of a catalog is the unit of bridges that generation made. -/
theorem unit_ok {c : Catalog} {u : BridgeUnit} (h : c.unit.result = .ok u) :
    u = .ofBridges c.renderOptions u.bridges ∧
      ∀ b ∈ u.bridges, ∃ r implementation pair, bridgeOf r implementation pair = .ok b := by
  rw [Catalog.unit] at h
  cases hregistry : c.registry with
  | error e => rw [hregistry] at h; cases h
  | ok r =>
    rw [hregistry] at h
    obtain ⟨bs, hbs, rfl⟩ := Logged.map_ok_iff.1 h
    refine ⟨rfl, ?_⟩
    intro b hb
    have hall := (bridgesOf_ok_iff.1 hbs).1.flip
    obtain ⟨pair, hpair⟩ := exists_forall₂_iff.1 ⟨c.pairs, hall⟩ b hb
    exact ⟨r, c.output.implementation, pair, hpair⟩

/-- The unit of the demo. -/
theorem demoUnit_determined :
    ∃ u, Demo.catalog.unit.result = .ok u ∧
      Determined Demo.catalog.renderOptions u.bridges := by
  have hunit : ∃ u, Demo.catalog.unit.result = .ok u ∧ ∀ b ∈ u.bridges, b.Unbroken := by
    refine ⟨_, rfl, ?_⟩
    decide +kernel
  obtain ⟨u, hu, hunbroken⟩ := hunit
  have hreadable : ∀ b ∈ u.bridges, b.Readable := fun b hb =>
    ⟨(unit_ok hu).2 b hb, hunbroken b hb⟩
  exact ⟨u, hu, unitText_determines_bridges hreadable⟩

end NativeBridge
