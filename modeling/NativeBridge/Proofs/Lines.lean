/-
  NativeBridge/Proofs/Lines.lean
  ==============================
  **Texts that can be read in one way only.**  A list is cut at the first member that
  has not a property, or at the last one, and the parts are determined by the whole
  (`cut_first`, `cut_last`).  Everything that is said about the text of a unit comes
  from such cuts: lines end at a line feed, names at the first character that is no
  letter and no digit, and the path of a call at its last parenthesis.
-/
import NativeBridge.Proofs.Names
import NativeBridge.Text.Blank
import NativeBridge.Text.Utf8

namespace NativeBridge

/-! ### Cutting lists -/

section

variable {α β : Type} {p : α → Prop}

/-- The first member without a property is where it is, and what it is. -/
theorem cut_first {c c' : α} {ys ys' : List α} (hc : ¬p c) (hc' : ¬p c') :
    ∀ {xs xs' : List α}, (∀ x ∈ xs, p x) → (∀ x ∈ xs', p x) →
      xs ++ c :: ys = xs' ++ c' :: ys' → xs = xs' ∧ c = c' ∧ ys = ys' := by
  intro xs
  induction xs with
  | nil =>
    intro xs' _ hxs' h
    cases xs' with
    | nil =>
      obtain ⟨hcut, hrest⟩ := List.cons.inj h
      exact ⟨rfl, hcut, hrest⟩
    | cons x' xs' =>
      obtain ⟨rfl, -⟩ := List.cons.inj h
      exact absurd (hxs' _ List.mem_cons_self) hc
  | cons x xs ih =>
    intro xs' hxs hxs' h
    cases xs' with
    | nil =>
      obtain ⟨rfl, -⟩ := List.cons.inj h
      exact absurd (hxs _ List.mem_cons_self) hc'
    | cons x' xs' =>
      obtain ⟨rfl, htail⟩ := List.cons.inj h
      obtain ⟨rfl, hrest⟩ := ih (fun y hy => hxs y (List.mem_cons_of_mem _ hy))
        (fun y hy => hxs' y (List.mem_cons_of_mem _ hy)) htail
      exact ⟨rfl, hrest⟩

/-- The last member without a property, likewise. -/
theorem cut_last {c c' : α} {xs xs' ys ys' : List α} (hc : ¬p c) (hc' : ¬p c')
    (hys : ∀ y ∈ ys, p y) (hys' : ∀ y ∈ ys', p y) (h : xs ++ c :: ys = xs' ++ c' :: ys') :
    xs = xs' ∧ c = c' ∧ ys = ys' := by
  have hreversed : ys.reverse ++ c :: xs.reverse = ys'.reverse ++ c' :: xs'.reverse := by
    simpa using congrArg List.reverse h
  obtain ⟨hafter, hcut, hbefore⟩ := cut_first hc hc'
    (fun y hy => hys y (List.mem_reverse.1 hy)) (fun y hy => hys' y (List.mem_reverse.1 hy))
    hreversed
  exact ⟨List.reverse_inj.1 hbefore, hcut, List.reverse_inj.1 hafter⟩

/-- Parts that are each ended by a mark, which no part contains. -/
theorem terminated_injective {c : α} (hc : ¬p c) :
    ∀ {xss yss : List (List α)}, (∀ xs ∈ xss, ∀ x ∈ xs, p x) → (∀ ys ∈ yss, ∀ y ∈ ys, p y) →
      xss.flatMap (· ++ [c]) = yss.flatMap (· ++ [c]) → xss = yss := by
  intro xss
  induction xss with
  | nil =>
    intro yss _ _ h
    cases yss with
    | nil => rfl
    | cons ys yss => simp at h
  | cons xs xss ih =>
    intro yss hxss hyss h
    cases yss with
    | nil => simp at h
    | cons ys yss =>
      simp only [List.flatMap_cons, List.append_assoc, List.singleton_append] at h
      obtain ⟨rfl, -, hrest⟩ := cut_first hc hc (hxss xs List.mem_cons_self)
        (hyss ys List.mem_cons_self) h
      rw [ih (fun zs hzs => hxss zs (List.mem_cons_of_mem _ hzs))
        (fun zs hzs => hyss zs (List.mem_cons_of_mem _ hzs)) hrest]

theorem cons_flatMap_terminated (c : α) (xss : List (List α)) :
    c :: xss.flatMap (· ++ [c]) = xss.flatMap (c :: ·) ++ [c] := by
  induction xss with
  | nil => rfl
  | cons xs xss ih => simp [ih]

/-- Parts that are each led in by a mark. -/
theorem preceded_injective {c : α} (hc : ¬p c) {xss yss : List (List α)}
    (hxss : ∀ xs ∈ xss, ∀ x ∈ xs, p x) (hyss : ∀ ys ∈ yss, ∀ y ∈ ys, p y)
    (h : xss.flatMap (c :: ·) = yss.flatMap (c :: ·)) : xss = yss := by
  apply terminated_injective hc hxss hyss
  have hended := congrArg (· ++ [c]) h
  simp only [← cons_flatMap_terminated] at hended
  exact (List.cons.inj hended).2

/-- What is injective on members that qualify is so on lists of them. -/
theorem map_injective_on {f : α → β} (hf : ∀ x y, p x → p y → f x = f y → x = y) :
    ∀ {xs ys : List α}, (∀ x ∈ xs, p x) → (∀ y ∈ ys, p y) → xs.map f = ys.map f → xs = ys := by
  intro xs
  induction xs with
  | nil =>
    intro ys _ _ h
    exact (List.map_eq_nil_iff.1 h.symm).symm
  | cons x xs ih =>
    intro ys hxs hys h
    cases ys with
    | nil => cases h
    | cons y ys =>
      obtain ⟨hfirst, hrest⟩ := List.cons.inj h
      rw [hf x y (hxs x List.mem_cons_self) (hys y List.mem_cons_self) hfirst,
        ih (fun z hz => hxs z (List.mem_cons_of_mem _ hz))
          (fun z hz => hys z (List.mem_cons_of_mem _ hz)) hrest]

end

/-! ### Lines -/

/-- A text without a line feed. -/
def OneLine (s : String) : Prop := ∀ c ∈ s.toList, c ≠ '\n'

/-- Lines as a text; each has a line end. -/
def linesText (lines : List String) : String := String.join (lines.map (· ++ "\n"))

theorem toList_linesText (lines : List String) :
    (linesText lines).toList = (lines.map String.toList).flatMap (· ++ ['\n']) := by
  simp [linesText, String.toList_join, List.flatMap_map]

theorem linesText_cons (line : String) (lines : List String) :
    linesText (line :: lines) = line ++ "\n" ++ linesText lines := by
  rw [linesText, List.map_cons, String.join_cons]
  rfl

theorem linesText_append (lines lines' : List String) :
    linesText (lines ++ lines') = linesText lines ++ linesText lines' := by
  rw [linesText, List.map_append, String.join_append]
  rfl

/-- A text tells its lines. -/
theorem linesText_injective {lines lines' : List String} (hlines : ∀ l ∈ lines, OneLine l)
    (hlines' : ∀ l ∈ lines', OneLine l) (h : linesText lines = linesText lines') :
    lines = lines' := by
  have hchars := congrArg String.toList h
  rw [toList_linesText, toList_linesText] at hchars
  have hlists : lines.map String.toList = lines'.map String.toList :=
    terminated_injective (p := (· ≠ '\n')) (fun h => h rfl) (List.forall_mem_map.2 hlines)
      (List.forall_mem_map.2 hlines') hchars
  exact (List.map_inj_right fun _ _ => String.toList_injective).1 hlists

instance (s : String) : Decidable (OneLine s) := List.decidableBAll _ s.toList

theorem OneLine.append {s t : String} (hs : OneLine s) (ht : OneLine t) : OneLine (s ++ t) := by
  rw [OneLine, String.toList_append, List.forall_mem_append]
  exact ⟨hs, ht⟩

theorem PlainName.oneLine {name : String} (h : PlainName name) : OneLine name := by
  rintro c hc rfl
  exact absurd (h.alphanumeric _ hc) (by decide)

/-- A line on which something can be seen. -/
def ProperLine (l : String) : Prop := OneLine l ∧ Text.isBlank l = false

instance (l : String) : Decidable (ProperLine l) := inferInstanceAs (Decidable (_ ∧ _))

theorem OneLine.append_proper {s t : String} (hs : OneLine s) (ht : ProperLine t) :
    ProperLine (s ++ t) := by
  refine ⟨hs.append ht.1, ?_⟩
  have hvisible := ht.2
  rw [Text.isBlank] at hvisible ⊢
  rw [String.toList_append, List.all_append, hvisible, Bool.and_false]

/-! ### Bytes -/

/-- The bytes of a string tell the string. -/
theorem bytes_injective : Function.Injective Text.bytes := by
  intro s t h
  apply String.toByteArray_inj.1
  rw [← String.utf8Encode_toList, ← String.utf8Encode_toList]
  exact congrArg List.toByteArray h

end NativeBridge
