/-
  NativeBridge/Proofs/Paths.lean
  ==============================
  **The directory of a path.**  An entry is found by the steps of its path, but the
  directory that is made for it is cut from the text.  `steps_holderPart` says that
  the two agree: the directory part has the steps of the path without the last one,
  from the same start (`absolute_holderPart`).  What a path may be, its directory
  part may be too (`pathFault_holderPart`).  A joined path is as sound as its parts
  (`not_mem_joinPath`), and then its length alone decides (`pathFault_of_sound`).
-/
import NativeBridge.Files.Access
import Mathlib.Data.List.TakeWhile

namespace NativeBridge

/-! ### Steps of a text -/

/-- The steps that the parts of a text lead through. -/
def stepsOf (cs : List Char) : List Step := (splitSlashes cs).filterMap Step.ofPart

theorem splitSlashes_slash (cs : List Char) : splitSlashes ('/' :: cs) = [] :: splitSlashes cs := by
  rw [splitSlashes]

theorem splitSlashes_cons {c : Char} (hc : c ≠ '/') {cs part : List Char}
    {parts : List (List Char)} (h : splitSlashes cs = part :: parts) :
    splitSlashes (c :: cs) = (c :: part) :: parts := by
  rw [splitSlashes, h]
  exact hc

theorem splitSlashes_ne_nil (cs : List Char) : splitSlashes cs ≠ [] := by
  induction cs with
  | nil => simp [splitSlashes]
  | cons c cs ih =>
    by_cases hc : c = '/'
    · subst hc
      simp [splitSlashes_slash]
    · obtain ⟨part, parts, h⟩ := List.exists_cons_of_ne_nil ih
      simp [splitSlashes_cons hc h]

theorem splitSlashes_append (cs ds : List Char) :
    splitSlashes (cs ++ '/' :: ds) = splitSlashes cs ++ splitSlashes ds := by
  induction cs with
  | nil => exact splitSlashes_slash ds
  | cons c cs ih =>
    by_cases hc : c = '/'
    · subst hc
      rw [List.cons_append, splitSlashes_slash, splitSlashes_slash, ih, List.cons_append]
    · obtain ⟨part, parts, h⟩ := List.exists_cons_of_ne_nil (splitSlashes_ne_nil cs)
      rw [h, List.cons_append] at ih
      rw [List.cons_append, splitSlashes_cons hc ih, splitSlashes_cons hc h, List.cons_append]

theorem splitSlashes_part {cs : List Char} (h : '/' ∉ cs) : splitSlashes cs = [cs] := by
  induction cs with
  | nil => rfl
  | cons c cs ih =>
    have hc : c ≠ '/' := fun hc => h (hc ▸ List.mem_cons_self)
    exact splitSlashes_cons hc (ih fun hmem => h (List.mem_cons_of_mem c hmem))

@[simp] theorem stepsOf_nil : stepsOf [] = [] := rfl

theorem stepsOf_append (cs ds : List Char) :
    stepsOf (cs ++ '/' :: ds) = stepsOf cs ++ stepsOf ds := by
  rw [stepsOf, splitSlashes_append, List.filterMap_append, ← stepsOf, ← stepsOf]

theorem stepsOf_part {cs : List Char} (h : '/' ∉ cs) : stepsOf cs = (Step.ofPart cs).toList := by
  rw [stepsOf, splitSlashes_part h]
  cases hpart : Step.ofPart cs <;> simp [hpart]

/-! ### Trimming -/

theorem trimReversed_eq_self {rs : List Char} (slash : ∀ c cs, rs = '/' :: c :: cs → False)
    (dot : ∀ cs, rs = '.' :: '/' :: cs → False) : trimReversed rs = rs := by
  rw [trimReversed]
  · exact slash
  · exact dot

theorem trimReversed_suffix (rs : List Char) : trimReversed rs <:+ rs := by
  induction rs using trimReversed.induct with
  | case1 c cs ih =>
    rw [trimReversed]
    exact ih.trans (List.suffix_cons _ _)
  | case2 cs ih =>
    rw [trimReversed]
    exact ih.trans (List.suffix_cons _ _)
  | case3 rs slash dot =>
    simp [trimReversed_eq_self slash dot]

/-- What a path starts with is not trimmed. -/
theorem getLast?_trimReversed (rs : List Char) : (trimReversed rs).getLast? = rs.getLast? := by
  induction rs using trimReversed.induct with
  | case1 c cs ih => rw [trimReversed, ih, List.getLast?_cons_cons]
  | case2 cs ih => rw [trimReversed, ih, List.getLast?_cons_cons]
  | case3 rs slash dot => rw [trimReversed_eq_self slash dot]

/-- Slashes and dots at the end lead nowhere. -/
theorem stepsOf_trimReversed (rs : List Char) :
    stepsOf (trimReversed rs).reverse = stepsOf rs.reverse := by
  induction rs using trimReversed.induct with
  | case1 c cs ih =>
    rw [trimReversed, ih, List.reverse_cons (a := '/'), stepsOf_append, stepsOf_nil, List.append_nil]
  | case2 cs ih =>
    have hdot : stepsOf ['.'] = [] := rfl
    rw [trimReversed, ih, List.reverse_cons, List.reverse_cons (a := '.'), List.reverse_cons,
      List.append_assoc, List.singleton_append, stepsOf_append, stepsOf_append, hdot, stepsOf_nil]
  | case3 rs slash dot => rw [trimReversed_eq_self slash dot]

/-- Behind the last slash of a trimmed text there is a step, unless it is the root. -/
theorem trimReversed_ends {rs part tail : List Char} (h : trimReversed rs = part ++ '/' :: tail) :
    part = [] ∧ tail = [] ∨ part ≠ [] ∧ part ≠ ['.'] := by
  induction rs using trimReversed.induct with
  | case1 c cs ih =>
    rw [trimReversed] at h
    exact ih h
  | case2 cs ih =>
    rw [trimReversed] at h
    exact ih h
  | case3 rs slash dot =>
    rw [trimReversed_eq_self slash dot] at h
    by_cases hnil : part = []
    · subst hnil
      cases tail with
      | nil => exact .inl ⟨rfl, rfl⟩
      | cons c cs => exact (slash c cs h).elim
    · refine .inr ⟨hnil, ?_⟩
      rintro rfl
      exact dot tail h

/-! ### The directory part -/

theorem directoryPart_of_ne_root {path : String} (h : trimReversed path.toList.reverse ≠ ['/']) :
    directoryPart path = String.ofList
      (trimReversed ((trimReversed path.toList.reverse).dropWhile (· != '/'))).reverse := by
  rw [directoryPart]
  split
  · exact absurd ‹_› h
  · rfl

/-- A path without what is trimmed is the root, or it has no slash and so no directory
    part, or it is one step below its directory part. -/
theorem directoryPart_cases (path : String) :
    trimReversed path.toList.reverse = ['/'] ∧ directoryPart path = "" ∨
      '/' ∉ trimReversed path.toList.reverse ∧ directoryPart path = "" ∨
      ∃ (part tail : List Char) (step : Step), '/' ∉ part ∧ Step.ofPart part.reverse = some step ∧
        trimReversed path.toList.reverse = part ++ '/' :: tail ∧
        directoryPart path = String.ofList (trimReversed ('/' :: tail)).reverse := by
  by_cases hroot : trimReversed path.toList.reverse = ['/']
  · exact .inl ⟨hroot, by simp [directoryPart, hroot]⟩
  by_cases hslash : '/' ∈ trimReversed path.toList.reverse
  · obtain ⟨part, tail, hsplit, hpart⟩ := List.eq_append_cons_of_mem hslash
    rcases trimReversed_ends hsplit with ⟨rfl, rfl⟩ | ⟨hnil, hdot⟩
    · exact absurd hsplit hroot
    have hcut : (part ++ '/' :: tail).dropWhile (· != '/') = '/' :: tail := by
      rw [List.dropWhile_append_of_pos, List.dropWhile_cons_of_neg (by simp)]
      intro c hc
      simpa using fun h : c = '/' => hpart (h ▸ hc)
    have hstep : ∃ step, Step.ofPart part.reverse = some step := by
      have hdot' : part.reverse ≠ ['.'] := fun h => hdot (by simpa using congrArg List.reverse h)
      by_cases hup : part.reverse = ['.', '.'] <;> simp [Step.ofPart, hnil, hdot', hup]
    obtain ⟨step, hstep⟩ := hstep
    refine .inr (.inr ⟨part, tail, step, hpart, hstep, hsplit, ?_⟩)
    rw [directoryPart_of_ne_root hroot, hsplit, hcut]
  · refine .inr (.inl ⟨hslash, ?_⟩)
    have hcut : (trimReversed path.toList.reverse).dropWhile (· != '/') = [] := by
      rw [List.dropWhile_eq_nil_iff]
      intro c hc
      simpa using fun h : c = '/' => hslash (h ▸ hc)
    rw [directoryPart_of_ne_root hroot, hcut]
    rfl

theorem directoryPart_prefix (path : String) : (directoryPart path).toList <+: path.toList := by
  rcases directoryPart_cases path with ⟨-, h⟩ | ⟨-, h⟩ | ⟨part, tail, step, -, -, hsplit, h⟩
  · simp [h]
  · simp [h]
  · have htail : trimReversed ('/' :: tail) <:+ path.toList.reverse :=
      ((trimReversed_suffix _).trans ⟨part, hsplit.symm⟩).trans (trimReversed_suffix _)
    simpa [h] using List.reverse_prefix.2 htail

theorem stepsOf_directoryPart (path : String) :
    stepsOf (directoryPart path).toList = (stepsOf path.toList).dropLast := by
  have htrim : stepsOf path.toList = stepsOf (trimReversed path.toList.reverse).reverse := by
    rw [stepsOf_trimReversed, List.reverse_reverse]
  rcases directoryPart_cases path with ⟨hroot, h⟩ | ⟨hslash, h⟩ |
    ⟨part, tail, step, hpart, hstep, hsplit, h⟩
  · rw [htrim, hroot, h]
    rfl
  · have hpart : '/' ∉ (trimReversed path.toList.reverse).reverse := by simpa using hslash
    rw [htrim, stepsOf_part hpart, h]
    cases Step.ofPart (trimReversed path.toList.reverse).reverse <;> rfl
  · have hpart' : '/' ∉ part.reverse := by simpa using hpart
    rw [htrim, hsplit, h, String.toList_ofList, stepsOf_trimReversed, List.reverse_append,
      List.reverse_cons, List.append_assoc, List.singleton_append, stepsOf_append, stepsOf_append,
      stepsOf_part hpart', hstep, stepsOf_nil, List.append_nil]
    simp

/-! ### The holder of an entry -/

theorem steps_holderPart (path : String) :
    (Route.ofPath (holderPart path)).steps = (Route.ofPath path).steps.dropLast := by
  change stepsOf (holderPart path).toList = (stepsOf path.toList).dropLast
  rw [← stepsOf_directoryPart, holderPart]
  split
  · rename_i h
    rw [h]
    rfl
  · rfl

/-- A path that leads somewhere has a directory part with the same start. -/
theorem absolute_holderPart {path : String} (h : (Route.ofPath path).steps ≠ []) :
    (Route.ofPath (holderPart path)).absolute = (Route.ofPath path).absolute := by
  change ((holderPart path).toList.head? == some '/') = (path.toList.head? == some '/')
  have hstart : path.toList.head? = (trimReversed path.toList.reverse).getLast? := by
    rw [getLast?_trimReversed, List.getLast?_reverse]
  rcases directoryPart_cases path with ⟨hroot, -⟩ | ⟨hslash, hpart⟩ |
    ⟨part, tail, step, -, -, hsplit, hpart⟩
  · refine absurd ?_ h
    change stepsOf path.toList = []
    rw [← List.reverse_reverse path.toList, ← stepsOf_trimReversed, hroot]
    rfl
  · have hrelative : (trimReversed path.toList.reverse).getLast? ≠ some '/' :=
      fun hlast => hslash (List.mem_of_getLast? hlast)
    rw [holderPart, if_pos hpart, hstart, beq_eq_false_iff_ne.2 hrelative]
    rfl
  · have hlast := List.getLast?_eq_some_getLast (List.cons_ne_nil '/' tail)
    have hhead : (directoryPart path).toList.head? = path.toList.head? := by
      rw [hstart, hsplit, hpart, String.toList_ofList, List.head?_reverse, getLast?_trimReversed,
        List.getLast?_append, hlast, Option.some_or]
    have hnonempty : directoryPart path ≠ "" := by
      intro hempty
      rw [hempty, hstart, hsplit, List.getLast?_append, hlast, Option.some_or] at hhead
      cases hhead
    rw [holderPart, if_neg hnonempty, hhead]

theorem holderPart_ne_empty (path : String) : holderPart path ≠ "" := by
  rw [holderPart]
  split
  · decide
  · assumption

theorem bytes_append (s t : String) : Text.bytes (s ++ t) = Text.bytes s ++ Text.bytes t := by
  rw [Text.bytes, Text.bytes, Text.bytes, String.toList_append, Text.Utf8.encode,
    List.flatMap_append]
  rfl

theorem length_bytes_le {s t : String} (h : s.toList <+: t.toList) :
    (Text.bytes s).length ≤ (Text.bytes t).length := by
  obtain ⟨rest, hrest⟩ := h
  have hsplit : t = s ++ String.ofList rest := by simp [← String.toList_inj, hrest]
  rw [hsplit, bytes_append, List.length_append]
  exact Nat.le_add_right _ _

/-! ### Joined paths -/

theorem joinPath_cases (base path : String) :
    joinPath base path = path ∨ joinPath base path = base ++ path ∨
      joinPath base path = base ++ "/" ++ path := by
  rw [joinPath]
  split
  · exact .inl rfl
  · split
    · exact .inr (.inl rfl)
    · exact .inr (.inr rfl)

/-- A relative path below a base that ends in no slash. -/
theorem joinPath_relative {base path : String} (hpath : path.toList.head? ≠ some '/')
    (hnonempty : base ≠ "") (hend : base.toList.getLast? ≠ some '/') :
    joinPath base path = base ++ "/" ++ path := by
  rw [joinPath, if_neg (not_or.2 ⟨hpath, hnonempty⟩), if_neg hend]

theorem not_mem_joinPath {base path : String} (hbase : '\x00' ∉ base.toList)
    (hpath : '\x00' ∉ path.toList) : '\x00' ∉ (joinPath base path).toList := by
  rcases joinPath_cases base path with h | h | h <;> simp [h, hbase, hpath]

theorem joinPath_ne_empty (base : String) {path : String} (hpath : path ≠ "") :
    joinPath base path ≠ "" := by
  rcases joinPath_cases base path with h | h | h <;> simp [h, hpath]

/-! ### Texts that may be paths -/

namespace FileTree

theorem pathFault_eq_none_iff {path : String} :
    pathFault path = none ↔
      '\x00' ∉ path.toList ∧ path ≠ "" ∧ (Text.bytes path).length ≤ pathLimit := by
  by_cases hnul : '\x00' ∈ path.toList <;> by_cases hempty : path = "" <;>
    simp [pathFault, hnul, hempty]

/-- Only the length is left to keep a text from being a path. -/
theorem pathFault_of_sound {path : String} (hnul : '\x00' ∉ path.toList) (hnonempty : path ≠ "") :
    pathFault path =
      if (Text.bytes path).length ≤ pathLimit then none else some .nameTooLong := by
  by_cases hshort : (Text.bytes path).length ≤ pathLimit
  · rw [if_pos hshort]
    exact pathFault_eq_none_iff.2 ⟨hnul, hnonempty, hshort⟩
  · rw [if_neg hshort]
    simp [pathFault, hnul, hnonempty, Nat.not_le.1 hshort]

theorem pathFault_cases (path : String) :
    pathFault path = none ∨ pathFault path = some .invalidPath ∧ '\x00' ∈ path.toList ∨
      pathFault path = some .notFound ∧ path = "" ∨ pathFault path = some .nameTooLong := by
  by_cases hnul : '\x00' ∈ path.toList <;> by_cases hempty : path = "" <;>
    by_cases hlong : pathLimit < (Text.bytes path).length <;>
    simp [pathFault, hnul, hempty, hlong]

/-- What a path may be, its directory part may be. -/
theorem pathFault_holderPart {path : String} (h : pathFault path = none) :
    pathFault (holderPart path) = none := by
  obtain ⟨hnul, -, hshort⟩ := pathFault_eq_none_iff.1 h
  rw [holderPart]
  split
  · decide
  · rename_i hnonempty
    have hstart := directoryPart_prefix path
    exact pathFault_eq_none_iff.2 ⟨fun hmem => hnul (hstart.subset hmem), hnonempty,
      (length_bytes_le hstart).trans hshort⟩

end FileTree

end NativeBridge
