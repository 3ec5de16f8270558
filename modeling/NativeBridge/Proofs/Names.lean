/-
  NativeBridge/Proofs/Names.lean
  ==============================
  **The names inside a bridge never meet.**  A body knows six kinds of names: the two
  handles, a parameter and a converted parameter for every index, the result and the
  converted result.  `Role.name_injective` says that no two of them are spelled alike,
  whatever the arity; everything that binds or looks up a name in a body rests on it.
-/
import NativeBridge.Bridge.Generation

namespace NativeBridge

/-! ### Spelling -/

theorem toList_paramName (i : Nat) : (paramName i).toList = 'p' :: Nat.toDigits 10 i := by
  change (("p" : String) ++ toString i).toList = _
  rw [String.toList_append, Nat.toString_eq_repr, Nat.toList_repr]
  rfl

theorem toList_convertedName_paramName (i : Nat) :
    (convertedName (paramName i)).toList = "localP".toList ++ Nat.toDigits 10 i := by
  rw [convertedName, String.toList_append, String.toList_ofList, toList_paramName,
    Text.capitalise, Text.upper_p]
  rfl

theorem convertedName_resultName : convertedName resultName = "localCallResult" := by
  decide +kernel

theorem toDigits_injective : Function.Injective (Nat.toDigits 10) := by
  intro i j h
  have hvalue := congrArg (fun digits => Nat.ofDigitChars 10 digits 0) h
  simpa using hvalue

/-! ### Roles -/

/-- What a name stands for in the body of a bridge. -/
inductive Role
  | env
  | caller
  | param (i : Nat)
  | convertedParam (i : Nat)
  | result
  | convertedResult
  deriving DecidableEq, Repr

def Role.name : Role → String
  | env => envParameter.name
  | caller => callerParameter.name
  | param i => paramName i
  | convertedParam i => convertedName (paramName i)
  | result => resultName
  | convertedResult => convertedName resultName

/-- The letters of a name: the digits of an index come last. -/
def Role.letters : Role → List Char
  | env => ['e', 'n', 'v']
  | caller => ['c', 'l', 'a', 'z', 'z']
  | param i => 'p' :: Nat.toDigits 10 i
  | convertedParam i => ['l', 'o', 'c', 'a', 'l', 'P'] ++ Nat.toDigits 10 i
  | result => ['c', 'a', 'l', 'l', 'R', 'e', 's', 'u', 'l', 't']
  | convertedResult =>
    ['l', 'o', 'c', 'a', 'l', 'C', 'a', 'l', 'l', 'R', 'e', 's', 'u', 'l', 't']

theorem Role.toList_name (role : Role) : role.name.toList = role.letters := by
  cases role with
  | env => rfl
  | caller => rfl
  | param i => exact toList_paramName i
  | convertedParam i => exact toList_convertedName_paramName i
  | result => rfl
  | convertedResult => rw [name, convertedName_resultName]; rfl

/-- Two roles that are spelled alike are one role. -/
theorem Role.name_injective : Function.Injective Role.name := by
  intro a b h
  have hletters : a.letters = b.letters := by rw [← toList_name, ← toList_name, h]
  -- the first letters separate the kinds, and the digits the indices
  rcases a with _ | _ | i | i | _ | _ <;> rcases b with _ | _ | j | j | _ | _ <;>
    simp [letters] at hletters ⊢
  · exact toDigits_injective hletters
  · exact toDigits_injective hletters

theorem Role.name_ne {a b : Role} (h : a ≠ b) : a.name ≠ b.name := name_injective.ne h

theorem env_ne_convertedName (j : Nat) : envParameter.name ≠ convertedName (paramName j) :=
  Role.name_ne (a := .env) (b := .convertedParam j) nofun

theorem env_ne_resultName : envParameter.name ≠ resultName :=
  Role.name_ne (a := .env) (b := .result) nofun

theorem paramName_ne_convertedName (i j : Nat) : paramName i ≠ convertedName (paramName j) :=
  Role.name_ne (a := .param i) (b := .convertedParam j) nofun

theorem convertedName_ne_convertedName {i j : Nat} (h : i ≠ j) :
    convertedName (paramName i) ≠ convertedName (paramName j) :=
  Role.name_ne (a := .convertedParam i) (b := .convertedParam j) (by simpa using h)

/-! ### Plain names -/

/-- Plain names consist of ASCII letters and digits and are not empty. -/
structure PlainName (name : String) : Prop where
  nonempty : name.toList ≠ []
  alphanumeric : ∀ c ∈ name.toList, c.isAlphanum = true

theorem all_isAlphanum_toDigits (i : Nat) : (Nat.toDigits 10 i).all Char.isAlphanum = true := by
  rw [List.all_eq_true]
  intro c hc
  have hdigit := Nat.isDigit_of_mem_toDigits (by decide) (by decide) hc
  simp [Char.isAlphanum, hdigit]

theorem Role.plainName (role : Role) : PlainName role.name := by
  have hletters : role.letters.all Char.isAlphanum = true := by
    cases role with
    | param i =>
      rw [letters, List.all_cons, all_isAlphanum_toDigits]
      decide
    | convertedParam i =>
      rw [letters, List.all_append, all_isAlphanum_toDigits]
      decide
    | _ => decide
  refine ⟨?_, ?_⟩ <;> rw [toList_name]
  · cases role <;> simp [letters]
  · exact List.all_eq_true.1 hletters

end NativeBridge
