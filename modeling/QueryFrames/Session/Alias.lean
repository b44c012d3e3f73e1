import QueryFrames.Frame.Error

/-!
Aliases: those a session hands out, numbered from one, and the check on those a caller chooses. Handed-out
aliases are not checked against chosen ones.
-/

namespace QueryFrames

theorem eq_of_toString_eq {first second : Nat} (h : toString first = toString second) : first = second := by
  have hdigits : Nat.toDigits 10 first = Nat.toDigits 10 second := by simpa using congrArg String.toList h
  rw [← Nat.ofDigitChars_ten_toDigits (n := first), hdigits, Nat.ofDigitChars_ten_toDigits]

/-- How many aliases have been handed out. -/
structure AliasSupply where
  allocated : Nat
deriving DecidableEq, Repr, Inhabited

namespace AliasSupply

/-- A supply that has handed out nothing. -/
def empty : AliasSupply := ⟨0⟩

/-- The handed-out alias of a number. -/
def name (number : Nat) : String :=
  "_default_alias_" ++ toString number

/-- The next alias, and the supply after it. -/
def next (supply : AliasSupply) : String × AliasSupply :=
  (name (supply.allocated + 1), ⟨supply.allocated + 1⟩)

theorem name_injective {first second : Nat} (h : name first = name second) : first = second := by
  have htext := String.ext_iff.mp h
  simp only [name, String.toList_append, List.append_cancel_left_eq] at htext
  exact eq_of_toString_eq (String.ext htext)

theorem head?_name (number : Nat) : (name number).toList.head? = some '_' := by
  rw [name, String.toList_append]
  rfl

end AliasSupply

/-- Refuses a chosen alias that is among the visible ones. -/
def checkAlias (name : String) (visible : List String) : Except FrameError Unit :=
  if name ∈ visible then .error (.duplicateAlias name) else .ok ()

end QueryFrames
