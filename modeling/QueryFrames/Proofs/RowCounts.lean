import Mathlib.Data.List.Induction
import Mathlib.Data.Nat.Digits.Defs
import QueryFrames.Json.NumberText
import QueryFrames.Session.Workspace

/-! Counts in full range. A count is read from the first cell of the first row, which holds it as a whole number or as
the digits of one, and in both forms it is any number below 2^64. A number at the limit or beyond, one with a sign, a
point or an exponent, and a cell of any other kind is no count, and nothing is rounded or cut to make it one. -/

namespace QueryFrames

/-- A text writes a number if it consists of one or more decimal digits of that value, with or without a plus sign. -/
def Text.Writes (n : Nat) (text : String) : Prop :=
  ∃ sign digits, (sign = [] ∨ sign = ['+']) ∧ digits ≠ [] ∧ (∀ digit ∈ digits, digit < 10) ∧
    text.toList = sign ++ digits.map Nat.digitChar ∧ Nat.ofDigits 10 digits.reverse = n

/-- A cell holds a count as a whole number or as a text that writes it. -/
inductive Json.HoldsCount : Json → Nat → Prop
  | number {n : Nat} (hn : n < 2 ^ 64) : HoldsCount (.number (.whole n)) n
  | string {n : Nat} {text : String} (htext : Text.Writes n text) (hn : n < 2 ^ 64) : HoldsCount (.string text) n

/-! ### Digits -/

section

variable {c : Char} {chars : List Char} {digits : List Nat} {n : Nat} {text : String}

theorem foldl_eq_ofDigits (digits : List Nat) :
    digits.foldl (fun value digit => value * 10 + digit) 0 = Nat.ofDigits 10 digits.reverse := by
  induction digits using List.reverseRecOn with
  | nil => rfl
  | append_singleton digits last ih =>
      rw [List.foldl_append, ih, List.reverse_append, List.reverse_singleton, List.singleton_append, Nat.ofDigits_cons]
      simp only [List.foldl_cons, List.foldl_nil]
      omega

theorem digitChar_digitValue (hc : c.isDigit = true) :
    Json.digitValue c < 10 ∧ (Json.digitValue c).digitChar = c := by
  obtain ⟨hlow, hhigh⟩ := Char.isDigit_iff_toNat.mp hc
  have hlt : Json.digitValue c < 10 := Nat.sub_lt_left_of_lt_add hlow (Nat.lt_succ_of_le hhigh)
  refine ⟨hlt, Char.toNat_inj.mp ?_⟩
  rw [Nat.toNat_digitChar_of_lt_ten hlt]
  exact Nat.add_sub_of_le hlow

theorem digitValue_digitChar (hn : n < 10) : Json.digitValue n.digitChar = n :=
  Nat.toNat_digitChar_sub_48_of_lt_ten hn

theorem map_digitValue_map_digitChar (h : ∀ digit ∈ digits, digit < 10) :
    (digits.map Nat.digitChar).map Json.digitValue = digits := by
  rw [List.map_map]
  exact (List.map_congr_left fun digit hdigit => digitValue_digitChar (h digit hdigit)).trans (List.map_id _)

theorem map_digitChar_map_digitValue (h : ∀ c ∈ chars, c.isDigit = true) :
    (chars.map Json.digitValue).map Nat.digitChar = chars := by
  rw [List.map_map]
  exact (List.map_congr_left fun c hc => (digitChar_digitValue (h c hc)).2).trans (List.map_id _)

/-- One or more digits have the value that their places give them, and no other text has a value. -/
theorem decimalValue?_eq_some_iff :
    decimalValue? chars = some n ↔
      ∃ digits, digits ≠ [] ∧ (∀ digit ∈ digits, digit < 10) ∧ chars = digits.map Nat.digitChar ∧
        Nat.ofDigits 10 digits.reverse = n := by
  have hvalue : chars.foldl (fun value digit => value * 10 + (digit.toNat - 48)) 0 =
      Nat.ofDigits 10 (chars.map Json.digitValue).reverse := by
    rw [← foldl_eq_ofDigits, List.foldl_map]
    rfl
  rw [decimalValue?, hvalue]
  constructor
  · intro h
    split at h
    · next hdigits =>
        obtain ⟨hne, hall⟩ := hdigits
        have hall := List.all_eq_true.mp hall
        refine ⟨chars.map Json.digitValue, by simpa using hne, fun digit hdigit => ?_,
          (map_digitChar_map_digitValue hall).symm, Option.some.inj h⟩
        obtain ⟨c, hc, rfl⟩ := List.mem_map.mp hdigit
        exact (digitChar_digitValue (hall c hc)).1
    · cases h
  · rintro ⟨digits, hne, hlt, rfl, rfl⟩
    have hall : (digits.map Nat.digitChar).all Char.isDigit = true := by simpa using hlt
    rw [if_pos ⟨by simpa using hne, hall⟩, map_digitValue_map_digitChar hlt]

theorem unsignedOfText?_eq_some_iff : unsignedOfText? text = some n ↔ Text.Writes n text ∧ n < 2 ^ 64 := by
  rw [unsignedOfText?, Option.filter_eq_some_iff, decide_eq_true_iff]
  refine and_congr_left fun _ => ?_
  rw [decimalValue?_eq_some_iff]
  constructor
  · rintro ⟨digits, hne, hlt, htext, hvalue⟩
    split at htext
    · next hsign => exact ⟨['+'], digits, Or.inr rfl, hne, hlt, by rw [hsign, htext]; rfl, hvalue⟩
    · exact ⟨[], digits, Or.inl rfl, hne, hlt, htext, hvalue⟩
  · rintro ⟨sign, digits, hsign, hne, hlt, htext, hvalue⟩
    refine ⟨digits, hne, hlt, ?_, hvalue⟩
    rcases hsign with rfl | rfl
    · split
      · next hplus =>
          -- No digit is a plus sign.
          rw [hplus, List.nil_append] at htext
          obtain ⟨first, hfirst, heq⟩ := List.mem_map.mp (htext ▸ List.mem_cons_self : '+' ∈ digits.map Nat.digitChar)
          have hdigit : first.digitChar.isDigit = true := by simpa using hlt first hfirst
          rw [heq] at hdigit
          exact absurd hdigit (by decide)
      · exact htext
    · rw [htext]
      rfl

theorem writes_toString (n : Nat) : Text.Writes n (toString n) := by
  have hdigits : ∀ c ∈ Nat.toDigits 10 n, c.isDigit = true := fun c hc =>
    Nat.isDigit_of_mem_toDigits (by decide) (by decide) hc
  have hchars : (toString n).toList = ((Nat.toDigits 10 n).map Json.digitValue).map Nat.digitChar := by
    rw [map_digitChar_map_digitValue hdigits]
    simp
  refine ⟨[], (Nat.toDigits 10 n).map Json.digitValue, Or.inl rfl, ?_, fun digit hdigit => ?_, hchars, ?_⟩
  · simp [Nat.toDigits_ne_nil]
  · obtain ⟨c, hc, rfl⟩ := List.mem_map.mp hdigit
    exact (digitChar_digitValue (hdigits c hc)).1
  · calc Nat.ofDigits 10 ((Nat.toDigits 10 n).map Json.digitValue).reverse
        = ((Nat.toDigits 10 n).map Json.digitValue).foldl (fun value digit => value * 10 + digit) 0 :=
          (foldl_eq_ofDigits _).symm
      _ = Nat.ofDigitChars 10 (Nat.toDigits 10 n) 0 := by
          rw [List.foldl_map, Nat.ofDigitChars_eq_foldl]
          simp only [Nat.mul_comm]
          rfl
      _ = n := Nat.ofDigitChars_ten_toDigits

end

/-! ### Numbers as they are written -/

namespace Json.NumberText

variable {digits : List Nat} {significand value n : Nat} {written : NumberText}

theorem le_foldl (significand : Nat) (digits : List Nat) :
    significand ≤ digits.foldl (fun value digit => value * 10 + digit) significand := by
  induction digits generalizing significand with
  | nil => exact Nat.le_refl _
  | cons digit digits ih =>
      have hstep := ih (significand * 10 + digit)
      rw [List.foldl_cons]
      omega

/-- All digits are taken exactly if their value stays below the limit. -/
theorem accumulate_eq_iff (hsignificand : significand < 2 ^ 64) :
    accumulate significand digits = (value, 0) ↔
      digits.foldl (fun value digit => value * 10 + digit) significand = value ∧ value < 2 ^ 64 := by
  induction digits generalizing significand with
  | nil =>
      rw [accumulate, Prod.mk.injEq, List.foldl_nil]
      constructor
      · rintro ⟨rfl, -⟩
        exact ⟨rfl, hsignificand⟩
      · rintro ⟨rfl, -⟩
        exact ⟨rfl, rfl⟩
  | cons digit digits ih =>
      rw [accumulate, List.foldl_cons]
      split
      · next hlt => exact ih hlt
      · next hge =>
          have hle := le_foldl (significand * 10 + digit) digits
          have hlimit : Nat.pow 2 64 = 2 ^ 64 := rfl
          rw [Prod.mk.injEq]
          omega

/-- A number is held as a whole number that is not negative exactly if it has neither sign nor point nor exponent and
the value of its digits is below the limit. -/
theorem value?_eq_whole_iff :
    written.value? = some (.whole n) ↔
      (written.negative = false ∧ written.fraction = none ∧ written.exponent = none) ∧
        Nat.ofDigits 10 written.whole.reverse = n ∧ n < 2 ^ 64 := by
  have haccumulate : accumulate 0 written.whole = (n, 0) ↔ Nat.ofDigits 10 written.whole.reverse = n ∧ n < 2 ^ 64 := by
    rw [← foldl_eq_ofDigits]
    exact accumulate_eq_iff (Nat.two_pow_pos 64)
  rw [← haccumulate, value?]
  rcases accumulate 0 written.whole with ⟨significand, dropped⟩
  have hfloat : ∀ (sign : Binary64 → Binary64) (number : Option Binary64),
      (number.map fun value => Number.float (sign value)) ≠ some (.whole n) := by
    rintro sign (_ | number) h <;> cases h
  dsimp only
  split
  · next hmarks =>
      refine iff_of_false (hfloat id _) ?_
      rintro ⟨⟨-, hfraction, hexponent⟩, hdropped⟩
      cases hdropped
      simp [hfraction, hexponent] at hmarks
  · next hmarks =>
      obtain ⟨hfraction, hexponent, hdropped⟩ : written.fraction = none ∧ written.exponent = none ∧ dropped = 0 := by
        simpa using hmarks
      cases hsign : written.negative with
      | false => simp [hfraction, hexponent, hdropped]
      | true =>
          refine iff_of_false ?_ (by simp)
          rw [if_neg (by simp)]
          split
          · exact hfloat Binary64.neg _
          · next hsignificand =>
              intro h
              have hvalue : -(significand : Int) = n := Number.whole.inj (Option.some.inj h)
              omega

end Json.NumberText

/-! ### Cells and rows -/

theorem countOfCell?_eq_some_iff {cell : Json} {n : Nat} : countOfCell? cell = some n ↔ cell.HoldsCount n := by
  constructor
  · intro h
    rw [countOfCell?.eq_def] at h
    split at h
    · next value =>
        split at h
        · next hrange =>
            obtain ⟨hlow, hhigh⟩ := hrange
            obtain ⟨m, rfl⟩ := Int.eq_ofNat_of_zero_le hlow
            cases h
            exact .number (Int.ofNat_lt.mp hhigh)
        · cases h
    · next text =>
        obtain ⟨hwrites, hn⟩ := unsignedOfText?_eq_some_iff.mp h
        exact .string hwrites hn
    · cases h
  · intro h
    cases h with
    | number hn =>
        have hlimit : Int.pow 2 64 = (2 ^ 64 : Nat) := by decide
        rw [countOfCell?, hlimit, if_pos ⟨Int.natCast_nonneg n, Int.ofNat_lt.mpr hn⟩, Int.toNat_natCast]
    | string hwrites hn => exact unsignedOfText?_eq_some_iff.mpr ⟨hwrites, hn⟩

/-- The first cell of the first row holds a count. -/
def CountIn (rows : List Row) (n : Nat) : Prop :=
  ∃ cell row rest, rows = (cell :: row) :: rest ∧ cell.HoldsCount n

/-- What is reported of rows that hold no count. -/
def uncounted : List Row → FrameError
  | (cell :: _) :: _ => .unexpectedResult ("count returned " ++ cell.render)
  | _ => .unexpectedResult "count returned no rows"

theorem countIn_cons_iff {cell : Json} {row : Row} {rest : List Row} {n : Nat} :
    CountIn ((cell :: row) :: rest) n ↔ cell.HoldsCount n := by
  constructor
  · rintro ⟨_, _, _, ⟨⟩, h⟩
    exact h
  · exact fun h => ⟨cell, row, rest, rfl, h⟩

theorem countOfRows_eq_ok_iff {rows : List Row} {n : Nat} : countOfRows rows = .ok n ↔ CountIn rows n := by
  rcases rows with _ | ⟨_ | ⟨cell, row⟩, rest⟩
  · exact iff_of_false nofun nofun
  · exact iff_of_false nofun nofun
  · rw [countIn_cons_iff, ← countOfCell?_eq_some_iff, countOfRows, List.head?_cons, Option.bind_some, List.head?_cons]
    dsimp only
    cases countOfCell? cell with
    | none => exact iff_of_false nofun nofun
    | some count => exact ⟨fun h => congrArg some (Except.ok.inj h), fun h => congrArg Except.ok (Option.some.inj h)⟩

theorem countOfRows_eq_error_iff {rows : List Row} {error : FrameError} :
    countOfRows rows = .error error ↔ (∀ n, ¬ CountIn rows n) ∧ error = uncounted rows := by
  have hfault : ∀ error, countOfRows rows = .error error → error = uncounted rows := by
    rcases rows with _ | ⟨_ | ⟨cell, row⟩, rest⟩
    · rintro _ ⟨⟩
      rfl
    · rintro _ ⟨⟩
      rfl
    · intro error h
      rw [countOfRows, List.head?_cons, Option.bind_some, List.head?_cons] at h
      dsimp only at h
      split at h
      · cases h
      · exact (Except.error.inj h).symm
  constructor
  · refine fun h => ⟨fun n hn => ?_, hfault error h⟩
    rw [countOfRows_eq_ok_iff.mpr hn] at h
    cases h
  · rintro ⟨hnone, rfl⟩
    cases hrows : countOfRows rows with
    | ok n => exact absurd (countOfRows_eq_ok_iff.mp hrows) (hnone n)
    | error error => rw [hfault error hrows]

/-- Of every result that an executor answers, the count is what the first cell of the first row holds as a whole number
or as a text below 2^64, and where it holds none the result is reported. Every number below 2^64 is counted in both
forms, and a written number is whole in this sense exactly if it has neither sign nor point nor exponent. -/
theorem Workspace.count_first_cell {σ : Type} (workspace : Workspace σ) (frame : Frame) {result : QueryResult}
    (hanswer : (workspace.submit frame (Fragment.count frame.name) .materialize).1 = .ok result) :
    (∀ n, (workspace.count frame).1 = .ok n ↔ CountIn result.rows n) ∧
      (∀ error, (workspace.count frame).1 = .error error ↔
        (∀ n, ¬ CountIn result.rows n) ∧ error = uncounted result.rows) ∧
        (∀ n : Nat, n < 2 ^ 64 → ∀ (row : Row) (rest : List Row),
          CountIn ((.number (.whole n) :: row) :: rest) n ∧ CountIn ((.string (toString n) :: row) :: rest) n) ∧
          ∀ (written : Json.NumberText) (n : Nat), written.value? = some (.whole n) ↔
            (written.negative = false ∧ written.fraction = none ∧ written.exponent = none) ∧
              Nat.ofDigits 10 written.whole.reverse = n ∧ n < 2 ^ 64 := by
  have hcount : (workspace.count frame).1 = countOfRows result.rows := by
    rw [count]
    rcases hsubmit : workspace.submit frame (Fragment.count frame.name) .materialize with ⟨answer, after⟩
    rw [hsubmit] at hanswer
    cases hanswer
    rfl
  rw [hcount]
  refine ⟨fun n => countOfRows_eq_ok_iff, fun error => countOfRows_eq_error_iff, fun n hn row rest => ?_,
    fun written n => Json.NumberText.value?_eq_whole_iff⟩
  exact ⟨countIn_cons_iff.mpr (.number hn), countIn_cons_iff.mpr (.string (writes_toString n) hn)⟩

/-! ### Numbers at the limit -/

namespace Limit

/-- A session over an executor that always answers one cell. -/
def workspace (cell : Json) : Workspace Unit :=
  ((Workspace.start (fun _ state => (.ok ⟨[], [[cell]]⟩, state)) ()).openSession .bigQuery true).2

def frame : Frame := ⟨⟨0, 0⟩, "t", "SELECT 1 AS id", []⟩

/-- The largest count, written with a plus sign and zeros in front, and the number behind it. -/
theorem count_limit :
    ((workspace (.string "+0018446744073709551615")).count frame).1 = .ok 18446744073709551615 ∧
      ((workspace (.string "18446744073709551616")).count frame).1 =
        .error (.unexpectedResult "count returned \"18446744073709551616\"") := by
  obtain ⟨hlargest, -⟩ := (workspace (.string "+0018446744073709551615")).count_first_cell frame rfl
  obtain ⟨-, hbehind, -⟩ := (workspace (.string "18446744073709551616")).count_first_cell frame rfl
  refine ⟨(hlargest _).mpr (countIn_cons_iff.mpr ?_), (hbehind _).mpr ⟨fun n hn => ?_, by decide +kernel⟩⟩
  · exact countOfCell?_eq_some_iff.mp (by decide +kernel)
  · have hnone : countOfCell? (.string "18446744073709551616") = none := by decide +kernel
    have hsome := countOfCell?_eq_some_iff.mpr (countIn_cons_iff.mp hn)
    rw [hnone] at hsome
    cases hsome

end Limit

end QueryFrames
