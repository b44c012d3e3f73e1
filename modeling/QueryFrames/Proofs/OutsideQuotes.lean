import QueryFrames.Dialect
import QueryFrames.Proofs.Quoting

/-! What stands outside quotes. A reader of a statement knows, at each character, whether it is inside a quoted part,
and a character is bare if it is in none and is no quote itself. A quoted identifier has no bare characters, whatever
it is made of, so names that are quoted stay apart and say nothing to a reader but their own text. -/

namespace QueryFrames

/-- Single quotes, which stand around string literals. -/
def Quotes.literal : Quotes := ⟨'\'', '\''⟩

/-- The quotes in statements of a dialect: those of identifiers, and those of literals, which may be double ones. -/
def Dialect.quotings (dialect : Dialect) : List Quotes :=
  [dialect.quotes, .double, .literal]

/-- How far a reader of a text has come: outside quotes, inside some, or behind a quote that has closed a part unless
another one follows. -/
inductive QuoteScan where
  | outside
  | inside (quotes : Quotes)
  | behind (quotes : Quotes)
deriving DecidableEq

namespace QuoteScan

variable {quotings : List Quotes} {quotes : Quotes} {scan : QuoteScan} {c : Char} {text rest : List Char}

/-- Where a character leads that no quoted part goes on with. -/
def enter (quotings : List Quotes) (c : Char) : QuoteScan :=
  match quotings.find? (·.opening = c) with
  | some quotes => inside quotes
  | none => outside

/-- Where the next character leads. -/
def next (quotings : List Quotes) : QuoteScan → Char → QuoteScan
  | outside, c => enter quotings c
  | inside quotes, c => if c = quotes.closing then behind quotes else inside quotes
  | behind quotes, c => if c = quotes.closing then inside quotes else enter quotings c

/-- Where a text leads. -/
def after (quotings : List Quotes) (scan : QuoteScan) (text : List Char) : QuoteScan :=
  text.foldl (next quotings) scan

/-- The bare characters of a text: those that lead outside. -/
def bare (quotings : List Quotes) : QuoteScan → List Char → List Char
  | _, [] => []
  | scan, c :: rest =>
    if scan.next quotings c = outside then c :: bare quotings outside rest
    else bare quotings (scan.next quotings c) rest

theorem after_cons : after quotings scan (c :: rest) = after quotings (scan.next quotings c) rest :=
  rfl

theorem after_append (text rest : List Char) :
    after quotings scan (text ++ rest) = after quotings (after quotings scan text) rest :=
  List.foldl_append

theorem bare_cons_of_outside (h : scan.next quotings c = outside) :
    bare quotings scan (c :: rest) = c :: bare quotings outside rest := by
  rw [bare, if_pos h]

theorem bare_cons_of_ne (h : scan.next quotings c ≠ outside) :
    bare quotings scan (c :: rest) = bare quotings (scan.next quotings c) rest := by
  rw [bare, if_neg h]

theorem bare_append (scan : QuoteScan) (text rest : List Char) :
    bare quotings scan (text ++ rest) = bare quotings scan text ++ bare quotings (after quotings scan text) rest := by
  induction text generalizing scan with
  | nil => rfl
  | cons c text ih =>
      rw [List.cons_append, after_cons]
      by_cases h : scan.next quotings c = outside
      · rw [bare_cons_of_outside h, bare_cons_of_outside h, ih, h]
        rfl
      · rw [bare_cons_of_ne h, bare_cons_of_ne h, ih]

/-! ### Characters that are no quotes -/

/-- A character that is none of the quotes. -/
def Plain (quotings : List Quotes) (c : Char) : Prop :=
  ∀ quotes ∈ quotings, quotes.opening ≠ c ∧ quotes.closing ≠ c

instance : Decidable (Plain quotings c) :=
  inferInstanceAs (Decidable (∀ quotes ∈ quotings, quotes.opening ≠ c ∧ quotes.closing ≠ c))

/-- A reader that is inside or behind some of the quotes, if any. -/
def Within (quotings : List Quotes) : QuoteScan → Prop
  | outside => True
  | inside quotes | behind quotes => quotes ∈ quotings

theorem within_outside : outside.Within quotings :=
  trivial

/-- Where a reader is after a character that is no quote. -/
def settled : QuoteScan → QuoteScan
  | inside quotes => inside quotes
  | outside | behind _ => outside

@[simp] theorem settled_settled (scan : QuoteScan) : scan.settled.settled = scan.settled := by
  cases scan <;> rfl

theorem Within.settled (h : scan.Within quotings) : scan.settled.Within quotings := by
  cases scan with
  | inside quotes => exact h
  | outside => trivial
  | behind quotes => trivial

theorem within_enter (quotings : List Quotes) (c : Char) : (enter quotings c).Within quotings := by
  rw [enter]
  split
  · next hfound => exact List.mem_of_find?_eq_some hfound
  · trivial

theorem Within.next (h : scan.Within quotings) (c : Char) : (scan.next quotings c).Within quotings := by
  cases scan with
  | outside => exact within_enter quotings c
  | inside quotes =>
      rw [QuoteScan.next]
      split <;> exact h
  | behind quotes =>
      rw [QuoteScan.next]
      split
      · exact h
      · exact within_enter quotings c

theorem Within.after (h : scan.Within quotings) (text : List Char) : (scan.after quotings text).Within quotings := by
  induction text generalizing scan with
  | nil => exact h
  | cons c text ih => exact ih (h.next c)

theorem enter_plain (hc : Plain quotings c) : enter quotings c = outside := by
  have hnone : quotings.find? (·.opening = c) = none :=
    List.find?_eq_none.mpr fun quotes hmem => by simpa using (hc quotes hmem).1
  rw [enter, hnone]

theorem next_plain (h : scan.Within quotings) (hc : Plain quotings c) : scan.next quotings c = scan.settled := by
  cases scan with
  | outside => exact enter_plain hc
  | inside quotes => exact if_neg (hc quotes h).2.symm
  | behind quotes => exact (if_neg (hc quotes h).2.symm).trans (enter_plain hc)

/-! ### Quoted identifiers -/

theorem after_inside_escape (identifier : List Char) :
    after quotings (inside quotes) (quotes.escape identifier) = inside quotes := by
  induction identifier with
  | nil => rfl
  | cons c identifier ih =>
      rw [Quotes.escape_cons, after_append]
      by_cases hc : c = quotes.closing
      · subst hc
        simpa [after, next] using ih
      · simpa [after, next, hc] using ih

theorem bare_inside_escape (identifier : List Char) :
    bare quotings (inside quotes) (quotes.escape identifier) = [] := by
  induction identifier with
  | nil => rfl
  | cons c identifier ih =>
      rw [Quotes.escape_cons]
      by_cases hc : c = quotes.closing
      · subst hc
        simpa [bare, next] using ih
      · simpa [bare, next, hc] using ih

variable (hquotes : quotings.find? (·.opening = quotes.opening) = some quotes)

include hquotes

theorem next_opening : next quotings outside quotes.opening = inside quotes := by
  rw [next, enter, hquotes]

theorem after_quote (identifier : String) :
    after quotings outside (quotes.quote identifier).toList = behind quotes := by
  rw [Quotes.toList_quote, List.cons_append, after_cons, next_opening hquotes, after_append, after_inside_escape]
  simp [after, next]

theorem bare_quote (identifier : String) : bare quotings outside (quotes.quote identifier).toList = [] := by
  have hopening : next quotings outside quotes.opening ≠ outside := by
    rw [next_opening hquotes]
    exact QuoteScan.noConfusion
  rw [Quotes.toList_quote, List.cons_append, bare_cons_of_ne hopening, next_opening hquotes, bare_append,
    bare_inside_escape, after_inside_escape]
  simp [bare, next]

omit hquotes

/-- Behind a quote that has closed a part a reader goes on as from outside, unless another quote follows. -/
theorem bare_behind (hrest : rest.head? ≠ some quotes.closing) :
    bare quotings (behind quotes) rest = bare quotings outside rest := by
  cases rest with
  | nil => rfl
  | cons c rest =>
      have hc : c ≠ quotes.closing := fun h => hrest (congrArg some h)
      have hnext : next quotings (behind quotes) c = next quotings outside c := if_neg hc
      rw [bare, bare, hnext]

end QuoteScan

namespace Dialect

variable {dialect : Dialect} {rest : List Char}

theorem find?_quotings (dialect : Dialect) :
    dialect.quotings.find? (·.opening = dialect.quotes.opening) = some dialect.quotes :=
  List.find?_cons_of_pos (decide_eq_true rfl)

theorem bare_quoteIdentifier_append (identifier : String) (hrest : rest.head? ≠ some dialect.quotes.closing) :
    QuoteScan.bare dialect.quotings .outside ((dialect.quoteIdentifier identifier).toList ++ rest) =
      QuoteScan.bare dialect.quotings .outside rest := by
  rw [QuoteScan.bare_append, quoteIdentifier, QuoteScan.bare_quote dialect.find?_quotings,
    QuoteScan.after_quote dialect.find?_quotings, QuoteScan.bare_behind hrest, List.nil_append]

theorem quoteIdentifier_injective (dialect : Dialect) : Function.Injective dialect.quoteIdentifier := by
  intro first second h
  have hread : ∀ identifier, dialect.quotes.read (dialect.quoteIdentifier identifier).toList =
      some (identifier.toList, []) := by
    intro identifier
    refine Quotes.read_eq_some_iff.mpr ⟨?_, nofun⟩
    rw [String.ofList_toList, List.append_nil]
    rfl
  have heq := (hread first).symm.trans ((congrArg (fun text => dialect.quotes.read text.toList) h).trans (hread second))
  exact String.ext (congrArg Prod.fst (Option.some.inj heq))

theorem cteName_injective (dialect : Dialect) : Function.Injective dialect.cteName := by
  intro first second h
  rw [cteName, cteName] at h
  split at h
  · exact h
  · exact dialect.quoteIdentifier_injective h

/-- A quoted identifier is read back from the beginning of a text, up to where it ends and no further, exactly if no
closing quote follows it, and whatever is read was quoted. So names stay apart when they are written, and no character
of a quoted one stands outside its quotes. -/
theorem read_quoteIdentifier (dialect : Dialect) :
    (∀ identifier rest,
        dialect.quotes.read ((dialect.quoteIdentifier identifier).toList ++ rest) = some (identifier.toList, rest) ↔
          rest.head? ≠ some dialect.quotes.closing) ∧
      (∀ text identifier rest, dialect.quotes.read text = some (identifier, rest) →
        text = (dialect.quoteIdentifier (String.ofList identifier)).toList ++ rest) ∧
        Function.Injective dialect.cteName ∧
          ∀ identifier rest, rest.head? ≠ some dialect.quotes.closing →
            QuoteScan.bare dialect.quotings .outside ((dialect.quoteIdentifier identifier).toList ++ rest) =
              QuoteScan.bare dialect.quotings .outside rest := by
  refine ⟨fun identifier rest => ?_, fun text identifier rest h => (Quotes.read_eq_some_iff.mp h).1,
    dialect.cteName_injective, fun identifier rest => bare_quoteIdentifier_append identifier⟩
  rw [Quotes.read_eq_some_iff, String.ofList_toList]
  exact and_iff_right rfl

end Dialect

namespace Closers

/-- A name with closing quotes at both ends and two in a row. -/
def identifier : String := "]a]]b]"

/-- The name is read back before a text with a bracket in it. -/
theorem read_identifier :
    Dialect.tSql.quoteIdentifier identifier = "[]]a]]]]b]]]" ∧
      Dialect.tSql.quotes.read "[]]a]]]]b]]] AS [x]".toList = some (identifier.toList, " AS [x]".toList) ∧
        QuoteScan.bare Dialect.tSql.quotings .outside "[]]a]]]]b]]] AS [x]".toList = " AS ".toList := by
  have hquoted : Dialect.tSql.quoteIdentifier identifier = "[]]a]]]]b]]]" := by decide
  have hrest : " AS [x]".toList.head? ≠ some Dialect.tSql.quotes.closing := by decide
  obtain ⟨hread, -, -, hbare⟩ := Dialect.tSql.read_quoteIdentifier
  have hidentifier := (hread identifier " AS [x]".toList).mpr hrest
  have hbehind := hbare identifier " AS [x]".toList hrest
  rw [hquoted] at hidentifier hbehind
  exact ⟨hquoted, hidentifier, hbehind.trans (by decide)⟩

end Closers

end QueryFrames
