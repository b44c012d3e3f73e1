import Mathlib.Data.List.TakeWhile
import QueryFrames.Surroundings.Environment

/-! Texts that name variables. Pieces make up a text if each of them may stand before what follows it: a name goes on
to the first closing brace or for as long as its characters do, and a dollar sign stands alone if neither kind of name
begins behind it. Every text is made up of pieces in one way, and expanding it puts values in place of the names. -/

namespace QueryFrames

namespace Expansion

variable {piece : Piece} {tokens : List Piece} {c : Char} {text rest name : List Char}

/-! ### The pieces of a text -/

/-- Whether a piece may stand before a text. -/
def Piece.FitsBefore (rest : List Char) : Piece → Prop
  | char c => c ≠ '$'
  | braced name true => '\x7d' ∉ name
  | braced name false => '\x7d' ∉ name ∧ rest = []
  | bare name => name ≠ [] ∧ (∀ c ∈ name, isNameChar c = true) ∧ ∀ c ∈ rest.head?, isNameChar c = false
  | dollar => ∀ c ∈ rest.head?, c ≠ '\x7b' ∧ isNameChar c = false

/-- What is said of the first character of a text is decided there, not character by character. -/
instance decidableHead (test : Char → Prop) [DecidablePred test] : ∀ rest : List Char,
    Decidable (∀ c ∈ rest.head?, test c)
  | [] => isTrue nofun
  | c :: _ => decidable_of_iff (test c) (by simp)

instance (rest : List Char) : ∀ piece : Piece, Decidable (piece.FitsBefore rest)
  | .char c => inferInstanceAs (Decidable (c ≠ '$'))
  | .braced name true => inferInstanceAs (Decidable ('\x7d' ∉ name))
  | .braced name false => inferInstanceAs (Decidable ('\x7d' ∉ name ∧ rest = []))
  | .bare name =>
      have : Decidable (∀ c ∈ name, isNameChar c = true) := List.decidableBAll _ _
      have := decidableHead (fun c => isNameChar c = false) rest
      inferInstanceAs (Decidable
        (name ≠ [] ∧ (∀ c ∈ name, isNameChar c = true) ∧ ∀ c ∈ rest.head?, isNameChar c = false))
  | .dollar => decidableHead (fun c => c ≠ '\x7b' ∧ isNameChar c = false) rest

/-- The text that pieces make up. -/
def spelling (tokens : List Piece) : List Char :=
  tokens.flatMap Piece.spelling

/-- Pieces of which each may stand before those that follow it. -/
def Tokenized : List Piece → Prop
  | [] => True
  | piece :: tokens => piece.FitsBefore (spelling tokens) ∧ Tokenized tokens

instance : ∀ tokens : List Piece, Decidable (Tokenized tokens)
  | [] => isTrue trivial
  | piece :: tokens =>
      have := instDecidableTokenized tokens
      inferInstanceAs (Decidable (piece.FitsBefore (spelling tokens) ∧ Tokenized tokens))

theorem Piece.spelling_ne_nil (piece : Piece) : piece.spelling ≠ [] := by
  cases piece <;> exact List.cons_ne_nil _ _

theorem dropWhile_append_of_head? {test : Char → Bool} (hname : ∀ c ∈ name, test c = true)
    (hrest : ∀ c ∈ rest.head?, test c = false) : (name ++ rest).dropWhile test = rest := by
  rw [List.dropWhile_append_of_pos hname]
  cases rest with
  | nil => rfl
  | cons c rest => simp [hrest c rfl]

theorem takeWhile_append_of_head? {test : Char → Bool} (hname : ∀ c ∈ name, test c = true)
    (hrest : ∀ c ∈ rest.head?, test c = false) : (name ++ rest).takeWhile test = name := by
  rw [List.takeWhile_append_of_pos hname]
  cases rest with
  | nil => simp
  | cons c rest => simp [hrest c rfl]

theorem isNameChar_brace : isNameChar '\x7b' = false := by
  decide +kernel

theorem pieces_char (hc : c ≠ '$') (text : List Char) : pieces (c :: text) = .char c :: pieces text := by
  rw [pieces.eq_def]
  exact if_neg hc

theorem pieces_closed (hname : '\x7d' ∉ name) (rest : List Char) :
    pieces ('$' :: '\x7b' :: (name ++ '\x7d' :: rest)) = .braced name true :: pieces rest := by
  have hopen : ∀ c ∈ name, decide (c ≠ '\x7d') = true := fun c hc =>
    decide_eq_true fun heq => hname (heq ▸ hc)
  have hstop : ∀ c ∈ ('\x7d' :: rest).head?, decide (c ≠ '\x7d') = false := by simp
  rw [pieces, if_pos rfl]
  rw [if_pos rfl]
  split
  · next h =>
      rw [dropWhile_append_of_head? hopen hstop] at h
      cases h
  · next h =>
      rw [dropWhile_append_of_head? hopen hstop] at h
      cases h
      rw [takeWhile_append_of_head? hopen hstop]

theorem pieces_unclosed (hname : '\x7d' ∉ name) : pieces ('$' :: '\x7b' :: name) = [.braced name false] := by
  have hopen : ∀ c ∈ name, decide (c ≠ '\x7d') = true := fun c hc =>
    decide_eq_true fun heq => hname (heq ▸ hc)
  rw [pieces, if_pos rfl]
  rw [if_pos rfl]
  split
  · rfl
  · next h =>
      rw [List.dropWhile_eq_nil_iff.mpr hopen] at h
      cases h

theorem pieces_bare (hname : ∀ d ∈ c :: name, isNameChar d = true) (hrest : ∀ d ∈ rest.head?, isNameChar d = false) :
    pieces ('$' :: c :: (name ++ rest)) = .bare (c :: name) :: pieces rest := by
  obtain ⟨hc, hname⟩ := List.forall_mem_cons.mp hname
  have hbrace : c ≠ '\x7b' := by
    rintro rfl
    exact absurd (isNameChar_brace.symm.trans hc) Bool.false_ne_true
  rw [pieces, if_pos rfl]
  rw [if_neg hbrace, if_pos hc, takeWhile_append_of_head? hname hrest, dropWhile_append_of_head? hname hrest]

theorem pieces_dollar (hrest : ∀ d ∈ rest.head?, d ≠ '\x7b' ∧ isNameChar d = false) :
    pieces ('$' :: rest) = .dollar :: pieces rest := by
  cases rest with
  | nil => simp [pieces]
  | cons c rest =>
      obtain ⟨hbrace, hc⟩ := hrest c rfl
      rw [pieces, if_pos rfl]
      rw [if_neg hbrace, if_neg (Bool.eq_false_iff.mp hc)]

/-- A piece that may stand before a text is the first one that is read there. -/
theorem pieces_spelling_append (h : piece.FitsBefore rest) :
    pieces (piece.spelling ++ rest) = piece :: pieces rest := by
  cases piece with
  | char c => exact pieces_char h rest
  | braced name closed =>
      cases closed with
      | true => simpa [Piece.spelling] using pieces_closed h rest
      | false =>
          obtain ⟨hname, rfl⟩ := h
          simpa [Piece.spelling, pieces] using pieces_unclosed hname
  | bare name =>
      obtain ⟨hne, hname, hrest⟩ := h
      cases name with
      | nil => exact absurd rfl hne
      | cons c name => exact pieces_bare hname hrest
  | dollar => exact pieces_dollar h

/-- A text begins with a longest run of characters that satisfy a test. -/
theorem exists_run (test : Char → Bool) (text : List Char) :
    ∃ name rest, text = name ++ rest ∧ (∀ c ∈ name, test c = true) ∧ ∀ c ∈ rest.head?, test c = false := by
  refine ⟨text.takeWhile test, text.dropWhile test, (List.takeWhile_append_dropWhile).symm,
    fun c hc => List.mem_takeWhile_imp hc, fun c hc => ?_⟩
  have hstop := List.head?_dropWhile_not test text
  rwa [Option.mem_def.mp hc] at hstop

/-- A text that is not empty begins with a piece that may stand before the rest. -/
theorem exists_piece (hne : text ≠ []) :
    ∃ (piece : Piece) (rest : List Char), text = piece.spelling ++ rest ∧ piece.FitsBefore rest := by
  obtain ⟨c, text, rfl⟩ := List.exists_cons_of_ne_nil hne
  by_cases hdollar : c = '$'
  · subst hdollar
    by_cases hbrace : '\x7b' ∈ text.head?
    · obtain ⟨after, rfl⟩ := List.head?_eq_some_iff.mp hbrace
      obtain ⟨name, rest, rfl, hname, hrest⟩ := exists_run (fun c => decide (c ≠ '\x7d')) after
      have hopen : '\x7d' ∉ name := fun h => of_decide_eq_true (hname _ h) rfl
      cases rest with
      | nil => exact ⟨.braced name false, [], by simp [Piece.spelling], hopen, rfl⟩
      | cons d rest =>
          obtain rfl : d = '\x7d' := not_not.mp (of_decide_eq_false (hrest d rfl))
          exact ⟨.braced name true, rest, by simp [Piece.spelling], hopen⟩
    · obtain ⟨name, rest, rfl, hname, hrest⟩ := exists_run isNameChar text
      by_cases hempty : name = []
      · subst hempty
        exact ⟨.dollar, rest, rfl, fun d hd => ⟨fun heq => hbrace (heq ▸ hd), hrest d hd⟩⟩
      · exact ⟨.bare name, rest, rfl, hempty, hname, hrest⟩
  · exact ⟨.char c, text, rfl, hdollar⟩

theorem tokenized_pieces (text : List Char) : Tokenized (pieces text) ∧ spelling (pieces text) = text := by
  induction h : text.length using Nat.strongRecOn generalizing text with
  | ind length ih =>
      by_cases hempty : text = []
      · subst hempty
        simp [pieces, Tokenized, spelling]
      · obtain ⟨piece, rest, rfl, hfits⟩ := exists_piece hempty
        have hpiece : 0 < piece.spelling.length := List.length_pos_iff.mpr piece.spelling_ne_nil
        have hshorter : rest.length < length := by
          rw [List.length_append] at h
          omega
        obtain ⟨htokenized, hspelling⟩ := ih rest.length hshorter rest rfl
        rw [pieces_spelling_append hfits]
        refine ⟨⟨hspelling.symm ▸ hfits, htokenized⟩, ?_⟩
        rw [spelling, List.flatMap_cons]
        exact congrArg (piece.spelling ++ ·) hspelling

/-- The pieces of a text are the only ones that make it up, each before those that follow it. -/
theorem pieces_eq_iff : pieces text = tokens ↔ Tokenized tokens ∧ spelling tokens = text := by
  constructor
  · rintro rfl
    exact tokenized_pieces text
  · rintro ⟨htokenized, rfl⟩
    induction tokens with
    | nil => simp [spelling, pieces]
    | cons piece tokens ih =>
        obtain ⟨hfits, htokenized⟩ := htokenized
        rw [spelling, List.flatMap_cons, ← spelling, pieces_spelling_append hfits, ih htokenized]

/-! ### What pieces become -/

/-- The name in a piece. -/
def Piece.name? : Piece → Option String
  | braced name _ | bare name => some (String.ofList name)
  | char _ | dollar => none

/-- The names in pieces, in their order. -/
def names (tokens : List Piece) : List String :=
  tokens.filterMap Piece.name?

/-- The text in place of a piece whose name, if it has one, is defined. -/
def Piece.value (environment : Environment) : Piece → List Char
  | char c => [c]
  | dollar => ['$']
  | braced name _ | bare name => ((environment.value? (String.ofList name)).getD "").toList

variable {environment : Environment} {key : String}

theorem Piece.expand_of_defined (h : ∀ key ∈ piece.name?, environment.value? key ≠ none) :
    piece.expand environment = .ok (piece.value environment) := by
  cases piece with
  | char c => rfl
  | dollar => rfl
  | braced name closed =>
      obtain ⟨value, hvalue⟩ := Option.ne_none_iff_exists'.mp (h _ rfl)
      rw [Piece.expand, Piece.value, hvalue]
      rfl
  | bare name =>
      obtain ⟨value, hvalue⟩ := Option.ne_none_iff_exists'.mp (h _ rfl)
      rw [Piece.expand, Piece.value, hvalue]
      rfl

theorem Piece.expand_of_undefined (hname : piece.name? = some key) (h : environment.value? key = none) :
    piece.expand environment = .error (.missingVariable key) := by
  cases piece with
  | char c => cases hname
  | dollar => cases hname
  | braced name closed =>
      cases hname
      rw [Piece.expand, h]
  | bare name =>
      cases hname
      rw [Piece.expand, h]

theorem Piece.expand_congr {other : Environment}
    (h : ∀ key ∈ piece.name?, environment.value? key = other.value? key) :
    piece.expand environment = piece.expand other := by
  cases piece with
  | char c => rfl
  | dollar => rfl
  | braced name closed => rw [Piece.expand, Piece.expand, h _ rfl]
  | bare name => rw [Piece.expand, Piece.expand, h _ rfl]

theorem forall_mem_names_cons {p : String → Prop} :
    (∀ key ∈ names (piece :: tokens), p key) ↔ (∀ key ∈ piece.name?, p key) ∧ ∀ key ∈ names tokens, p key := by
  cases hname : piece.name? with
  | none => simp [names, hname]
  | some key => simp [names, hname]

theorem mapM_expand_congr {other : Environment}
    (h : ∀ key ∈ names tokens, environment.value? key = other.value? key) :
    tokens.mapM (Piece.expand environment) = tokens.mapM (Piece.expand other) := by
  induction tokens with
  | nil => rfl
  | cons piece tokens ih =>
      obtain ⟨hpiece, htokens⟩ := forall_mem_names_cons.mp h
      rw [List.mapM_cons, List.mapM_cons, Piece.expand_congr hpiece, ih htokens]

theorem mapM_expand_of_defined (h : ∀ key ∈ names tokens, environment.value? key ≠ none) :
    tokens.mapM (Piece.expand environment) = .ok (tokens.map (Piece.value environment)) := by
  induction tokens with
  | nil => rfl
  | cons piece tokens ih =>
      obtain ⟨hpiece, htokens⟩ := forall_mem_names_cons.mp h
      rw [List.mapM_cons, Piece.expand_of_defined hpiece, ih htokens]
      rfl

theorem mapM_expand_of_undefined (h : (names tokens).find? (environment.value? · = none) = some key) :
    tokens.mapM (Piece.expand environment) = .error (.missingVariable key) := by
  induction tokens with
  | nil => cases h
  | cons piece tokens ih =>
      rw [List.mapM_cons]
      cases hname : piece.name? with
      | none =>
          rw [names, List.filterMap_cons_none hname] at h
          have hpiece : ∀ key ∈ piece.name?, environment.value? key ≠ none := by simp [hname]
          rw [Piece.expand_of_defined hpiece, ih h]
          rfl
      | some first =>
          rw [names, List.filterMap_cons_some hname, List.find?_cons] at h
          split at h
          · next hundefined =>
              cases h
              rw [Piece.expand_of_undefined hname (of_decide_eq_true hundefined)]
              rfl
          · next hdefined =>
              have hpiece : ∀ key ∈ piece.name?, environment.value? key ≠ none := by
                simpa [hname] using hdefined
              rw [Piece.expand_of_defined hpiece, ih h]
              rfl

end Expansion

namespace Environment

open Expansion

variable {environment : Environment} {first second text out : String} {error : SettingsError}

theorem expand_of_defined (h : ∀ key ∈ names (pieces text.toList), environment.value? key ≠ none) :
    environment.expand text = .ok (String.ofList ((pieces text.toList).flatMap (Piece.value environment))) := by
  rw [expand, mapM_expand_of_defined h, List.flatMap]
  rfl

theorem expand_of_undefined {key : String}
    (h : (names (pieces text.toList)).find? (environment.value? · = none) = some key) :
    environment.expand text = .error (.missingVariable key) := by
  rw [expand, mapM_expand_of_undefined h]
  rfl

/-- Either every name is defined or there is a first one that is not. -/
theorem defined_or_undefined (environment : Environment) (tokens : List Piece) :
    (∀ key ∈ names tokens, environment.value? key ≠ none) ∨
      ∃ key, (names tokens).find? (environment.value? · = none) = some key := by
  cases h : (names tokens).find? (environment.value? · = none) with
  | none => exact Or.inl fun key hkey => by simpa using List.find?_eq_none.mp h key hkey
  | some key => exact Or.inr ⟨key, rfl⟩

theorem expand_eq_ok_iff :
    environment.expand text = .ok out ↔ (∀ key ∈ names (pieces text.toList), environment.value? key ≠ none) ∧
      out = String.ofList ((pieces text.toList).flatMap (Piece.value environment)) := by
  constructor
  · intro h
    rcases defined_or_undefined environment (pieces text.toList) with hdefined | ⟨key, hundefined⟩
    · rw [expand_of_defined hdefined] at h
      exact ⟨hdefined, (Except.ok.inj h).symm⟩
    · rw [expand_of_undefined hundefined] at h
      cases h
  · rintro ⟨hdefined, rfl⟩
    exact expand_of_defined hdefined

theorem expand_eq_error_iff :
    environment.expand text = .error error ↔
      ∃ key, (names (pieces text.toList)).find? (environment.value? · = none) = some key ∧
        error = .missingVariable key := by
  constructor
  · intro h
    rcases defined_or_undefined environment (pieces text.toList) with hdefined | ⟨key, hundefined⟩
    · rw [expand_of_defined hdefined] at h
      cases h
    · rw [expand_of_undefined hundefined] at h
      exact ⟨key, hundefined, (Except.error.inj h).symm⟩
  · rintro ⟨key, hundefined, rfl⟩
    exact expand_of_undefined hundefined

theorem expand_append_eq_ok_iff
    (h : pieces (first ++ second).toList = pieces first.toList ++ pieces second.toList) :
    environment.expand (first ++ second) = .ok out ↔ ∃ firstOut secondOut,
      environment.expand first = .ok firstOut ∧ environment.expand second = .ok secondOut ∧
        out = firstOut ++ secondOut := by
  simp only [expand_eq_ok_iff, h, names, List.filterMap_append, List.forall_mem_append, List.flatMap_append,
    String.ofList_append]
  constructor
  · rintro ⟨⟨hfirst, hsecond⟩, rfl⟩
    exact ⟨_, _, ⟨hfirst, rfl⟩, ⟨hsecond, rfl⟩, rfl⟩
  · rintro ⟨_, _, ⟨hfirst, rfl⟩, ⟨hsecond, rfl⟩, rfl⟩
    exact ⟨⟨hfirst, hsecond⟩, rfl⟩

/-- What a text becomes depends on the variables that it names and on no others. -/
theorem expand_congr {other : Environment}
    (h : ∀ key ∈ names (pieces text.toList), environment.value? key = other.value? key) :
    environment.expand text = other.expand text := by
  rw [expand, expand, mapM_expand_congr h]

/-- A text is made up of pieces in one way. Expanding it succeeds exactly if every name in it is defined, and then each
name gives way to its value, as that stands; else the first name that is not defined is reported. Two texts that are
not read otherwise when they are put together are expanded one after the other. -/
theorem expand_pieces (environment : Environment) :
    (∀ text tokens, pieces text = tokens ↔ Tokenized tokens ∧ spelling tokens = text) ∧
      (∀ text out, environment.expand text = .ok out ↔
        (∀ key ∈ names (pieces text.toList), environment.value? key ≠ none) ∧
          out = String.ofList ((pieces text.toList).flatMap (Piece.value environment))) ∧
        (∀ text error, environment.expand text = .error error ↔
          ∃ key, (names (pieces text.toList)).find? (environment.value? · = none) = some key ∧
            error = .missingVariable key) ∧
          ∀ first second : String,
            pieces (first ++ second).toList = pieces first.toList ++ pieces second.toList →
              ∀ out, environment.expand (first ++ second) = .ok out ↔ ∃ firstOut secondOut,
                environment.expand first = .ok firstOut ∧ environment.expand second = .ok secondOut ∧
                  out = firstOut ++ secondOut :=
  ⟨fun _ _ => pieces_eq_iff, fun _ _ => expand_eq_ok_iff, fun _ _ => expand_eq_error_iff,
    fun _ _ h _ => expand_append_eq_ok_iff h⟩

end Environment

namespace Nested

open Expansion

/-- A variable whose value looks like a name, and the variable of that name. -/
def environment : Environment := [("A", "$\x7bB\x7d"), ("B", "b")]

def first : String := "$$\x7bA\x7d"

def second : String := "$B!"

theorem pieces_first : pieces first.toList = [.dollar, .braced ['A'] true] :=
  pieces_eq_iff.mpr ⟨by decide +kernel, by decide⟩

theorem pieces_second : pieces second.toList = [.bare ['B'], .char '!'] :=
  pieces_eq_iff.mpr ⟨by decide +kernel, by decide⟩

theorem pieces_both : pieces (first ++ second).toList = pieces first.toList ++ pieces second.toList := by
  rw [pieces_first, pieces_second]
  exact pieces_eq_iff.mpr ⟨by decide +kernel, by decide⟩

/-- Two texts put together; a value that looks like a name stays as it is. -/
theorem expand_both : environment.expand (first ++ second) = .ok "$$\x7bB\x7db!" := by
  obtain ⟨-, hexpand, -, happend⟩ := Environment.expand_pieces environment
  refine (happend first second pieces_both _).mpr ⟨"$$\x7bB\x7d", "b!", ?_, ?_, rfl⟩
  · rw [hexpand, pieces_first]
    decide +kernel
  · rw [hexpand, pieces_second]
    decide +kernel

end Nested

end QueryFrames
