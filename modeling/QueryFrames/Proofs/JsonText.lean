import QueryFrames.Json.Decode
import QueryFrames.Json.Writer

/-! Reading what was written. A string is read back character by character, whichever way each is escaped, and a value
item by item, with whatever stands behind it left alone. The reader bounds its tokens by the length of the text, and
every step of it takes at least one character, so the bound is never met. Written text has no control characters,
line feeds among them, and stays on one line. Numbers are left out throughout. -/

namespace QueryFrames.Json

/-- No number stands in the value, at any depth. -/
inductive Numberless : Json → Prop
  | null : Numberless .null
  | bool (value : Bool) : Numberless (.bool value)
  | string (value : String) : Numberless (.string value)
  | array {items : List Json} (h : ∀ item ∈ items, Numberless item) : Numberless (.array items)
  | object {members : List (String × Json)} (h : ∀ member ∈ members, Numberless member.2) :
      Numberless (.object members)

/-- How a character may be written in a string: by a letter that means it, by its number, or as it is. -/
inductive Escaped (c : Char) : List Char → Prop
  | letter {letter : Char} (hletter : Source.escapeValue? letter = some c) (hprinted : 32 ≤ letter.toNat) :
      Escaped c ['\\', letter]
  | number (hcontrol : c.toNat < 32) :
      Escaped c ['\\', 'u', '0', '0', hexDigit (c.toNat / 16), hexDigit (c.toNat % 16)]
  | plain (hquote : c ≠ '"') (hslash : c ≠ '\\') (hprinted : 32 ≤ c.toNat) : Escaped c [c]

theorem escaped_escapeChar (c : Char) : Escaped c (escapeChar c) := by
  by_cases hshort : c ∈ ['"', '\\', '\x08', '\t', '\n', '\x0c', '\r']
  · simp only [List.mem_cons, List.not_mem_nil, or_false] at hshort
    rcases hshort with rfl | rfl | rfl | rfl | rfl | rfl | rfl <;> exact .letter rfl (by decide)
  · simp only [List.mem_cons, List.not_mem_nil, or_false, not_or] at hshort
    by_cases hcontrol : c.toNat < 32
    · simpa [escapeChar, hshort, hcontrol] using Escaped.number hcontrol
    · simpa [escapeChar, hshort, hcontrol] using Escaped.plain hshort.1 hshort.2.1 (Nat.le_of_not_lt hcontrol)

namespace Source

/-! ### Strings -/

theorem unitValue?_hexDigit : ∀ n < 32, unitValue? '0' '0' (hexDigit (n / 16)) (hexDigit (n % 16)) = some n := by
  decide

/-- A piece stands for a character, as itself or by its number if it is a control. -/
inductive Piece.Spells (c : Char) : Piece → Prop
  | char : Spells c (.char c)
  | unit (hcontrol : c.toNat < 32) : Spells c (.unit c.toNat)

variable {c : Char} {piece : Piece} {pieces : List Piece} {text rest : List Char}

theorem exists_piece_of_escaped {chars : List Char} (h : Escaped c chars)
    (hread : readPieces text = some (pieces, rest)) :
    ∃ piece : Piece, piece.Spells c ∧ readPieces (chars ++ text) = some (piece :: pieces, rest) := by
  cases h with
  | @letter letter hletter hprinted =>
      have hu : letter ≠ 'u' := by
        rintro rfl
        cases hletter
      exact ⟨.char c, .char, by simp [readPieces, hu, hletter, hread]⟩
  | number hcontrol =>
      exact ⟨.unit c.toNat, .unit hcontrol, by simp [readPieces, unitValue?_hexDigit c.toNat hcontrol, hread]⟩
  | plain hquote hslash hprinted =>
      exact ⟨.char c, .char, by simp [readPieces, hslash, Nat.not_lt.mpr hprinted, hread]⟩

theorem Piece.Spells.joinPieces_cons (h : piece.Spells c) (pieces : List Piece) :
    joinPieces (piece :: pieces) = (joinPieces pieces).map (c :: ·) := by
  cases h with
  | char => rfl
  | unit hcontrol =>
      -- A control is no half of a surrogate pair, so it does not join the piece behind it.
      have hhigh : isHighHalf c.toNat = false := by simp [isHighHalf]; omega
      have hlow : isLowHalf c.toNat = false := by simp [isLowHalf]; omega
      rcases pieces with _ | ⟨other | other, pieces⟩ <;> simp [joinPieces, hhigh, hlow]

theorem readPieces_flatMap_escapeChar (chars rest : List Char) :
    ∃ pieces, readPieces (chars.flatMap escapeChar ++ '"' :: rest) = some (pieces, rest) ∧
      joinPieces pieces = some chars := by
  induction chars with
  | nil => exact ⟨[], rfl, rfl⟩
  | cons c chars ih =>
      obtain ⟨pieces, hread, hjoin⟩ := ih
      obtain ⟨piece, hpiece, hread⟩ := exists_piece_of_escaped (escaped_escapeChar c) hread
      rw [List.flatMap_cons, List.append_assoc]
      exact ⟨piece :: pieces, hread, by rw [hpiece.joinPieces_cons, hjoin]; rfl⟩

theorem readString_flatMap_escapeChar (text : String) (rest : List Char) :
    readString (text.toList.flatMap escapeChar ++ '"' :: rest) = some (some text, rest) := by
  obtain ⟨pieces, hread, hjoin⟩ := readPieces_flatMap_escapeChar text.toList rest
  simp [readString, hread, hjoin]

theorem renderString_append (text : String) (rest : List Char) :
    renderString text ++ rest = '"' :: (text.toList.flatMap escapeChar ++ '"' :: rest) := by
  rw [renderString, List.append_assoc]
  rfl

/-! ### Values -/

theorem skipGap_cons (h : isGap c = false) (text : List Char) : skipGap (c :: text) = c :: text := by
  rw [skipGap, List.dropWhile_cons, if_neg (by simp [h])]

/-- The text of a value reads back, whatever stands behind it. -/
def ReadsBack (value : Json) : Prop :=
  ∀ fuel rest, (renderChars value).length ≤ fuel →
    readValue fuel (renderChars value ++ rest) = some (ofJson value, rest)

variable {fuel : Nat}

theorem readItems_renderItems {item : Json} {items : List Json} (hitem : ReadsBack item)
    (hitems : ∀ other ∈ items, ReadsBack other) (hfuel : (renderChars item ++ renderItems items).length ≤ fuel)
    (rest : List Char) :
    readItems fuel (renderChars item ++ (renderItems items ++ rest)) = some (ofJson item :: ofItems items, rest) := by
  -- An item is read before it is known whether another follows, so the induction is on those behind it.
  induction items generalizing item fuel with
  | nil =>
      rw [renderItems, List.length_append, List.length_singleton] at hfuel
      obtain ⟨fuel, rfl⟩ : ∃ n, fuel = n + 1 := Nat.exists_eq_add_of_le' (by omega)
      rw [readItems, hitem fuel _ (by omega)]
      rfl
  | cons next items ih =>
      obtain ⟨hnext, hitems⟩ := List.forall_mem_cons.mp hitems
      rw [renderItems, List.cons_append, List.length_append, List.length_cons] at hfuel
      obtain ⟨fuel, rfl⟩ : ∃ n, fuel = n + 1 := Nat.exists_eq_add_of_le' (by omega)
      have hlength : (renderChars next ++ renderItems items).length ≤ fuel := by omega
      have hread := ih hnext hitems hlength
      rw [readItems, hitem fuel _ (by omega)]
      simp [renderItems, skipGap_cons (c := ',') rfl, hread, ofItems]

theorem readMembers_renderMembers {key : String} {value : Json} {members : List (String × Json)}
    (hvalue : ReadsBack value) (hmembers : ∀ member ∈ members, ReadsBack member.2)
    (hfuel : (renderString key ++ ':' :: (renderChars value ++ renderMembers members)).length ≤ fuel)
    (rest : List Char) :
    readMembers fuel (renderString key ++ ':' :: (renderChars value ++ (renderMembers members ++ rest))) =
      some ((some key, ofJson value) :: ofMembers members, rest) := by
  induction members generalizing key value fuel with
  | nil =>
      rw [renderMembers, List.length_append, List.length_cons, List.length_append, List.length_singleton] at hfuel
      obtain ⟨fuel, rfl⟩ : ∃ n, fuel = n + 1 := Nat.exists_eq_add_of_le' (by omega)
      rw [renderString_append, readMembers, skipGap_cons rfl]
      simp [readString_flatMap_escapeChar, skipGap_cons (c := ':') rfl, hvalue fuel _ (by omega), renderMembers,
        skipGap_cons (c := '\x7d') rfl, ofMembers]
  | cons next members ih =>
      obtain ⟨hnext, hmembers⟩ := List.forall_mem_cons.mp hmembers
      rw [renderMembers, List.length_append, List.length_cons, List.cons_append] at hfuel
      simp only [List.length_append, List.length_cons] at hfuel
      obtain ⟨fuel, rfl⟩ : ∃ n, fuel = n + 1 := Nat.exists_eq_add_of_le' (by omega)
      have hlength : (renderString next.1 ++ ':' :: (renderChars next.2 ++ renderMembers members)).length ≤ fuel := by
        simp only [List.length_append, List.length_cons]
        omega
      have hread := ih hnext hmembers hlength
      rw [renderString_append, readMembers, skipGap_cons rfl]
      simp [readString_flatMap_escapeChar, skipGap_cons (c := ':') rfl, hvalue fuel _ (by omega), renderMembers,
        skipGap_cons (c := ',') rfl, hread, ofMembers]

end Source

namespace Numberless

open Source

variable {value : Json}

/-- The text of a value neither begins with a gap nor ends an array. -/
theorem renderChars_eq_cons (h : Numberless value) :
    ∃ c text, renderChars value = c :: text ∧ isGap c = false ∧ c ≠ ']' := by
  cases h with
  | null => exact ⟨_, _, rfl, rfl, by decide⟩
  | bool value => cases value <;> exact ⟨_, _, rfl, rfl, by decide⟩
  | string value => exact ⟨_, _, rfl, rfl, by decide⟩
  | @array items _ => cases items <;> exact ⟨_, _, rfl, rfl, by decide⟩
  | @object members _ => cases members <;> exact ⟨_, _, rfl, rfl, by decide⟩

theorem readsBack (h : Numberless value) : ReadsBack value := by
  induction h with
  | null =>
      rintro (_ | fuel) rest hfuel
      · cases hfuel
      · rfl
  | bool value =>
      rintro (_ | fuel) rest hfuel <;> cases value
      · cases hfuel
      · cases hfuel
      · rfl
      · rfl
  | string value =>
      rintro (_ | fuel) rest hfuel
      · cases hfuel
      · rw [renderChars, renderString_append, readValue, skipGap_cons rfl]
        simp [readString_flatMap_escapeChar, ofJson]
  | @array items h ih =>
      rintro (_ | fuel) rest hfuel <;> rcases items with _ | ⟨item, items⟩
      · cases hfuel
      · cases hfuel
      · rfl
      · obtain ⟨hitem, hitems⟩ := List.forall_mem_cons.mp ih
        rw [renderChars, List.cons_append, List.length_cons] at hfuel
        have hread := readItems_renderItems hitem hitems (Nat.le_of_succ_le_succ hfuel) rest
        obtain ⟨c, text, hrender, hgap, hend⟩ := (h item List.mem_cons_self).renderChars_eq_cons
        rw [hrender, List.cons_append] at hread
        rw [renderChars, readValue, List.cons_append, List.cons_append, skipGap_cons rfl, hrender]
        simp [skipGap_cons hgap, hend, hread, ofJson, ofItems]
  | @object members h ih =>
      rintro (_ | fuel) rest hfuel <;> rcases members with _ | ⟨member, members⟩
      · cases hfuel
      · cases hfuel
      · rfl
      · obtain ⟨hvalue, hmembers⟩ := List.forall_mem_cons.mp ih
        rw [renderChars, List.cons_append, List.cons_append, List.length_cons, List.append_assoc] at hfuel
        have hread := readMembers_renderMembers hvalue hmembers (Nat.le_of_succ_le_succ hfuel) rest
        rw [renderString_append] at hread
        rw [renderChars, readValue, List.cons_append, List.cons_append, List.cons_append, skipGap_cons rfl,
          List.append_assoc, List.append_assoc, renderString_append]
        simp [skipGap_cons (c := '"') rfl, hread, ofJson, ofMembers]

/-- A written value is taken apart as it was put together. -/
theorem source_ofText?_render (h : Numberless value) : Source.ofText? (render value) = some (ofJson value) := by
  have hread := h.readsBack (2 * (renderChars value).length + 2) [] (by omega)
  rw [List.append_nil] at hread
  rw [Source.ofText?, render, String.toList_ofList, hread]
  rfl

end Numberless

/-! ### Depth -/

mutual

/-- How many arrays and objects stand one inside the other. -/
def nesting : Json → Nat
  | array items => nestingItems items + 1
  | object members => nestingMembers members + 1
  | _ => 0

/-- The nesting of the deepest item. -/
def nestingItems : List Json → Nat
  | [] => 0
  | item :: items => max item.nesting (nestingItems items)

/-- The nesting of the deepest member. -/
def nestingMembers : List (String × Json) → Nat
  | [] => 0
  | (_, value) :: members => max value.nesting (nestingMembers members)

end

namespace Source

mutual

theorem toJson?_ofJson {depth : Nat} :
    ∀ value : Json, value.nesting ≤ depth → toJson? depth (ofJson value) = some value.sorted
  | .null, _ => by simp [ofJson, toJson?, sorted]
  | .bool value, _ => by simp [ofJson, toJson?, sorted]
  | .number value, _ => by simp [ofJson, toJson?, sorted]
  | .string value, _ => by simp [ofJson, toJson?, sorted]
  | .array items, h => by
      rw [nesting] at h
      obtain ⟨depth, rfl⟩ := Nat.exists_eq_add_of_le' (Nat.le_of_add_left_le h)
      rw [ofJson, toJson?, toItems?_ofItems items (Nat.le_of_succ_le_succ h), sorted]
      rfl
  | .object members, h => by
      rw [nesting] at h
      obtain ⟨depth, rfl⟩ := Nat.exists_eq_add_of_le' (Nat.le_of_add_left_le h)
      rw [ofJson, toJson?, toMembers?_ofMembers members (Nat.le_of_succ_le_succ h), sorted]
      rfl

theorem toItems?_ofItems {depth : Nat} :
    ∀ items : List Json, nestingItems items ≤ depth → toItems? depth (ofItems items) = some (sortedItems items)
  | [], _ => rfl
  | item :: items, h => by
      obtain ⟨hitem, hitems⟩ := Nat.max_le.mp h
      rw [ofItems, toItems?, toJson?_ofJson item hitem, toItems?_ofItems items hitems]
      rfl

theorem toMembers?_ofMembers {depth : Nat} :
    ∀ members : List (String × Json), nestingMembers members ≤ depth →
      toMembers? depth (ofMembers members) = some (sortedMembers members)
  | [], _ => rfl
  | (key, value) :: members, h => by
      obtain ⟨hvalue, hmembers⟩ := Nat.max_le.mp h
      rw [ofMembers, toMembers?, toJson?_ofJson value hvalue, toMembers?_ofMembers members hmembers]
      rfl

end

end Source

theorem Numberless.ofText?_render {value : Json} (h : Numberless value) (hdepth : value.nesting ≤ nestingLimit) :
    ofText? (render value) = some value.sorted := by
  rw [ofText?, h.source_ofText?_render]
  exact Source.toJson?_ofJson value hdepth

/-! ### Sorted members -/

section

variable {α : Type} {key : String} {value : α} {members sorted : List (String × α)}

/-- Members in the order of their keys, one to a key. -/
def Ordered (members : List (String × α)) : Prop :=
  (members.map (·.1)).Pairwise (· < ·)

theorem insertMember_perm (hkey : key ∉ members.map (·.1)) :
    (insertMember key value members).Perm ((key, value) :: members) := by
  induction members with
  | nil => exact .refl _
  | cons member members ih =>
      rw [List.map_cons, List.mem_cons, not_or] at hkey
      rw [insertMember, if_neg (Ne.symm hkey.1)]
      split
      · exact .refl _
      · exact ((ih hkey.2).cons member).trans (.swap (key, value) member members)

theorem mem_keys_insertMember {k : String} (hk : k ∈ (insertMember key value members).map (·.1)) :
    k = key ∨ k ∈ members.map (·.1) := by
  induction members with
  | nil => exact Or.inl (List.mem_singleton.mp hk)
  | cons member members ih =>
      rw [insertMember] at hk
      split at hk
      · exact (List.mem_cons.mp hk).imp_right (List.mem_cons_of_mem _)
      · split at hk
        · exact List.mem_cons.mp hk
        · rcases List.mem_cons.mp hk with rfl | hk
          · exact Or.inr List.mem_cons_self
          · exact (ih hk).imp_right (List.mem_cons_of_mem _)

theorem Ordered.insertMember (h : Ordered members) : Ordered (insertMember key value members) := by
  induction members with
  | nil => exact List.pairwise_singleton _ key
  | cons member members ih =>
      obtain ⟨hmember, hmembers⟩ := List.pairwise_cons.mp h
      rw [Json.insertMember]
      split
      · next heq => exact heq ▸ h
      · next hne =>
          split
          · next hlt =>
              refine .cons (List.forall_mem_cons.mpr ⟨hlt, fun k hk => ?_⟩) h
              exact String.lt_trans hlt (hmember k hk)
          · next hle =>
              refine .cons (fun k hk => ?_) (ih hmembers)
              rcases mem_keys_insertMember hk with rfl | hk
              · exact Std.lt_of_le_of_ne (String.not_lt.mp hle) hne
              · exact hmember k hk

theorem ordered_sortMembers (members : List (String × α)) : Ordered (sortMembers members) := by
  rw [sortMembers]
  have hfrom : ∀ known : List (String × α), Ordered known →
      Ordered (members.foldl (fun sorted member => insertMember member.1 member.2 sorted) known) := by
    induction members with
    | nil => exact fun known h => h
    | cons member members ih => exact fun known h => ih _ h.insertMember
  exact hfrom [] .nil

theorem sortMembers_perm (h : (members.map (·.1)).Nodup) : (sortMembers members).Perm members := by
  rw [sortMembers]
  -- Over what is still to be inserted, for any list that was made so far.
  have hfrom : ∀ known : List (String × α), ((known ++ members).map (·.1)).Nodup →
      (members.foldl (fun sorted member => insertMember member.1 member.2 sorted) known).Perm (known ++ members) := by
    clear h
    induction members with
    | nil => exact fun known _ => (List.append_nil known).symm ▸ .refl _
    | cons member members ih =>
        intro known h
        have hmiddle : (known ++ member :: members).Perm (member :: (known ++ members)) := List.perm_middle
        have hkeys := (hmiddle.map (·.1)).nodup h
        rw [List.map_cons, List.nodup_cons, List.map_append, List.mem_append, not_or] at hkeys
        have hinsert : (insertMember member.1 member.2 known ++ members).Perm (known ++ member :: members) :=
          ((insertMember_perm hkeys.1.1).append_right members).trans hmiddle.symm
        exact (ih _ ((hinsert.map (·.1)).symm.nodup h)).trans hinsert
  exact hfrom [] h

theorem Ordered.nodup (h : Ordered members) : (members.map (·.1)).Nodup := by
  apply h.imp
  intro first second hlt heq
  exact String.lt_irrefl second (heq ▸ hlt)

/-- Sorting gives the one list in order that has the same members. -/
theorem sortMembers_eq_of_perm (hperm : sorted.Perm members) (hordered : Ordered sorted) :
    sortMembers members = sorted := by
  have hnodup : (members.map (·.1)).Nodup := (hperm.map (·.1)).nodup hordered.nodup
  have hsorted : (sortMembers members).Pairwise fun first second => first.1 < second.1 :=
    List.pairwise_map.mp (ordered_sortMembers members)
  refine List.Perm.eq_of_pairwise ?_ hsorted (List.pairwise_map.mp hordered)
    ((sortMembers_perm hnodup).trans hperm.symm)
  exact fun first second _ _ hlt hgt => absurd hgt (String.lt_asymm hlt)

end

/-! ### One line -/

/-- A text without control characters. -/
def Printed (text : List Char) : Prop := ∀ c ∈ text, 32 ≤ c.toNat

instance (text : List Char) : Decidable (Printed text) := List.decidableBAll _ text

theorem Printed.cons {c : Char} {text : List Char} (hc : 32 ≤ c.toNat) (h : Printed text) : Printed (c :: text) :=
  List.forall_mem_cons.mpr ⟨hc, h⟩

theorem Printed.append {first second : List Char} (hfirst : Printed first) (hsecond : Printed second) :
    Printed (first ++ second) :=
  List.forall_mem_append.mpr ⟨hfirst, hsecond⟩

theorem Escaped.printed {c : Char} {chars : List Char} (h : Escaped c chars) : Printed chars := by
  have hhex : ∀ n < 16, 32 ≤ (hexDigit n).toNat := by decide
  cases h with
  | letter hletter hprinted => exact .cons (by decide) (.cons hprinted (List.forall_mem_nil _))
  | number hcontrol =>
      have hstart : Printed ['\\', 'u', '0', '0'] := by decide
      exact hstart.append (.cons (hhex _ (by omega)) (.cons (hhex _ (by omega)) (List.forall_mem_nil _)))
  | plain hquote hslash hprinted => exact .cons hprinted (List.forall_mem_nil _)

theorem printed_renderString (text : String) : Printed (renderString text) := by
  have hchars : Printed (text.toList.flatMap escapeChar) := by
    intro c hc
    obtain ⟨source, -, hmem⟩ := List.mem_flatMap.mp hc
    exact (escaped_escapeChar source).printed c hmem
  exact .append (.cons (by decide) hchars) (.cons (by decide) (List.forall_mem_nil _))

theorem printed_renderItems {items : List Json} (h : ∀ item ∈ items, Printed (renderChars item)) :
    Printed (renderItems items) := by
  induction items with
  | nil => exact .cons (by decide) (List.forall_mem_nil _)
  | cons item items ih =>
      obtain ⟨hitem, hitems⟩ := List.forall_mem_cons.mp h
      exact .append (.cons (by decide) hitem) (ih hitems)

theorem printed_renderMembers {members : List (String × Json)}
    (h : ∀ member ∈ members, Printed (renderChars member.2)) :
    Printed (renderMembers members) := by
  induction members with
  | nil => exact .cons (by decide) (List.forall_mem_nil _)
  | cons member members ih =>
      obtain ⟨hvalue, hmembers⟩ := List.forall_mem_cons.mp h
      have hkey : Printed (',' :: renderString member.1) := .cons (by decide) (printed_renderString member.1)
      exact .append (hkey.append (.cons (by decide) hvalue)) (ih hmembers)

theorem Numberless.printed {value : Json} (h : Numberless value) : Printed (renderChars value) := by
  induction h with
  | null => decide
  | bool value => cases value <;> decide
  | string value => exact printed_renderString value
  | @array items h ih =>
      rcases items with _ | ⟨item, items⟩
      · decide
      · obtain ⟨hitem, hitems⟩ := List.forall_mem_cons.mp ih
        exact .append (.cons (by decide) hitem) (printed_renderItems hitems)
  | @object members h ih =>
      rcases members with _ | ⟨member, members⟩
      · decide
      · obtain ⟨hvalue, hmembers⟩ := List.forall_mem_cons.mp ih
        have hkey : Printed ('\x7b' :: renderString member.1) := .cons (by decide) (printed_renderString member.1)
        exact .append (hkey.append (.cons (by decide) hvalue)) (printed_renderMembers hmembers)

end QueryFrames.Json
