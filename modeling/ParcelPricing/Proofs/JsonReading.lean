import Mathlib.Data.List.DropRight
import ParcelPricing.Proofs.JsonToken

/-! A text that spells a document is read as that document. -/
namespace ParcelPricing.Json
open Text
variable {text rest value before after : List Char} {c : Char} {document : Json} {fuel : Nat}

theorem skipSpace_append (h : IsSpace before) (text : List Char) :
    skipSpace (before ++ text) = skipSpace text :=
  List.dropWhile_append_of_pos h

theorem skipSpace_of_head (h : ∀ c ∈ text.head?, isSpace c = false) : skipSpace text = text := by
  cases text with
  | nil => rfl
  | cons c text => simp [skipSpace, h c rfl]

/-- A number begins with a minus or a digit, and with nothing else. -/
theorem IsNumber.head (h : IsNumber text) :
    ∃ c tail, text = c :: tail ∧ ∀ x : Char, x ≠ '-' ∧ x.isDigit = false → c ≠ x := by
  cases h with
  | @parts minus whole fraction exponent hminus hwhole _ _ =>
    obtain ⟨c, tail, rfl⟩ := List.exists_cons_of_ne_nil hwhole.isDigits.1.1
    have hc := hwhole.isDigits.1.2 c List.mem_cons_self
    simp only [List.mem_cons, List.not_mem_nil, or_false] at hminus
    rcases hminus with rfl | rfl
    · exact ⟨c, _, rfl, fun x hx heq => Bool.false_ne_true (hx.2 ▸ heq ▸ hc)⟩
    · exact ⟨'-', _, rfl, fun x hx heq => hx.1 heq.symm⟩

/-- A document begins with no space, and not as the end of an array. -/
theorem Spells.head (h : Spells document text) :
    ∃ c tail, text = c :: tail ∧ isSpace c = false ∧ c ≠ ']' := by
  cases h with
  | number h =>
    obtain ⟨c, tail, rfl, hne⟩ := h.head
    have hspace : isSpace c = false := by
      simp [isSpace, hne ' ' (by decide), hne '\t' (by decide), hne '\n' (by decide),
        hne '\r' (by decide)]
    exact ⟨c, tail, rfl, hspace, hne ']' (by decide)⟩
  | _ => exact ⟨_, _, rfl, by decide, by decide⟩

theorem skipSpace_spells (h : Spells document text) (hbefore : IsSpace before) (rest : List Char) :
    skipSpace (before ++ (text ++ rest)) = text ++ rest := by
  obtain ⟨c, tail, rfl, hc, -⟩ := h.head
  rw [skipSpace_append hbefore]
  refine skipSpace_of_head ?_
  rintro _ ⟨⟩
  exact hc

theorem stripWord_of_ne {word : String} {first : Char} (hword : word.toList.head? = some first)
    (htext : text.head? = some c) (h : c ≠ first) : stripWord word text = none := by
  rw [stripWord, if_neg]
  intro htake
  have hhead := congrArg List.head? htake
  rw [hword, ← String.length_toList, List.head?_take, if_neg, htext] at hhead
  · exact h (Option.some.inj hhead)
  · intro hlength
    rw [List.length_eq_zero_iff.1 hlength] at hword
    cases hword

theorem stripWord_append (word : String) (rest : List Char) :
    stripWord word (word.toList ++ rest) = some rest := by
  rw [stripWord, ← String.length_toList, List.take_left, if_pos rfl, List.drop_left]

/-- What begins as no string, array or object is a word or else a number. -/
theorem readValue_of_head {token : List Char} (hskip : skipSpace text = token)
    (hhead : token.head? = some c) (hc : c ≠ '"' ∧ c ≠ '[' ∧ c ≠ '\x7b') :
    readValue (fuel + 1) text =
      match stripWord "null" token, stripWord "true" token, stripWord "false" token with
      | some rest, _, _ => some (null, rest)
      | _, some rest, _ => some (bool true, rest)
      | _, _, some rest => some (bool false, rest)
      | _, _, _ => (readNumber token).map fun (text, rest) => (number text, rest) := by
  rw [readValue, hskip]
  split
  · exact absurd (Option.some.inj hhead).symm hc.1
  · exact absurd (Option.some.inj hhead).symm hc.2.1
  · exact absurd (Option.some.inj hhead).symm hc.2.2
  · rfl

theorem readValue_number (h : IsNumber text) (hrest : Ends rest) (hbefore : IsSpace before) :
    readValue (fuel + 1) (before ++ (text ++ rest)) = some (number text, rest) := by
  have hread := readNumber_append h hrest
  have hskip := skipSpace_spells (.number h) hbefore rest
  obtain ⟨c, tail, htext, hne⟩ := h.head
  have hhead : (text ++ rest).head? = some c := by
    rw [htext]
    rfl
  have hopen := And.intro (hne '"' (by decide))
    (And.intro (hne '[' (by decide)) (hne '\x7b' (by decide)))
  rw [readValue_of_head hskip hhead hopen, stripWord_of_ne (by rfl) hhead (hne 'n' (by decide)),
    stripWord_of_ne (by rfl) hhead (hne 't' (by decide)),
    stripWord_of_ne (by rfl) hhead (hne 'f' (by decide)), hread]
  rfl

theorem ends_cons (hc : c ∈ [' ', '\t', '\n', '\r', ',', ']', '\x7d']) : Ends (c :: rest) := by
  rintro _ ⟨⟩
  simp only [List.mem_cons, List.not_mem_nil, or_false] at hc
  rcases hc with rfl | rfl | rfl | rfl | rfl | rfl | rfl <;> decide

theorem Ends.append (hrest : Ends rest) (hafter : IsSpace after) : Ends (after ++ rest) := by
  cases after with
  | nil => exact hrest
  | cons c after =>
    have hc := hafter c List.mem_cons_self
    simp only [isSpace, Bool.or_eq_true, decide_eq_true_eq] at hc
    exact ends_cons (by simp; tauto)

theorem skipSpace_skipSpace (text : List Char) : skipSpace (skipSpace text) = skipSpace text :=
  List.dropWhile_idempotent _ _

theorem readItems_skipSpace (fuel : Nat) (text : List Char) :
    readItems fuel (skipSpace text) = readItems fuel text := by
  cases fuel with
  | zero => rfl
  | succ fuel =>
    have hvalue : readValue fuel (skipSpace text) = readValue fuel text := by
      cases fuel with
      | zero => rfl
      | succ fuel => rw [readValue, readValue, skipSpace_skipSpace]
    rw [readItems, readItems, hvalue]

theorem readFields_skipSpace (fuel : Nat) (text : List Char) :
    readFields fuel (skipSpace text) = readFields fuel text := by
  cases fuel with
  | zero => rfl
  | succ fuel => rw [readFields, readFields, skipSpace_skipSpace]

/-- So much fuel is enough for a value, -/
def ReadsValues (fuel : Nat) : Prop :=
  ∀ {document : Json} {text before rest : List Char}, Spells document text → IsSpace before →
    Ends rest → 2 * text.length ≤ fuel + 1 →
      readValue fuel (before ++ (text ++ rest)) = some (document, rest)

/-- for the items of an array up to its end, -/
def ReadsItems (fuel : Nat) : Prop :=
  ∀ {item : Json} {items : List Json} {text rest : List Char}, SpellsItems (item :: items) text →
    2 * text.length ≤ fuel → readItems fuel (text ++ ']' :: rest) = some (item :: items, rest)

/-- and for the fields of an object up to its end. -/
def ReadsFields (fuel : Nat) : Prop :=
  ∀ {field : List Char × Json} {fields : List (List Char × Json)} {text rest : List Char},
    SpellsFields (field :: fields) text → 2 * text.length ≤ fuel →
      readFields fuel (text ++ '\x7d' :: rest) = some (field :: fields, rest)

/-- The first item begins before the end of the array. -/
theorem SpellsItems.head {item : Json} {items : List Json}
    (h : SpellsItems (item :: items) text) (rest : List Char) :
    ∃ c tail, skipSpace (text ++ rest) = c :: tail ∧ c ≠ ']' := by
  cases h with
  | last hbefore h hafter =>
    have hskip := skipSpace_spells h hbefore
    obtain ⟨c, tail, rfl, -, hc⟩ := h.head
    simp only [List.append_assoc, hskip]
    exact ⟨c, _, rfl, hc⟩
  | more hbefore h hafter _ =>
    have hskip := skipSpace_spells h hbefore
    obtain ⟨c, tail, rfl, -, hc⟩ := h.head
    simp only [List.append_assoc, hskip]
    exact ⟨c, _, rfl, hc⟩

/-- What follows a value in an array or an object is found behind the space. -/
theorem skipSpace_mark (hafter : IsSpace after) (hc : isSpace c = false) :
    skipSpace (after ++ c :: rest) = c :: rest := by
  rw [skipSpace_append hafter]
  refine skipSpace_of_head ?_
  rintro _ ⟨⟩
  exact hc

theorem readsItems_succ (hvalues : ReadsValues fuel) (hitems : ReadsItems fuel) :
    ReadsItems (fuel + 1) := by
  intro item items text rest h hfuel
  cases h with
  | @last _ before text after hbefore h hafter =>
    simp only [List.length_append] at hfuel
    have hends : Ends (after ++ ']' :: rest) := (ends_cons (by decide)).append hafter
    have hvalue := hvalues h hbefore hends (by omega)
    have hskip : skipSpace (after ++ ']' :: rest) = ']' :: rest := skipSpace_mark hafter rfl
    simp [readItems, List.append_assoc, hvalue, hskip]
  | @more _ next more before text after later hbefore h hafter hlater =>
    simp only [List.length_append, List.length_cons] at hfuel
    have hends : Ends (after ++ ',' :: (later ++ ']' :: rest)) :=
      (ends_cons (by decide)).append hafter
    have hvalue := hvalues h hbefore hends (by omega)
    have hskip : skipSpace (after ++ ',' :: (later ++ ']' :: rest)) =
        ',' :: (later ++ ']' :: rest) := skipSpace_mark hafter rfl
    have hrest : readItems fuel (later ++ ']' :: rest) = some (next :: more, rest) :=
      hitems hlater (by omega)
    simp [readItems, List.append_assoc, hvalue, hskip, hrest]

/-- A key is read up to its value. -/
theorem readKey {key head : List Char} (h : SpellsKey key head) (text : List Char) :
    ∃ body rest after, skipSpace (head ++ text) = '"' :: body ∧ readString body = some (key, rest) ∧
      skipSpace rest = ':' :: (after ++ text) ∧ IsSpace after := by
  cases h with
  | @parts before body between after hbefore h hbetween hafter =>
    refine ⟨body ++ '"' :: between ++ ':' :: after ++ text, between ++ ':' :: after ++ text, after,
      ?_, ?_, ?_, hafter⟩
    · simpa using skipSpace_mark hbefore rfl
    · simpa using readString_append h
    · simpa using skipSpace_mark hbetween rfl

/-- The first field begins with a quote. -/
theorem SpellsFields.head {field : List Char × Json} {fields : List (List Char × Json)}
    (h : SpellsFields (field :: fields) text) (rest : List Char) :
    ∃ tail, skipSpace (text ++ rest) = '"' :: tail := by
  cases h with
  | @last key _ head text after hkey _ _ =>
    obtain ⟨body, -, -, hquote, -⟩ := readKey hkey (text ++ (after ++ rest))
    exact ⟨body, by simpa using hquote⟩
  | @more key _ _ _ head text after later hkey _ _ _ =>
    obtain ⟨body, -, -, hquote, -⟩ := readKey hkey (text ++ (after ++ ',' :: (later ++ rest)))
    exact ⟨body, by simpa using hquote⟩

theorem readsFields_succ (hvalues : ReadsValues fuel) (hfields : ReadsFields fuel) :
    ReadsFields (fuel + 1) := by
  intro field fields text rest h hfuel
  cases h with
  | @last key value head text after hkey h hafter =>
    simp only [List.length_append] at hfuel
    have hends : Ends (after ++ '\x7d' :: rest) := (ends_cons (by decide)).append hafter
    obtain ⟨body, behind, before, hquote, hstring, hcolon, hbefore⟩ :=
      readKey hkey (text ++ (after ++ '\x7d' :: rest))
    have hvalue := hvalues h hbefore hends (by omega)
    have hskip : skipSpace (after ++ '\x7d' :: rest) = '\x7d' :: rest := skipSpace_mark hafter rfl
    simp [readFields, List.append_assoc, hquote, expect, hstring, hcolon, hvalue, hskip]
  | @more key value next more head text after later hkey h hafter hlater =>
    simp only [List.length_append, List.length_cons] at hfuel
    have hends : Ends (after ++ ',' :: (later ++ '\x7d' :: rest)) :=
      (ends_cons (by decide)).append hafter
    obtain ⟨body, behind, before, hquote, hstring, hcolon, hbefore⟩ :=
      readKey hkey (text ++ (after ++ ',' :: (later ++ '\x7d' :: rest)))
    have hvalue := hvalues h hbefore hends (by omega)
    have hskip : skipSpace (after ++ ',' :: (later ++ '\x7d' :: rest)) =
        ',' :: (later ++ '\x7d' :: rest) := skipSpace_mark hafter rfl
    have hrest : readFields fuel (later ++ '\x7d' :: rest) = some (next :: more, rest) :=
      hfields hlater (by omega)
    simp [readFields, List.append_assoc, hquote, expect, hstring, hcolon, hvalue, hskip, hrest]

theorem readValue_array (hitems : ReadsItems fuel) {items : List Json} {inner : List Char}
    (h : SpellsItems items inner) (hfuel : 2 * inner.length ≤ fuel)
    (hskip : skipSpace text = '[' :: (inner ++ ']' :: rest)) :
    readValue (fuel + 1) text = some (array items, rest) := by
  rw [readValue, hskip]
  cases items with
  | nil =>
    cases h with
    | none hspace =>
      have hend : skipSpace (inner ++ ']' :: rest) = ']' :: rest := skipSpace_mark hspace rfl
      simp [hend]
  | cons item items =>
    have hread : readItems fuel (inner ++ ']' :: rest) = some (item :: items, rest) :=
      hitems h hfuel
    obtain ⟨c, tail, hhead, hc⟩ := h.head (']' :: rest)
    rw [← readItems_skipSpace, hhead] at hread
    simp only [hhead]
    split
    · rename_i heq
      exact absurd (List.cons.inj heq).1 hc
    · rw [hread]
      rfl

theorem readValue_object (hfields : ReadsFields fuel) {fields : List (List Char × Json)}
    {inner : List Char} (h : SpellsFields fields inner) (hfuel : 2 * inner.length ≤ fuel)
    (hskip : skipSpace text = '\x7b' :: (inner ++ '\x7d' :: rest)) :
    readValue (fuel + 1) text = some (object fields, rest) := by
  rw [readValue, hskip]
  cases fields with
  | nil =>
    cases h with
    | none hspace =>
      have hend : skipSpace (inner ++ '\x7d' :: rest) = '\x7d' :: rest := skipSpace_mark hspace rfl
      simp [hend]
  | cons field fields =>
    have hread : readFields fuel (inner ++ '\x7d' :: rest) = some (field :: fields, rest) :=
      hfields h hfuel
    obtain ⟨tail, hhead⟩ := h.head ('\x7d' :: rest)
    rw [← readFields_skipSpace, hhead] at hread
    simp [hhead, hread]

theorem readsValues_succ (hitems : ReadsItems fuel) (hfields : ReadsFields fuel) :
    ReadsValues (fuel + 1) := by
  intro document text before rest h hbefore hends hfuel
  have hskip := skipSpace_spells h hbefore rest
  cases h with
  | null =>
    have hhead : ("null".toList ++ rest).head? = some 'n' := rfl
    rw [readValue_of_head hskip hhead (by decide), stripWord_append]
  | yes =>
    have hhead : ("true".toList ++ rest).head? = some 't' := rfl
    rw [readValue_of_head hskip hhead (by decide), stripWord_append,
      stripWord_of_ne (by rfl) hhead (by decide : 't' ≠ 'n')]
  | no =>
    have hhead : ("false".toList ++ rest).head? = some 'f' := rfl
    rw [readValue_of_head hskip hhead (by decide), stripWord_append,
      stripWord_of_ne (by rfl) hhead (by decide : 'f' ≠ 'n'),
      stripWord_of_ne (by rfl) hhead (by decide : 'f' ≠ 't')]
  | number h => exact readValue_number h hends hbefore
  | @string value body h =>
    simp only [List.cons_append, List.append_assoc, List.nil_append] at hskip ⊢
    rw [readValue, hskip]
    simp [readString_append h]
  | @array items inner h =>
    simp only [List.length_append, List.length_cons] at hfuel
    refine readValue_array hitems h (by omega) ?_
    simpa only [List.cons_append, List.append_assoc, List.nil_append] using hskip
  | @object fields inner h =>
    simp only [List.length_append, List.length_cons] at hfuel
    refine readValue_object hfields h (by omega) ?_
    simpa only [List.cons_append, List.append_assoc, List.nil_append] using hskip

/-- The fuel that is spent at every call goes with the text, so twice its length is enough. -/
theorem reads (fuel : Nat) : ReadsValues fuel ∧ ReadsItems fuel ∧ ReadsFields fuel := by
  induction fuel with
  | zero =>
    refine ⟨fun h _ _ hfuel => ?_, fun {_ _ text _} h hfuel => ?_, fun {_ _ text _} h hfuel => ?_⟩
    · obtain ⟨c, tail, rfl, -⟩ := h.head
      simp only [List.length_cons] at hfuel
      omega
    · have hempty : text.length = 0 := by omega
      obtain rfl := List.length_eq_zero_iff.1 hempty
      obtain ⟨c, tail, hhead, -⟩ := h.head []
      cases hhead
    · have hempty : text.length = 0 := by omega
      obtain rfl := List.length_eq_zero_iff.1 hempty
      obtain ⟨tail, hhead⟩ := h.head []
      cases hhead
  | succ fuel ih =>
    obtain ⟨hvalues, hitems, hfields⟩ := ih
    exact ⟨readsValues_succ hitems hfields, readsItems_succ hvalues hitems,
      readsFields_succ hvalues hfields⟩

/-- A text that spells a document, with space around it or not, is read as that document. -/
theorem read?_eq_some_of_spells (h : Spells document text) (hbefore : IsSpace before)
    (hafter : IsSpace after) : read? (before ++ (text ++ after)) = some document := by
  have hnothing : Ends [] := fun _ hc => absurd hc (by simp)
  have hends : Ends after := by simpa using hnothing.append hafter
  have hread : readValue (2 * (before ++ (text ++ after)).length + 2) (before ++ (text ++ after)) =
      some (document, after) := by
    refine (reads _).1 h hbefore hends ?_
    simp only [List.length_append]
    omega
  have hend : skipSpace after = [] := List.dropWhile_eq_nil_iff.2 hafter
  rw [read?, hread]
  change Option.bind (guard (skipSpace after = [])) (fun _ => some document) = some document
  rw [guard, if_pos hend]
  rfl

/-- A document that is printed is read back. -/
theorem read?_pretty (h : document.Proper) (depth : Nat) :
    read? (pretty depth document) = some document := by
  simpa using read?_eq_some_of_spells (spells_pretty h depth) isSpace_nil isSpace_nil

theorem read?_print (h : document.Proper) : read? document.print = some document := by
  have hnewline : IsSpace ['\n'] := List.forall_mem_singleton.2 rfl
  simpa [print] using read?_eq_some_of_spells (spells_pretty h 0) isSpace_nil hnewline

end ParcelPricing.Json
