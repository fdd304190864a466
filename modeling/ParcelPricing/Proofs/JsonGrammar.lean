import Mathlib.Data.List.Basic
import ParcelPricing.Json.Printer
import ParcelPricing.Json.Reader

/-! The grammar of RFC 8259: which texts spell a document. -/
namespace ParcelPricing.Json
open Text

/-- One digit or more. -/
def IsDigits (text : List Char) : Prop := text ≠ [] ∧ ∀ c ∈ text, c.isDigit = true

def IsSpace (text : List Char) : Prop := ∀ c ∈ text, isSpace c = true

/-- The part of a number before the point. It begins with zero only if it is zero. -/
inductive IsWhole : List Char → Prop
  | zero : IsWhole ['0']
  | digits {text : List Char} (h : IsDigits text) (hhead : text.head? ≠ some '0') : IsWhole text

inductive IsFraction : List Char → Prop
  | none : IsFraction []
  | digits {text : List Char} (h : IsDigits text) : IsFraction ('.' :: text)

inductive IsExponent : List Char → Prop
  | none : IsExponent []
  | digits {mark : Char} {sign text : List Char} (hmark : mark ∈ ['e', 'E'])
      (hsign : sign ∈ [[], ['+'], ['-']]) (h : IsDigits text) :
      IsExponent (mark :: sign ++ text)

inductive IsNumber : List Char → Prop
  | parts {minus whole fraction exponent : List Char} (hminus : minus ∈ [[], ['-']])
      (hwhole : IsWhole whole) (hfraction : IsFraction fraction) (hexponent : IsExponent exponent) :
      IsNumber (minus ++ whole ++ fraction ++ exponent)

/-- What may stand between quotes for a string. -/
inductive SpellsString : List Char → List Char → Prop
  | nil : SpellsString [] []
  | plain {c : Char} {value text : List Char} (hquote : c ≠ '"') (hslash : c ≠ '\\')
      (hcontrol : 0x20 ≤ c.toNat) (h : SpellsString value text) :
      SpellsString (c :: value) (c :: text)
  | letter {c x : Char} {value text : List Char} (hletter : escapeLetter? x = some c)
      (h : SpellsString value text) : SpellsString (c :: value) ('\\' :: x :: text)
  | unit {a b d e c : Char} {n : Nat} {value text : List Char} (hunit : hexUnit? a b d e = some n)
      (hchar : charOf? n = some c) (h : SpellsString value text) :
      SpellsString (c :: value) ('\\' :: 'u' :: a :: b :: d :: e :: text)
  | pair {a b d e a' b' d' e' c : Char} {lead trail : Nat} {value text : List Char}
      (hlead : hexUnit? a b d e = some lead) (htrail : hexUnit? a' b' d' e' = some trail)
      (hchar : pairChar? lead trail = some c) (h : SpellsString value text) :
      SpellsString (c :: value)
        ('\\' :: 'u' :: a :: b :: d :: e :: '\\' :: 'u' :: a' :: b' :: d' :: e' :: text)

/-- A key with what may stand around it, up to the value. -/
inductive SpellsKey (key : List Char) : List Char → Prop
  | parts {before body between after : List Char} (hbefore : IsSpace before)
      (h : SpellsString key body) (hbetween : IsSpace between) (hafter : IsSpace after) :
      SpellsKey key (before ++ '"' :: body ++ '"' :: between ++ ':' :: after)

mutual

inductive Spells : Json → List Char → Prop
  | null : Spells .null "null".toList
  | yes : Spells (.bool true) "true".toList
  | no : Spells (.bool false) "false".toList
  | number {text : List Char} (h : IsNumber text) : Spells (.number text) text
  | string {value body : List Char} (h : SpellsString value body) :
      Spells (.string value) ('"' :: body ++ ['"'])
  | array {items : List Json} {inner : List Char} (h : SpellsItems items inner) :
      Spells (.array items) ('[' :: inner ++ [']'])
  | object {fields : List (List Char × Json)} {inner : List Char} (h : SpellsFields fields inner) :
      Spells (.object fields) ('\x7b' :: inner ++ ['\x7d'])

/-- What may stand between the brackets of an array. -/
inductive SpellsItems : List Json → List Char → Prop
  | none {space : List Char} (h : IsSpace space) : SpellsItems [] space
  | last {item : Json} {before text after : List Char} (hbefore : IsSpace before)
      (h : Spells item text) (hafter : IsSpace after) : SpellsItems [item] (before ++ text ++ after)
  | more {item next : Json} {rest : List Json} {before text after later : List Char}
      (hbefore : IsSpace before) (h : Spells item text) (hafter : IsSpace after)
      (hlater : SpellsItems (next :: rest) later) :
      SpellsItems (item :: next :: rest) (before ++ text ++ after ++ ',' :: later)

/-- What may stand between the braces of an object. -/
inductive SpellsFields : List (List Char × Json) → List Char → Prop
  | none {space : List Char} (h : IsSpace space) : SpellsFields [] space
  | last {key : List Char} {value : Json} {before text after : List Char}
      (hbefore : SpellsKey key before) (h : Spells value text) (hafter : IsSpace after) :
      SpellsFields [(key, value)] (before ++ text ++ after)
  | more {key : List Char} {value : Json} {next : List Char × Json}
      {rest : List (List Char × Json)} {before text after later : List Char}
      (hbefore : SpellsKey key before) (h : Spells value text) (hafter : IsSpace after)
      (hlater : SpellsFields (next :: rest) later) :
      SpellsFields ((key, value) :: next :: rest) (before ++ text ++ after ++ ',' :: later)

end

/-- A document whose numbers are numbers by the grammar. -/
inductive Proper : Json → Prop
  | null : Proper .null
  | bool (value : Bool) : Proper (.bool value)
  | number {text : List Char} (h : IsNumber text) : Proper (.number text)
  | string (value : List Char) : Proper (.string value)
  | array {items : List Json} (h : ∀ item ∈ items, Proper item) : Proper (.array items)
  | object {fields : List (List Char × Json)} (h : ∀ field ∈ fields, Proper field.2) :
      Proper (.object fields)

theorem hexValue?_hexDigit (n : Nat) : hexValue? (hexDigit n) = some (n % 16) := by
  have hlt : n % 16 < 16 := Nat.mod_lt _ (by decide)
  have hall : ∀ k < 16, hexValue? (Nat.digitChar k) = some k := by decide
  exact hall _ hlt

theorem isSpace_newLine (depth : Nat) : IsSpace (newLine depth) := by
  refine List.forall_mem_cons.2 ⟨rfl, fun c hc => ?_⟩
  obtain ⟨-, rfl⟩ := List.mem_replicate.1 hc
  rfl

theorem charOf?_toNat (c : Char) : charOf? c.toNat = some c := by
  have hvalid : c.toNat.isValidChar := c.valid
  have hself := Char.ofNat_toNat c
  rw [Char.ofNat, dif_pos hvalid] at hself
  rw [charOf?, dif_pos hvalid, hself]

/-- The escape of a control is its own number, of two digits after two zeros. -/
theorem hexUnit?_of_lt {n : Nat} (h : n < 0x20) :
    hexUnit? '0' '0' (hexDigit (n / 16)) (hexDigit n) = some n := by
  have hzero : hexValue? '0' = some 0 := rfl
  simp only [hexUnit?, hzero, hexValue?_hexDigit, Option.bind_eq_bind, Option.bind_some,
    Option.pure_def]
  congr
  omega

/-- An escaped character spells itself. -/
theorem spellsString_escapedChar {c : Char} {value text : List Char} (h : SpellsString value text) :
    SpellsString (c :: value) (escapedChar c ++ text) := by
  unfold escapedChar
  split
  · exact .letter rfl h
  · exact .letter rfl h
  · exact .letter rfl h
  · exact .letter rfl h
  · exact .letter rfl h
  · exact .letter rfl h
  · exact .letter rfl h
  · rename_i hquote hslash _ _ _ _ _
    split
    · rename_i hcontrol
      exact .unit (hexUnit?_of_lt hcontrol) (charOf?_toNat c) h
    · exact .plain hquote hslash (by omega) h

theorem spellsString_flatMap (value : List Char) :
    SpellsString value (value.flatMap escapedChar) := by
  induction value with
  | nil => exact .nil
  | cons c value ih => exact spellsString_escapedChar ih

theorem prettyItems_eq_map (depth : Nat) (items : List Json) :
    prettyItems depth items = items.map (pretty depth) := by
  induction items with
  | nil => rw [prettyItems, List.map_nil]
  | cons item rest ih => rw [prettyItems, ih, List.map_cons]

theorem prettyFields_eq_map (depth : Nat) (fields : List (List Char × Json)) :
    prettyFields depth fields =
      fields.map fun field => stringText field.1 ++ ':' :: ' ' :: pretty depth field.2 := by
  induction fields with
  | nil => rw [prettyFields, List.map_nil]
  | cons field rest ih =>
    obtain ⟨key, value⟩ := field
    rw [prettyFields, ih, List.map_cons]

variable {depth : Nat}

theorem isSpace_nil : IsSpace [] := fun _ hc => absurd hc List.not_mem_nil

/-- Items on lines of their own spell a list of them. -/
theorem spellsItems_lines {item : Json} {rest : List Json} (outer : Nat)
    (h : ∀ i ∈ item :: rest, Spells i (pretty depth i)) :
    SpellsItems (item :: rest) (newLine depth ++
      List.intercalate (',' :: newLine depth) ((item :: rest).map (pretty depth)) ++
        newLine outer) := by
  obtain ⟨hitem, hrest⟩ := List.forall_mem_cons.1 h
  induction rest generalizing item with
  | nil =>
    rw [List.map_singleton, List.intercalate_singleton]
    exact .last (isSpace_newLine depth) hitem (isSpace_newLine outer)
  | cons next rest ih =>
    have hlater := ih hrest (List.forall_mem_cons.1 hrest).1 (List.forall_mem_cons.1 hrest).2
    have hmore := SpellsItems.more (isSpace_newLine depth) hitem isSpace_nil hlater
    simpa [List.intercalate_cons_cons] using hmore

theorem spellsKey_newLine (key : List Char) (depth : Nat) :
    SpellsKey key (newLine depth ++ stringText key ++ [':', ' ']) := by
  have hparts := SpellsKey.parts (isSpace_newLine depth) (spellsString_flatMap key) isSpace_nil
    (List.forall_mem_singleton.2 (rfl : isSpace ' ' = true))
  simpa [stringText] using hparts

/-- Fields on lines of their own spell a list of them. -/
theorem spellsFields_lines {field : List Char × Json} {rest : List (List Char × Json)} (outer : Nat)
    (h : ∀ f ∈ field :: rest, Spells f.2 (pretty depth f.2)) :
    SpellsFields (field :: rest) (newLine depth ++ List.intercalate (',' :: newLine depth)
      ((field :: rest).map fun f => stringText f.1 ++ ':' :: ' ' :: pretty depth f.2) ++
        newLine outer) := by
  obtain ⟨hfield, hrest⟩ := List.forall_mem_cons.1 h
  induction rest generalizing field with
  | nil =>
    have hlast := SpellsFields.last (spellsKey_newLine field.1 depth) hfield
      (isSpace_newLine outer)
    simpa using hlast
  | cons next rest ih =>
    have hlater := ih hrest (List.forall_mem_cons.1 hrest).1 (List.forall_mem_cons.1 hrest).2
    have hmore := SpellsFields.more (spellsKey_newLine field.1 depth) hfield isSpace_nil hlater
    simpa [List.intercalate_cons_cons] using hmore

/-- What is printed of a document spells it. -/
theorem spells_pretty {document : Json} (h : document.Proper) (depth : Nat) :
    Spells document (pretty depth document) := by
  induction h generalizing depth with
  | null => exact .null
  | bool value => cases value with
    | true => exact .yes
    | false => exact .no
  | number hnumber => exact .number hnumber
  | string value => exact .string (spellsString_flatMap value)
  | @array items hitems ih =>
    rw [pretty, prettyItems_eq_map, block]
    cases items with
    | nil => exact .array (.none isSpace_nil)
    | cons item rest =>
      have hlines := spellsItems_lines depth fun i hi => ih i hi (depth + 1)
      rw [if_neg (by simp)]
      simpa using Spells.array hlines
  | @object fields hfields ih =>
    rw [pretty, prettyFields_eq_map, block]
    cases fields with
    | nil => exact .object (.none isSpace_nil)
    | cons field rest =>
      have hlines := spellsFields_lines depth fun f hf => ih f hf (depth + 1)
      rw [if_neg (by simp)]
      simpa using Spells.object hlines

end ParcelPricing.Json
