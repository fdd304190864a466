import Mathlib.Data.List.Forall2
import ParcelPricing.Settings.Basic

namespace ParcelPricing.Setting
open Decimal

inductive MeansText : Setting → String → Prop
  | text (value : String) : MeansText (text value) value
  | truth (value : Bool) : MeansText (truth value) (toString value)
  | whole (n : Int) : MeansText (whole n) (.ofList (Text.signedDecimal n))
  | decimal (x : Float) : MeansText (decimal x) (.ofList (Report.plainText x))

/-- Words for the two states of a switch. -/
def switchWords : List (String × Float) :=
  [("true", 1.0), ("on", 1.0), ("yes", 1.0), ("false", 0.0), ("off", 0.0), ("no", 0.0)]

inductive MeansAmount : Setting → Float → Prop
  | off : MeansAmount (truth false) 0.0
  | on : MeansAmount (truth true) 1.0
  | whole (n : Int) : MeansAmount (whole n) (.ofInt n)
  | decimal (x : Float) : MeansAmount (decimal x) x
  | word {value word : String} {x : Float} (hword : (word, x) ∈ switchWords)
      (h : lowered value.toList = word.toList) : MeansAmount (text value) x
  | numeral {value : String} {x : Float}
      (hword : ∀ word ∈ switchWords, lowered value.toList ≠ word.1.toList)
      (h : readDouble? value.toList = some x) : MeansAmount (text value) x

/-- A list means as many values as it has items, in their order. -/
inductive MeansList {α : Type} (means : Setting → α → Prop) : Setting → List α → Prop
  | list {items : List Setting} {values : List α} (h : List.Forall₂ means items values) :
      MeansList means (list items) values

/-- Three settings for the three fields of a price. -/
structure MeanLine (provider size price : Setting) (line : PriceLine Float) : Prop where
  provider : MeansText provider line.provider
  size : MeansText size line.size
  price : MeansAmount price line.price

/-- A price is set by the names of its fields or by their order. -/
inductive MeansPrice : Setting → PriceLine Float → Prop
  | named {fields : Fields} {provider size price : Setting} {line : PriceLine Float}
      (hprovider : fields.get? "provider" = some provider)
      (hsize : fields.get? "package_size" = some size)
      (hprice : fields.get? "price" = some price) (h : MeanLine provider size price line) :
      MeansPrice (table fields) line
  | listed {provider size price : Setting} {rest : List Setting} {line : PriceLine Float}
      (h : MeanLine provider size price line) :
      MeansPrice (list (provider :: size :: price :: rest)) line

/-- A value is what is said about it, or a standard one where nothing is. -/
inductive Decides {α : Type} (means : Setting → α → Prop) (standard : α) : Option Setting → α → Prop
  | unsaid : Decides means standard none standard
  | said {s : Setting} {value : α} (h : means s value) : Decides means standard (some s) value

variable {α : Type} {s : Setting}

theorem asText?_iff {value : String} : asText? s = some value ↔ MeansText s value := by
  constructor
  · intro h
    cases s with
    | text => cases h; exact .text _
    | truth b => cases h; cases b <;> exact .truth _
    | whole => cases h; exact .whole _
    | decimal => cases h; exact .decimal _
    | _ => cases h
  · rintro ⟨⟩
    · rfl
    · rename_i b
      cases b <;> rfl
    · rfl
    · rfl

/-- The words are sorted by what they mean. -/
theorem contains_switchWord : ∀ word ∈ switchWords,
    yesWords.contains word.1.toList = true ∧ word.2 = 1.0 ∨
      yesWords.contains word.1.toList = false ∧ noWords.contains word.1.toList = true ∧
        word.2 = 0.0 := by
  decide +kernel

theorem mem_switchWords : (∀ word ∈ yesWords, (String.ofList word, 1.0) ∈ switchWords) ∧
    ∀ word ∈ noWords, (String.ofList word, 0.0) ∈ switchWords := by
  simp only [yesWords, noWords, List.forall_mem_cons, String.ofList_toList]
  simp [switchWords]

theorem asAmount?_iff {x : Float} : asAmount? s = some x ↔ MeansAmount s x := by
  constructor
  · intro h
    cases s with
    | text value =>
      rw [asAmount?] at h
      split at h
      · rename_i hyes
        cases h
        exact .word (mem_switchWords.1 _ (List.contains_iff_mem.1 hyes)) String.toList_ofList.symm
      · rename_i hyes
        split at h
        · rename_i hno
          cases h
          exact .word (mem_switchWords.2 _ (List.contains_iff_mem.1 hno)) String.toList_ofList.symm
        · rename_i hno
          refine .numeral (fun word hword heq => ?_) h
          rw [heq] at hyes hno
          rcases contains_switchWord word hword with ⟨hcontains, -⟩ | ⟨-, hcontains, -⟩
          · exact hyes hcontains
          · exact hno hcontains
    | truth b => cases h; cases b <;> constructor
    | whole => cases h; exact .whole _
    | decimal => cases h; exact .decimal _
    | _ => cases h
  · intro h
    cases h with
    | word hword h =>
      rw [asAmount?, h]
      rcases contains_switchWord _ hword with ⟨hyes, hx⟩ | ⟨hyes, hno, hx⟩
      · rw [if_pos hyes]
        exact congrArg some hx.symm
      · rw [hyes, if_neg Bool.false_ne_true, if_pos hno]
        exact congrArg some hx.symm
    | numeral hword h =>
      rw [asAmount?, if_neg, if_neg, h]
      · exact fun hno => hword _ (mem_switchWords.2 _ (List.contains_iff_mem.1 hno))
          String.toList_ofList.symm
      · exact fun hyes => hword _ (mem_switchWords.1 _ (List.contains_iff_mem.1 hyes))
          String.toList_ofList.symm
    | _ => rfl

theorem mapM_eq_some_iff {β : Type} {f : α → Option β} {items : List α} {values : List β} :
    items.mapM f = some values ↔ List.Forall₂ (fun item value => f item = some value) items values := by
  induction items generalizing values with
  | nil => simp [eq_comm]
  | cons item items ih =>
    rw [List.mapM_cons, List.forall₂_cons_left_iff]
    simp only [Option.bind_eq_bind, Option.bind_eq_some_iff, Option.pure_def, Option.some.injEq]
    constructor
    · rintro ⟨value, hvalue, rest, hrest, rfl⟩
      exact ⟨value, rest, hvalue, ih.1 hrest, rfl⟩
    · rintro ⟨value, rest, hvalue, hrest, rfl⟩
      exact ⟨value, hvalue, rest, ih.2 hrest, rfl⟩

theorem asList?_iff {item : Setting → Option α} {means : Setting → α → Prop} {values : List α}
    (h : ∀ {s value}, item s = some value ↔ means s value) :
    asList? item s = some values ↔ MeansList means s values := by
  obtain rfl : means = fun s value => item s = some value := by
    funext s value
    exact propext h.symm
  constructor
  · intro hlist
    cases s with
    | list items => exact .list (mapM_eq_some_iff.1 hlist)
    | _ => cases hlist
  · rintro ⟨hitems⟩
    exact mapM_eq_some_iff.2 hitems

/-- The fields of a record that is written as a list stand in the order of their names. -/
theorem get?_zip (items : List Setting) :
    let fields : Fields := ["provider", "package_size", "price"].zip items
    fields.get? "provider" = items[0]? ∧ fields.get? "package_size" = items[1]? ∧
      fields.get? "price" = items[2]? := by
  match items with
  | [] => exact ⟨rfl, rfl, rfl⟩
  | [_] => exact ⟨rfl, rfl, rfl⟩
  | [_, _] => exact ⟨rfl, rfl, rfl⟩
  | _ :: _ :: _ :: _ => exact ⟨rfl, rfl, rfl⟩

theorem priceLine?_iff {line : PriceLine Float} :
    Settings.priceLine? s = some line ↔ MeansPrice s line := by
  simp only [Settings.priceLine?, Option.bind_eq_bind, Option.bind_eq_some_iff, asText?_iff,
    asAmount?_iff]
  constructor
  · rintro ⟨fields, hfields, provider, hprovider, _, hp, size, hsize, _, hs, price, hprice, _, hx,
      ⟨⟩⟩
    cases s with
    | table =>
      obtain rfl := Option.some.inj hfields
      exact .named hprovider hsize hprice ⟨hp, hs, hx⟩
    | list items =>
      obtain rfl := Option.some.inj hfields
      obtain ⟨hfirst, hsecond, hthird⟩ := get?_zip items
      rw [hfirst] at hprovider
      rw [hsecond] at hsize
      rw [hthird] at hprice
      match items with
      | _ :: _ :: _ :: rest =>
        cases hprovider
        cases hsize
        cases hprice
        exact .listed ⟨hp, hs, hx⟩
    | _ => cases hfields
  · rintro (⟨hprovider, hsize, hprice, h⟩ | h)
    · exact ⟨_, rfl, _, hprovider, _, h.provider, _, hsize, _, h.size, _, hprice, _, h.price, rfl⟩
    · exact ⟨_, rfl, _, rfl, _, h.provider, _, rfl, _, h.size, _, rfl, _, h.price, rfl⟩

/-- What is said counts, and else the standard value. -/
theorem decides_iff {meaning : Setting → Option α} {means : Setting → α → Prop} {standard value : α}
    {said : Option Setting} (h : ∀ {s value}, meaning s = some value ↔ means s value) :
    said.elim (some standard) meaning = some value ↔ Decides means standard said value := by
  cases said with
  | none =>
    constructor
    · rintro ⟨⟩
      exact .unsaid
    · rintro ⟨⟩
      rfl
  | some s =>
    constructor
    · exact fun hmeaning => .said (h.1 hmeaning)
    · intro hmeans
      cases hmeans with
      | said hmeans => exact h.2 hmeans

end ParcelPricing.Setting
