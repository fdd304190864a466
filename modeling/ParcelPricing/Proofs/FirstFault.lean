import Mathlib.Data.List.Induction
import ParcelPricing.Proofs.TariffTerms

/-! A tariff that is not usable is refused for its first fault. -/
namespace ParcelPricing

variable {α : Type}

namespace TariffFault

/-- The codes of the line that is at fault, or of the one that is missing. -/
def pair? : TariffFault α → Option (String × String)
  | negativePrice line | repeatedPrice line => some line.pair
  | missingPrice provider size => some (provider, size)
  | ceilingNotPositive _ | noProvider | noSize => none

/-- Whether the fault lies in the listing as a whole, and not in a field that is wrong by itself. -/
def isOfListing : TariffFault α → Bool
  | repeatedPrice _ | missingPrice .. => true
  | ceilingNotPositive _ | noProvider | noSize | negativePrice _ => false

/-- A fault is told as one of the listing or of a field, and the codes it is about are told with it. -/
theorem settingsFault_told (f : TariffFault Float) :
    f.settingsFault.code = (if f.isOfListing then "VALIDATION_ERROR" else "INVALID_ARGUMENT") ∧
      ∀ pair, f.pair? = some pair →
        (pair.1 ++ " " ++ pair.2).toList <:+: f.settingsFault.message.toList := by
  have hfront : ∀ text rest : String, text.toList <:+: (text ++ rest).toList := by
    intro text rest
    rw [String.toList_append]
    exact (List.prefix_append ..).isInfix
  have hback : ∀ rest text : String, text.toList <:+: (rest ++ text).toList := by
    intro rest text
    rw [String.toList_append]
    exact (List.suffix_append ..).isInfix
  have hlabelled : ∀ label provider size : String, (provider ++ " " ++ size).toList <:+:
      (label ++ provider ++ " " ++ size).toList := by
    intro label provider size
    have hassoc : label ++ provider ++ " " ++ size = label ++ (provider ++ " " ++ size) := by
      simp only [String.append_assoc]
    rw [hassoc]
    exact hback ..
  cases f with
  | ceilingNotPositive ceiling => exact ⟨rfl, nofun⟩
  | noProvider => exact ⟨rfl, nofun⟩
  | noSize => exact ⟨rfl, nofun⟩
  | negativePrice line =>
    refine ⟨rfl, fun pair hpair => ?_⟩
    obtain rfl := Option.some.inj hpair
    have hmessage : (negativePrice line).settingsFault.message =
        "无效的参数: " ++ "pricing.prices" ++ " - " ++ (line.provider ++ " " ++ line.size ++
          " 的价格不能为负数: " ++ .ofList (Report.plainText line.price)) := rfl
    rw [hmessage]
    exact ((hfront ..).trans (hfront ..)).trans (hback ..)
  | repeatedPrice line =>
    refine ⟨rfl, fun pair hpair => ?_⟩
    obtain rfl := Option.some.inj hpair
    have hmessage : (repeatedPrice line).settingsFault.message =
        "参数验证失败: " ++ ("重复的价格配置: " ++ line.provider ++ " " ++ line.size) := rfl
    rw [hmessage]
    exact (hlabelled ..).trans (hback ..)
  | missingPrice provider size =>
    refine ⟨rfl, fun pair hpair => ?_⟩
    obtain rfl := Option.some.inj hpair
    have hmessage : (missingPrice provider size : TariffFault Float).settingsFault.message =
        "参数验证失败: " ++ ("缺少价格配置: " ++ provider ++ " " ++ size) := rfl
    rw [hmessage]
    exact (hlabelled ..).trans (hback ..)

end TariffFault

/-- The first pair, row by row, that a test holds of. -/
theorem find?_pairs_eq_some_iff {β γ : Type} {xs : List β} {ys : List γ} {p : β × γ → Bool} {x : β}
    {y : γ} : (xs.flatMap fun x => ys.map (x, ·)).find? p = some (x, y) ↔
      ∃ before after left right, xs = before ++ x :: after ∧ ys = left ++ y :: right ∧
        (∀ a ∈ before, ∀ b ∈ ys, p (a, b) = false) ∧ (∀ b ∈ left, p (x, b) = false) ∧
        p (x, y) = true := by
  have hrow : ∀ a, (ys.map (a, ·)).find? p = (ys.find? fun b => p (a, b)).map (a, ·) := by
    intro a
    rw [List.find?_map]
    rfl
  rw [List.find?_flatMap, List.findSome?_eq_some_iff]
  constructor
  · rintro ⟨before, a, after, hxs, hfound, hbefore⟩
    rw [hrow, Option.map_eq_some_iff] at hfound
    obtain ⟨b, hb, hpair⟩ := hfound
    obtain ⟨rfl, rfl⟩ := Prod.mk.inj hpair
    obtain ⟨hp, left, right, hys, hleft⟩ := List.find?_eq_some_iff_append.1 hb
    refine ⟨before, after, left, right, hxs, hys, fun c hc d hd => ?_, by simpa using hleft, hp⟩
    have hnone := hbefore c hc
    rw [hrow, Option.map_eq_none_iff, List.find?_eq_none] at hnone
    simpa using hnone d hd
  · rintro ⟨before, after, left, right, hxs, hys, hbefore, hleft, hp⟩
    refine ⟨before, x, after, hxs, ?_, fun c hc => ?_⟩
    · have hfound : ys.find? (fun b => p (x, b)) = some y :=
        List.find?_eq_some_iff_append.2 ⟨hp, left, right, hys, by simpa using hleft⟩
      rw [hrow, hfound, Option.map_some]
    · rw [hrow, Option.map_eq_none_iff, List.find?_eq_none]
      intro d hd
      simpa using hbefore c hc d hd

namespace Tariff
variable {t : Tariff α}

/-- Some line gives the provider a price for the size. -/
def Lists (t : Tariff α) (provider size : String) : Prop :=
  ∃ line ∈ t.prices, line.pair = (provider, size)

theorem find?_knownPairs_eq_some_iff {provider size : String} :
    (t.knownPairs.find? fun pair => (t.priceOf? pair.1 pair.2).isNone) = some (provider, size) ↔
      ∃ before after left right, t.providers = before ++ provider :: after ∧
        t.sizes = left ++ size :: right ∧ (∀ p ∈ before, ∀ s ∈ t.sizes, t.Lists p s) ∧
        (∀ s ∈ left, t.Lists provider s) ∧ ¬ t.Lists provider size := by
  have hlisted : ∀ p s, (t.priceOf? p s).isNone = false ↔ t.Lists p s := by
    intro p s
    rw [← Option.not_isSome, Bool.not_eq_false']
    exact isSome_priceOf?
  have hunlisted : ∀ p s, (t.priceOf? p s).isNone = true ↔ ¬ t.Lists p s := by
    intro p s
    rw [← hlisted, Bool.not_eq_false]
  rw [knownPairs, find?_pairs_eq_some_iff]
  simp only [hlisted, hunlisted]

variable [Amount α] {f : TariffFault α}

/-- A tariff without a fault beside its lines. -/
structure Headed (t : Tariff α) : Prop where
  ceiling : 0 < t.ceiling
  providers : t.providers ≠ []
  sizes : t.sizes ≠ []

/-- Lines without a fault. -/
structure SoundLines (lines : List (PriceLine α)) : Prop where
  prices : ∀ line ∈ lines, 0 ≤ line.price
  distinct : (lines.map PriceLine.pair).Nodup

/-- The fault of a line that comes after others. Its price is looked at first. -/
inductive LineFault (before : List (PriceLine α)) (line : PriceLine α) : TariffFault α → Prop where
  | price (h : ¬ 0 ≤ line.price) : LineFault before line (.negativePrice line)
  | repetition (hprice : 0 ≤ line.price) (h : line.pair ∈ before.map PriceLine.pair) :
      LineFault before line (.repeatedPrice line)

/-- The fault of a tariff that comes before all its others. -/
inductive FirstFault (t : Tariff α) : TariffFault α → Prop where
  | ceiling (h : ¬ 0 < t.ceiling) : FirstFault t (.ceilingNotPositive t.ceiling)
  | providers (hceiling : 0 < t.ceiling) (h : t.providers = []) : FirstFault t .noProvider
  | sizes (hceiling : 0 < t.ceiling) (hproviders : t.providers ≠ []) (h : t.sizes = []) :
      FirstFault t .noSize
  | line {f : TariffFault α} {before after : List (PriceLine α)} {line : PriceLine α}
      (hhead : t.Headed) (hlines : t.prices = before ++ line :: after) (hbefore : SoundLines before)
      (h : LineFault before line f) : FirstFault t f
  | missing {before after left right : List String} {provider size : String}
      (hhead : t.Headed) (hlines : SoundLines t.prices)
      (hproviders : t.providers = before ++ provider :: after)
      (hsizes : t.sizes = left ++ size :: right)
      (hbefore : ∀ p ∈ before, ∀ s ∈ t.sizes, t.Lists p s) (hleft : ∀ s ∈ left, t.Lists provider s)
      (h : ¬ t.Lists provider size) : FirstFault t (.missingPrice provider size)

theorem usable_iff : t.Usable ↔ t.Headed ∧ SoundLines t.prices ∧
    ∀ provider ∈ t.providers, ∀ size ∈ t.sizes, t.Lists provider size := by
  constructor
  · intro h
    exact ⟨⟨h.ceiling, h.providers, h.sizes⟩, ⟨h.prices, h.distinct⟩,
      fun provider hprovider size hsize =>
        isSome_priceOf?.1 (h.complete provider hprovider size hsize)⟩
  · rintro ⟨⟨hceiling, hproviders, hsizes⟩, ⟨hprices, hdistinct⟩, hcomplete⟩
    exact ⟨hceiling, hproviders, hsizes, hprices, hdistinct,
      fun provider hprovider size hsize =>
        isSome_priceOf?.2 (hcomplete provider hprovider size hsize)⟩

theorem checkLines_nil_eq_ok_iff {lines : List (PriceLine α)} :
    checkLines [] lines = .ok () ↔ SoundLines lines := by
  rw [checkLines_eq_ok_iff]
  constructor
  · rintro ⟨hprices, hdistinct, -⟩
    exact ⟨hprices, hdistinct⟩
  · rintro ⟨hprices, hdistinct⟩
    exact ⟨hprices, hdistinct, fun line _ => List.not_mem_nil⟩

theorem checkLines_cons (seen : List (String × String)) (line : PriceLine α)
    (rest : List (PriceLine α)) : checkLines seen (line :: rest) =
      if ¬ 0 ≤ line.price then .error (.negativePrice line)
      else if line.pair ∈ seen then .error (.repeatedPrice line)
      else checkLines (line.pair :: seen) rest := rfl

/-- Lines that pass are all seen by the lines after them. -/
theorem checkLines_append {seen : List (String × String)} {before : List (PriceLine α)}
    (h : checkLines seen before = .ok ()) (rest : List (PriceLine α)) :
    checkLines seen (before ++ rest) =
      checkLines ((before.map PriceLine.pair).reverse ++ seen) rest := by
  induction before generalizing seen with
  | nil => rfl
  | cons line before ih =>
    rw [checkLines_cons] at h
    rw [List.cons_append, checkLines_cons]
    split at h
    · cases h
    · rename_i hprice
      split at h
      · cases h
      · rename_i hseen
        rw [if_neg hprice, if_neg hseen, ih h]
        simp

theorem checkLines_of_lineFault {before : List (PriceLine α)} {line : PriceLine α}
    (hbefore : SoundLines before) (h : LineFault before line f) (after : List (PriceLine α)) :
    checkLines [] (before ++ line :: after) = .error f := by
  rw [checkLines_append (checkLines_nil_eq_ok_iff.2 hbefore), checkLines_cons]
  cases h with
  | price hprice => rw [if_pos hprice]
  | repetition hprice hseen =>
    rw [if_neg (not_not_intro hprice), if_pos (by simpa using hseen)]

/-- Lines are sound, or there is a first one at fault: it is the first that is not sound together with
those before it. -/
theorem soundLines_or (lines : List (PriceLine α)) : SoundLines lines ∨
    ∃ before line after f, lines = before ++ line :: after ∧ SoundLines before ∧
      LineFault before line f := by
  induction lines using List.reverseRec with
  | nil => exact Or.inl ⟨by simp, by simp⟩
  | append_singleton before line ih =>
    rcases ih with hsound | ⟨first, line', after, f, rfl, hsound, hfault⟩
    · by_cases hprice : 0 ≤ line.price
      · by_cases hseen : line.pair ∈ before.map PriceLine.pair
        · exact Or.inr ⟨before, line, [], _, rfl, hsound, .repetition hprice hseen⟩
        · refine Or.inl (checkLines_nil_eq_ok_iff.1 ?_)
          rw [checkLines_append (checkLines_nil_eq_ok_iff.2 hsound), checkLines_cons,
            if_neg (not_not_intro hprice), if_neg (by simpa using hseen)]
          rfl
      · exact Or.inr ⟨before, line, [], _, rfl, hsound, .price hprice⟩
    · exact Or.inr ⟨first, line', after ++ [line], f, by simp, hsound, hfault⟩

/-- A tariff with sound lines is at fault if a known pair is not listed. -/
theorem check_of_sound (hhead : t.Headed) (hlines : SoundLines t.prices) : t.check =
    match t.knownPairs.find? fun pair => (t.priceOf? pair.1 pair.2).isNone with
    | some (provider, size) => .error (.missingPrice provider size)
    | none => .ok () := by
  rw [check_eq, if_neg (not_not_intro hhead.ceiling), if_neg hhead.providers, if_neg hhead.sizes,
    checkLines_nil_eq_ok_iff.2 hlines]
  rfl

theorem check_of_firstFault (h : t.FirstFault f) : t.check = .error f := by
  cases h with
  | ceiling h => rw [check_eq, if_pos h]
  | providers hceiling h => rw [check_eq, if_neg (not_not_intro hceiling), if_pos h]
  | sizes hceiling hproviders h =>
    rw [check_eq, if_neg (not_not_intro hceiling), if_neg hproviders, if_pos h]
  | line hhead hlines hbefore h =>
    rw [check_eq, if_neg (not_not_intro hhead.ceiling), if_neg hhead.providers,
      if_neg hhead.sizes, hlines, checkLines_of_lineFault hbefore h]
    rfl
  | missing hhead hlines hproviders hsizes hbefore hleft h =>
    have hfirst := find?_knownPairs_eq_some_iff.2
      ⟨_, _, _, _, hproviders, hsizes, hbefore, hleft, h⟩
    rw [check_of_sound hhead hlines, hfirst]

/-- A tariff is usable or has a first fault. -/
theorem usable_or_firstFault (t : Tariff α) : t.Usable ∨ ∃ f, t.FirstFault f := by
  by_cases hceiling : 0 < t.ceiling
  · by_cases hproviders : t.providers = []
    · exact Or.inr ⟨_, .providers hceiling hproviders⟩
    · by_cases hsizes : t.sizes = []
      · exact Or.inr ⟨_, .sizes hceiling hproviders hsizes⟩
      · have hhead : t.Headed := ⟨hceiling, hproviders, hsizes⟩
        rcases soundLines_or t.prices with hsound | ⟨before, line, after, f, hlines, hbefore, h⟩
        · cases hfind : t.knownPairs.find? fun pair => (t.priceOf? pair.1 pair.2).isNone with
          | none =>
            refine Or.inl (check_eq_ok_iff.1 ?_)
            rw [check_of_sound hhead hsound, hfind]
          | some pair =>
            obtain ⟨before, after, left, right, hproviders, hsizes, hbefore, hleft, h⟩ :=
              find?_knownPairs_eq_some_iff.1 hfind
            exact Or.inr ⟨_, .missing hhead hsound hproviders hsizes hbefore hleft h⟩
        · exact Or.inr ⟨f, .line hhead hlines hbefore h⟩
  · exact Or.inr ⟨_, .ceiling hceiling⟩

theorem check_eq_error_iff : t.check = .error f ↔ t.FirstFault f := by
  refine ⟨fun h => ?_, check_of_firstFault⟩
  rcases usable_or_firstFault t with husable | ⟨g, hg⟩
  · rw [check_eq_ok_iff.2 husable] at h
    cases h
  · rw [check_of_firstFault hg] at h
    obtain rfl := Except.error.inj h
    exact hg

/-- A tariff passes the check just when it has no fault; else it is refused for its first one, which
is told with the field, the line or the pair at fault. -/
theorem first_fault (t : Tariff Float) :
    (t.check = .ok () ↔ t.Headed ∧ SoundLines t.prices ∧
        ∀ provider ∈ t.providers, ∀ size ∈ t.sizes, t.Lists provider size) ∧
      (∀ f, t.check = .error f ↔ t.FirstFault f) ∧
      ∀ f, t.check = .error f →
        f.settingsFault.code = (if f.isOfListing then "VALIDATION_ERROR" else "INVALID_ARGUMENT") ∧
          ∀ pair, f.pair? = some pair →
            (pair.1 ++ " " ++ pair.2).toList <:+: f.settingsFault.message.toList :=
  ⟨check_eq_ok_iff.trans usable_iff, fun _ => check_eq_error_iff,
    fun f _ => f.settingsFault_told⟩

/-- A second line that is both below zero and a repetition, before one without a price and before pairs
that are missing; and the first line alone, which leaves three pairs out. -/
theorem first_fault_of_many :
    let line : PriceLine Float := ⟨"LP", "S", 1.5⟩
    let repeated : PriceLine Float := ⟨"LP", "S", -1⟩
    let t : Tariff Float := ⟨10, ["LP", "MR"], ["S", "M"], [line, repeated, ⟨"MR", "S", 0.0 / 0.0⟩]⟩
    let u : Tariff Float := { t with prices := [line] }
    t.check = .error (.negativePrice repeated) ∧ u.check = .error (.missingPrice "LP" "M") ∧
      (TariffFault.negativePrice repeated).settingsFault.code = "INVALID_ARGUMENT" ∧
      "LP M".toList <:+: (TariffFault.settingsFault (.missingPrice "LP" "M")).message.toList := by
  intro line repeated t u
  have hsound : SoundLines [line] := ⟨by decide, by decide⟩
  have hlines : t.prices = [line] ++ repeated :: [⟨"MR", "S", 0.0 / 0.0⟩] := rfl
  have ht : t.check = .error (.negativePrice repeated) :=
    ((first_fault t).2.1 _).2 (.line ⟨by decide, by decide, by decide⟩ hlines hsound
      (.price (by decide)))
  have hproviders : u.providers = [] ++ "LP" :: ["MR"] := rfl
  have hsizes : u.sizes = ["S"] ++ "M" :: [] := rfl
  have hu : u.check = .error (.missingPrice "LP" "M") := by
    refine ((first_fault u).2.1 _).2 (.missing ⟨by decide, by decide, by decide⟩ hsound hproviders
      hsizes nofun ?_ ?_)
    · simp [Lists, u, line, PriceLine.pair]
    · simp [Lists, u, line, PriceLine.pair]
  exact ⟨ht, hu, ((first_fault t).2.2 _ ht).1, ((first_fault u).2.2 _ hu).2 ("LP", "M") rfl⟩

end Tariff

end ParcelPricing
