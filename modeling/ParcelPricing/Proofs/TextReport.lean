import ParcelPricing.Pricing.Standard
import ParcelPricing.Proofs.DateText
import ParcelPricing.Proofs.StandardRules
import ParcelPricing.Proofs.Tokens
import ParcelPricing.Report.Document
import ParcelPricing.Tariff.Basic

/-! The report in text is an input itself. -/
namespace ParcelPricing
open Text

theorem unbroken_decimal (n : Nat) : Unbroken (decimal n) :=
  fun _ hc => isBlank_of_isDigit (isDigit_of_mem_decimal hc)

theorem unbroken_padded (width n : Nat) : Unbroken (padded width n) :=
  fun _ hc => isBlank_of_isDigit (isDigit_of_mem_padded hc)

theorem CalendarDate.isToken_chars (d : CalendarDate) : IsToken d.chars := by
  have hyear : Unbroken (yearText d.year) := by
    unfold yearText
    split
    · exact .cons rfl (unbroken_padded _ _)
    · split
      · exact unbroken_padded _ _
      · exact .cons rfl (unbroken_padded _ _)
  refine ⟨by simp [chars], ?_⟩
  exact (hyear.append (.cons rfl (unbroken_padded _ _))).append (.cons rfl (unbroken_padded _ _))

namespace Decimal.NumberFormat
variable {f : NumberFormat}

theorem unbroken_zeros (n : Nat) : Unbroken (zeros n) := by
  intro c hc
  obtain ⟨-, rfl⟩ := List.mem_replicate.1 hc
  rfl

theorem unbroken_plain (hf : Unbroken f.wholeTail) {digits : List Char} (hdigits : Unbroken digits)
    (exponent : Int) : Unbroken (f.plain digits exponent) := by
  unfold plain
  extract_lets point
  split
  · exact (hdigits.append (unbroken_zeros _)).append hf
  · split
    · exact (hdigits.sublist (List.take_sublist ..)).append
        (.cons rfl (hdigits.sublist (List.drop_sublist ..)))
    · exact (Unbroken.cons rfl (.cons rfl (unbroken_zeros _))).append hdigits

theorem unbroken_scientific {digits : List Char} (hdigits : Unbroken digits) (exponent : Int) :
    Unbroken (scientific digits exponent) := by
  have hleading : ∀ e, Unbroken (exponentText e) := by
    intro e
    refine .cons rfl (.cons ?_ (unbroken_decimal _))
    split <;> rfl
  unfold scientific
  extract_lets leading
  split
  · exact hleading _
  · rename_i digit
    exact .cons (hdigits digit List.mem_cons_self) (hleading _)
  · rename_i digit rest _
    have hrest := hdigits.sublist (List.sublist_cons_self digit rest)
    exact .cons (hdigits digit List.mem_cons_self) (.cons rfl (hrest.append (hleading _)))

theorem unbroken_sign (s : Float.Model.UnpackedFloat.Sign) : Unbroken (sign s) := by
  cases s with
  | negative => decide
  | positive => decide

/-- A number is written without a blank in it. -/
theorem unbroken_chars (hf : Unbroken f.wholeTail) (x : Float) : Unbroken (f.chars x) := by
  unfold chars
  split
  · decide
  · exact (unbroken_sign _).append (by decide)
  · exact (unbroken_sign _).append (.cons rfl hf)
  · refine (unbroken_sign _).append ?_
    unfold numeral
    extract_lets digits
    split
    · exact unbroken_plain hf (unbroken_decimal _) _
    · exact unbroken_scientific (unbroken_decimal _) _

end Decimal.NumberFormat

theorem Report.lines_textLines_cons {line : List Char} (h : '\n' ∉ line)
    (others : List (List Char)) :
    lines (textLines (line :: others)) = line :: lines (textLines others) := by
  rw [← lines_append_newline h]
  simp [textLines]

namespace Shipment
variable {α : Type} {s : Shipment α} {line text : List Char}

/-- A shipment whose three fields can be told apart in a line. -/
structure Legible (s : Shipment α) : Prop where
  date : IsToken s.date.text.toList
  size : IsToken s.size.code.toList
  provider : IsToken s.provider.code.toList

/-- What the fields of a shipment are read as. -/
def reread (s : Shipment α) : Shipment α :=
  unpriced (.read s.date.text) (.ofCode s.size.code) ⟨s.provider.code⟩

theorem isToken_text_read {token : List Char} (h : IsToken token) :
    IsToken (ShipDate.read (.ofList token)).text.toList := by
  cases hread : ShipDate.read (.ofList token) with
  | valid d =>
    rw [ShipDate.text, String.toList_ofList]
    exact d.isToken_chars
  | unreadable rest =>
    rw [ShipDate.text, ShipDate.eq_of_read_eq_unreadable hread, String.toList_ofList]
    exact h

/-- A shipment that was read from three tokens or more is legible, and is read from its own fields
as it was before. -/
theorem legible_ofLine (h : 3 ≤ (tokens line).length) :
    (ofLine line : Shipment α).Legible ∧ (ofLine line : Shipment α).reread = ofLine line := by
  obtain ⟨date, size, provider, more, htokens⟩ :
      ∃ date size provider more, tokens line = date :: size :: provider :: more := by
    match htokens : tokens line, h with
    | date :: size :: provider :: more, _ => exact ⟨date, size, provider, more, rfl⟩
  have htoken : ∀ word ∈ date :: size :: provider :: more, IsToken word := fun word hword =>
    isToken_of_mem_tokens (htokens ▸ hword)
  have hline : (ofLine line : Shipment α) =
      unpriced (.read (.ofList date)) (.ofCode (.ofList size)) ⟨.ofList provider⟩ := by
    rw [ofLine, htokens]
    rfl
  rw [hline]
  refine ⟨⟨isToken_text_read (htoken date (by simp)), ?_, ?_⟩, ?_⟩
  · rw [unpriced, PackageSize.code_ofCode, String.toList_ofList]
    exact htoken size (by simp)
  · rw [unpriced, String.toList_ofList]
    exact htoken provider (by simp)
  · simp only [reread, unpriced, ShipDate.read_text_read, PackageSize.code_ofCode]

theorem mem_readAll (h : s ∈ readAll text) :
    ∃ line ∈ lines text, tokens line ≠ [] ∧ s = ofLine line := by
  simp only [readAll, List.mem_map, List.mem_filter, decide_eq_true_eq] at h
  obtain ⟨_, ⟨⟨line, hline, rfl⟩, hne⟩, rfl⟩ := h
  exact ⟨line, hline, hne, rfl⟩

/-- Lines that hold a token each and no line feed are read one by one. -/
theorem readAll_textLines {ls : List (List Char)}
    (h : ∀ line ∈ ls, '\n' ∉ line ∧ tokens line ≠ []) :
    (readAll (Report.textLines ls) : List (Shipment α)) = ls.map ofLine := by
  induction ls with
  | nil => rfl
  | cons line ls ih =>
    obtain ⟨hnewline, hne⟩ := h line List.mem_cons_self
    have hrest := ih fun other hother => h other (List.mem_cons_of_mem _ hother)
    rw [readAll, Report.lines_textLines_cons hnewline, List.map_cons,
      List.filter_cons_of_pos (by simpa using hne), List.map_cons, List.map_cons, ← hrest]
    rfl

end Shipment

namespace Report
variable {s : Shipment Float}

theorem newline_not_mem_optionalText (amount : Option Float) : '\n' ∉ optionalText amount := by
  cases amount with
  | none => decide
  | some amount => exact (Decimal.NumberFormat.unbroken_chars (by decide) _).newline_not_mem

/-- A line begins with the fields of the shipment and goes on to its end with something else. -/
theorem line_eq (h : s.Legible) : ∃ rest, '\n' ∉ rest ∧ line s = s.date.text.toList ++
    ' ' :: (s.size.code.toList ++ ' ' :: (s.provider.code.toList ++ ' ' :: rest)) := by
  unfold line
  split
  · have hfields : (fields s).filter (· ≠ []) = fields s := by
      simp [fields, h.date.ne_nil, h.size.ne_nil, h.provider.ne_nil]
    refine ⟨"Ignored".toList, by decide, ?_⟩
    rw [hfields]
    simp [fields, List.intercalate]
  · refine ⟨optionalText s.price ++ ' ' :: optionalText s.discount, ?_, ?_⟩
    · simp [newline_not_mem_optionalText]
    · simp [fields, List.intercalate]

theorem ofLine_line (h : s.Legible) :
    '\n' ∉ line s ∧ tokens (line s) ≠ [] ∧ Shipment.ofLine (line s) = s.reread := by
  obtain ⟨rest, hrest, hline⟩ := line_eq h
  have htokens : tokens (line s) = s.date.text.toList :: s.size.code.toList ::
      s.provider.code.toList :: tokens rest := by
    rw [hline, tokens_cons_blank h.date rfl, tokens_cons_blank h.size rfl,
      tokens_cons_blank h.provider rfl]
  refine ⟨?_, by simp [htokens], ?_⟩
  · rw [hline]
    simp [h.date.unbroken.newline_not_mem, h.size.unbroken.newline_not_mem,
      h.provider.unbroken.newline_not_mem, hrest]
  · rw [Shipment.ofLine, htokens]
    simp [Shipment.ofTokens, Shipment.reread]

/-- A report on legible shipments is read as their fields are. -/
theorem readAll_render {shipments : List (Shipment Float)} (h : ∀ s ∈ shipments, s.Legible) :
    Shipment.readAll (render shipments none .text) = shipments.map Shipment.reread := by
  have hlines : ∀ l ∈ shipments.map line, '\n' ∉ l ∧ tokens l ≠ [] := by
    intro l hl
    obtain ⟨s, hs, rfl⟩ := List.mem_map.1 hl
    exact ⟨(ofLine_line (h s hs)).1, (ofLine_line (h s hs)).2.1⟩
  rw [render, renderShipments, Shipment.readAll_textLines hlines, List.map_map]
  exact List.map_congr_left fun s hs => (ofLine_line (h s hs)).2.2

end Report

open Rule

theorem legible_readAll {α : Type} {s : Shipment α} {text : List Char}
    (h : ∀ line ∈ lines text, Blank line ∨ 3 ≤ (tokens line).length)
    (hs : s ∈ Shipment.readAll text) : s.Legible ∧ s.reread = s := by
  obtain ⟨line, hline, hne, rfl⟩ := Shipment.mem_readAll hs
  rcases h line hline with hblank | hthree
  · exact absurd (tokens_eq_nil_iff.2 hblank) hne
  · exact Shipment.legible_ofLine hthree

/-- If each line of an input has three tokens or is blank, its report is read as the same shipments,
and the report on that report is the report itself. -/
theorem report_fixed_point (first : Nat) (t : Terms Float) (l : Ledger Float) {text : List Char}
    (h : ∀ line ∈ lines text, Blank line ∨ 3 ≤ (tokens line).length) :
    let e : Engine Float := ⟨standard first, t, l⟩
    let report (text : List Char) := Report.render (e.run (Shipment.readAll text)).1 none .text
    (Shipment.readAll (report text) : List (Shipment Float)) = Shipment.readAll text ∧
      report (report text) = report text := by
  intro e report
  have hlegible : ∀ out ∈ (e.run (Shipment.readAll text)).1, out.Legible := by
    intro out hout
    obtain ⟨s, hs, m, rfl⟩ := (keepTerms_standard first).mem_run hout
    obtain ⟨proposed, price, discount, hframe⟩ := applyRules_standard_frame (t := t) first m s
    have hfields := (legible_readAll h hs).1
    rw [hframe]
    exact ⟨hfields.date, hfields.size, hfields.provider⟩
  have hkept : ∀ l s, (applyRules t (standard first) l s).1.reread = s.reread := by
    intro l s
    obtain ⟨proposed, price, discount, hframe⟩ := applyRules_standard_frame (t := t) first l s
    rw [hframe]
    rfl
  have hread : (Shipment.readAll (report text) : List (Shipment Float)) = Shipment.readAll text :=
    calc Shipment.readAll (report text)
      _ = (e.run (Shipment.readAll text)).1.map Shipment.reread := Report.readAll_render hlegible
      _ = (Shipment.readAll text).map Shipment.reread :=
        (keepTerms_standard first).map_run hkept l _
      _ = Shipment.readAll text := by
          rw [List.map_congr_left fun s hs => (legible_readAll h hs).2, List.map_id']
  refine ⟨hread, ?_⟩
  simp only [report] at hread ⊢
  rw [hread]

/-- A timestamp past the last year of four digits, an unreadable date with an unknown size, tokens
too many and lines without any. -/
theorem report_fixed_point_of_dates :
    let t : Terms Float := Tariff.standard.terms
    let e : Engine Float := ⟨standard 0, t, .empty⟩
    let text := ("9999-12-31T23:30:00-01:00 S MR x\n\n \t2015-02-30 XL\u2003LP\r\n" ++
      "-0001-1-2 L DX").toList
    let report (text : List Char) := Report.render (e.run (Shipment.readAll text)).1 none .text
    (Shipment.readAll (report text) : List (Shipment Float)) = Shipment.readAll text ∧
      report (report text) = report text ∧
      report text = ("+10000-01-01 S MR 1.5 0.5\n2015-02-30 XL LP Ignored\n" ++
        "-0001-01-02 L DX Ignored\n").toList := by
  intro t e text report
  have htext : ∀ line ∈ lines text, Blank line ∨ 3 ≤ (tokens line).length := by decide +kernel
  obtain ⟨hread, hreport⟩ := report_fixed_point 0 t .empty htext
  exact ⟨hread, hreport, by decide +kernel⟩

end ParcelPricing
