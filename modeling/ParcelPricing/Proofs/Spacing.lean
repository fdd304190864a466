import Mathlib.Data.List.Forall2
import ParcelPricing.Proofs.Splitting

/-! Reading depends on the first three tokens of each filled line alone. -/
namespace ParcelPricing

theorem map_congr_of_forall₂ {β γ : Type} {R : β → β → Prop} {f : β → γ} {xs ys : List β}
    (hf : ∀ x y, R x y → f x = f y) (h : List.Forall₂ R xs ys) : xs.map f = ys.map f := by
  induction h with
  | nil => rfl
  | cons hhead _ ih => rw [List.map_cons, List.map_cons, hf _ _ hhead, ih]

namespace Text
variable {text word front back line : List Char} {words : List (List Char)}

/-- Words in their order, with blanks between them and perhaps around them. -/
inductive Spaced : List (List Char) → List Char → Prop
  | blank {text : List Char} : Blank text → Spaced [] text
  | word {indent word rest : List Char} {words : List (List Char)} : Blank indent → IsToken word →
      (∀ c ∈ rest.head?, isBlank c = true) → Spaced words rest →
      Spaced (word :: words) (indent ++ (word ++ rest))

theorem tokens_indent {indent : List Char} (h : Blank indent) (text : List Char) :
    tokens (indent ++ text) = tokens text := by
  induction indent with
  | nil => rfl
  | cons b indent ih =>
    obtain ⟨hb, hindent⟩ := List.forall_mem_cons.1 h
    have hskip : tokens (b :: (indent ++ text)) = tokens (indent ++ text) :=
      tokens_append_blank hb [] (indent ++ text)
    rw [List.cons_append, hskip, ih hindent]

theorem tokens_word {rest : List Char} (h : IsToken word)
    (hrest : ∀ c ∈ rest.head?, isBlank c = true) : tokens (word ++ rest) = word :: tokens rest := by
  cases rest with
  | nil =>
    rw [List.append_nil, tokens_of_isToken h]
    rfl
  | cons b rest =>
    have hb : isBlank b = true := hrest b rfl
    have hskip : tokens (b :: rest) = tokens rest := tokens_append_blank hb [] rest
    rw [tokens_cons_blank h hb, hskip]

theorem Spaced.tokens_eq (h : Spaced words text) : tokens text = words := by
  induction h with
  | blank hblank => exact tokens_eq_nil_iff.2 hblank
  | word hindent hword hrest _ ih => rw [tokens_indent hindent, tokens_word hword hrest, ih]

theorem Spaced.cons_blank {b : Char} (h : Spaced words text) (hb : isBlank b = true) :
    Spaced words (b :: text) := by
  cases h with
  | blank hblank => exact .blank (List.forall_mem_cons.2 ⟨hb, hblank⟩)
  | word hindent hword hrest htail =>
    exact .word (List.forall_mem_cons.2 ⟨hb, hindent⟩) hword hrest htail

theorem exists_spaced (text : List Char) : ∃ words, Spaced words text := by
  have hnone : Blank [] := fun c hc => absurd hc List.not_mem_nil
  induction text with
  | nil => exact ⟨[], .blank hnone⟩
  | cons c text ih =>
    obtain ⟨words, h⟩ := ih
    by_cases hc : isBlank c = true
    · exact ⟨words, h.cons_blank hc⟩
    · have hc : isBlank c = false := by simpa using hc
      have hletter : IsToken [c] := ⟨List.cons_ne_nil c [], by simpa [Unbroken] using hc⟩
      by_cases hhead : ∀ d ∈ text.head?, isBlank d = true
      · exact ⟨[c] :: words, .word hnone hletter hhead h⟩
      -- The first word goes on, and so no blank stands before it.
      · cases h with
        | blank hblank =>
          exact absurd (fun d hd => hblank d (List.mem_of_mem_head? hd)) hhead
        | @word indent word rest words hindent hword hrest htail =>
          cases indent with
          | nil =>
            exact ⟨(c :: word) :: words,
              .word hnone ⟨List.cons_ne_nil c word, hword.unbroken.cons hc⟩ hrest htail⟩
          | cons b indent =>
            refine absurd (fun d hd => ?_) hhead
            obtain rfl : b = d := Option.some.inj hd
            exact hindent b List.mem_cons_self

/-- The tokens of a text are the words that it spaces out, however it does. -/
theorem tokens_eq_iff : tokens text = words ↔ Spaced words text := by
  refine ⟨?_, Spaced.tokens_eq⟩
  rintro rfl
  obtain ⟨words, h⟩ := exists_spaced text
  rw [h.tokens_eq]
  exact h

/-- A text is its first line, or that line and a text behind its end. -/
theorem lines_induction {motive : List Char → Prop}
    (last : ∀ line, '\n' ∉ line → motive line)
    (step : ∀ line rest, '\n' ∉ line → motive rest → motive (line ++ '\n' :: rest))
    (text : List Char) : motive text := by
  by_cases h : '\n' ∈ text
  · obtain ⟨line, rest, rfl, hline⟩ := List.eq_append_cons_of_mem h
    exact step line rest hline (lines_induction last step rest)
  · exact last text h
termination_by text.length
decreasing_by
  subst_vars
  simp only [List.length_append, List.length_cons]
  omega

theorem lines_of_not_mem (h : '\n' ∉ line) : lines line = [line] := by
  rw [lines, List.splitOn_eq_singleton h]

theorem tokens_of_mem_lines_of_blank (h : Blank text) : ∀ line ∈ lines text, tokens line = [] := by
  induction text using lines_induction with
  | last line hline =>
    rw [lines_of_not_mem hline]
    simpa using tokens_eq_nil_iff.2 h
  | step line rest hline ih =>
    have hfront : Blank line := fun c hc => h c (List.mem_append_left _ hc)
    have hback : Blank rest :=
      fun c hc => h c (List.mem_append_right _ (List.mem_cons_of_mem _ hc))
    rw [lines_append_newline hline]
    exact List.forall_mem_cons.2 ⟨tokens_eq_nil_iff.2 hfront, ih hback⟩

/-- A carriage return before each line feed. -/
def withReturns (text : List Char) : List Char :=
  text.flatMap fun c => if c = '\n' then ['\r', '\n'] else [c]

theorem withReturns_append (front back : List Char) :
    withReturns (front ++ back) = withReturns front ++ withReturns back :=
  List.flatMap_append

theorem withReturns_of_not_mem (h : '\n' ∉ line) : withReturns line = line := by
  induction line with
  | nil => rfl
  | cons c line ih =>
    obtain ⟨hc, hline⟩ := List.ne_and_not_mem_of_not_mem_cons h
    rw [withReturns, List.flatMap_cons, if_neg hc.symm, ← withReturns, ih hline]
    rfl

theorem tokens_lines_withReturns (text : List Char) :
    (lines (withReturns text)).map tokens = (lines text).map tokens := by
  induction text using lines_induction with
  | last line hline => rw [withReturns_of_not_mem hline]
  | step line rest hline ih =>
    have hreturns : withReturns (line ++ '\n' :: rest) =
        (line ++ ['\r']) ++ '\n' :: withReturns rest := by
      rw [withReturns_append, withReturns_of_not_mem hline, List.append_assoc]
      rfl
    have hnone : '\n' ∉ line ++ ['\r'] := by simpa using hline
    have htokens : tokens (line ++ ['\r']) = tokens line := by
      rw [tokens_append_blank (by decide)]
      exact List.append_nil _
    rw [hreturns, lines_append_newline hnone, lines_append_newline hline, List.map_cons,
      List.map_cons, htokens, ih]

/-- The same character, or one blank in the place of another; but no line feed comes or goes. -/
def Alike (c d : Char) : Prop :=
  c = d ∨ (isBlank c = true ∧ isBlank d = true) ∧ c ≠ '\n' ∧ d ≠ '\n'

instance (c d : Char) : Decidable (Alike c d) := inferInstanceAs (Decidable (_ ∨ _))

theorem Alike.newline_iff {c d : Char} (h : Alike c d) : c = '\n' ↔ d = '\n' := by
  rcases h with rfl | ⟨-, hc, hd⟩
  · exact Iff.rfl
  · exact iff_of_false hc hd

theorem forall₂_lines (h : List.Forall₂ Alike front back) :
    List.Forall₂ (List.Forall₂ Alike) (lines front) (lines back) := by
  induction h with
  | nil => exact .cons .nil .nil
  | @cons c d front back hcd _ ih =>
    rw [lines, lines, List.splitOn_cons_eq_if_modifyHead, List.splitOn_cons_eq_if_modifyHead]
    by_cases hc : c = '\n'
    · have hd : d = '\n' := hcd.newline_iff.1 hc
      simp only [hc, hd, beq_self_eq_true, if_true]
      exact .cons .nil ih
    · have hd : d ≠ '\n' := fun hd => hc (hcd.newline_iff.2 hd)
      simp only [beq_eq_false_iff_ne.2 hc, beq_eq_false_iff_ne.2 hd, Bool.false_eq_true, if_false]
      rw [lines, lines] at ih
      generalize List.splitOn '\n' front = pieces at ih ⊢
      generalize List.splitOn '\n' back = others at ih ⊢
      cases ih with
      | nil => exact .nil
      | cons hhead htail => exact .cons (.cons hcd hhead) htail

theorem tokens_congr (h : List.Forall₂ Alike front back) : tokens front = tokens back := by
  have hpieces : front.splitOnP isBlank = back.splitOnP isBlank := by
    induction h with
    | nil => rfl
    | @cons c d front back hcd _ ih =>
      rw [List.splitOnP_cons_eq_if_modifyHead, List.splitOnP_cons_eq_if_modifyHead, ih]
      rcases hcd with rfl | ⟨⟨hc, hd⟩, -⟩
      · rfl
      · rw [if_pos hc, if_pos hd]
  rw [tokens, tokens, hpieces]

/-- The lines that are more than white space. -/
def filledLines (text : List Char) : List (List Char) :=
  (endedLines text).filter fun line => ¬ Blank line

/-- The same first three tokens, or as many as there are. -/
def SameFields (line other : List Char) : Prop := (tokens line).take 3 = (tokens other).take 3

instance (line other : List Char) : Decidable (SameFields line other) :=
  inferInstanceAs (Decidable (_ = _))

end Text

open Text

namespace Shipment
variable {α : Type} {text front back line other : List Char}

theorem ofTokens_take (ts : List (List Char)) :
    (ofTokens (ts.take 3) : Shipment α) = ofTokens ts := by
  simp only [ofTokens, List.getD_eq_getElem?_getD, List.getElem?_take]
  rfl

theorem ofLine_congr (h : SameFields line other) : (ofLine line : Shipment α) = ofLine other := by
  rw [ofLine, ofLine, ← ofTokens_take, h, ofTokens_take]

theorem readAll_eq_filledLines (text : List Char) :
    (readAll text : List (Shipment α)) = (filledLines text).map ofLine := by
  have hblank : ∀ line, decide (trim line ≠ []) = decide (¬ Blank line) := by
    intro line
    rw [decide_eq_decide, ne_eq, trim_eq_nil_iff]
  rw [readAll_eq_endedLines, filledLines]
  exact congrArg _ (List.filter_congr fun line _ => hblank line)

theorem readAll_congr (h : (lines front).map tokens = (lines back).map tokens) :
    (readAll front : List (Shipment α)) = readAll back := by
  rw [readAll, readAll, h]

theorem readAll_of_blank (h : Blank text) : (readAll text : List (Shipment α)) = [] := by
  have hnone : ∀ ts ∈ (lines text).map tokens, ts = [] :=
    List.forall_mem_map.2 (tokens_of_mem_lines_of_blank h)
  rw [readAll, List.filter_eq_nil_iff.2 fun ts hts => by simp [hnone ts hts]]
  rfl

theorem readAll_of_alike (h : List.Forall₂ Alike front back) :
    (readAll front : List (Shipment α)) = readAll back := by
  exact readAll_congr (map_congr_of_forall₂ (fun _ _ => tokens_congr) (forall₂_lines h))

theorem readAll_of_sameFields (h : List.Forall₂ SameFields (filledLines front) (filledLines back)) :
    (readAll front : List (Shipment α)) = readAll back := by
  rw [readAll_eq_filledLines, readAll_eq_filledLines]
  exact map_congr_of_forall₂ (fun _ _ => ofLine_congr) h

/-- Texts whose filled lines have the same first three tokens, line by line, hold the same
shipments, whatever blanks part the tokens and whatever ends the lines. -/
theorem read_by_tokens :
    (∀ (words : List (List Char)) (line : List Char),
        tokens line = words ↔ Spaced words line) ∧
      (∀ front back : List Char, List.Forall₂ SameFields (filledLines front) (filledLines back) →
        (readAll front : List (Shipment α)) = readAll back) ∧
      (∀ text : List Char, (readAll text : List (Shipment α)).length = (filledLines text).length) ∧
      (∀ front blank back : List Char, Blank blank →
        (readAll (blank ++ '\n' :: back) : List (Shipment α)) = readAll back ∧
          (readAll (front ++ '\n' :: (blank ++ '\n' :: back)) : List (Shipment α)) =
            readAll (front ++ '\n' :: back) ∧
          (readAll (front ++ '\n' :: blank) : List (Shipment α)) = readAll front) ∧
      (∀ front back : List Char, List.Forall₂ Alike front back →
        (readAll front : List (Shipment α)) = readAll back) ∧
      ∀ text : List Char, (readAll (withReturns text) : List (Shipment α)) = readAll text := by
  refine ⟨fun words line => tokens_eq_iff, fun front back => readAll_of_sameFields, fun text => ?_,
    fun front blank back hblank => ?_, fun front back => readAll_of_alike,
    fun text => readAll_congr (tokens_lines_withReturns text)⟩
  · rw [readAll_eq_filledLines, List.length_map]
  · have hnone : (readAll blank : List (Shipment α)) = [] := readAll_of_blank hblank
    simp only [readAll_append, hnone, List.nil_append, List.append_nil, and_self]

/-- A blank line, a lone carriage return and a line separator inside of lines, a fourth token, and
line ends of both kinds. A next line (U+0085) is no line end. -/
theorem read_by_tokens_of_two :
    let front := "\t2015-02-01\rS\u2028MR extra\r\n\u3000 \r\n2015-02-29 CUSPS".toList
    let back := "2015-02-01 S MR\n2015-02-29  CUSPS\n".toList
    let next := "2015-02-01\u0085S MR".toList
    List.Forall₂ SameFields (filledLines front) (filledLines back) ∧
      (readAll front : List (Shipment Float)) = readAll back ∧
      (readAll front : List (Shipment Float)).length = 2 ∧
      List.Forall₂ Alike next "2015-02-01 S MR".toList ∧
      (readAll next : List (Shipment Float)) = readAll "2015-02-01 S MR".toList ∧
      Blank "\u3000 \r".toList ∧
      (readAll ("\u3000 \r".toList ++ '\n' :: next) : List (Shipment Float)) = readAll next := by
  intro front back next
  obtain ⟨-, hsame, hlength, hblank, halike, -⟩ := read_by_tokens (α := Float)
  have hfields : List.Forall₂ SameFields (filledLines front) (filledLines back) := by
    decide +kernel
  have hnext : List.Forall₂ Alike next "2015-02-01 S MR".toList := by decide +kernel
  have hwhite : Blank "\u3000 \r".toList := by decide
  have htwo : (filledLines front).length = 2 := by decide +kernel
  exact ⟨hfields, hsame _ _ hfields, (hlength front).trans htwo, hnext, halike _ _ hnext, hwhite,
    (hblank [] _ next hwhite).1⟩

end Shipment

end ParcelPricing
