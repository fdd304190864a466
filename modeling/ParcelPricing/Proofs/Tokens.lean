import ParcelPricing.Text.Blank

namespace ParcelPricing.Text

/-- A text of blanks alone. -/
def Blank (text : List Char) : Prop := ∀ c ∈ text, isBlank c = true

/-- A text that no blank divides. -/
def Unbroken (text : List Char) : Prop := ∀ c ∈ text, isBlank c = false

-- Characters are finitely many, and the instances found here must not go through all of them.
instance (text : List Char) : Decidable (Blank text) :=
  List.decidableBAll (fun c => isBlank c = true) text

instance (text : List Char) : Decidable (Unbroken text) :=
  List.decidableBAll (fun c => isBlank c = false) text

structure IsToken (word : List Char) : Prop where
  ne_nil : word ≠ []
  unbroken : Unbroken word

variable {word text front back : List Char} {b c : Char}

theorem Unbroken.append (h : Unbroken front) (h' : Unbroken back) : Unbroken (front ++ back) :=
  List.forall_mem_append.2 ⟨h, h'⟩

theorem Unbroken.cons (hc : isBlank c = false) (h : Unbroken text) : Unbroken (c :: text) :=
  List.forall_mem_cons.2 ⟨hc, h⟩

theorem Unbroken.sublist (h : Unbroken text) (hsub : front.Sublist text) : Unbroken front :=
  fun c hc => h c (hsub.subset hc)

theorem Unbroken.newline_not_mem (h : Unbroken text) : '\n' ∉ text := by
  intro hmem
  have hblank := h '\n' hmem
  cases hblank

/-- Whatever stands before or after it, a blank belongs to no token. -/
theorem tokens_append_blank (hb : isBlank b = true) (front back : List Char) :
    tokens (front ++ b :: back) = tokens front ++ tokens back := by
  rw [tokens, List.splitOnP_append_cons front back hb, List.filter_append]
  rfl

theorem tokens_of_isToken (h : IsToken word) : tokens word = [word] := by
  rw [tokens, List.splitOnP_eq_singleton h.unbroken]
  simp [h.ne_nil]

theorem tokens_cons_blank (h : IsToken word) (hb : isBlank b = true) (rest : List Char) :
    tokens (word ++ b :: rest) = word :: tokens rest := by
  rw [tokens_append_blank hb, tokens_of_isToken h]
  rfl

/-- Before a character that is not blank the first piece grows and the others stay. -/
theorem splitOnP_cons_of_not_isBlank (hc : ¬ isBlank c = true) (text : List Char) :
    ∃ head pieces, text.splitOnP isBlank = head :: pieces ∧
      (c :: text).splitOnP isBlank = (c :: head) :: pieces := by
  obtain ⟨head, pieces, hpieces⟩ :=
    List.exists_cons_of_ne_nil (List.splitOnP_ne_nil isBlank text)
  refine ⟨head, pieces, hpieces, ?_⟩
  rw [List.splitOnP_cons_eq_if_modifyHead, if_neg hc, hpieces]
  rfl

theorem unbroken_of_mem_splitOnP (h : word ∈ text.splitOnP isBlank) : Unbroken word := by
  induction text generalizing word with
  | nil =>
    rw [List.splitOnP_nil, List.mem_singleton] at h
    simp [h, Unbroken]
  | cons c text ih =>
    by_cases hc : isBlank c = true
    · rw [List.splitOnP_cons_eq_if_modifyHead, if_pos hc] at h
      rcases List.mem_cons.1 h with rfl | h
      · simp [Unbroken]
      · exact ih h
    · obtain ⟨head, pieces, hpieces, hgrown⟩ := splitOnP_cons_of_not_isBlank hc text
      rw [hgrown] at h
      rw [hpieces] at ih
      rcases List.mem_cons.1 h with rfl | h
      · exact .cons (by simpa using hc) (ih List.mem_cons_self)
      · exact ih (List.mem_cons_of_mem _ h)

theorem isToken_of_mem_tokens (h : word ∈ tokens text) : IsToken word := by
  obtain ⟨hmem, hne⟩ := List.mem_filter.1 h
  exact ⟨by simpa using hne, unbroken_of_mem_splitOnP hmem⟩

/-- A text without a token is blank. -/
theorem tokens_eq_nil_iff : tokens text = [] ↔ Blank text := by
  induction text with
  | nil => simp [tokens, Blank]
  | cons c text ih =>
    by_cases hc : isBlank c = true
    · have hskip : tokens (c :: text) = tokens text := tokens_append_blank hc [] text
      rw [hskip, ih, Blank, Blank, List.forall_mem_cons]
      exact ⟨fun h => ⟨hc, h⟩, fun h => h.2⟩
    · refine ⟨fun h => ?_, fun h => absurd (h c List.mem_cons_self) hc⟩
      obtain ⟨head, pieces, -, hgrown⟩ := splitOnP_cons_of_not_isBlank hc text
      rw [tokens, hgrown] at h
      simp at h

theorem lines_append_newline (h : '\n' ∉ text) (rest : List Char) :
    lines (text ++ '\n' :: rest) = text :: lines rest :=
  List.splitOn_append_cons_self_of_not_mem h rest

end ParcelPricing.Text
