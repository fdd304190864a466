import Mathlib.Data.List.TakeWhile
import ParcelPricing.Proofs.Run
import ParcelPricing.Proofs.Tokens

/-! An input may be cut between any two of its lines. -/
namespace ParcelPricing

namespace Text
variable {text line : List Char}

theorem lines_append (front back : List Char) :
    lines (front ++ '\n' :: back) = lines front ++ lines back :=
  List.splitOn_append_cons_self front back

/-- A line without the carriage return that may stand before its line feed. -/
def withoutReturn (line : List Char) : List Char :=
  if line.getLast? = some '\r' then line.dropLast else line

/-- The lines of a text as its line ends make them. What follows the last line feed is a line only
if there is something, and has no line end to lose. -/
def endedLines (text : List Char) : List (List Char) :=
  (lines text).dropLast.map withoutReturn ++ (lines text).getLast?.toList.filter (· ≠ [])

theorem tokens_withoutReturn (line : List Char) : tokens (withoutReturn line) = tokens line := by
  unfold withoutReturn
  split
  · rename_i hreturn
    obtain ⟨front, rfl⟩ := List.getLast?_eq_some_iff.1 hreturn
    have hblank : isBlank '\r' = true := by decide
    rw [tokens_append_blank hblank, List.dropLast_concat]
    exact (List.append_nil _).symm
  · rfl

theorem trim_eq_nil_iff : trim text = [] ↔ Blank text := by
  have hskip : ∀ t, skipBlank t = [] ↔ Blank t := fun t => List.dropWhile_eq_nil_iff
  rw [trim, List.reverse_eq_nil_iff, hskip]
  constructor
  · intro h
    by_contra hblank
    -- What is left after the blanks begins with a character that is none.
    have hne : skipBlank text ≠ [] := fun hnil => hblank ((hskip text).1 hnil)
    have hhead : isBlank ((skipBlank text).head hne) = false := List.head_dropWhile_not isBlank hne
    have hmem : (skipBlank text).head hne ∈ (skipBlank text).reverse :=
      List.mem_reverse.2 (List.head_mem hne)
    rw [h _ hmem] at hhead
    cases hhead
  · intro h c hc
    exact h c ((List.dropWhile_sublist isBlank).subset (List.mem_reverse.1 hc))

end Text

open Text

namespace Shipment
variable {α : Type}

/-- The shipments of lines that are not blank. -/
theorem map_ofLine_filter (ls : List (List Char)) :
    ((ls.filter (trim · ≠ [])).map ofLine : List (Shipment α)) =
      ((ls.map tokens).filter (· ≠ [])).map ofTokens := by
  have hblank : ∀ line, decide (trim line ≠ []) = decide (tokens line ≠ []) := by
    intro line
    rw [decide_eq_decide, ne_eq, ne_eq, trim_eq_nil_iff, tokens_eq_nil_iff]
  rw [List.filter_map, List.map_map]
  congr 1
  exact List.filter_congr fun line _ => hblank line

/-- Line ends of either kind, and a last line with or without one, make no difference. -/
theorem readAll_eq_endedLines (text : List Char) :
    (readAll text : List (Shipment α)) =
      ((endedLines text).filter (trim · ≠ [])).map ofLine := by
  have hlast : lines text = (lines text).dropLast ++ (lines text).getLast?.toList := by
    have hne : lines text ≠ [] := List.splitOn_ne_nil '\n' text
    rw [List.getLast?_eq_some_getLast hne]
    exact (List.dropLast_concat_getLast _).symm
  rw [map_ofLine_filter, readAll, endedLines, List.map_append, List.map_map, List.filter_append]
  conv_lhs => rw [hlast, List.map_append, List.filter_append]
  congr 2
  · exact congrArg _ (List.map_congr_left fun line _ => (tokens_withoutReturn line).symm)
  · cases (lines text).getLast? with
    | none => rfl
    | some line =>
      by_cases hline : line = []
      · subst hline
        rfl
      · simp [hline]

theorem readAll_append (front back : List Char) :
    (readAll (front ++ '\n' :: back) : List (Shipment α)) = readAll front ++ readAll back := by
  rw [readAll, lines_append, List.map_append, List.filter_append, List.map_append]
  rfl

end Shipment

variable {α : Type} [Amount α]

/-- The engine that a run leaves has the rules and terms of the one before. -/
theorem Engine.run_append (e : Engine α) (xs ys : List (Shipment α)) :
    e.run (xs ++ ys) = ((e.run xs).1 ++ ((e.run xs).2.run ys).1, ((e.run xs).2.run ys).2) := by
  simp only [run, runRules_append]

/-- A line feed parts the shipments of two texts, and a run over shipments after others goes on
where the run over those stopped, by the same engine or by a fresh one. -/
theorem split_input (e : Engine α) (front back : List Char) (xs ys : List (Shipment α)) :
    let first := e.run xs
    let fresh : Engine α := ⟨e.rules, first.2.terms, first.2.ledger⟩
    (Shipment.readAll (front ++ '\n' :: back) : List (Shipment α)) =
        Shipment.readAll front ++ Shipment.readAll back ∧
      ((e.run (xs ++ ys)).1 = first.1 ++ (first.2.run ys).1 ∧
        (e.run (xs ++ ys)).2.ledger = (first.2.run ys).2.ledger) ∧
      (e.run (xs ++ ys)).1 = first.1 ++ (fresh.run ys).1 ∧
        (e.run (xs ++ ys)).2.ledger = (fresh.run ys).2.ledger := by
  intro first fresh
  have hrun := e.run_append xs ys
  -- A run changes nothing of the rules.
  have hfresh : fresh = first.2 := rfl
  rw [hfresh, hrun]
  exact ⟨Shipment.readAll_append front back, ⟨rfl, rfl⟩, rfl, rfl⟩

end ParcelPricing
