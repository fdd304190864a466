import ParcelPricing.Log.Directive

/-! Filters of the log: directives, the most specific first. -/
namespace ParcelPricing

structure LogFilter where
  /-- directives that hold whatever the span -/
  general : List LogDirective
  /-- directives that ask about spans -/
  spanned : List LogDirective

namespace LogFilter

/-- Adds a directive in its place, instead of an earlier one for the same thing. -/
def add (d : LogDirective) : List LogDirective → List LogDirective
  | [] => [d]
  | e :: rest =>
    match d.order e with
    | .eq => d :: rest
    | .gt => d :: e :: rest
    | .lt => e :: add d rest

def sorted (directives : List LogDirective) : List LogDirective :=
  directives.foldl (fun sorted d => add d sorted) []

/-- A directive on a field alone, without a value, is of both kinds. -/
def ofDirectives (directives : List LogDirective) : LogFilter :=
  let (spanned, plain) := directives.partition LogDirective.isSpanned
  ⟨sorted (plain ++ spanned.filter LogDirective.isGeneral), sorted spanned⟩

def ofLevel (level : LogLevel) : LogFilter := ofDirectives [.ofLevel level]

/-- The first directive that cannot be read decides. -/
def read (text : List Char) : Except LogDirective.Fault LogFilter := do
  let directives ← ((text.splitOn ',').filter (· ≠ [])).mapM LogDirective.read
  return ofDirectives directives

def chars (filter : LogFilter) : List Char :=
  List.intercalate [','] ((filter.general ++ filter.spanned).map LogDirective.chars)

end LogFilter

end ParcelPricing
