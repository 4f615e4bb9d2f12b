import Attribution.LogFilter.Directive

/-!
# Log filters

A log filter is a list of directives between commas. Nothing between two commas is no directive,
so that the empty filter is one as well. The first directive that cannot be read decides what is
said of the filter.
-/

namespace Attribution.LogFilter

/-- Whether a filter can be read, and if not, why. -/
def check (filter : String) : Except Problem Unit :=
  ((filter.toList.splitOn ',').filter fun directive => !directive.isEmpty).forM checkDirective

end Attribution.LogFilter
