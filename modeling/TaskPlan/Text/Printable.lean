import TaskPlan.Text.Unicode.Classes

/-!
# Characters shown by number

The characters that a quoted text does not show as themselves: those of the
general categories `C` and `Z` without the space, and those with the property
`Grapheme_Extend`.
-/

namespace TaskPlan

namespace Text

/-- Whether a quoted text shows `c` by its number. -/
def isEscaped (c : Char) : Bool :=
  c != ' ' && inSome [controlRuns, spaceSeparatorRuns, lineSeparatorRuns, paragraphSeparatorRuns,
    formatRuns, privateUseRuns, nonspacingMarkRuns, enclosingMarkRuns, otherExtendingRuns,
    unassignedRuns] c.toNat

end Text

end TaskPlan
