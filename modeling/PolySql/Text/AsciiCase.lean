/-!
# ASCII letter case

Keywords, operators and engine names are compared without regard to the case of the letters `A` to
`Z`.  No other character is touched.
-/

namespace PolySql.Text

/-- `A` to `Z` for `a` to `z`, every other character as it is. -/
def upper (s : String) : String := String.ofList (s.toList.map Char.toUpper)

/-- `a` to `z` for `A` to `Z`, every other character as it is. -/
def lower (s : String) : String := String.ofList (s.toList.map Char.toLower)

@[simp] theorem toList_upper (s : String) : (upper s).toList = s.toList.map Char.toUpper := by
  simp [upper]

@[simp] theorem toList_lower (s : String) : (lower s).toList = s.toList.map Char.toLower := by
  simp [lower]

end PolySql.Text
