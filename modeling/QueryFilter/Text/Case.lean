/-!
# Letter case

Folding of the ASCII letters to lower case. Every other character stays as it is, so a text outside ASCII
never becomes equal to one inside it.
-/

namespace QueryFilter
namespace Text

/-- A text with its ASCII letters in lower case. -/
def lower (text : String) : String :=
  String.ofList (text.toList.map Char.toLower)

@[simp] theorem toList_lower (text : String) : (lower text).toList = text.toList.map Char.toLower := by
  simp [lower]

end Text
end QueryFilter
