/-!
# Occurrences

Whether a list stands somewhere within another, item by item.
-/
namespace HubScript.Text

/-- Whether `part` stands within a list. The empty list stands within every list. -/
def occursIn [BEq α] (part : List α) : List α → Bool
  | [] => part.isEmpty
  | x :: rest => part.isPrefixOf (x :: rest) || occursIn part rest

end HubScript.Text
