import Harvest.Filter.Value
import Harvest.Item.Kind

/-!
What filters see of items.
-/

namespace Harvest.Filter

/-- An item as a filter sees it: a kind and the values of attributes by name. -/
structure Subject where
  kind : ItemKind
  read? : String → Option Value

end Harvest.Filter
