/-!
# Version

The release of the library, as the catalogue reports it.
-/

namespace NetPlan

/-- The release of the library. -/
def version : String := "0.1.0"

end NetPlan
