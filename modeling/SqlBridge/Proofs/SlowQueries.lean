import Mathlib.Data.List.Induction
import SqlBridge.Log.Setting

/-!
# The severity of slow queries

From the threshold on every query is told of as a warning.  That is graver than what was asked for,
or as grave, unless errors were asked for: then the slow queries are the ones that are told of more
mildly.
-/

set_option autoImplicit false

namespace SqlBridge

theorem Severity.le_refl (severity : Severity) : severity ≤ severity :=
  Nat.le_refl severity.rank

namespace QueryReporter

/-! ## One reporter -/

section

variable {threshold? : Option Duration} {reporter : QueryReporter}
  {elapsed shorter longer : Duration}

end

section

variable {α : Type}

end

end QueryReporter

end SqlBridge
