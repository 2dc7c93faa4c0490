import SqlBridge.Log.QueryReporter

/-!
# Settings of a query reporter

What a caller can say about a reporter before it is used, as data.  Settings come in any order and
number, and a later one overrules an earlier one of its kind.
-/

set_option autoImplicit false

namespace SqlBridge.QueryReporter

inductive Setting where
  | severity (asked : Severity)
  | maxSqlBytes (limit : Nat)
  | untruncated
  | slowThreshold (threshold : Duration)
  deriving DecidableEq

namespace Setting

def apply : Setting → QueryReporter → QueryReporter
  | .severity asked, reporter => { reporter with severity := asked }
  | .maxSqlBytes limit, reporter => { reporter with maxSqlBytes := some limit }
  | .untruncated, reporter => { reporter with maxSqlBytes := none }
  | .slowThreshold threshold, reporter => { reporter with slowThreshold := some threshold }

end Setting

/-- A reporter as settings make it of the default one, one after the other. -/
def built (settings : List Setting) : QueryReporter :=
  settings.foldl (fun reporter setting => setting.apply reporter) {}

end SqlBridge.QueryReporter
