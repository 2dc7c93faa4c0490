import SqlBridge.Float.Binary64

/-!
# Durations
-/

set_option autoImplicit false

namespace SqlBridge

structure Duration where
  nanoseconds : Nat
  deriving DecidableEq

namespace Duration

def ofSeconds (seconds nanoseconds : Nat) : Duration :=
  ⟨seconds * 1000000000 + nanoseconds⟩

instance : LE Duration := ⟨fun shorter longer => shorter.nanoseconds ≤ longer.nanoseconds⟩

instance (shorter longer : Duration) : Decidable (shorter ≤ longer) :=
  inferInstanceAs (Decidable (shorter.nanoseconds ≤ longer.nanoseconds))

/-- The nanoseconds in a 64-bit word, or its greatest number where they do not fit. -/
def clampedNanoseconds (duration : Duration) : UInt64 :=
  .ofNat (min duration.nanoseconds (UInt64.size - 1))

/-- Milliseconds in binary64: the seconds and the rest are rounded one by one. -/
def milliseconds (duration : Duration) : Binary64 :=
  let seconds := (UInt64.ofNat (duration.nanoseconds / 1000000000)).toFloat
  let rest := (UInt64.ofNat (duration.nanoseconds % 1000000000)).toFloat
  ⟨((seconds + rest / 1000000000.0) * 1000.0).toBits⟩

end Duration

end SqlBridge
