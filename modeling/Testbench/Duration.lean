/-!
# Durations

A length of time in nanoseconds. Reports give whole milliseconds, cut off and kept to 64 bits.
-/
namespace Testbench

abbrev Duration := Nat

namespace Duration

def ofMillis (n : Nat) : Duration := n * 1000000

def ofSeconds (seconds nanos : Nat) : Duration := seconds * 1000000000 + nanos

def millis (d : Duration) : Nat := d / 1000000 % UInt64.size

theorem millis_lt (d : Duration) : d.millis < UInt64.size := Nat.mod_lt _ (by decide)

end Duration
end Testbench
