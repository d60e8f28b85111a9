/-! Spans of time, in whole nanoseconds. -/
namespace ServiceMux

structure Duration where
  nanos : Nat
  deriving DecidableEq, Repr

namespace Duration

def perSecond : Nat := 1000000000
def perMilli : Nat := 1000000

def ofMillis (ms : Nat) : Duration := ⟨ms * perMilli⟩
def ofSeconds (s : Nat) : Duration := ⟨s * perSecond⟩
def ofParts (seconds nanos : Nat) : Duration := ⟨seconds * perSecond + nanos⟩

def seconds (d : Duration) : Nat := d.nanos / perSecond
def subsecond (d : Duration) : Nat := d.nanos % perSecond

/-- Whole milliseconds, a started one counting as whole. -/
def millisUp (d : Duration) : Nat := (d.nanos + (perMilli - 1)) / perMilli

/-- The decimals of `rest / 10 ^ places`, with the point, and without the zeros at their end. -/
def decimals (places rest : Nat) : String :=
  let digits := (Nat.toDigits 10 rest).leftpad places '0'
  match (digits.reverse.dropWhile (· == '0')).reverse with
  | [] => ""
  | shown => String.ofList ('.' :: shown)

/-- The units of the text, largest first: its name, its size, and how many decimal places a
nanosecond lies below it. -/
def units : List (String × Nat × Nat) :=
  [("s", perSecond, 9), ("ms", perMilli, 6), ("µs", 1000, 3)]

/-- The amount in the largest unit of which there is a whole one, with as many decimals as it
takes. -/
def text (d : Duration) : String :=
  match units.find? fun (_, size, _) => size ≤ d.nanos with
  | some (name, size, places) =>
    toString (d.nanos / size) ++ decimals places (d.nanos % size) ++ name
  | none => toString d.nanos ++ "ns"

example : (ofMillis 1500).text = "1.5s" := by cbv
example : (ofParts 18446744073709551615 999999999).text = "18446744073709551615.999999999s" := by
  cbv

end Duration
end ServiceMux
