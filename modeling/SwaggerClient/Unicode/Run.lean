namespace SwaggerClient.Unicode

/-- The code points from `first` to `last`, each `step` after the one before. -/
structure Run where
  first : Nat
  last : Nat
  step : Nat
deriving DecidableEq, Repr

namespace Run

def mem (run : Run) (n : Nat) : Bool :=
  run.first ≤ n && n ≤ run.last && (n - run.first) % run.step == 0

/-- The code point belongs to one of the runs, which are in ascending order of their first ones. -/
def covers : List Run → Nat → Bool
  | [], _ => false
  | run :: rest, n => if n < run.first then false else run.mem n || covers rest n

end Run

end SwaggerClient.Unicode
