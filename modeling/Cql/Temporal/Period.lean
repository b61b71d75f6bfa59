import Cql.Sql.Fragment

/-!
# Periods of time

A period lies between two bounds. An instant is the period whose bounds are both the instant, and
an interval with an open end reaches to infinity there.
-/

namespace Cql.Temporal

open Cql.Sql

inductive Endpoint where
  /-- Before every point in time. -/
  | past
  /-- The point in time that some SQL stands for. -/
  | value (sql : Fragment)
  /-- After every point in time. -/
  | future
  deriving DecidableEq, Repr

structure Period where
  first : Endpoint
  last : Endpoint
  deriving DecidableEq, Repr

namespace Period

def instant (sql : Fragment) : Period :=
  ⟨.value sql, .value sql⟩

/-- The period between two points in time; a missing one is open. -/
def interval (first last : Option Fragment) : Period :=
  ⟨first.elim .past .value, last.elim .future .value⟩

def unbounded : Period :=
  interval none none

end Period

end Cql.Temporal
