import Cql.Text.Caseless

/-!
# Named relations

Three families of binary relations are called by name in a filter: between geometries, between
periods of time, and between arrays. Each name is read without regard to ASCII case.
-/

namespace Cql

inductive SpatialRelation where
  | intersects | equals | disjoint | touches | within | overlaps | crosses | contains
  deriving DecidableEq, Repr

namespace SpatialRelation

def ofKeyword? (name : String) : Option SpatialRelation :=
  match Text.lower name with
  | "s_intersects" => some .intersects
  | "s_equals" => some .equals
  | "s_disjoint" => some .disjoint
  | "s_touches" => some .touches
  | "s_within" => some .within
  | "s_overlaps" => some .overlaps
  | "s_crosses" => some .crosses
  | "s_contains" => some .contains
  | _ => none

end SpatialRelation

inductive TemporalRelation where
  | after | before | contains | disjoint | during | equals | finishedBy | finishes | intersects
  | meets | metBy | overlappedBy | overlaps | startedBy | starts
  deriving DecidableEq, Repr

namespace TemporalRelation

def ofKeyword? (name : String) : Option TemporalRelation :=
  match Text.lower name with
  | "t_after" => some .after
  | "t_before" => some .before
  | "t_contains" => some .contains
  | "t_disjoint" => some .disjoint
  | "t_during" => some .during
  | "t_equals" => some .equals
  | "t_finishedby" => some .finishedBy
  | "t_finishes" => some .finishes
  | "t_intersects" => some .intersects
  | "t_meets" => some .meets
  | "t_metby" => some .metBy
  | "t_overlappedby" => some .overlappedBy
  | "t_overlaps" => some .overlaps
  | "t_startedby" => some .startedBy
  | "t_starts" => some .starts
  | _ => none

end TemporalRelation

inductive ArrayRelation where
  | equals | containedBy | contains | overlaps
  deriving DecidableEq, Repr

namespace ArrayRelation

def ofKeyword? (name : String) : Option ArrayRelation :=
  match Text.lower name with
  | "a_equals" => some .equals
  | "a_contains" => some .contains
  | "a_containedby" => some .containedBy
  | "a_overlaps" => some .overlaps
  | _ => none

end ArrayRelation

end Cql
