import Cql.Proofs.Sql.UndividedFragment
import Cql.Sql.Dialect
import Cql.Temporal.Condition

/-!
# Dialects keep fragments safe

Whatever a dialect makes out of safe operands is safe, and what it calls closed is a group between
brackets. Values are undivided besides.
-/

namespace Cql.Sql

open Fragment Lexeme

/-- Every fragment of the operand is safe, and closed SQL text is a group between brackets. -/
def Operand.Safe (allowed : String → Prop) : Operand → Prop
  | .expr sql closed => sql.Safe allowed ∧ (closed = true → sql.Grouped allowed)
  | .column sql => sql.Safe allowed
  | .scalar sql _ => sql.Safe allowed
  | .openEnd => True
  | .interval first last =>
      (∀ sql ∈ first, sql.Safe allowed) ∧ ∀ sql ∈ last, sql.Safe allowed

def Operand.Undivided (allowed : String → Prop) : Operand → Prop
  | .expr sql closed => sql.Undivided allowed ∧ (closed = true → sql.Grouped allowed)
  | .column sql => sql.Undivided allowed
  | .scalar sql _ => sql.Undivided allowed
  | .openEnd => True
  | .interval first last =>
      (∀ sql ∈ first, sql.Safe allowed) ∧ ∀ sql ∈ last, sql.Safe allowed

variable {allowed : String → Prop}

namespace Operand

theorem Undivided.safe {operand : Operand} (undivided : operand.Undivided allowed) :
    operand.Safe allowed := by
  cases operand with
  | expr sql closed => exact ⟨undivided.1.safe, undivided.2⟩
  | column sql => exact Fragment.Undivided.safe undivided
  | scalar sql bound => exact Fragment.Undivided.safe undivided
  | openEnd => trivial
  | interval first last => exact undivided

theorem safe_loose {sql : Fragment} (safe : sql.Safe allowed) : (loose sql).Safe allowed := by
  refine ⟨safe, ?_⟩
  intro closed
  cases closed

theorem undivided_loose {sql : Fragment} (undivided : sql.Undivided allowed) :
    (loose sql).Undivided allowed := by
  refine ⟨undivided, ?_⟩
  intro closed
  cases closed

theorem undivided_closed {sql : Fragment} (grouped : sql.Grouped allowed) :
    (closed sql).Undivided allowed :=
  ⟨grouped.undivided, fun _ => grouped⟩

theorem undivided_blank : blank.Undivided allowed :=
  undivided_loose undivided_nil

end Operand

namespace Dialect

variable (dialect : Dialect) {left right : Fragment}

theorem castScalar_safe (safe : left.Safe allowed) : (dialect.castScalar left).Safe allowed := by
  cases dialect with
  | geoPackage => exact safe.enclosed (by decide)
  | postgres => exact safe

theorem castScalar_undivided (undivided : left.Undivided allowed) :
    (dialect.castScalar left).Undivided allowed := by
  cases dialect with
  | geoPackage => exact undivided.safe.undivided (by decide)
  | postgres => exact undivided

theorem dateOf_undivided (safe : left.Safe allowed) :
    (dialect.dateOf left).Undivided allowed := by
  cases dialect <;> exact safe.undivided (by decide)

theorem momentOf_undivided (safe : left.Safe allowed) :
    (dialect.momentOf left).Undivided allowed := by
  cases dialect <;> exact safe.undivided (by decide)

theorem geometryOf_undivided (safe : left.Safe allowed) :
    (geometryOf left).Undivided allowed := by
  exact undivided_call (List.forall_mem_singleton.2 safe) (by decide)

theorem present_undivided : dialect.present.Undivided allowed := by
  cases dialect with
  | geoPackage =>
      have quoted : Safe allowed ("'" ++ "now" ++ "'" : String) := safe_string (by decide)
      have whole : Fragment.Undivided allowed
          (("datetime(" : Fragment) ++ ("'" ++ "now" ++ "'" : String) ++ ")") :=
        quoted.undivided (by decide)
      exact whole.congr (by decide)
  | postgres => exact undivided_fixed (by decide)

/-- A missing end of an interval is safe, too. -/
theorem limit_safe {sql : Option Fragment} (safe : ∀ fragment ∈ sql, fragment.Safe allowed) :
    (sql.getD "NULL").Safe allowed := by
  cases sql with
  | none => exact safe_fixed (by decide)
  | some fragment => exact safe fragment rfl

theorem rangeOf_undivided {first last : Option Fragment} (one : ∀ sql ∈ first, sql.Safe allowed)
    (two : ∀ sql ∈ last, sql.Safe allowed) : (dialect.rangeOf first last).Undivided allowed := by
  cases dialect with
  | geoPackage =>
      refine undivided_call (List.forall_mem_cons.2 ⟨limit_safe one, ?_⟩) (by decide)
      exact List.forall_mem_singleton.2 (limit_safe two)
  | postgres =>
      have bounds : Safe allowed ("'" ++ "[]" ++ "'" : String) := safe_string (by decide)
      refine undivided_call (List.forall_mem_cons.2 ⟨limit_safe one, ?_⟩) (by decide)
      exact List.forall_mem_cons.2 ⟨limit_safe two, List.forall_mem_singleton.2 bounds⟩

theorem arrayOf_undivided {elements : List Fragment}
    (each : ∀ sql ∈ elements, sql.Safe allowed) :
    (dialect.arrayOf elements).Undivided allowed := by
  cases dialect with
  | geoPackage => exact undivided_call each (by decide)
  | postgres =>
      simp only [arrayOf]
      split
      · have empty : Fragment.Undivided allowed ("'" ++ "\x7b\x7d" ++ "'" : String) :=
          undivided_string (by decide)
        exact empty
      · exact (Safe.joined each (by decide)).undivided (by decide)

theorem rectangle_undivided {west south east north : Fragment} (one : west.Safe allowed)
    (two : south.Safe allowed) (three : east.Safe allowed) (four : north.Safe allowed) :
    (dialect.rectangle west south east north).Undivided allowed := by
  have bounds : ∀ sql ∈ [west, south, east, north], sql.Safe allowed := by
    simp only [List.forall_mem_cons]
    exact ⟨one, two, three, four, List.forall_mem_nil _⟩
  cases dialect <;> exact undivided_call bounds (by decide)

theorem relateGeometries_undivided (relation : SpatialRelation) (one : left.Safe allowed)
    (two : right.Safe allowed) :
    (dialect.relateGeometries relation left right).Undivided allowed := by
  have test :
      Fragment.Undivided allowed (Fragment.call (geometryFunction relation) [left, right]) := by
    have named : hides (geometryFunction relation ++ "(") ")" = true := by
      cases relation <;> decide
    exact undivided_call (List.forall_mem_cons.2 ⟨one, List.forall_mem_singleton.2 two⟩) named
  cases dialect with
  | geoPackage => exact Operand.undivided_closed (test.safe.before (by decide)).bracketed
  | postgres => exact Operand.undivided_loose test

theorem jsonValues_safe (safe : left.Safe allowed) : (jsonValues left).Safe allowed := by
  exact (Safe.call (List.forall_mem_singleton.2 safe) (by decide)).after (by decide)

theorem jsonContains_grouped (one : left.Safe allowed) (two : right.Safe allowed) :
    (jsonContains left right).Grouped allowed := by
  have rows : Safe allowed (jsonValues right ++ " EXCEPT " ++ jsonValues left) :=
    (jsonValues_safe two).between (jsonValues_safe one) (by decide)
  have whole : Grouped allowed ("(NOT EXISTS ("
      ++ (jsonValues right ++ " EXCEPT " ++ jsonValues left) ++ "))") :=
    rows.grouped "NOT EXISTS (" ")" (by decide) (by decide) (by decide)
  rwa [← List.append_assoc, ← List.append_assoc] at whole

theorem relateArrays_grouped (relation : ArrayRelation) (one : left.Safe allowed)
    (two : right.Safe allowed) : (dialect.relateArrays relation left right).Grouped allowed := by
  cases dialect with
  | geoPackage =>
      cases relation with
      | equals =>
          have json {sql : Fragment} (safe : sql.Safe allowed) :
              Safe allowed (Fragment.call "json" [sql]) :=
            Safe.call (List.forall_mem_singleton.2 safe) (by decide)
          exact ((json one).between (json two) (by decide)).bracketed
      | contains => exact jsonContains_grouped one two
      | containedBy => exact jsonContains_grouped two one
      | overlaps =>
          have rows : Safe allowed (jsonValues left ++ " INTERSECT " ++ jsonValues right) :=
            (jsonValues_safe one).between (jsonValues_safe two) (by decide)
          have whole : Grouped allowed ("(EXISTS ("
              ++ (jsonValues left ++ " INTERSECT " ++ jsonValues right) ++ "))") :=
            rows.grouped "EXISTS (" ")" (by decide) (by decide) (by decide)
          rwa [← List.append_assoc, ← List.append_assoc] at whole
  | postgres => cases relation <;> exact (one.between two (by decide)).bracketed

/-! ## Operands as SQL -/

theorem value_safe {operand : Operand} (safe : operand.Safe allowed) :
    (dialect.value operand).Safe allowed := by
  cases operand with
  | expr sql closed => exact safe.1
  | column sql => exact safe
  | scalar sql bound =>
      cases bound with
      | true => exact dialect.castScalar_safe safe
      | false => exact safe
  | openEnd =>
      have null : Safe allowed "NULL" := safe_fixed (by decide)
      exact null
  | interval first last => exact (dialect.rangeOf_undivided safe.1 safe.2).safe

theorem value_undivided {operand : Operand} (undivided : operand.Undivided allowed) :
    (dialect.value operand).Undivided allowed := by
  cases operand with
  | expr sql closed => exact undivided.1
  | column sql => exact undivided
  | scalar sql bound =>
      cases bound with
      | true => exact dialect.castScalar_undivided undivided
      | false => exact undivided
  | openEnd =>
      have null : Fragment.Undivided allowed "NULL" := undivided_fixed (by decide)
      exact null
  | interval first last => exact dialect.rangeOf_undivided undivided.1 undivided.2

theorem valueBeside_undivided {operand : Operand} (besideColumn : Bool)
    (undivided : operand.Undivided allowed) :
    (dialect.valueBeside besideColumn operand).Undivided allowed := by
  unfold valueBeside
  split
  · split
    · exact undivided
    · exact dialect.value_undivided undivided
  · exact dialect.value_undivided undivided

/-- A condition that can join a chain is a group. -/
theorem closedValue_grouped {operand : Operand} (safe : operand.Safe allowed) :
    (dialect.closedValue operand).Grouped allowed := by
  unfold closedValue
  split
  · next closed =>
      cases operand with
      | expr sql flag => exact safe.2 closed
      | column sql => cases closed
      | scalar sql bound => cases closed
      | openEnd => cases closed
      | interval first last => cases closed
  · exact (dialect.value_safe safe).bracketed

theorem comparedValues_undivided {operands : List Operand}
    (each : ∀ operand ∈ operands, operand.Undivided allowed) :
    ∀ sql ∈ dialect.comparedValues operands, sql.Undivided allowed := by
  cases operands with
  | nil => exact List.forall_mem_nil _
  | cons first others =>
      obtain ⟨one, rest⟩ := List.forall_mem_cons.1 each
      refine List.forall_mem_cons.2 ⟨dialect.valueBeside_undivided _ one, ?_⟩
      intro sql among
      obtain ⟨operand, member, rfl⟩ := List.mem_map.1 among
      exact dialect.valueBeside_undivided _ (rest operand member)

end Dialect

end Cql.Sql

/-! ## Conditions on points in time -/

namespace Cql.Temporal

open Cql.Sql

variable {allowed : String → Prop}

/-- The point in time at the end of a period, if there is one, is safe. -/
def Endpoint.Safe (allowed : String → Prop) : Endpoint → Prop
  | .value sql => sql.Safe allowed
  | _ => True

def Conjunction.Safe (allowed : String → Prop) (conjunction : Conjunction) : Prop :=
  ∀ comparison ∈ conjunction.comparisons,
    comparison.left.Safe allowed ∧ comparison.right.Safe allowed

theorem Comparison.render_safe {comparison : Comparison} (one : comparison.left.Safe allowed)
    (two : comparison.right.Safe allowed) : comparison.render.Safe allowed := by
  refine one.between two ?_
  cases comparison.comparator <;> decide

theorem relate_safe (relation : TemporalRelation) {a b : Period}
    (bounds : ∀ endpoint ∈ [a.first, a.last, b.first, b.last], endpoint.Safe allowed) :
    (relate relation a b).tests.Safe allowed := by
  intro comparison among
  obtain ⟨left, right⟩ := mem_bounds_of_mem_relate among
  exact ⟨bounds _ left, bounds _ right⟩

namespace Condition

variable {condition : Condition}

theorem conjunction_safe (safe : condition.tests.Safe allowed) :
    condition.conjunction.Safe allowed := by
  obtain ⟨negated, tests⟩ := condition
  cases tests with
  | never => exact Fragment.Safe.nil
  | every comparisons =>
      refine Fragment.Safe.joined ?_ (by decide)
      intro sql among
      obtain ⟨comparison, member, rfl⟩ := List.mem_map.1 among
      exact Comparison.render_safe (safe comparison member).1 (safe comparison member).2

/-- A condition is a group unless its truth value is known. -/
theorem render_undivided (safe : condition.tests.Safe allowed) :
    (Operand.expr condition.render condition.settled?.isNone).Undivided allowed := by
  have always : Fragment.Undivided allowed "1 = 1" := Fragment.undivided_fixed (by decide)
  have never : Fragment.Undivided allowed "1 = 0" := Fragment.undivided_fixed (by decide)
  have inner := conjunction_safe safe
  have negated : Fragment.Grouped allowed
      ("(NOT (" ++ condition.conjunction ++ "))") :=
    inner.grouped "NOT (" ")" (by decide) (by decide) (by decide)
  cases known : condition.settled? with
  | some value =>
      simp only [render, known]
      cases value with
      | true => exact Operand.undivided_loose always
      | false => exact Operand.undivided_loose never
  | none =>
      simp only [render, known]
      refine Operand.undivided_closed ?_
      split
      · exact negated
      · exact inner.bracketed

end Condition

end Cql.Temporal
