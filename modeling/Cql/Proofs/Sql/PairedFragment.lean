import Cql.Proofs.Sql.Lexeme
import Cql.Proofs.Vocabulary
import Mathlib.Data.List.Forall2

/-!
# Fragments that pair

Compiling moves fragments about without looking into them. To make use of that, two compilations
are compared under any relation between fragments that fixed texts and columns have to themselves
and that putting fragments side by side keeps: what a dialect makes of operands that pair are
operands that pair. The same is asked of two dialects, each of which makes something of its own out
of its fragments. A relation between the pieces of one compilation and those of another says how
the two correspond, and a relation of pieces to themselves says what all pieces of one compilation
have in common.
-/

namespace Cql.Sql

namespace Lexeme

def turnQuote : Option Char → Char → Option Char
  | none, c => if isQuote c then some c else none
  | some quote, c => if c = quote then none else some quote

/-- The quotation that is open after several characters. -/
def openQuote (opened : Option Char) (cs : List Char) : Option Char :=
  cs.foldl turnQuote opened

theorem openQuote_append (opened : Option Char) (first second : List Char) :
    openQuote opened (first ++ second) = openQuote (openQuote opened first) second :=
  List.foldl_append

/-- Whether no name of a parameter can stand right after the given mark. Such a name begins with the
letter `c`. -/
def isUnmarked (sigil : Char) : List Char → Bool
  | [] => true
  | [c] => c != sigil
  | c :: next :: cs => (c != sigil || next != 'c') && isUnmarked sigil (next :: cs)

/-- Whether the characters do not end as the beginning of a conversion does, in `T` or in `T` and a
bracket. -/
def isBlunt (cs : List Char) : Bool :=
  !List.isSuffixOf ['T'] cs && !List.isSuffixOf ['T', '('] cs

theorem isBlunt_iff {cs : List Char} :
    isBlunt cs = true ↔ ¬ ['T'] <:+ cs ∧ ¬ ['T', '('] <:+ cs := by
  rw [isBlunt, Bool.and_eq_true, Bool.not_eq_true', Bool.not_eq_true', Bool.eq_false_iff,
    Bool.eq_false_iff, Ne, Ne, List.isSuffixOf_iff_suffix, List.isSuffixOf_iff_suffix]

end Lexeme

/-- Whether a text closes its quotations and has no placeholder in it, nor the beginning of one. -/
def isInert (text : String) : Bool :=
  Lexeme.openQuote none text.toList == none &&
    [Dialect.geoPackage, .postgres].all fun dialect =>
      Lexeme.isUnmarked dialect.sigil text.toList

/-- Whether a text is inert and what follows it is not converted by it. -/
def isFixed (text : String) : Bool :=
  isInert text && Lexeme.isBlunt text.toList

theorem isInert_of_isFixed {text : String} (fixed : isFixed text = true) : isInert text = true :=
  (Bool.and_eq_true_iff.1 fixed).1

/-- A relation between fragments that compiling respects: fixed texts and columns pair with
themselves, fragments that pair may be put side by side, and an empty fragment pairs with none but
empty ones. -/
structure Pairing (rel : Fragment → Fragment → Prop) : Prop where
  nil : rel [] []
  append {first second first' second' : Fragment} (one : rel first first')
    (two : rel second second') : rel (first ++ second) (first' ++ second')
  text {sql : String} (fixed : isFixed sql = true) : rel sql sql
  column (name : String) : rel [.column name] [.column name]
  empty {sql other : Fragment} (paired : rel sql other) : sql.render = "" ↔ other.render = ""

/-- The texts around a conversion pair with themselves, too. -/
structure InertPairing (rel : Fragment → Fragment → Prop) : Prop extends Pairing rel where
  inert {sql : String} (inert : isInert sql = true) : rel sql sql

/-- The operands are of one kind, and they pair however two dialects use them: a condition on its
own or in a chain, a number or truth value as it stands or as a value with a type. -/
inductive Operand.Paired (one two : Dialect) (rel : Fragment → Fragment → Prop) :
    Operand → Operand → Prop where
  | expr {sql other : Fragment} {closed closed' : Bool} (paired : rel sql other)
      (chained : rel (one.closedValue (.expr sql closed))
        (two.closedValue (.expr other closed'))) :
      Paired one two rel (.expr sql closed) (.expr other closed')
  | column {sql other : Fragment} (paired : rel sql other) :
      Paired one two rel (.column sql) (.column other)
  | scalar {sql other : Fragment} {bound bound' : Bool} (paired : rel sql other)
      (typed : rel (one.value (.scalar sql bound)) (two.value (.scalar other bound'))) :
      Paired one two rel (.scalar sql bound) (.scalar other bound')
  | openEnd : Paired one two rel .openEnd .openEnd
  | interval {first last other final : Option Fragment} (begins : Option.Rel rel first other)
      (ends : Option.Rel rel last final) :
      Paired one two rel (.interval first last) (.interval other final)

variable {rel : Fragment → Fragment → Prop}

namespace Pairing

variable {sql other first second : Fragment} (pairing : Pairing rel)
include pairing

/-- Fixed texts may stand around fragments that pair. -/
theorem around (paired : rel sql other) {before after : String} (left : isFixed before = true)
    (right : isFixed after = true) : rel (before ++ sql ++ after) (before ++ other ++ after) :=
  pairing.append (pairing.append (pairing.text left) paired) (pairing.text right)

/-- A fixed text may stand between fragments that pair. -/
theorem between (one : rel sql other) (two : rel first second) {middle : String}
    (fixed : isFixed middle = true) : rel (sql ++ middle ++ first) (other ++ middle ++ second) :=
  pairing.append (pairing.append one (pairing.text fixed)) two

theorem bracketed (paired : rel sql other) :
    rel (Fragment.bracketed sql) (Fragment.bracketed other) :=
  pairing.around paired (by decide) (by decide)

theorem joined {fragments others : List Fragment} (paired : List.Forall₂ rel fragments others)
    {separator : String} (fixed : isFixed separator = true) :
    rel (Fragment.joined separator fragments) (Fragment.joined separator others) := by
  induction paired with
  | nil => exact pairing.nil
  | cons front rest ih =>
      cases rest with
      | nil =>
          rw [Fragment.joined, Fragment.joined, List.intercalate_singleton,
            List.intercalate_singleton]
          exact front
      | cons next rest =>
          rw [Fragment.joined, Fragment.joined, List.intercalate_cons_cons,
            List.intercalate_cons_cons]
          exact pairing.between front ih fixed

/-- Calls of functions pair when the names of the functions do. -/
theorem call {function function' : String} (named : rel function function')
    {arguments others : List Fragment} (paired : List.Forall₂ rel arguments others) :
    rel (Fragment.call function arguments) (Fragment.call function' others) :=
  pairing.append named (pairing.bracketed (pairing.joined paired (by decide)))

/-- Of two fragments that pair both are empty or none. -/
theorem isEmpty_eq (paired : rel sql other) : sql.render.isEmpty = other.render.isEmpty := by
  rw [Bool.eq_iff_iff, String.isEmpty_iff, String.isEmpty_iff, pairing.empty paired]

/-- Ends of intervals that pair are limits that pair. -/
theorem limit {first second : Option Fragment} (paired : Option.Rel rel first second) :
    rel (first.getD "NULL") (second.getD "NULL") := by
  cases paired with
  | none => exact pairing.text (by decide)
  | some paired => exact paired

end Pairing

namespace Operand.Paired

variable {one two : Dialect} {operand other : Operand}

theorem closed {sql other : Fragment} (paired : rel sql other) :
    Operand.Paired one two rel (.closed sql) (.closed other) :=
  .expr paired paired

theorem loose (pairing : Pairing rel) {sql other : Fragment} (paired : rel sql other) :
    Operand.Paired one two rel (.loose sql) (.loose other) :=
  .expr paired (pairing.bracketed paired)

theorem expr_same (pairing : Pairing rel) (closed : Bool) {sql other : Fragment}
    (paired : rel sql other) :
    Operand.Paired one two rel (.expr sql closed) (.expr other closed) := by
  cases closed with
  | true => exact .closed paired
  | false => exact .loose pairing paired

theorem blank (pairing : Pairing rel) : Operand.Paired one two rel .blank .blank :=
  .loose pairing pairing.nil

theorem isColumn_eq (paired : operand.Paired one two rel other) :
    operand.isColumn = other.isColumn := by
  cases paired <;> rfl

/-- Operands that pair still do so under a relation that admits more. -/
theorem mono {rel' : Fragment → Fragment → Prop}
    (more : ∀ sql other, rel sql other → rel' sql other)
    (paired : operand.Paired one two rel other) : operand.Paired one two rel' other := by
  have limits {first second : Option Fragment} (paired : Option.Rel rel first second) :
      Option.Rel rel' first second := by
    cases paired with
    | none => exact .none
    | some paired => exact .some (more _ _ paired)
  cases paired with
  | expr paired chained => exact .expr (more _ _ paired) (more _ _ chained)
  | column paired => exact .column (more _ _ paired)
  | scalar paired typed => exact .scalar (more _ _ paired) (more _ _ typed)
  | openEnd => exact .openEnd
  | interval begins ends => exact .interval (limits begins) (limits ends)

end Operand.Paired

/-! ## Dialects -/

namespace Dialect

/-- What two dialects make of fragments that pair are fragments that pair. Points in time are left
aside, as some dialects convert them. -/
structure Matching (one two : Dialect) (rel : Fragment → Fragment → Prop) : Prop
    extends Pairing rel where
  present : rel one.present two.present
  rangeOf {first last first' last' : Option Fragment} (begins : Option.Rel rel first first')
    (ends : Option.Rel rel last last') : rel (one.rangeOf first last) (two.rangeOf first' last')
  arrayOf {elements others : List Fragment} (paired : List.Forall₂ rel elements others) :
    rel (one.arrayOf elements) (two.arrayOf others)
  rectangle {west south east north west' south' east' north' : Fragment} (left : rel west west')
    (below : rel south south') (right : rel east east') (above : rel north north') :
    rel (one.rectangle west south east north) (two.rectangle west' south' east' north')
  relateGeometries (relation : SpatialRelation) {left right left' right' : Fragment}
    (first : rel left left') (second : rel right right') :
    (one.relateGeometries relation left right).Paired one two rel
      (two.relateGeometries relation left' right')
  relateArrays (relation : ArrayRelation) {left right left' right' : Fragment}
    (first : rel left left') (second : rel right right') :
    rel (one.relateArrays relation left right) (two.relateArrays relation left' right')
  sqlFunction {name function function' : String} (known : one.sqlFunction? name = some function)
    (known' : two.sqlFunction? name = some function') : rel function function'
  textFunction {kind : TextFunction} {function function' : String}
    (known : one.textFunction? kind = some function)
    (known' : two.textFunction? kind = some function') : rel function function'

/-- What two dialects make of fragments that pair are fragments that pair, points in time
included. -/
structure TimedMatching (one two : Dialect) (rel : Fragment → Fragment → Prop) : Prop
    extends Matching one two rel where
  dateOf {sql other : Fragment} (paired : rel sql other) : rel (one.dateOf sql) (two.dateOf other)
  momentOf {sql other : Fragment} (paired : rel sql other) :
    rel (one.momentOf sql) (two.momentOf other)

/-! ### One dialect -/

theorem sqlFunction?_fixed {dialect : Dialect} {name function : String}
    (known : dialect.sqlFunction? name = some function) :
    isFixed function = true ∧ function ≠ "" := by
  have all : ∀ function ∈ "char_length" :: functions.map Prod.fst,
      isFixed function = true ∧ function ≠ "" := by decide
  exact all function (Dialect.mem_of_sqlFunction? known)

theorem textFunction?_fixed {dialect : Dialect} {kind : TextFunction} {function : String}
    (known : dialect.textFunction? kind = some function) :
    isFixed function = true ∧ function ≠ "" := by
  have all : ∀ function ∈ dialect.textFunction? kind,
      isFixed function = true ∧ function ≠ "" := by
    cases dialect <;> cases kind <;> decide
  exact all function known

section OneDialect

variable (pairing : Pairing rel) (dialect : Dialect) {left left' right right' : Fragment}
include pairing

theorem rangeOf_paired {first last first' last' : Option Fragment}
    (one : Option.Rel rel first first') (two : Option.Rel rel last last') :
    rel (dialect.rangeOf first last) (dialect.rangeOf first' last') := by
  have begins := pairing.limit one
  have ends := pairing.limit two
  cases dialect with
  | geoPackage => exact pairing.call (pairing.text (by decide)) (.cons begins (.cons ends .nil))
  | postgres =>
      have closes : rel "'[]'" "'[]'" := pairing.text (by decide)
      exact pairing.call (pairing.text (by decide)) (.cons begins (.cons ends (.cons closes .nil)))

theorem arrayOf_paired {elements others : List Fragment}
    (paired : List.Forall₂ rel elements others) :
    rel (dialect.arrayOf elements) (dialect.arrayOf others) := by
  cases dialect with
  | geoPackage => exact pairing.call (pairing.text (by decide)) paired
  | postgres =>
      cases paired with
      | nil => exact pairing.text (by decide)
      | cons front rest =>
          exact pairing.around (pairing.joined (.cons front rest) (by decide)) (by decide)
            (by decide)

theorem relateGeometries_paired (relation : SpatialRelation) (one : rel left left')
    (two : rel right right') :
    (dialect.relateGeometries relation left right).Paired dialect dialect rel
      (dialect.relateGeometries relation left' right') := by
  have named : isFixed (geometryFunction relation) = true := by
    cases relation <;> decide
  have test := pairing.call (pairing.text named) (.cons one (.cons two .nil))
  cases dialect with
  | geoPackage =>
      exact .closed (pairing.bracketed (pairing.append test (pairing.text (by decide))))
  | postgres => exact .loose pairing test

theorem jsonValues_paired (paired : rel left right) : rel (jsonValues left) (jsonValues right) :=
  pairing.append (pairing.text (by decide))
    (pairing.call (pairing.text (by decide)) (.cons paired .nil))

/-- Two arrays that are stored as JSON text, between fixed texts. -/
theorem jsonTest_paired (one : rel left left') (two : rel right right') {opens middle : String}
    (before : isFixed opens = true) (fixed : isFixed middle = true) :
    rel (opens ++ jsonValues left ++ middle ++ jsonValues right ++ "))")
      (opens ++ jsonValues left' ++ middle ++ jsonValues right' ++ "))") := by
  have front := pairing.append (pairing.text before) (jsonValues_paired pairing one)
  exact pairing.append (pairing.between front (jsonValues_paired pairing two) fixed)
    (pairing.text (by decide))

theorem relateArrays_paired (relation : ArrayRelation) (one : rel left left')
    (two : rel right right') :
    rel (dialect.relateArrays relation left right)
      (dialect.relateArrays relation left' right') := by
  cases dialect with
  | geoPackage =>
      cases relation with
      | equals =>
          have json {sql other : Fragment} (paired : rel sql other) :
              rel (Fragment.call "json" [sql]) (Fragment.call "json" [other]) :=
            pairing.call (pairing.text (by decide)) (.cons paired .nil)
          exact pairing.bracketed (pairing.between (json one) (json two) (by decide))
      | contains => exact jsonTest_paired pairing two one (by decide) (by decide)
      | containedBy => exact jsonTest_paired pairing one two (by decide) (by decide)
      | overlaps => exact jsonTest_paired pairing one two (by decide) (by decide)
  | postgres =>
      cases relation <;> exact pairing.bracketed (pairing.between one two (by decide))

/-- What one dialect makes of fragments that pair are fragments that pair. -/
theorem matching_self : Matching dialect dialect rel where
  toPairing := pairing
  present := by
    cases dialect <;> exact pairing.text (by decide)
  rangeOf := rangeOf_paired pairing dialect
  arrayOf := arrayOf_paired pairing dialect
  rectangle left below right above := by
    have bounds := List.Forall₂.cons left (.cons below (.cons right (.cons above .nil)))
    cases dialect <;> exact pairing.call (pairing.text (by decide)) bounds
  relateGeometries relation := relateGeometries_paired pairing dialect relation
  relateArrays relation := relateArrays_paired pairing dialect relation
  sqlFunction known known' := by
    cases known.symm.trans known'
    exact pairing.text (sqlFunction?_fixed known).1
  textFunction known known' := by
    cases known.symm.trans known'
    exact pairing.text (textFunction?_fixed known).1

end OneDialect

section Converted

variable (pairing : InertPairing rel) (dialect : Dialect) {left right : Fragment}
include pairing

/-- Inert texts may stand around fragments that pair. -/
theorem converted_paired (paired : rel left right) {before after : String}
    (front : isInert before = true) (back : isInert after = true) :
    rel (before ++ left ++ after) (before ++ right ++ after) :=
  pairing.append (pairing.append (pairing.inert front) paired) (pairing.inert back)

theorem castScalar_paired (paired : rel left right) :
    rel (dialect.castScalar left) (dialect.castScalar right) := by
  cases dialect with
  | geoPackage => exact converted_paired pairing paired (by decide) (by decide)
  | postgres => exact paired

theorem timedMatching_self : TimedMatching dialect dialect rel where
  toMatching := matching_self pairing.toPairing dialect
  dateOf paired := by
    cases dialect <;> exact converted_paired pairing paired (by decide) (by decide)
  momentOf paired := by
    cases dialect <;> exact converted_paired pairing paired (by decide) (by decide)

end Converted

/-! ### Operands as SQL -/

variable {one two : Dialect} {operand other : Operand} (matching : Matching one two rel)
include matching

theorem geometryOf_paired {left right : Fragment} (paired : rel left right) :
    rel (geometryOf left) (geometryOf right) :=
  matching.call (matching.text (by decide)) (.cons paired .nil)

theorem value_paired (paired : operand.Paired one two rel other) :
    rel (one.value operand) (two.value other) := by
  cases paired with
  | expr paired chained => exact paired
  | column paired => exact paired
  | scalar paired typed => exact typed
  | openEnd => exact matching.text (by decide)
  | interval begins ends => exact matching.rangeOf begins ends

theorem values_paired {operands others : List Operand}
    (paired : List.Forall₂ (Operand.Paired one two rel) operands others) :
    List.Forall₂ rel (operands.map one.value) (others.map two.value) := by
  induction paired with
  | nil => exact .nil
  | cons front rest ih => exact .cons (value_paired matching front) ih

theorem valueBeside_paired (besideColumn : Bool) (paired : operand.Paired one two rel other) :
    rel (one.valueBeside besideColumn operand) (two.valueBeside besideColumn other) := by
  cases paired with
  | scalar paired typed =>
      cases besideColumn with
      | true => exact paired
      | false => exact typed
  | expr paired chained => exact paired
  | column paired => exact paired
  | openEnd => exact matching.text (by decide)
  | interval begins ends => exact matching.rangeOf begins ends

theorem closedValue_paired (paired : operand.Paired one two rel other) :
    rel (one.closedValue operand) (two.closedValue other) := by
  have value := value_paired matching paired
  cases paired with
  | expr paired chained => exact chained
  | column paired => exact matching.bracketed value
  | scalar paired typed => exact matching.bracketed value
  | openEnd => exact matching.bracketed value
  | interval begins ends => exact matching.bracketed value

omit matching in
theorem any_isColumn_eq {operands others : List Operand}
    (paired : List.Forall₂ (Operand.Paired one two rel) operands others) :
    operands.any Operand.isColumn = others.any Operand.isColumn := by
  induction paired with
  | nil => rfl
  | cons front rest ih => rw [List.any_cons, List.any_cons, front.isColumn_eq, ih]

theorem comparedValues_paired {operands others : List Operand}
    (paired : List.Forall₂ (Operand.Paired one two rel) operands others) :
    List.Forall₂ rel (one.comparedValues operands) (two.comparedValues others) := by
  cases paired with
  | nil => exact .nil
  | @cons first first' rest rest' front others =>
      simp only [comparedValues, any_isColumn_eq others, front.isColumn_eq]
      refine .cons (valueBeside_paired matching _ front) ?_
      clear front
      induction others with
      | nil => exact .nil
      | cons next others ih => exact .cons (valueBeside_paired matching _ next) ih

end Dialect

/-! ## Relations between pieces -/

def Fragment.Paired (pair : Piece → Piece → Prop) (sql other : Fragment) : Prop :=
  List.Forall₂ pair sql other

/-- Pieces that pair are put into fragments that pair. -/
theorem Fragment.pairing {pair : Piece → Piece → Prop}
    (text : ∀ {sql : String}, isInert sql = true → pair (.text sql) (.text sql))
    (column : ∀ name, pair (.column name) (.column name))
    (empty : ∀ {piece other : Piece}, pair piece other →
      (piece.render = "" ↔ other.render = "")) : InertPairing (Fragment.Paired pair) where
  nil := .nil
  append one two := List.rel_append one two
  text fixed := .cons (text (isInert_of_isFixed fixed)) .nil
  inert inert := .cons (text inert) .nil
  column name := .cons (column name) .nil
  empty paired := by
    induction paired with
    | nil => rfl
    | cons front rest ih =>
        simp only [Fragment.render_cons, String.append_eq_empty_iff, empty front, ih]

end Cql.Sql

/-! ## Conditions on points in time -/

namespace Cql.Temporal

open Cql.Sql

variable {rel : Fragment → Fragment → Prop}

/-- The ends of periods are both infinite, on one side, or points in time that pair. -/
inductive Endpoint.Paired (rel : Fragment → Fragment → Prop) : Endpoint → Endpoint → Prop where
  | past : Paired rel .past .past
  | value {sql other : Fragment} (paired : rel sql other) :
      Paired rel (.value sql) (.value other)
  | future : Paired rel .future .future

structure Period.Paired (rel : Fragment → Fragment → Prop) (period other : Period) : Prop where
  first : period.first.Paired rel other.first
  last : period.last.Paired rel other.last

/-- The tests compare ends that pair in one way. -/
structure Test.Paired (rel : Fragment → Fragment → Prop) (test other : Test) : Prop where
  left : test.left.Paired rel other.left
  comparator : test.comparator = other.comparator
  right : test.right.Paired rel other.right

/-- The comparisons are of points in time that pair and in one way. -/
structure Comparison.Paired (rel : Fragment → Fragment → Prop) (comparison other : Comparison) :
    Prop where
  left : rel comparison.left other.left
  comparator : comparison.comparator = other.comparator
  right : rel comparison.right other.right

inductive Conjunction.Paired (rel : Fragment → Fragment → Prop) :
    Conjunction → Conjunction → Prop where
  | never : Paired rel .never .never
  | every {comparisons others : List Comparison}
      (paired : List.Forall₂ (Comparison.Paired rel) comparisons others) :
      Paired rel (.every comparisons) (.every others)

theorem Comparison.render_paired (pairing : Pairing rel) {comparison other : Comparison}
    (paired : comparison.Paired rel other) : rel comparison.render other.render := by
  obtain ⟨one, same, two⟩ := paired
  have fixed : isFixed comparison.comparator.symbol = true := by
    cases comparison.comparator <;> decide
  have blank : rel " " " " := pairing.text (by decide)
  have middle := pairing.append (pairing.append blank (pairing.text fixed)) blank
  rw [render, render, ← same]
  exact pairing.append (pairing.append one middle) two

theorem Endpoint.Paired.side_eq {endpoint other : Endpoint} (paired : endpoint.Paired rel other) :
    endpoint.side = other.side := by
  cases paired <;> rfl

theorem Test.toConjunction_paired {test other : Test} (paired : test.Paired rel other) :
    test.toConjunction.Paired rel other.toConjunction := by
  obtain ⟨left, comparator, right⟩ := test
  obtain ⟨left', comparator', right'⟩ := other
  obtain ⟨one, same, two⟩ := paired
  cases same
  have settled : Conjunction.Paired rel
      (if comparator.holds (compare left.side right.side) then .every [] else .never)
      (if comparator.holds (compare left'.side right'.side) then .every [] else .never) := by
    rw [one.side_eq, two.side_eq]
    split
    · exact .every .nil
    · exact .never
  cases one with
  | value first =>
      cases two with
      | value second => exact .every (.cons ⟨first, rfl, second⟩ .nil)
      | past => exact settled
      | future => exact settled
  | past => cases two <;> exact settled
  | future => cases two <;> exact settled

theorem Conjunction.and_paired {first second first' second' : Conjunction}
    (one : first.Paired rel first') (two : second.Paired rel second') :
    (first.and second).Paired rel (first'.and second') := by
  cases one with
  | never => exact .never
  | every front =>
      cases two with
      | never => exact .never
      | every back => exact .every (List.rel_append front back)

theorem Conjunction.all_paired {tests others : List Test}
    (paired : List.Forall₂ (Test.Paired rel) tests others) :
    (Conjunction.all tests).Paired rel (Conjunction.all others) := by
  induction paired with
  | nil => exact .every .nil
  | cons front rest ih => exact and_paired (Test.toConjunction_paired front) ih

theorem relationTests_paired (relation : TemporalRelation) {a b a' b' : Period}
    (one : a.Paired rel a') (two : b.Paired rel b') :
    List.Forall₂ (Test.Paired rel) (relationTests relation a b)
      (relationTests relation a' b') := by
  have test {left left' right right' : Endpoint} (comparator : Comparator)
      (first : left.Paired rel left') (second : right.Paired rel right') :
      Test.Paired rel ⟨left, comparator, right⟩ ⟨left', comparator, right'⟩ :=
    ⟨first, rfl, second⟩
  cases relation <;> simp [relationTests, test, one.first, one.last, two.first, two.last]

namespace Condition

variable {condition other : Condition}

theorem conjunction_paired (pairing : Pairing rel)
    (paired : condition.tests.Paired rel other.tests) :
    rel condition.conjunction other.conjunction := by
  obtain ⟨negated, tests⟩ := condition
  obtain ⟨negated', tests'⟩ := other
  cases paired with
  | never => exact pairing.nil
  | every paired =>
      refine pairing.joined ?_ (by decide)
      induction paired with
      | nil => exact .nil
      | cons front rest ih => exact .cons (Comparison.render_paired pairing front) ih

theorem settled?_eq (same : condition.negated = other.negated)
    (paired : condition.tests.Paired rel other.tests) : condition.settled? = other.settled? := by
  obtain ⟨negated, tests⟩ := condition
  obtain ⟨negated', tests'⟩ := other
  cases same
  cases paired with
  | never => rfl
  | every paired => cases paired <;> rfl

theorem render_paired (pairing : Pairing rel) (same : condition.negated = other.negated)
    (paired : condition.tests.Paired rel other.tests) {one two : Dialect} :
    Operand.Paired one two rel (.expr condition.render condition.settled?.isNone)
      (.expr other.render other.settled?.isNone) := by
  have settled := settled?_eq same paired
  have inner := conjunction_paired pairing paired
  rw [settled]
  refine .expr_same pairing _ ?_
  rw [render, render, settled, same]
  split
  · exact pairing.text (by decide)
  · exact pairing.text (by decide)
  · split
    · exact pairing.around inner (by decide) (by decide)
    · exact pairing.bracketed inner

end Condition

end Cql.Temporal
