import Cql.Proofs.Sql.Exposure
import Cql.Sql.Fragment
import Cql.Tree.Node

/-!
# The truth value of a condition in SQL

SQL knows three truth values. A condition is a row of tokens: brackets, the three connectives, and
the conditions of a filter, each of them a unit in which no connective stands outside brackets and
quotes. It is read with the precedence of SQL: brackets bind most tightly, then comes `NOT`, then
`AND`, then `OR`. Every row of tokens has at most one reading.
-/

namespace Cql

inductive Truth where
  | no
  | unknown
  | yes
  deriving DecidableEq, Repr

namespace Truth

/-- Negation; what is unknown stays unknown. -/
def not : Truth → Truth
  | .no => .yes
  | .unknown => .unknown
  | .yes => .no

def and : Truth → Truth → Truth
  | .no, _ => .no
  | _, .no => .no
  | .yes, .yes => .yes
  | _, _ => .unknown

def or : Truth → Truth → Truth
  | .yes, _ => .yes
  | _, .yes => .yes
  | .no, .no => .no
  | _, _ => .unknown

def all : List Truth → Truth
  | [] => .yes
  | value :: values => value.and (all values)

def any : List Truth → Truth
  | [] => .no
  | value :: values => value.or (any values)

/-- The truth value in a list of one; anything else says nothing. -/
def only : List Truth → Truth
  | [value] => value
  | _ => .unknown

@[simp] theorem not_not (a : Truth) : a.not.not = a := by
  cases a <;> rfl

@[simp] theorem yes_and (a : Truth) : Truth.yes.and a = a := by
  cases a <;> rfl

@[simp] theorem and_yes (a : Truth) : a.and .yes = a := by
  cases a <;> rfl

@[simp] theorem no_or (a : Truth) : Truth.no.or a = a := by
  cases a <;> rfl

@[simp] theorem or_no (a : Truth) : a.or .no = a := by
  cases a <;> rfl

theorem and_assoc (a b c : Truth) : (a.and b).and c = a.and (b.and c) := by
  cases a <;> cases b <;> cases c <;> rfl

theorem or_assoc (a b c : Truth) : (a.or b).or c = a.or (b.or c) := by
  cases a <;> cases b <;> cases c <;> rfl

end Truth

namespace Sql

inductive Token where
  | opening
  | closing
  | not
  | and
  | or
  /-- The SQL of a condition of the filter. -/
  | leaf (condition : Node) (sql : Fragment)

namespace Token

def render : Token → String
  | .opening => "("
  | .closing => ")"
  | .not => "NOT "
  | .and => " AND "
  | .or => " OR "
  | .leaf _ sql => sql.render

def renderAll (tokens : List Token) : String :=
  String.join (tokens.map render)

def leaf? : Token → Option (Node × Fragment)
  | .leaf condition sql => some (condition, sql)
  | _ => none

def leaves (tokens : List Token) : List (Node × Fragment) :=
  tokens.filterMap leaf?

@[simp] theorem renderAll_nil : renderAll [] = "" := by
  simp [renderAll]

@[simp] theorem renderAll_cons (token : Token) (tokens : List Token) :
    renderAll (token :: tokens) = token.render ++ renderAll tokens := by
  simp [renderAll]

@[simp] theorem renderAll_append (first second : List Token) :
    renderAll (first ++ second) = renderAll first ++ renderAll second := by
  simp [renderAll]

@[simp] theorem leaves_append (first second : List Token) :
    leaves (first ++ second) = leaves first ++ leaves second :=
  List.filterMap_append

@[simp] theorem leaves_not (tokens : List Token) : leaves (.not :: tokens) = leaves tokens :=
  rfl

@[simp] theorem leaves_grouped (tokens : List Token) :
    leaves (.opening :: tokens ++ [.closing]) = leaves tokens := by
  rw [leaves_append]
  exact List.append_nil (leaves tokens)

/-- How loosely a condition is held together: by `OR`, by `AND`, or by nothing looser than `NOT`. -/
inductive Level where
  | disjunction
  | conjunction
  | negation
  deriving DecidableEq, Repr

/-- A row of tokens is a condition of the given level with the given truth value, when the leaves
have the truth values that are assigned to them. A leaf can be read only if its SQL is a unit, since
a connective in sight would bind with the tokens around it. -/
inductive Reads (assigned : Node → Truth) : Level → List Token → Truth → Prop where
  | leaf (condition : Node) {sql : Fragment} (unit : Lexeme.IsUnit sql.render) :
      Reads assigned .negation [.leaf condition sql] (assigned condition)
  | group {inner : List Token} {value : Truth} (inside : Reads assigned .disjunction inner value) :
      Reads assigned .negation (.opening :: inner ++ [.closing]) value
  | not {rest : List Token} {value : Truth} (negated : Reads assigned .negation rest value) :
      Reads assigned .negation (.not :: rest) value.not
  | factor {tokens : List Token} {value : Truth} (only : Reads assigned .negation tokens value) :
      Reads assigned .conjunction tokens value
  | and {first second : List Token} {a b : Truth} (left : Reads assigned .conjunction first a)
      (right : Reads assigned .negation second b) :
      Reads assigned .conjunction (first ++ .and :: second) (a.and b)
  | term {tokens : List Token} {value : Truth} (only : Reads assigned .conjunction tokens value) :
      Reads assigned .disjunction tokens value
  | or {first second : List Token} {a b : Truth} (left : Reads assigned .disjunction first a)
      (right : Reads assigned .conjunction second b) :
      Reads assigned .disjunction (first ++ .or :: second) (a.or b)

theorem Reads.isUnit_of_mem {assigned : Node → Truth} {level : Level} {tokens : List Token}
    {value : Truth} (reads : Reads assigned level tokens value) :
    ∀ leaf ∈ leaves tokens, Lexeme.IsUnit leaf.2.render := by
  induction reads with
  | leaf condition unit => exact List.forall_mem_singleton.2 unit
  | group inside ih =>
      rw [leaves_grouped]
      exact ih
  | not negated ih => exact ih
  | factor only ih => exact ih
  | term only ih => exact ih
  | and left right ihLeft ihRight =>
      rw [leaves_append]
      exact List.forall_mem_append.2 ⟨ihLeft, ihRight⟩
  | or left right ihLeft ihRight =>
      rw [leaves_append]
      exact List.forall_mem_append.2 ⟨ihLeft, ihRight⟩

inductive Connective where
  | and
  | or
  deriving DecidableEq, Repr

namespace Connective

def token : Connective → Token
  | .and => .and
  | .or => .or

def combine : Connective → List Truth → Truth
  | .and => .all
  | .or => .any

theorem leaf?_token (connective : Connective) : connective.token.leaf? = none := by
  cases connective <;> rfl

theorem combine_singleton (connective : Connective) (value : Truth) :
    connective.combine [value] = value := by
  cases connective with
  | and => exact Truth.and_yes value
  | or => exact Truth.or_no value

end Connective

/-! ## Conditions that can stand in any place -/

/-- A row of tokens that is read as one condition wherever it stands, with its truth value. -/
structure Clause where
  tokens : List Token
  truth : (Node → Truth) → Truth
  reads : ∀ assigned, Reads assigned .negation tokens (truth assigned)

namespace Clause

def leaf (condition : Node) (sql : Fragment) (unit : Lexeme.IsUnit sql.render) : Clause where
  tokens := [.leaf condition sql]
  truth := fun assigned => assigned condition
  reads := fun _ => .leaf condition unit

def group (clause : Clause) : Clause where
  tokens := .opening :: clause.tokens ++ [.closing]
  truth := clause.truth
  reads := fun assigned => .group (.term (.factor (clause.reads assigned)))

def negate (clause : Clause) : Clause where
  tokens := .not :: clause.tokens
  truth := fun assigned => (clause.truth assigned).not
  reads := fun assigned => .not (clause.reads assigned)

def follow (token : Token) (clauses : List Clause) : List Token :=
  clauses.flatMap fun clause => token :: clause.tokens

/-- Further factors make a conjunction longer. -/
theorem reads_and (assigned : Node → Truth) {first : List Token} {a : Truth}
    (left : Reads assigned .conjunction first a) (clauses : List Clause) :
    Reads assigned .conjunction (first ++ follow .and clauses)
      (a.and (.all (clauses.map fun clause => clause.truth assigned))) := by
  induction clauses generalizing first a with
  | nil => simpa [follow, Truth.all] using left
  | cons clause clauses ih =>
      have longer := ih (.and left (clause.reads assigned))
      simpa [follow, Truth.all, Truth.and_assoc] using longer

/-- Further terms make a disjunction longer. -/
theorem reads_or (assigned : Node → Truth) {first : List Token} {a : Truth}
    (left : Reads assigned .disjunction first a) (clauses : List Clause) :
    Reads assigned .disjunction (first ++ follow .or clauses)
      (a.or (.any (clauses.map fun clause => clause.truth assigned))) := by
  induction clauses generalizing first a with
  | nil => simpa [follow, Truth.any] using left
  | cons clause clauses ih =>
      have longer := ih (.or left (.factor (clause.reads assigned)))
      simpa [follow, Truth.any, Truth.or_assoc] using longer

/-- Clauses with a connective between each two, between brackets. -/
def chain (connective : Connective) (first : Clause) (others : List Clause) : Clause where
  tokens := .opening :: (first.tokens ++ follow connective.token others) ++ [.closing]
  truth := fun assigned =>
    connective.combine ((first :: others).map fun clause => clause.truth assigned)
  reads := fun assigned =>
    match connective with
    | .and => .group (.term (reads_and assigned (.factor (first.reads assigned)) others))
    | .or => .group (reads_or assigned (.term (.factor (first.reads assigned))) others)

end Clause

/-! ## Reading from left to right -/

/-- What was read since the last bracket was opened: the terms before the last `OR`, the factors
after it, and whether an odd number of `NOT` stands right before what comes next. -/
structure Progress where
  terms : Truth := .no
  factors : Truth := .yes
  negated : Bool := false

namespace Progress

def factor (progress : Progress) (value : Truth) : Progress :=
  { progress with
    factors := progress.factors.and (if progress.negated then value.not else value)
    negated := false }

def value (progress : Progress) : Truth :=
  progress.terms.or progress.factors

end Progress

/-- What was read after one more token, inside brackets of which the innermost come first. -/
def step (assigned : Node → Truth) : List Progress → Token → List Progress
  | inside, .opening => {} :: inside
  | inner :: outer :: others, .closing => outer.factor inner.value :: others
  | inner :: others, .not => { inner with negated := !inner.negated } :: others
  | inner :: others, .or =>
      { inner with terms := inner.value, factors := .yes, negated := false } :: others
  | inner :: others, .leaf condition _ => inner.factor (assigned condition) :: others
  | inside, _ => inside

def run (assigned : Node → Truth) (inside : List Progress) (tokens : List Token) : List Progress :=
  tokens.foldl (step assigned) inside

theorem run_append (assigned : Node → Truth) (inside : List Progress) (first second : List Token) :
    run assigned inside (first ++ second) = run assigned (run assigned inside first) second :=
  List.foldl_append

/-- What reading a condition of the given level adds to what was read before. At the looser levels
the condition has to stand where nothing tighter is pending. -/
def Level.Extends (level : Level) (before : Progress) (value : Truth) (after : Progress) : Prop :=
  match level with
  | .negation => after = before.factor value
  | .conjunction => before.negated = false → after = before.factor value
  | .disjunction =>
      before.negated = false → before.factors = .yes →
        after.negated = false ∧ after.value = before.terms.or value

/-- Reading a condition from left to right yields its truth value, whatever was read before. -/
theorem Reads.run_eq {assigned : Node → Truth} {level : Level} {tokens : List Token} {value : Truth}
    (reads : Reads assigned level tokens value) (before : Progress) (outer : List Progress) :
    ∃ after, run assigned (before :: outer) tokens = after :: outer ∧
      level.Extends before value after := by
  induction reads generalizing before outer with
  | leaf condition unit => exact ⟨_, rfl, rfl⟩
  | group inside ih =>
      obtain ⟨inner, read, done⟩ := ih {} (before :: outer)
      obtain ⟨_, same⟩ := done rfl rfl
      refine ⟨before.factor inner.value, ?_, ?_⟩
      · rw [run_append]
        change run assigned (run assigned ({} :: before :: outer) _) _ = _
        rw [read]
        rfl
      · rw [Level.Extends, same]
        exact congrArg before.factor (Truth.no_or _)
  | not negated ih =>
      obtain ⟨after, read, done⟩ := ih { before with negated := !before.negated } outer
      refine ⟨after, read, ?_⟩
      rw [Level.Extends] at done ⊢
      rw [done, Progress.factor, Progress.factor]
      cases before.negated <;> simp
  | factor only ih =>
      obtain ⟨after, read, done⟩ := ih before outer
      exact ⟨after, read, fun _ => done⟩
  | and left right ihLeft ihRight =>
      obtain ⟨mid, readLeft, doneLeft⟩ := ihLeft before outer
      obtain ⟨after, readRight, doneRight⟩ := ihRight mid outer
      refine ⟨after, ?_, fun plain => ?_⟩
      · rw [run_append, readLeft]
        exact readRight
      · rw [Level.Extends] at doneRight
        rw [doneRight, doneLeft plain]
        simp [Progress.factor, plain, Truth.and_assoc]
  | term only ih =>
      obtain ⟨after, read, done⟩ := ih before outer
      refine ⟨after, read, fun plain fresh => ?_⟩
      rw [done plain]
      simp [Progress.factor, Progress.value, plain, fresh]
  | or left right ihLeft ihRight =>
      obtain ⟨mid, readLeft, doneLeft⟩ := ihLeft before outer
      obtain ⟨after, readRight, doneRight⟩ :=
        ihRight { mid with terms := mid.value, factors := .yes, negated := false } outer
      refine ⟨after, ?_, fun plain fresh => ?_⟩
      · rw [run_append, readLeft]
        exact readRight
      · obtain ⟨_, same⟩ := doneLeft plain fresh
        rw [doneRight rfl]
        simp [Progress.factor, Progress.value, ← Truth.or_assoc, ← same]

/-- A row of tokens has at most one truth value. -/
theorem Reads.unique {assigned : Node → Truth} {tokens : List Token} {one other : Truth}
    (first : Reads assigned .disjunction tokens one)
    (second : Reads assigned .disjunction tokens other) : one = other := by
  obtain ⟨after, read, done⟩ := first.run_eq {} []
  obtain ⟨after', read', done'⟩ := second.run_eq {} []
  have same : after = after' := List.singleton_inj.1 (read.symm.trans read')
  have left : after.value = one := by simpa using (done rfl rfl).2
  have right : after'.value = other := by simpa using (done' rfl rfl).2
  rw [← left, ← right, same]

end Token

end Sql

end Cql
