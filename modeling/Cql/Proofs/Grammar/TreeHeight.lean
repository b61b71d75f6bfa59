import Cql.Proofs.Filter.ErrorReport
import Cql.Proofs.Grammar.Layout

/-!
# The height of syntax trees

Every rule that leads back to itself does so between brackets, and no such round is longer than four
rules. The height of a tree is therefore bounded by the nesting of its brackets: it is at most four
times as large, up to a constant that each rule has for itself. So the bound on the nesting is one
on the height, whatever the length of the filter.
-/

namespace Cql

namespace Outline

mutual

/-- How many rules lie on the longest way from the root to a leaf. -/
def height : Outline → Nat
  | .leaf _ _ => 1
  | .branch _ children => heightAll children + 1

def heightAll : List Outline → Nat
  | [] => 0
  | outline :: outlines => max (height outline) (heightAll outlines)

end

theorem heightAll_append (outlines others : List Outline) :
    heightAll (outlines ++ others) = max (heightAll outlines) (heightAll others) := by
  induction outlines with
  | nil => exact (Nat.zero_max _).symm
  | cons outline outlines ih => rw [List.cons_append, heightAll, heightAll, ih, Nat.max_assoc]

theorem heightAll_singleton (outline : Outline) : heightAll [outline] = outline.height :=
  Nat.max_zero _

end Outline

namespace Grammar

open Outline (heightAll)

/-! ## Open brackets in a row of tokens -/

/-- By how much a token changes the number of open brackets. -/
def turn (token : List Char) : Int :=
  if token = ['('] then 1 else if token = [')'] then -1 else 0

def net : List (List Char) → Int
  | [] => 0
  | token :: tokens => turn token + net tokens

/-- By how much the number of open brackets goes up at most among the tokens. -/
def rise : List (List Char) → Int
  | [] => 0
  | token :: tokens => max 0 (turn token + rise tokens)

variable {tokens tokens' : List (List Char)}

theorem rise_nonneg (tokens : List (List Char)) : 0 ≤ rise tokens := by
  cases tokens with
  | nil => exact Int.le_refl 0
  | cons token tokens => exact Int.le_max_left _ _

theorem net_append (tokens tokens' : List (List Char)) :
    net (tokens ++ tokens') = net tokens + net tokens' := by
  induction tokens with
  | nil => exact (Int.zero_add _).symm
  | cons token tokens ih => rw [List.cons_append, net, net, ih, Int.add_assoc]

theorem rise_append (tokens tokens' : List (List Char)) :
    rise (tokens ++ tokens') = max (rise tokens) (net tokens + rise tokens') := by
  induction tokens with
  | nil =>
      have positive := rise_nonneg tokens'
      simp only [List.nil_append, rise, net]
      omega
  | cons token tokens ih =>
      rw [List.cons_append, rise, rise, net, ih]
      omega

/-- The brackets of a row go up from as many as were open before. -/
theorem add_rise_le_deepest {level : Int} {depth : Nat} (under : level ≤ depth)
    (tokens : List (List Char)) : level + rise tokens ≤ deepest depth tokens := by
  induction tokens generalizing level depth with
  | nil =>
      rw [rise, deepest]
      omega
  | cons token tokens ih =>
      have step : level + turn token ≤ depthAfter depth token := by
        unfold turn depthAfter
        split
        · omega
        · split <;> omega
      have later := ih step
      rw [rise, deepest]
      omega

theorem brackets_looksOf (rule : Rule) :
    Look.opening ∉ looksOf rule ∧ Look.closing ∉ looksOf rule := by
  cases rule with
  | keyword word => simp [looksOf]
  | _ => decide

theorem turn_of_reads {rule : Rule} {text : List Char} (reads : (Terminal.token rule).Reads text) :
    turn text = 0 := by
  have brackets := brackets_looksOf rule
  obtain ⟨c, cs, rfl, looks⟩ := reads.look
  unfold turn
  split
  · next same =>
      cases same
      exact absurd looks brackets.1
  · split
    · next same =>
        cases same
        exact absurd looks brackets.2
    · rfl

/-! ## The balance of phrases -/

def Phrase.net : Phrase → Int
  | .symbol mark => turn [mark]
  | .seq first second | .join first second => first.net + second.net
  | .alt first _ => first.net
  | .start | .text _ | .ref _ | .opt _ | .again _ => 0

def Phrase.isBalanced : Phrase → Bool
  | .seq first second | .join first second => first.isBalanced && second.isBalanced
  | .alt first second => first.isBalanced && second.isBalanced && first.net == second.net
  | .opt inner | .again inner => inner.isBalanced && inner.net == 0
  | .start | .symbol _ | .text _ | .ref _ => true

/-- Every rule closes the brackets that it opens. -/
theorem isBalanced_definition (rule : Rule) :
    (match definition rule with
      | .phrase body => body.isBalanced && body.net == 0
      | _ => true) = true := by
  cases rule <;> rfl

theorem Derivation.net_eq {phrase : Phrase} {outlines : List Outline}
    (derived : Derivation phrase tokens outlines) (balanced : phrase.isBalanced = true) :
    Grammar.net tokens = phrase.net := by
  induction derived with
  | start | ending | optNone _ | againNone _ => rfl
  | symbol mark => exact Int.add_zero _
  | token reads =>
      rw [Grammar.net, turn_of_reads reads]
      rfl
  | @phrase rule body _ _ defined _ ih =>
      have known := isBalanced_definition rule
      simp only [defined, Bool.and_eq_true, beq_iff_eq] at known
      exact (ih known.1).trans known.2
  | seq _ _ ihOne ihTwo | join _ _ ihOne ihTwo =>
      obtain ⟨one, two⟩ := Bool.and_eq_true_iff.1 balanced
      rw [net_append, ihOne one, ihTwo two]
      rfl
  | altFirst _ ih =>
      simp only [Phrase.isBalanced, Bool.and_eq_true] at balanced
      exact ih balanced.1.1
  | altSecond _ ih =>
      simp only [Phrase.isBalanced, Bool.and_eq_true, beq_iff_eq] at balanced
      exact (ih balanced.1.2).trans balanced.2.symm
  | optSome _ ih =>
      simp only [Phrase.isBalanced, Bool.and_eq_true, beq_iff_eq] at balanced
      exact (ih balanced.1).trans balanced.2
  | againMore _ _ ihOne ihMore =>
      have parts := balanced
      simp only [Phrase.isBalanced, Bool.and_eq_true, beq_iff_eq] at parts
      rw [net_append, ihOne parts.1, ihMore balanced, parts.2]
      rfl

/-! ## Phrases that are sure to open a bracket -/

def Phrase.isToken : Phrase → Bool
  | .ref rule =>
      match definition rule with
      | .token _ => true
      | _ => false
  | _ => false

def Phrase.opens (known : Rule → Bool) : Phrase → Bool
  | .symbol mark => mark == '('
  | .ref rule => known rule
  | .seq first second | .join first second =>
      first.opens known || (first.isToken && second.opens known)
  | .alt first second => first.opens known && second.opens known
  | .start | .text _ | .opt _ | .again _ => false

def isBracketed (rule : Rule) : Bool :=
  match definition rule with
  | .phrase body => body.opens fun _ => false
  | _ => false

/-- A token that is no bracket leaves the number of open brackets as it is. -/
theorem Derivation.flat {phrase : Phrase} {outlines : List Outline}
    (derived : Derivation phrase tokens outlines) (token : phrase.isToken = true) :
    Grammar.net tokens = 0 ∧ rise tokens = 0 := by
  cases derived with
  | ending => exact ⟨rfl, rfl⟩
  | token reads =>
      rw [Grammar.net, rise, turn_of_reads reads]
      exact ⟨rfl, rfl⟩
  | phrase defined _ => simp [Phrase.isToken, defined] at token
  | _ => cases token

theorem Derivation.one_le_rise {known : Rule → Bool}
    (rules : ∀ {rule tokens outlines}, known rule = true →
      Derivation (.ref rule) tokens outlines → 1 ≤ rise tokens)
    {phrase : Phrase} {outlines : List Outline} (derived : Derivation phrase tokens outlines)
    (opens : phrase.opens known = true) : 1 ≤ rise tokens := by
  have both {first second : Phrase} {tokens tokens' : List (List Char)}
      {outlines : List Outline} (one : Derivation first tokens outlines)
      (opens : (first.opens known || (first.isToken && second.opens known)) = true)
      (ihOne : first.opens known = true → 1 ≤ rise tokens)
      (ihTwo : second.opens known = true → 1 ≤ rise tokens') :
      1 ≤ rise (tokens ++ tokens') := by
    rw [rise_append]
    rcases Bool.or_eq_true_iff.1 opens with left | right
    · have := ihOne left
      omega
    · obtain ⟨token, later⟩ := Bool.and_eq_true_iff.1 right
      have := ihTwo later
      have := (one.flat token).1
      omega
  induction derived with
  | start | optNone _ | optSome _ _ | againNone _ | againMore _ _ _ _ => cases opens
  | symbol mark =>
      rw [beq_iff_eq.1 opens]
      decide
  | ending => exact rules opens .ending
  | token reads => exact rules opens (.token reads)
  | phrase defined inner _ => exact rules opens (.phrase defined inner)
  | seq one _ ihOne ihTwo | join one _ ihOne ihTwo => exact both one opens ihOne ihTwo
  | altFirst _ ih => exact ih (Bool.and_eq_true_iff.1 opens).1
  | altSecond _ ih => exact ih (Bool.and_eq_true_iff.1 opens).2

theorem Derivation.one_le_rise_of_isBracketed {rule : Rule} {outlines : List Outline}
    (bracketed : isBracketed rule = true) (derived : Derivation (.ref rule) tokens outlines) :
    1 ≤ rise tokens := by
  cases derived with
  | ending => cases bracketed
  | token reads =>
      obtain ⟨_, _, defined, _⟩ := reads
      simp [isBracketed, defined] at bracketed
  | phrase defined inner =>
      simp only [isBracketed, defined] at bracketed
      exact inner.one_le_rise (fun absent => by cases absent) bracketed

/-! ## The height of what is derived -/

/-- By how many rules a tree of the rule may be higher than four times the nesting of its brackets.
Rules that open brackets themselves have a part of the nesting for their own. -/
def ruleExcess : Rule → Int
  | .cqlFilter => 11
  | .booleanExpression => 10
  | .booleanTerm => 9
  | .booleanFactor => 8
  | .booleanPrimary => 7
  | .predicate => 6
  | .comparisonPredicate => 5
  | .binaryComparisonPredicate | .isLikePredicate | .isBetweenPredicate | .isInListPredicate
  | .isNullPredicate => 4
  | .isNullOperand | .scalarExpression | .characterExpression | .numericExpression
  | .geomExpression | .temporalExpression | .intervalParameter | .arrayExpression
  | .arrayElement | .argument => 3
  | .characterClause | .patternExpression | .propertyName | .spatialInstance | .coordinate => 2
  | .spatialPredicate | .temporalPredicate | .arrayPredicate | .interval | .arrayClause
  | .argumentList | .linestring => 0
  | .instantInstance | .point | .linestringDef | .multiPoint => -1
  | .now | .polygon | .multiLinestring | .multiPolygon | .geometryCollection | .bbox => -2
  | .polygonDef => -3
  | _ => 1

/-- By how many rules the trees of the phrase may be higher than four times the nesting of its
brackets. -/
def Phrase.excess : Phrase → Int
  | .symbol mark => -4 * max 0 (turn [mark])
  | .ref rule => ruleExcess rule
  | .seq first second | .join first second =>
      max (first.excess - if first.isToken && second.opens isBracketed then 4 else 0)
        (second.excess - 4 * first.net)
  | .alt first second => max first.excess second.excess
  | .opt inner | .again inner => max 0 inner.excess
  | .start | .text _ => 0

theorem excess_definition (rule : Rule) :
    (match definition rule with
      | .token _ => decide (1 ≤ ruleExcess rule)
      | .phrase body => decide (body.excess + 1 ≤ ruleExcess rule)
      | .fragment _ => true) = true := by
  cases rule <;> rfl

theorem Derivation.heightAll_le {phrase : Phrase} {outlines : List Outline}
    (derived : Derivation phrase tokens outlines) (balanced : phrase.isBalanced = true) :
    (heightAll outlines : Int) ≤ 4 * rise tokens + phrase.excess := by
  have both {first second : Phrase} {tokens tokens' : List (List Char)}
      {outlines outlines' : List Outline} (one : Derivation first tokens outlines)
      (two : Derivation second tokens' outlines') (balanced : first.isBalanced = true)
      (low : (heightAll outlines : Int) ≤ 4 * rise tokens + first.excess)
      (low' : (heightAll outlines' : Int) ≤ 4 * rise tokens' + second.excess) :
      (heightAll (outlines ++ outlines') : Int) ≤ 4 * rise (tokens ++ tokens') +
        max (first.excess - if first.isToken && second.opens isBracketed then 4 else 0)
          (second.excess - 4 * first.net) := by
    have change := one.net_eq balanced
    rw [Outline.heightAll_append, rise_append]
    split
    · next both =>
        obtain ⟨token, opens⟩ := Bool.and_eq_true_iff.1 both
        have flat := one.flat token
        have opened := two.one_le_rise Derivation.one_le_rise_of_isBracketed opens
        omega
    · omega
  induction derived with
  | start | ending => decide
  | symbol mark =>
      simp only [heightAll, rise, Phrase.excess]
      omega
  | @token rule text reads =>
      obtain ⟨_, _, defined, _⟩ := reads
      have known := excess_definition rule
      have positive := rise_nonneg [text]
      simp only [defined, decide_eq_true_eq] at known
      simp only [Outline.heightAll_singleton, Outline.height, Phrase.excess]
      omega
  | @phrase rule body tokens outlines defined _ ih =>
      have known := excess_definition rule
      have closed := isBalanced_definition rule
      simp only [defined, decide_eq_true_eq, Bool.and_eq_true] at known closed
      have inner := ih closed.1
      simp only [Outline.heightAll_singleton, Outline.height, Phrase.excess]
      omega
  | seq one two ihOne ihTwo | join one two ihOne ihTwo =>
      obtain ⟨first, second⟩ := Bool.and_eq_true_iff.1 balanced
      exact both one two first (ihOne first) (ihTwo second)
  | altFirst _ ih =>
      simp only [Phrase.isBalanced, Bool.and_eq_true] at balanced
      have inner := ih balanced.1.1
      rw [Phrase.excess]
      omega
  | altSecond _ ih =>
      simp only [Phrase.isBalanced, Bool.and_eq_true] at balanced
      have inner := ih balanced.1.2
      rw [Phrase.excess]
      omega
  | optNone inner | againNone inner =>
      simp only [heightAll, rise, Phrase.excess]
      omega
  | optSome _ ih =>
      have inner := ih (Bool.and_eq_true_iff.1 balanced).1
      rw [Phrase.excess]
      omega
  | againMore one _ ihOne ihMore =>
      have parts := balanced
      simp only [Phrase.isBalanced, Bool.and_eq_true, beq_iff_eq] at parts
      have inner := ihOne parts.1
      have others := ihMore balanced
      have change := one.net_eq parts.1
      rw [Phrase.excess] at others ⊢
      rw [Outline.heightAll_append, rise_append]
      omega

end Grammar

/-! ## Ways through a tree -/

namespace Node

inductive Path : Node → List Node → Prop where
  | stop (node : Node) : Path node [node]
  | down {node child : Node} {nodes : List Node} (among : child ∈ node.children)
      (below : Path child nodes) : Path node (node :: nodes)

theorem height_le_heightAll {child : Node} {children : List Node} (among : child ∈ children) :
    child.outline.height ≤ Outline.heightAll (outlineAll children) := by
  induction children with
  | nil => cases among
  | cons first children ih =>
      rw [outlineAll, Outline.heightAll]
      rcases List.mem_cons.1 among with rfl | later
      · exact Nat.le_max_left _ _
      · exact Nat.le_trans (ih later) (Nat.le_max_right _ _)

/-- No way through a tree is longer than its outline is high. -/
theorem Path.length_le {node : Node} {nodes : List Node} (path : node.Path nodes)
    (formed : node.Formed) : nodes.length ≤ node.outline.height := by
  induction path with
  | stop node =>
      cases node
      rw [outline]
      split
      · exact Nat.le_refl 1
      · exact Nat.succ_pos _
  | @down node child nodes among below ih =>
      have inner := ih (formed.children child among)
      have higher := height_le_heightAll among
      cases formed with
      | token => cases among
      | phrase defined _ _ =>
          simp only [outline, defined, Outline.height, List.length_cons] at higher ⊢
          omega

end Node

/-! ## Filters -/

namespace Filter

open Cql.Grammar

/-- A filter is read exactly if it matches the grammar and no more brackets than allowed are open at
once among its tokens, and then no way through its tree is longer than the bound on the nesting
says. -/
theorem parse_eq_ok_iff_deepest (filter : String) (tree : Node) :
    (parse filter = .ok tree ↔ Grammar.parse .cqlFilter filter.toList = .ok [tree] ∧
      ∃ tokens, Laid tokens filter.toList ∧ Derivation (.ref .cqlFilter) tokens [tree.outline] ∧
        deepest 0 tokens ≤ nestingLimit) ∧
    (parse filter = .ok tree →
      ∀ nodes, tree.Path nodes → nodes.length ≤ 4 * nestingLimit + 11) := by
  have exact : parse filter = .ok tree ↔ Grammar.parse .cqlFilter filter.toList = .ok [tree] ∧
      ∃ tokens, Laid tokens filter.toList ∧ Derivation (.ref .cqlFilter) tokens [tree.outline] ∧
        deepest 0 tokens ≤ nestingLimit := by
    constructor
    · intro accepted
      rcases parse_cases filter with
        ⟨_, _, refused⟩ | ⟨free, other, matched, read⟩ | ⟨_, _, _, refused⟩
      · rw [refused] at accepted
        cases accepted
      · rw [read] at accepted
        cases accepted
        obtain ⟨tokens, laid, derived⟩ := tokens_of_parse matched
        exact ⟨matched, tokens, laid, derived, (firstOverdeep_laid laid derived _).1 free⟩
      · rw [refused] at accepted
        cases accepted
    · rintro ⟨matched, tokens, laid, derived, shallow⟩
      have free := (firstOverdeep_laid laid derived nestingLimit).2 shallow
      rw [parse, parseChars, free]
      simp only [matched]
  refine ⟨exact, fun accepted nodes path => ?_⟩
  obtain ⟨_, tokens, _, derived, shallow⟩ := exact.1 accepted
  have low : (Outline.heightAll [tree.outline] : Int) ≤ 4 * rise tokens + 11 :=
    derived.heightAll_le rfl
  have nested : 0 + rise tokens ≤ deepest 0 tokens := add_rise_le_deepest (Int.le_refl 0) tokens
  have short := path.length_le (formed_of_parse accepted)
  rw [Outline.heightAll_singleton] at low
  omega

/-- Brackets in a text and in a quoted identifier do not count. -/
theorem parse_eq_ok_iff_deepest_quoted :
    let filter := "(\"((\" = '((''(' AND NOT (f(b) = 1))"
    ∃ tree, parse filter = .ok tree ∧
      (∃ tokens, Laid tokens filter.toList ∧ Derivation (.ref .cqlFilter) tokens [tree.outline] ∧
        deepest 0 tokens ≤ nestingLimit) ∧
      ∀ nodes, tree.Path nodes → nodes.length ≤ 4 * nestingLimit + 11 := by
  intro filter
  have readable : (parse filter).isOk = true := by decide +kernel
  cases accepted : parse filter with
  | error errors =>
      rw [accepted] at readable
      cases readable
  | ok tree =>
      obtain ⟨exact, low⟩ := parse_eq_ok_iff_deepest filter tree
      exact ⟨tree, rfl, (exact.1 accepted).2, low accepted⟩

end Filter

end Cql
