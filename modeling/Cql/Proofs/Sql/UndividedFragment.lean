import Cql.Proofs.Sql.Exposure
import Cql.Proofs.Sql.SafeFragment

/-!
# Fragments without connectives in sight

A safe fragment is undivided when no connective is seen in it outside brackets and quotes. A name is
undivided and so is a call, of which only the name is seen, a group between brackets, and what an
operator makes of two undivided fragments.
-/

namespace Cql.Sql

open Lexeme

namespace Fragment

/-- The fragment is safe, and no connective is seen in it. -/
inductive Undivided (allowed : String → Prop) (sql : Fragment) : Prop where
  | intro (lexemes : List Lexeme) (sound : Sound allowed lexemes) (balanced : Balanced lexemes)
      (written : writeAll lexemes = sql.render.toList) (quiet : Quiet (exposed [] lexemes))

/-- Whether nothing is seen of what stands between two fixed fragments, and no connective in the
fragments themselves. -/
def hides (before after : Fragment) : Bool :=
  isEnclosure before after &&
    match nest [] (marks before.render) with
    | some (bracket :: opened) =>
        let shown := exposed [] (marks before.render)
        decide (Quiet shown) && shown.getLast?.any (!isWordPart ·) &&
          decide (Quiet (exposed (bracket :: opened) (marks after.render)))
    | _ => false

def isUndivided (sql : Fragment) : Bool :=
  isSeparator sql && decide (Quiet (exposed [] (marks sql.render)))

/-- Whether a fixed fragment without a connective in sight begins and ends between words. -/
def isOperator (sql : Fragment) : Bool :=
  isUndivided sql && (exposed [] (marks sql.render)).head?.any (!isWordPart ·) &&
    (exposed [] (marks sql.render)).getLast?.any (!isWordPart ·)

variable {allowed : String → Prop} {first second : Fragment}

theorem Undivided.safe (undivided : Undivided allowed first) : Safe allowed first := by
  obtain ⟨lexemes, sound, balanced, written, _⟩ := undivided
  exact ⟨lexemes, sound, balanced, written⟩

theorem Undivided.isUnit (undivided : Undivided allowed first) : IsUnit first.render := by
  obtain ⟨lexemes, sound, balanced, written, quiet⟩ := undivided
  exact ⟨lexemes, sound.scan_eq written, balanced, quiet⟩

theorem Undivided.congr (undivided : Undivided allowed first)
    (same : first.render = second.render) : Undivided allowed second := by
  obtain ⟨lexemes, sound, balanced, written, quiet⟩ := undivided
  exact ⟨lexemes, sound, balanced, same ▸ written, quiet⟩

theorem undivided_nil : Undivided allowed [] :=
  ⟨[], .of_neutral (fun _ among => nomatch among), rfl, rfl, by decide⟩

theorem Grouped.undivided (grouped : Grouped allowed first) : Undivided allowed first := by
  obtain ⟨inner, sound, balanced, written⟩ := grouped
  refine ⟨_, sound.grouped, balanced.grouped, written, ?_⟩
  have hidden := quiet_nil.hidden (inner.length + 1)
  rw [List.append_nil] at hidden
  rw [exposed_grouped balanced]
  exact (@quiet_append_cons '(' rfl [] _).2 ⟨quiet_nil, hidden⟩

/-- A safe fragment that is hidden between fixed fragments is undivided with them. -/
theorem Safe.undivided {before after : Fragment} (safe : Safe allowed first)
    (hidden : hides before after = true) : Undivided allowed (before ++ first ++ after) := by
  obtain ⟨lexemes, sound, balanced, written⟩ := safe
  obtain ⟨encloses, seen⟩ := Bool.and_eq_true_iff.1 hidden
  simp only [isEnclosure, Bool.and_eq_true, beq_iff_eq, Option.bind_eq_some_iff] at encloses
  obtain ⟨⟨left, right⟩, opened, opens, closes⟩ := encloses
  refine ⟨marks before.render ++ lexemes ++ marks after.render, sound.around left right,
    balanced.around opens closes, by simp [written], ?_⟩
  rw [opens] at seen
  cases opened with
  | nil => cases seen
  | cons bracket opened =>
      simp only [Bool.and_eq_true, decide_eq_true_eq, Option.any_eq_true, Bool.not_eq_true']
        at seen
      obtain ⟨⟨front, c, last, gap⟩, back⟩ := seen
      rw [List.append_assoc, exposed_append opens, exposed_append (balanced.nest_eq _),
        balanced.exposed_inside (List.cons_ne_nil _ _)]
      exact front.append_of_last (back.hidden _) last gap

theorem undivided_fixed {sql : Fragment} (fixed : isUndivided sql = true) :
    Undivided allowed sql := by
  simp only [isUndivided, isSeparator, Bool.and_eq_true, beq_iff_eq, decide_eq_true_eq] at fixed
  obtain ⟨⟨⟨_, neutral⟩, level⟩, quiet⟩ := fixed
  exact ⟨marks sql.render, .marks neutral, level, by simp, quiet⟩

theorem undivided_call {function : String} {arguments : List Fragment}
    (each : ∀ sql ∈ arguments, Safe allowed sql)
    (named : hides (function ++ "(") ")" = true) :
    Undivided allowed (Fragment.call function arguments) := by
  have listed : Safe allowed (Fragment.joined ", " arguments) :=
    Safe.joined each (by decide)
  have whole := listed.undivided named
  rwa [List.append_assoc, List.append_assoc] at whole

theorem undivided_column {name : String} (known : allowed name) :
    Undivided allowed [.column name] :=
  ⟨[.identifier name], .single known, rfl, writeAll_column name, show Quiet ['"'] by decide⟩

theorem undivided_string {content : String} (fixed : content ∈ fixedStrings) :
    Undivided allowed ("'" ++ content ++ "'" : String) :=
  ⟨[.string content], .single fixed, rfl, writeAll_string fixed, show Quiet ['"'] by decide⟩

/-- An operator may stand between undivided fragments. -/
theorem Undivided.between {middle : Fragment} (one : Undivided allowed first)
    (two : Undivided allowed second) (operator : isOperator middle = true) :
    Undivided allowed (first ++ middle ++ second) := by
  obtain ⟨left, soundLeft, balancedLeft, writtenLeft, quietLeft⟩ := one
  obtain ⟨right, soundRight, balancedRight, writtenRight, quietRight⟩ := two
  simp only [isOperator, isUndivided, isSeparator, Bool.and_eq_true, Bool.not_eq_true',
    List.isEmpty_eq_false_iff, beq_iff_eq, decide_eq_true_eq, Option.any_eq_true] at operator
  obtain ⟨⟨⟨⟨⟨nonempty, neutral⟩, level⟩, quiet⟩, c, head, begins⟩, d, last, ends⟩ := operator
  refine ⟨left ++ marks middle.render ++ right, soundLeft.between soundRight neutral nonempty,
    (balancedLeft.append level).append balancedRight, by simp [writtenLeft, writtenRight], ?_⟩
  have balanced : Balanced (left ++ marks middle.render) := balancedLeft.append level
  rw [exposed_append balanced, exposed_append balancedLeft]
  refine (quietLeft.append_of_head quiet head begins).append_of_last quietRight ?_ ends
  rw [List.getLast?_append, last]
  rfl

end Fragment

end Cql.Sql
