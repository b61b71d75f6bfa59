import Cql.Command.Report
import Cql.Proofs.Compile.FirstOffence
import Cql.Proofs.Filter.ErrorReport

/-!
# Checking and compiling agree

A check reads a filter as compiling does, and lists the errors that compiling gives. Each of them
takes one line: what an error quotes of the filter ends at the first white space, and nothing else
in a message can break a line.
-/

namespace Cql

namespace Text

/-- The code points at which any reader of Unicode text may end a line. -/
def lineBreakRanges : List CodeRange :=
  [(0xa, 0xd), (0x85, 0x85), (0x2028, 0x2029)]

def isLineBreak (c : Char) : Bool :=
  inRanges lineBreakRanges c

def Unbroken (text : String) : Prop :=
  ∀ c ∈ text.toList, isLineBreak c = false

/-! ## Texts on one line -/

theorem isWhiteSpace_of_isLineBreak {c : Char} (breaks : isLineBreak c = true) :
    isWhiteSpace c = true := by
  simp only [isLineBreak, isWhiteSpace, inRanges, lineBreakRanges, whiteSpaceRanges, List.any_cons,
    List.any_nil, Bool.or_false, Bool.or_eq_true, Bool.and_eq_true, decide_eq_true_eq] at *
  omega

theorem unbroken_ofList {cs : List Char} (unbroken : (cs.all fun c => !isLineBreak c) = true) :
    Unbroken (String.ofList cs) := by
  intro c among
  rw [String.toList_ofList] at among
  simpa using List.all_eq_true.1 unbroken c among

theorem Unbroken.append {first second : String} (one : Unbroken first) (two : Unbroken second) :
    Unbroken (first ++ second) := by
  intro c among
  rw [String.toList_append, List.mem_append] at among
  exact among.elim (one c) (two c)

theorem unbroken_intercalate {separator : String} (between : Unbroken separator)
    {texts : List String} (each : ∀ text ∈ texts, Unbroken text) :
    Unbroken (separator.intercalate texts) := by
  induction texts with
  | nil => exact unbroken_ofList rfl
  | cons text texts ih =>
      rw [List.forall_mem_cons] at each
      cases texts with
      | nil =>
          rw [String.intercalate_singleton]
          exact each.1
      | cons next others =>
          rw [String.intercalate_cons_cons]
          exact (each.1.append between).append (ih each.2)

/-- A number is written with digits, and no digit ends a line. -/
theorem unbroken_toString (number : Nat) : Unbroken (toString number) := by
  intro c among
  rw [Nat.toString_eq_ofList_toDigits, String.toList_ofList] at among
  have digit := Nat.isDigit_of_mem_toDigits (by decide) (by decide) among
  have least : 48 ≤ c.toNat := (Char.isDigit_iff_toNat.1 digit).1
  have most : c.toNat ≤ 57 := (Char.isDigit_iff_toNat.1 digit).2
  simp only [isLineBreak, inRanges, lineBreakRanges, List.any_cons, List.any_nil, Bool.or_false,
    Bool.or_eq_false_iff, Bool.and_eq_false_iff, decide_eq_false_iff_not]
  omega

/-- A name stays on one line when it is spaced out. -/
theorem unbroken_spaced {name : String} (unbroken : Unbroken name) :
    Unbroken (name.map fun c => if c == '_' then ' ' else c) := by
  intro c among
  rw [String.toList_map] at among
  obtain ⟨given, there, rfl⟩ := List.mem_map.1 among
  split
  · decide
  · exact unbroken given there

end Text

open Cql.Text

/-! ## Messages on one line -/

theorem Keyword.unbroken_word (keyword : Keyword) : Unbroken keyword.word := by
  cases keyword <;> exact unbroken_ofList (by decide)

theorem Rule.unbroken_name (rule : Rule) : Unbroken rule.name := by
  cases rule with
  | keyword word =>
      have mark : Unbroken "kw_" := unbroken_ofList (by decide)
      exact mark.append word.unbroken_word
  | _ => exact unbroken_ofList (by decide)

theorem Rule.unbroken_label (rule : Rule) : Unbroken rule.label := by
  unfold label
  split
  all_goals first
    | with_reducible exact unbroken_spaced (unbroken_name _)
    | exact unbroken_ofList (by decide)

namespace Filter

/-- What an error quotes ends at the first white space. -/
theorem unbroken_describeOffending (text : List Char) (offset : Nat) :
    Unbroken (describeOffending text offset) := by
  have quote : Unbroken "'" := unbroken_ofList (by decide)
  unfold describeOffending
  split
  · exact unbroken_ofList (by decide)
  · refine (quote.append fun c among => ?_).append quote
    rw [String.toList_ofList, offendingText] at among
    split at among
    · have printed := List.all_eq_true.1 List.all_takeWhile c (List.mem_of_mem_take among)
      cases breaks : isLineBreak c with
      | false => rfl
      | true => simp [isWhiteSpace_of_isLineBreak breaks] at printed
    · cases among

theorem mem_insertLabel {label other : String} {labels : List String}
    (among : other ∈ insertLabel label labels) : other = label ∨ other ∈ labels := by
  induction labels with
  | nil => exact .inl (List.mem_singleton.1 among)
  | cons first others ih =>
      unfold insertLabel at among
      split at among
      · exact .inr among
      · split at among
        · exact List.mem_cons.1 among
        · rcases List.mem_cons.1 among with rfl | later
          · exact .inr (List.mem_cons_self ..)
          · exact (ih later).imp_right (List.mem_cons_of_mem _)

theorem unbroken_expectedLabels (rules : List Rule) :
    ∀ label ∈ expectedLabels rules, Unbroken label := by
  induction rules with
  | nil => exact List.forall_mem_nil _
  | cons rule rules ih =>
      intro label among
      rcases mem_insertLabel among with rfl | later
      · exact rule.unbroken_label
      · exact ih label later

theorem unbroken_describeFailure (text : List Char) (offset : Nat) (rules : List Rule) :
    Unbroken (describeFailure text offset rules) := by
  have unexpected : Unbroken ("unexpected " ++ describeOffending text offset) :=
    (unbroken_ofList (by decide)).append (unbroken_describeOffending text offset)
  unfold describeFailure
  split
  · exact unexpected
  · refine (unexpected.append (unbroken_ofList (by decide))).append ?_
    exact unbroken_intercalate (unbroken_ofList (by decide)) (unbroken_expectedLabels rules)

theorem unbroken_errorsBehind (text : List Char) (remaining offset : Nat) :
    ∀ error ∈ errorsBehind text remaining offset, Unbroken error.message := by
  induction remaining generalizing offset with
  | zero => exact List.forall_mem_nil _
  | succ remaining ih =>
      rw [errorsBehind]
      split
      · exact List.forall_mem_nil _
      · next error found =>
          refine List.forall_mem_cons.2 ⟨?_, ih error.offset⟩
          unfold errorBehind? at found
          split at found
          · cases found
          · split at found
            · cases found
            · cases found
              exact unbroken_describeFailure _ _ _

theorem unbroken_of_parse {filter : String} {errors : List SyntaxError}
    (refused : parse filter = .error errors) :
    errors ≠ [] ∧ ∀ error ∈ errors, Unbroken error.message := by
  rcases parse_cases filter with
    ⟨offset, _, overdeep⟩ | ⟨_, tree, _, read⟩ | ⟨_, frontier, _, mistaken⟩
  · cases refused.symm.trans overdeep
    refine ⟨List.cons_ne_nil _ _, List.forall_mem_singleton.2 ?_⟩
    exact ((unbroken_ofList (by decide)).append (unbroken_toString nestingLimit)).append
      (unbroken_ofList (by decide))
  · cases refused.symm.trans read
  · cases refused.symm.trans mistaken
    exact ⟨List.cons_ne_nil _ _, List.forall_mem_cons.2
      ⟨unbroken_describeFailure _ _ _, unbroken_errorsBehind _ _ _⟩⟩

end Filter

/-- An error stands on one line when its message does. -/
theorem SyntaxError.unbroken_render {error : SyntaxError} (unbroken : Unbroken error.message) :
    Unbroken error.render := by
  have colon : Unbroken ": " := unbroken_ofList (by decide)
  unfold render
  split
  · have line : Unbroken ("syntax error at line " ++ toString error.line) :=
      (unbroken_ofList (by decide)).append (unbroken_toString _)
    have comma : Unbroken ", column " := unbroken_ofList (by decide)
    exact (((line.append comma).append (unbroken_toString _)).append colon).append unbroken
  · have column : Unbroken ("syntax error at column " ++ toString error.column) :=
      (unbroken_ofList (by decide)).append (unbroken_toString _)
    exact (column.append colon).append unbroken

/-! ## Compiling a malformed filter -/

/-- Compiling calls a filter malformed exactly if it is not blank and has errors. -/
theorem Setting.compile_eq_malformed_iff (setting : Setting) (filter : String)
    (errors : List SyntaxError) :
    setting.compile filter = .error (.malformed errors) ↔
      isBlank filter = false ∧ Filter.parse filter = .error errors := by
  cases blank : isBlank filter with
  | true => simp [compile, blank]
  | false =>
      cases read : Filter.parse filter with
      | error others => simp [compile, blank, read]
      | ok tree =>
          simp only [reduceCtorEq, and_false, iff_false]
          intro malformed
          rcases setting.compile_outcome read with ⟨compiled, done, _⟩ | ⟨reason, wrong, first⟩
          · rw [done] at malformed
            cases malformed
          · rw [wrong] at malformed
            cases malformed
            obtain ⟨_, _, _, _, _, offends⟩ := first
            cases offends

namespace Command

/-- A source yields a filter when it holds the filter itself or is read without an error. -/
def Source.Yields (input : Except ReadError String) (read : String → Except ReadError String)
    (filter : String) : Source → Prop
  | .argument text => text = filter
  | .standardInput => input = .ok filter
  | .file path => read path = .ok filter
  | .missing => False

theorem report_of_yields {source : Source} {filter : String} {input : Except ReadError String}
    {read : String → Except ReadError String} (yields : source.Yields input read filter)
    (task : Task) (draws : Draws) :
    Request.report (.run task source) draws input read = task.run draws filter := by
  cases source with
  | argument text =>
      cases yields
      rfl
  | standardInput =>
      cases yields
      rfl
  | file path =>
      rw [Source.Yields] at yields
      simp only [Request.report, yields]
  | missing => cases yields

theorem splitOn_ofLine {errors : List SyntaxError} (nonempty : errors ≠ [])
    (unbroken : ∀ error ∈ errors, Unbroken error.render) :
    (Report.ofLine (String.intercalate "\n" (errors.map SyntaxError.render))).output.toList.splitOn
        '\n' = errors.map (·.render.toList) ++ [[]] := by
  have lines : List.splitOn '\n' (['\n'].intercalate (errors.map (·.render.toList))) =
      errors.map (·.render.toList) := by
    refine List.splitOn_intercalate '\n' ?_ (by simpa using nonempty)
    simp only [List.forall_mem_map]
    intro error among within
    cases unbroken error among '\n' within
  rw [Report.ofLine, String.toList_append, String.toList_intercalate, List.map_map]
  change List.splitOn '\n' (['\n'].intercalate (errors.map (·.render.toList)) ++ ['\n']) = _
  rw [List.splitOn_append_cons_self, lines, List.splitOn_nil]

/-- A check finds a filter in order exactly if compiling it does not call it malformed, whatever
the setting. Otherwise the check fails, and prints the errors that compiling gives, in their order
and on one line each. -/
theorem check_report_iff_compile {source : Source} {filter : String}
    {input : Except ReadError String} {read : String → Except ReadError String}
    (yields : source.Yields input read filter) (draws : Draws) (setting : Setting) :
    let report := Request.report (.run .check source) draws input read
    report.failure = none ∧
    (report.exitCode = 0 ∧ report.output = "ok\n" ↔
      ∀ errors, setting.compile filter ≠ .error (.malformed errors)) ∧
    ∀ errors, setting.compile filter = .error (.malformed errors) →
      report.exitCode = 1 ∧ errors ≠ [] ∧
      report.output.toList.splitOn '\n' = errors.map (·.render.toList) ++ [[]] ∧
      ∀ error ∈ errors, Unbroken error.render := by
  intro report
  have checked : report = checkFilter filter := report_of_yields yields .check draws
  simp only [checked, ne_eq, setting.compile_eq_malformed_iff]
  cases blank : isBlank filter with
  | true => simp [checkFilter, blank, Report.ofLine]
  | false =>
      cases read : Filter.parse filter with
      | ok tree => simp [checkFilter, blank, read, Report.ofLine]
      | error errors =>
          obtain ⟨nonempty, messages⟩ := Filter.unbroken_of_parse read
          have unbroken : ∀ error ∈ errors, Unbroken error.render :=
            fun error among => SyntaxError.unbroken_render (messages error among)
          have lines := splitOn_ofLine nonempty unbroken
          simp only [checkFilter, blank, read]
          refine ⟨rfl, ?_, ?_⟩
          · simp
          · rintro others ⟨_, same⟩
            cases same
            exact ⟨rfl, nonempty, lines, unbroken⟩

/-- Two errors, the first of them right before a line separator. -/
theorem check_report_lineSeparator :
    let filter := "a\u2028 OR !"
    let setting : Setting := { dialect := .postgres, queryables := ⟨[]⟩ }
    let report := Request.report (.run .check (.file "filter.cql")) Draws.sequential (.ok "")
      fun _ => .ok filter
    ∃ errors, setting.compile filter = .error (.malformed errors) ∧
      errors.map SyntaxError.offset = [1, 8] ∧ report.exitCode = 1 ∧
      report.output.toList.splitOn '\n' = errors.map (·.render.toList) ++ [[]] := by
  intro filter setting report
  have yields : Source.Yields (.ok "") (fun _ => .ok filter) filter (.file "filter.cql") := rfl
  have malformed : setting.compile filter = .error (.malformed
      [⟨⟨1, 2⟩, 1, "unexpected end of input, expected BETWEEN, IN, IS, LIKE, NOT, argument list, "
          ++ "comparison operator"⟩,
       ⟨⟨1, 7⟩, 8, "unexpected '!', expected boolean factor"⟩]) := by
    decide +kernel
  obtain ⟨_, _, fails⟩ := check_report_iff_compile yields Draws.sequential setting
  obtain ⟨code, _, lines, _⟩ := fails _ malformed
  exact ⟨_, malformed, rfl, code, lines⟩

end Command

end Cql
