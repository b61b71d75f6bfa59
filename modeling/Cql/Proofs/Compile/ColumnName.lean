import Cql.Compile.Filter
import Cql.Proofs.Compile.Respelling
import Cql.Proofs.Grammar.TokenCut
import Cql.Proofs.Sql.Lexeme

/-!
# The name of a column

A property is looked up among those that may be used by the name that its identifier stands for,
and its column is written by quoting that name again. The two agree only if quoting and unquoting
undo each other on everything that the grammar takes for an identifier. The quotation marks of an
identifier are paired from left to right, by the grammar as well as by unquoting, so that runs of
them are cut in the same places.
-/

namespace Cql

open Cql.Sql Cql.Grammar

theorem Grammar.Pattern.exists_scan_of_seq {first second : Pattern} {cs taken rest : List Char}
    (found : (first ++ second).scan cs = some (taken, rest)) :
    ∃ one two mid, first.scan cs = some (one, mid) ∧ second.scan mid = some (two, rest) ∧
      taken = one ++ two := by
  change Pattern.scan (.seq first second) cs = _ at found
  rw [Pattern.scan] at found
  split at found
  · cases found
  · next one mid start =>
      obtain ⟨⟨two, _⟩, finish, same⟩ := Option.map_eq_some_iff.1 found
      cases same
      exact ⟨one, two, mid, start, finish, rfl⟩

/-! ## Quoting and unquoting -/

namespace Sql.Identifier

theorem doubleQuotes_quote (cs : List Char) :
    doubleQuotes ('"' :: cs) = '"' :: '"' :: doubleQuotes cs := rfl

theorem doubleQuotes_of_ne {c : Char} (other : c ≠ '"') (cs : List Char) :
    doubleQuotes (c :: cs) = c :: doubleQuotes cs := by
  rw [doubleQuotes, beq_false_of_ne other]
  rfl

theorem singleQuotes_of_ne {c : Char} (other : c ≠ '"') (cs : List Char) :
    singleQuotes (c :: cs) = c :: singleQuotes cs :=
  singleQuotes.eq_2 c cs fun _ first _ => other first

/-- Marks that were doubled are paired again. -/
theorem singleQuotes_doubleQuotes (cs : List Char) : singleQuotes (doubleQuotes cs) = cs := by
  induction cs with
  | nil => rfl
  | cons c cs ih =>
      by_cases same : c = '"'
      · subst same
        rw [doubleQuotes_quote, singleQuotes, ih]
      · rw [doubleQuotes_of_ne same, singleQuotes_of_ne same, ih]

theorem doubleQuotes_eq_self {cs : List Char} (plain : '"' ∉ cs) : doubleQuotes cs = cs := by
  induction cs with
  | nil => rfl
  | cons c cs ih =>
      rw [doubleQuotes_of_ne fun same => plain (same ▸ List.mem_cons_self ..),
        ih fun among => plain (List.mem_cons_of_mem _ among)]

theorem unquote_quote (name : String) : unquote (quote name) = name := by
  have whole : (quote name).toList = '"' :: (doubleQuotes name.toList ++ ['"']) := by
    rw [quote, String.toList_ofList, List.cons_append]
  rw [unquote_eq, whole, List.tail_cons, List.dropLast_concat, singleQuotes_doubleQuotes,
    String.ofList_toList]
  exact if_pos ⟨rfl, List.getLast?_concat⟩

/-! ## Reading a quoted name -/

/-- A quoted name is read as one identifier that ends with its last character, whatever follows but
a further mark. -/
theorem scanFrom_quote (name : String) {rest : List Char} (ends : rest.head? ≠ some '"') :
    Lexeme.scanFrom .outside ((quote name).toList ++ rest)
      = (Lexeme.scanFrom .outside rest).map (Lexeme.identifier name :: ·) := by
  have opens : Lexeme.isQuote '"' = true := rfl
  have closed : Lexeme.quoted '"' name.toList = .identifier name := by
    rw [Lexeme.quoted, beq_self_eq_true, if_pos rfl, String.ofList_toList]
  rw [← Lexeme.write_identifier]
  simp only [Lexeme.write, List.cons_append, List.append_assoc, List.nil_append, Lexeme.scanFrom,
    opens, if_true, Lexeme.scanFrom_doubled]
  cases rest with
  | nil => simp [Lexeme.scanFrom, closed]
  | cons c cs =>
      have differs : (c == '"') = false := beq_false_of_ne fun same => ends (same ▸ rfl)
      simp [Lexeme.scanFrom, differs, closed]

theorem scan_quote (name : String) : Lexeme.scan (quote name) = some [.identifier name] := by
  have ends : ([] : List Char).head? ≠ some '"' := by decide
  have read := scanFrom_quote name ends
  rwa [List.append_nil] at read

/-! ## Identifiers of the grammar -/

/-- What one round takes inside a quoted identifier: a pair of marks, or another character. -/
theorem round_of_scan {cs taken rest : List Char}
    (found : (Pattern.quotedChar "\"").scan cs = some (taken, rest)) :
    ∃ c, taken = doubleQuotes [c] := by
  cases cs with
  | nil =>
      rw [Pattern.scan_nil (Pattern.mayBeEmpty_quotedChar rfl)] at found
      cases found
  | cons c cs =>
      have mark : "\"".toList = ['"'] := rfl
      rw [Pattern.scan_quotedChar mark] at found
      by_cases same : c = '"'
      · rw [if_pos same] at found
        split at found
        · cases found
          exact ⟨'"', rfl⟩
        · cases found
      · rw [if_neg same] at found
        cases found
        exact ⟨c, (doubleQuotes_of_ne same []).symm⟩

theorem doubleQuotes_append (cs ds : List Char) :
    doubleQuotes (cs ++ ds) = doubleQuotes cs ++ doubleQuotes ds := by
  induction cs with
  | nil => rfl
  | cons c cs ih =>
      by_cases same : c = '"'
      · subst same
        rw [List.cons_append, doubleQuotes_quote, doubleQuotes_quote, ih]
        rfl
      · rw [List.cons_append, doubleQuotes_of_ne same, doubleQuotes_of_ne same, ih]
        rfl

theorem exists_doubleQuotes {rounds : List (List Char)}
    (each : ∀ round ∈ rounds, ∃ c, round = doubleQuotes [c]) :
    ∃ name, rounds.flatten = doubleQuotes name := by
  induction rounds with
  | nil => exact ⟨[], rfl⟩
  | cons round rounds ih =>
      obtain ⟨⟨c, rfl⟩, others⟩ := List.forall_mem_cons.1 each
      obtain ⟨name, rest⟩ := ih others
      exact ⟨c :: name, by rw [List.flatten_cons, rest, ← doubleQuotes_append]; rfl⟩

theorem exists_quote_of_scan {cs taken rest : List Char}
    (found : Pattern.quotedIdentifier.scan cs = some (taken, rest)) :
    ∃ name, taken = (quote name).toList := by
  obtain ⟨_, closing, _, front, closed, rfl⟩ := Pattern.exists_scan_of_seq found
  obtain ⟨opening, _, _, opened, inner, rfl⟩ := Pattern.exists_scan_of_seq front
  obtain ⟨first, more, mid, one, others, rfl⟩ := Pattern.exists_scan_of_seq inner
  have closing : closing = ['"'] := Pattern.takes_of_scan _ closed
  have opening : opening = ['"'] := Pattern.takes_of_scan _ opened
  obtain ⟨rounds, each, flat⟩ :=
    Pattern.exists_rounds_of_scanRounds (fun _ _ _ => round_of_scan) mid mid
  have flat : more = rounds.flatten := by rwa [Option.some.inj others] at flat
  obtain ⟨name, whole⟩ :=
    exists_doubleQuotes (List.forall_mem_cons.2 ⟨round_of_scan one, each⟩)
  refine ⟨String.ofList name, ?_⟩
  rw [quote, String.toList_ofList, String.toList_ofList, ← whole, opening, closing, flat]
  rfl

theorem quote_not_mem_of_bareIdentifier {cs taken rest : List Char}
    (found : Pattern.bareIdentifier.scan cs = some (taken, rest)) : '"' ∉ taken := by
  intro among
  have part := (parts_of_word (word_of_bareIdentifier found)).1 _ among
  exact absurd part (by decide)

theorem unquote_of_not_mem {cs : List Char} (plain : '"' ∉ cs) :
    unquote (String.ofList cs) = String.ofList cs := by
  rw [unquote_eq, if_neg]
  rintro ⟨first, _⟩
  rw [String.toList_ofList] at first
  exact plain (List.mem_of_head? first)

theorem quote_unquote_of_quotedIdentifier {cs taken rest : List Char}
    (found : Pattern.quotedIdentifier.scan cs = some (taken, rest)) :
    quote (unquote (String.ofList taken)) = String.ofList taken := by
  obtain ⟨name, rfl⟩ := exists_quote_of_scan found
  rw [String.ofList_toList, unquote_quote]

theorem quote_unquote_of_bareIdentifier {cs taken rest : List Char}
    (found : Pattern.bareIdentifier.scan cs = some (taken, rest)) :
    quote (unquote (String.ofList taken)) = String.ofList ('"' :: taken ++ ['"']) := by
  have plain := quote_not_mem_of_bareIdentifier found
  rw [unquote_of_not_mem plain, quote, String.toList_ofList, doubleQuotes_eq_self plain]

/-- A quoted identifier begins with a mark, and one without quotes does not. -/
theorem head_of_identifier {cs taken rest : List Char} {pattern : Pattern}
    (defined : definition .identifier = .token pattern)
    (found : pattern.scan cs = some (taken, rest)) :
    (taken.head? = some '"' ∧ Pattern.quotedIdentifier.scan cs = some (taken, rest)) ∨
      (taken.head? ≠ some '"' ∧ Pattern.bareIdentifier.scan cs = some (taken, rest)) := by
  cases defined
  change Pattern.scan (.alt .quotedIdentifier .bareIdentifier) cs = _ at found
  simp only [Pattern.scan] at found
  split at found
  · refine .inr ⟨fun first => ?_, found⟩
    exact quote_not_mem_of_bareIdentifier found (List.mem_of_head? first)
  · next quoted =>
      cases found
      obtain ⟨name, rfl⟩ := exists_quote_of_scan quoted
      exact .inl ⟨by rw [quote, String.toList_ofList]; rfl, quoted⟩

end Sql.Identifier

/-! ## Columns -/

namespace Node

theorem Placed.scan_of_propertyName {node : Node} (placed : node.Placed)
    (named : node.rule = .propertyName) :
    ∃ (pattern : Pattern) (left : List Char), definition .identifier = .token pattern ∧
      pattern.scan (node.text.toList ++ left) = some (node.text.toList, left) := by
  have scanned {offset : Nat} {text : List Char} {nodes : List Node}
      (derived : Derives (.ref .identifier) offset text nodes) :
      ∃ pattern left, definition .identifier = .token pattern ∧
        pattern.scan (text ++ left) = some (text, left) := by
    cases derived with
    | token defined found => exact ⟨_, _, defined, found⟩
    | fragment defined _ => cases defined
    | phrase defined _ => cases defined
  obtain ⟨child, only, identifier, text⟩ := placed.identifier_of_propertyName named
  rw [← text]
  cases placed.children child (only ▸ List.mem_singleton_self child) with
  | intro derived _ _ =>
      rw [identifier] at derived
      exact scanned derived

/-- Quoting the name of a property again gives the text of the property, with quotes added where it
has none. -/
theorem Placed.quote_unquote {node : Node} (placed : node.Placed)
    (named : node.rule = .propertyName) :
    Identifier.quote (Identifier.unquote node.text) =
      if node.text.toList.head? = some '"' then node.text
      else String.ofList ('"' :: node.text.toList ++ ['"']) := by
  obtain ⟨pattern, left, defined, found⟩ := placed.scan_of_propertyName named
  rcases Identifier.head_of_identifier defined found with ⟨first, quoted⟩ | ⟨first, bare⟩
  · have same := Identifier.quote_unquote_of_quotedIdentifier quoted
    rw [String.ofList_toList] at same
    rw [if_pos first, same]
  · have same := Identifier.quote_unquote_of_bareIdentifier bare
    rw [String.ofList_toList] at same
    rw [if_neg first, same]

end Node

namespace Setting

theorem leave_property (setting : Setting) {node : Node} {state : Compilation}
    (named : node.rule = .propertyName) (running : state.hasFailed = false) :
    setting.leave node state =
      if setting.queryables.admits (Identifier.unquote node.text) then
        state.push (.column [.column (Identifier.unquote node.text)])
      else state.fail (.forbiddenProperty (Identifier.unquote node.text)) := by
  have other : node.rule ≠ .geometryCollection := by
    rw [named]
    decide
  rw [leave, if_neg other, running, if_neg Bool.false_ne_true, action, named]
  simp only [property]
  split <;> rfl

/-- The name that is checked is the name that is emitted. Unquoting undoes quoting. Quoting undoes
unquoting on every quoted identifier and adds the quotes to one that has none. A quoted name is read
as one identifier of SQL that ends with its last character and denotes the name. A property
therefore adds a column that denotes just the name that was checked, and adds none if it is not
admitted; in a filter, that column is the text of the property, quoted if it was not. -/
theorem column_denotes_checked_name (setting : Setting) :
    (∀ name : String, Identifier.unquote (Identifier.quote name) = name) ∧
    (∀ text taken rest : List Char, Pattern.quotedIdentifier.scan text = some (taken, rest) →
      Identifier.quote (Identifier.unquote (String.ofList taken)) = String.ofList taken) ∧
    (∀ text taken rest : List Char, Pattern.bareIdentifier.scan text = some (taken, rest) →
      Identifier.quote (Identifier.unquote (String.ofList taken))
        = String.ofList ('"' :: taken ++ ['"'])) ∧
    (∀ name : String, Lexeme.scan (Identifier.quote name) = some [.identifier name] ∧
      ∀ rest : List Char, rest.head? ≠ some '"' →
        Lexeme.scanFrom .outside ((Identifier.quote name).toList ++ rest)
          = (Lexeme.scanFrom .outside rest).map (Lexeme.identifier name :: ·)) ∧
    (∀ (node : Node) (state : Compilation), node.rule = .propertyName → state.hasFailed = false →
      let name := Identifier.unquote node.text
      Lexeme.scan (Fragment.render [.column name]) = some [.identifier name] ∧
        (setting.queryables.admits name = true →
          setting.leave node state = state.push (.column [.column name])) ∧
        (setting.queryables.admits name = false →
          setting.leave node state = state.fail (.forbiddenProperty name))) ∧
    ∀ (filter : String) (tree node : Node), Filter.parse filter = .ok tree →
      node ∈ tree.preorder → node.rule = .propertyName →
      Fragment.render [.column (Identifier.unquote node.text)] =
        if node.text.toList.head? = some '"' then node.text
        else String.ofList ('"' :: node.text.toList ++ ['"']) := by
  have column (name : String) : Fragment.render [.column name] = Identifier.quote name := by
    rw [Fragment.render_cons, Fragment.render_nil, Piece.render, String.append_empty]
  refine ⟨Identifier.unquote_quote, fun _ _ _ => Identifier.quote_unquote_of_quotedIdentifier,
    fun _ _ _ => Identifier.quote_unquote_of_bareIdentifier,
    fun name => ⟨Identifier.scan_quote name, fun _ => Identifier.scanFrom_quote name⟩, ?_, ?_⟩
  · intro node state named running
    have left := setting.leave_property named running
    refine ⟨by rw [column, Identifier.scan_quote], fun known => ?_, fun unknown => ?_⟩
    · rw [left, if_pos known]
    · rw [left, if_neg (Bool.eq_false_iff.1 unknown)]
  · intro filter tree node accepted below named
    have placed := (Filter.placed_of_parse accepted).2.of_mem_preorder below
    rw [column, placed.quote_unquote named]

/-- A property whose name ends with a mark stands before a run of three: its column has the text
that the property has, and denotes the name with one mark, which is the one that was admitted. -/
theorem column_denotes_checked_name_run :
    ∃ tree node : Node, Filter.parse "\"a\"\"\" = 1" = .ok tree ∧ node ∈ tree.preorder ∧
      node.rule = .propertyName ∧ Fragment.render [.column "a\""] = "\"a\"\"\"" ∧
      Lexeme.scan (Fragment.render [.column "a\""]) = some [.identifier "a\""] ∧
      leave { dialect := .geoPackage, queryables := ⟨["a\""]⟩ } node {}
        = Compilation.push (.column [.column "a\""]) {} := by
  have evaluated : ((Filter.parse "\"a\"\"\" = 1").toOption.map fun tree =>
      tree.preorder.any fun node => node.rule == .propertyName && node.text == "\"a\"\"\"")
        = some true := by decide +kernel
  obtain ⟨tree, read, found⟩ := Option.map_eq_some_iff.1 evaluated
  obtain ⟨node, below, known⟩ := List.any_eq_true.1 found
  obtain ⟨named, text⟩ := Bool.and_eq_true_iff.1 known
  have named : node.rule = .propertyName := eq_of_beq named
  have text : node.text = "\"a\"\"\"" := eq_of_beq text
  have accepted : Filter.parse "\"a\"\"\" = 1" = .ok tree := by
    cases parsed : Filter.parse "\"a\"\"\" = 1" with
    | error errors => rw [parsed] at read; cases read
    | ok other => rw [parsed] at read; cases read; rfl
  have name : Identifier.unquote node.text = "a\"" := by
    rw [text]
    decide
  obtain ⟨_, _, _, _, checked, written⟩ :=
    column_denotes_checked_name { dialect := .geoPackage, queryables := ⟨["a\""]⟩ }
  have column := written _ tree node accepted below named
  obtain ⟨denotes, admitted, _⟩ := checked node {} named rfl
  rw [name] at column denotes admitted
  rw [text, if_pos (by decide)] at column
  exact ⟨tree, node, accepted, below, named, column, denotes, admitted (by decide)⟩

end Setting

end Cql
