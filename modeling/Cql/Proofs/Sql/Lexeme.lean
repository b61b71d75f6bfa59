import Cql.Sql.Identifier
import Mathlib.Data.List.Chain

/-!
# SQL as a row of lexemes

As far as quotation is concerned, SQL text consists of identifiers between double quotes, strings
between single quotes, and single characters. A quotation mark inside quotes is written twice. The
scan reads a text from left to right in this way and fails when it ends inside quotes.

Text that is written lexeme by lexeme is read back as the same lexemes, unless two quoted lexemes
touch: then the marks between them could be taken for one that was doubled.
-/

namespace Cql.Sql

/-- A piece of SQL text that a scan reads as one. -/
inductive Lexeme where
  /-- A name between double quotes. -/
  | identifier (name : String)
  /-- A text between single quotes. -/
  | string (content : String)
  /-- A character outside quotes. -/
  | mark (c : Char)
  deriving DecidableEq, Repr

namespace Lexeme

def isQuote (c : Char) : Bool :=
  c == '"' || c == '\''

/-- What was read between two quotation marks. -/
def quoted (quote : Char) (content : List Char) : Lexeme :=
  if quote == '"' then .identifier (String.ofList content) else .string (String.ofList content)

/-- Where a scan stands: outside quotes, inside them, or after a quotation mark inside them, which
closes them unless it is doubled. Inside, what was read so far is kept. -/
inductive Place where
  | outside
  | inside (quote : Char) (content : List Char)
  | closing (quote : Char) (content : List Char)

def scanFrom : Place → List Char → Option (List Lexeme)
  | .outside, [] => some []
  | .inside _ _, [] => none
  | .closing quote content, [] => some [quoted quote content]
  | .outside, c :: cs =>
      if isQuote c then scanFrom (.inside c []) cs
      else (scanFrom .outside cs).map (.mark c :: ·)
  | .inside quote content, c :: cs =>
      if c == quote then scanFrom (.closing quote content) cs
      else scanFrom (.inside quote (content ++ [c])) cs
  | .closing quote content, c :: cs =>
      if c == quote then scanFrom (.inside quote (content ++ [c])) cs
      else
        let rest :=
          if isQuote c then scanFrom (.inside c []) cs
          else (scanFrom .outside cs).map (.mark c :: ·)
        rest.map (quoted quote content :: ·)

/-- The lexemes of a text; there are none when it ends inside quotes. -/
def scan (text : String) : Option (List Lexeme) :=
  scanFrom .outside text.toList

/-! ## Writing lexemes -/

def doubled (quote : Char) : List Char → List Char
  | [] => []
  | c :: cs => if c == quote then quote :: quote :: doubled quote cs else c :: doubled quote cs

def write : Lexeme → List Char
  | .identifier name => '"' :: doubled '"' name.toList ++ ['"']
  | .string content => '\'' :: doubled '\'' content.toList ++ ['\'']
  | .mark c => [c]

def writeAll (lexemes : List Lexeme) : List Char :=
  lexemes.flatMap write

def marks (text : String) : List Lexeme :=
  text.toList.map .mark

@[simp] theorem writeAll_nil : writeAll [] = [] := rfl

@[simp] theorem writeAll_cons (lexeme : Lexeme) (lexemes : List Lexeme) :
    writeAll (lexeme :: lexemes) = lexeme.write ++ writeAll lexemes := rfl

@[simp] theorem writeAll_append (first second : List Lexeme) :
    writeAll (first ++ second) = writeAll first ++ writeAll second :=
  List.flatMap_append ..

@[simp] theorem writeAll_marks (text : String) : writeAll (marks text) = text.toList := by
  rw [marks, writeAll, List.flatMap_map]
  exact List.flatMap_singleton' ..

/-- A quoted column name is written as an identifier. -/
theorem write_identifier (name : String) :
    (identifier name).write = (Identifier.quote name).toList := by
  have same (cs : List Char) : doubled '"' cs = Identifier.doubleQuotes cs := by
    induction cs with
    | nil => rfl
    | cons c cs ih => simp only [doubled, Identifier.doubleQuotes, ih]
  rw [write, Identifier.quote, same, String.toList_ofList]

/-! ## Reading what was written -/

def isQuoted : Lexeme → Bool
  | .mark _ => false
  | _ => true

/-- Two lexemes that may touch without being read as something else: not both are quoted, and they
do not begin a comment. -/
def Apart (first second : Lexeme) : Prop :=
  ¬ (first.isQuoted = true ∧ second.isQuoted = true) ∧
    ¬ (first = .mark '-' ∧ second = .mark '-') ∧ ¬ (first = .mark '/' ∧ second = .mark '*')

instance : DecidableRel Apart := fun _ _ =>
  inferInstanceAs (Decidable (_ ∧ _))

def Plain : Lexeme → Prop
  | .mark c => isQuote c = false
  | _ => True

/-- The text between quotes is read up to the mark that ends it. -/
theorem scanFrom_doubled (quote : Char) (read content rest : List Char) :
    scanFrom (.inside quote read) (doubled quote content ++ quote :: rest)
      = scanFrom (.closing quote (read ++ content)) rest := by
  induction content generalizing read with
  | nil => simp [doubled, scanFrom]
  | cons c cs ih =>
      by_cases same : c = quote
      · subst same
        simp only [doubled, beq_self_eq_true, if_true, List.cons_append, scanFrom]
        rw [ih, List.append_assoc]
        rfl
      · have differs : (c == quote) = false := beq_false_of_ne same
        simp only [doubled, differs, Bool.false_eq_true, if_false, List.cons_append, scanFrom]
        rw [ih, List.append_assoc]
        rfl

theorem scanFrom_closing {quote : Char} (content : List Char) {lexemes : List Lexeme}
    (mark : isQuote quote = true) (plain : ∀ lexeme ∈ lexemes, lexeme.Plain)
    (apart : ∀ next ∈ lexemes.head?, next.isQuoted = false) :
    scanFrom (.closing quote content) (writeAll lexemes)
      = (scanFrom .outside (writeAll lexemes)).map (quoted quote content :: ·) := by
  cases lexemes with
  | nil => rfl
  | cons next lexemes =>
      cases next with
      | identifier name => cases apart _ rfl
      | string content => cases apart _ rfl
      | mark c =>
          have free : isQuote c = false := plain _ (List.mem_cons_self ..)
          have differs : (c == quote) = false := by
            refine beq_false_of_ne ?_
            rintro rfl
            rw [mark] at free
            cases free
          simp only [writeAll_cons, write, List.cons_append, List.nil_append, scanFrom, differs,
            free, Bool.false_eq_true, if_false]

theorem scanFrom_writeAll {lexemes : List Lexeme} (plain : ∀ lexeme ∈ lexemes, lexeme.Plain)
    (apart : lexemes.IsChain Apart) : scanFrom .outside (writeAll lexemes) = some lexemes := by
  induction lexemes with
  | nil => rfl
  | cons lexeme lexemes ih =>
      have others : ∀ other ∈ lexemes, other.Plain := fun other among =>
        plain other (List.mem_cons_of_mem _ among)
      have rest := ih others apart.tail
      have next : lexeme.isQuoted = true → ∀ next ∈ lexemes.head?, next.isQuoted = false := by
        intro quoted next first
        exact Bool.eq_false_iff.2 fun both => (apart.rel_head? first).1 ⟨quoted, both⟩
      cases lexeme with
      | mark c =>
          have free : isQuote c = false := plain _ (List.mem_cons_self ..)
          simp [write, scanFrom, free, rest]
      | identifier name =>
          have opens : isQuote '"' = true := rfl
          simp only [writeAll_cons, write, List.cons_append, List.append_assoc, List.nil_append,
            scanFrom, opens, if_true, scanFrom_doubled]
          rw [scanFrom_closing _ rfl others (next rfl), rest]
          simp [quoted]
      | string content =>
          have opens : isQuote '\'' = true := rfl
          simp only [writeAll_cons, write, List.cons_append, List.append_assoc, List.nil_append,
            scanFrom, opens, if_true, scanFrom_doubled]
          rw [scanFrom_closing _ rfl others (next rfl), rest]
          simp [quoted]

/-! ## Reading and writing again -/

/-- Inside quotes it is known by which mark they were opened. -/
def Place.IsQuoting : Place → Prop
  | .outside => True
  | .inside quote _ | .closing quote _ => isQuote quote = true

def Place.begun : Place → List Char
  | .outside => []
  | .inside quote content => quote :: doubled quote content
  | .closing quote content => quote :: doubled quote content ++ [quote]

theorem doubled_append (quote : Char) (first second : List Char) :
    doubled quote (first ++ second) = doubled quote first ++ doubled quote second := by
  induction first with
  | nil => rfl
  | cons c cs ih =>
      simp only [List.cons_append, doubled, ih]
      split <;> rfl

theorem write_quoted {quote : Char} (marked : isQuote quote = true) (content : List Char) :
    (quoted quote content).write = quote :: doubled quote content ++ [quote] := by
  simp only [isQuote, Bool.or_eq_true, beq_iff_eq] at marked
  rcases marked with rfl | rfl <;> simp [quoted, write]

/-- Nothing is lost when a text is read. -/
theorem writeAll_of_scanFrom {place : Place} {text : List Char} {lexemes : List Lexeme}
    (scanned : scanFrom place text = some lexemes) (quoting : place.IsQuoting) :
    writeAll lexemes = place.begun ++ text := by
  induction text generalizing place lexemes with
  | nil =>
      cases place with
      | outside => cases scanned; rfl
      | inside quote content => cases scanned
      | closing quote content =>
          cases scanned
          simp [write_quoted quoting, Place.begun]
  | cons c cs ih =>
      have next {lexemes : List Lexeme}
          (read : (if isQuote c then scanFrom (.inside c []) cs
            else (scanFrom .outside cs).map (.mark c :: ·)) = some lexemes) :
          writeAll lexemes = c :: cs := by
        split at read
        · next opens => exact ih read opens
        · obtain ⟨others, rest, rfl⟩ := Option.map_eq_some_iff.1 read
          rw [writeAll_cons, ih rest trivial]
          rfl
      cases place with
      | outside => exact next scanned
      | inside quote content =>
          simp only [scanFrom] at scanned
          split at scanned
          · next same =>
              rw [ih scanned quoting, beq_iff_eq.1 same]
              simp [Place.begun]
          · next other =>
              rw [ih scanned quoting]
              simp [Place.begun, doubled_append, doubled, other]
      | closing quote content =>
          simp only [scanFrom] at scanned
          split at scanned
          · next same =>
              rw [ih scanned quoting,
                beq_iff_eq.1 same]
              simp [Place.begun, doubled_append, doubled]
          · obtain ⟨others, read, rfl⟩ := Option.map_eq_some_iff.1 scanned
            rw [writeAll_cons, write_quoted quoting, next read]
            rfl

/-- What follows a character outside quotes is read on its own. -/
theorem scanFrom_append {place : Place} {text : List Char} {lexemes : List Lexeme}
    (scanned : scanFrom place text = some lexemes) (quoting : place.IsQuoting) {mark : Char}
    (plain : isQuote mark = false) (rest : List Char) :
    scanFrom place (text ++ mark :: rest)
      = (scanFrom .outside rest).map (lexemes ++ .mark mark :: ·) := by
  induction text generalizing place lexemes with
  | nil =>
      cases place with
      | outside =>
          cases scanned
          simp [scanFrom, plain]
      | inside quote content => cases scanned
      | closing quote content =>
          cases scanned
          have other : (mark == quote) = false := by
            refine beq_false_of_ne ?_
            rintro rfl
            exact Bool.eq_false_iff.1 plain quoting
          simp [scanFrom, other, plain, Function.comp_def]
  | cons c cs ih =>
      have next {lexemes : List Lexeme}
          (read : (if isQuote c then scanFrom (.inside c []) cs
            else (scanFrom .outside cs).map (.mark c :: ·)) = some lexemes) :
          (if isQuote c then scanFrom (.inside c []) (cs ++ mark :: rest)
            else (scanFrom .outside (cs ++ mark :: rest)).map (.mark c :: ·))
            = (scanFrom .outside rest).map (lexemes ++ .mark mark :: ·) := by
        split at read
        · next opens => rw [if_pos opens, ih read opens]
        · next closed =>
            obtain ⟨others, done, rfl⟩ := Option.map_eq_some_iff.1 read
            rw [if_neg closed, ih done trivial, Option.map_map]
            rfl
      cases place with
      | outside => exact next scanned
      | inside quote content =>
          simp only [scanFrom, List.cons_append] at scanned ⊢
          split at scanned
          · next same => rw [if_pos same, ih scanned quoting]
          · next other =>
              rw [if_neg other, ih scanned quoting]
      | closing quote content =>
          simp only [scanFrom, List.cons_append] at scanned ⊢
          split at scanned
          · next same =>
              rw [if_pos same, ih scanned quoting]
          · next other =>
              obtain ⟨others, read, rfl⟩ := Option.map_eq_some_iff.1 scanned
              rw [if_neg other, next read, Option.map_map]
              rfl

/-! ## Brackets -/

def brackets : List Char :=
  ['(', ')', '[', ']']

def close (bracket : Char) : List Char → Option (List Char)
  | [] => none
  | innermost :: opened => if innermost = bracket then some opened else none

def turn (opened : List Char) : Lexeme → Option (List Char)
  | .mark c =>
      if c = '(' ∨ c = '[' then some (c :: opened)
      else if c = ')' then close '(' opened
      else if c = ']' then close '[' opened
      else some opened
  | _ => some opened

def nest (opened : List Char) (lexemes : List Lexeme) : Option (List Char) :=
  lexemes.foldlM turn opened

/-- Every bracket is closed by its match, and none is closed that was not opened. -/
def Balanced (lexemes : List Lexeme) : Prop :=
  nest [] lexemes = some []

theorem nest_append (opened : List Char) (first second : List Lexeme) :
    nest opened (first ++ second) = (nest opened first).bind (nest · second) :=
  List.foldlM_append ..

theorem close_append {bracket : Char} {opened after : List Char}
    (closed : close bracket opened = some after) (outer : List Char) :
    close bracket (opened ++ outer) = some (after ++ outer) := by
  cases opened with
  | nil => cases closed
  | cons innermost opened =>
      simp only [close] at closed
      split at closed
      · next same =>
          cases closed
          exact if_pos same
      · cases closed

/-- Brackets that are open further out make no difference. -/
theorem turn_append {opened after : List Char} {lexeme : Lexeme}
    (turned : turn opened lexeme = some after) (outer : List Char) :
    turn (opened ++ outer) lexeme = some (after ++ outer) := by
  cases lexeme with
  | identifier name => cases turned; rfl
  | string content => cases turned; rfl
  | mark c =>
      simp only [turn] at turned ⊢
      by_cases opens : c = '(' ∨ c = '['
      · rw [if_pos opens] at turned ⊢
        cases turned
        rfl
      · rw [if_neg opens] at turned ⊢
        by_cases round : c = ')'
        · rw [if_pos round] at turned ⊢
          exact close_append turned outer
        · rw [if_neg round] at turned ⊢
          by_cases square : c = ']'
          · rw [if_pos square] at turned ⊢
            exact close_append turned outer
          · rw [if_neg square] at turned ⊢
            cases turned
            rfl

theorem nest_outer {opened after : List Char} {lexemes : List Lexeme}
    (nested : nest opened lexemes = some after) (outer : List Char) :
    nest (opened ++ outer) lexemes = some (after ++ outer) := by
  induction lexemes generalizing opened with
  | nil =>
      cases nested
      rfl
  | cons lexeme lexemes ih =>
      simp only [nest, List.foldlM_cons, Option.bind_eq_bind, Option.bind_eq_some_iff] at nested ⊢
      obtain ⟨mid, turned, rest⟩ := nested
      exact ⟨mid ++ outer, turn_append turned outer, ih rest⟩

/-- Balanced lexemes leave the brackets that are open as they are. -/
theorem Balanced.nest_eq {lexemes : List Lexeme} (balanced : Balanced lexemes)
    (opened : List Char) : nest opened lexemes = some opened :=
  nest_outer balanced opened

/-- Brackets that a text opens and another closes are balanced around balanced lexemes. -/
theorem Balanced.around {before after : String} {lexemes : List Lexeme} {opened : List Char}
    (balanced : Balanced lexemes) (left : nest [] (marks before) = some opened)
    (right : nest opened (marks after) = some []) :
    Balanced (marks before ++ lexemes ++ marks after) := by
  rw [Balanced, nest_append, nest_append, left, Option.bind_some, balanced.nest_eq,
    Option.bind_some, right]

theorem Balanced.grouped {lexemes : List Lexeme} (balanced : Balanced lexemes) :
    Balanced (.mark '(' :: lexemes ++ [.mark ')']) :=
  balanced.around (show nest [] (marks "(") = some ['('] from rfl)
    (show nest ['('] (marks ")") = some [] from rfl)

theorem Balanced.append {first second : List Lexeme} (one : Balanced first)
    (two : Balanced second) : Balanced (first ++ second) := by
  rw [Balanced, nest_append, one, Option.bind_some, two]

theorem turn_of_level {c : Char} (level : c ∉ brackets) (opened : List Char) :
    turn opened (.mark c) = some opened := by
  simp only [brackets, List.mem_cons, List.not_mem_nil, or_false, not_or] at level
  simp [turn, level]

theorem balanced_of_level {cs : List Char} (level : ∀ c ∈ cs, c ∉ brackets) :
    Balanced (cs.map .mark) := by
  induction cs with
  | nil => rfl
  | cons c cs ih =>
      obtain ⟨first, others⟩ := List.forall_mem_cons.1 level
      rw [Balanced, List.map_cons, nest, List.foldlM_cons, turn_of_level first]
      exact ih others

end Lexeme

end Cql.Sql
