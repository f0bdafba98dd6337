/-
This file says where an import goes in a file of import statements with code behind them. A comment
behind the module keeps the search from seeing that a statement ends. So an import goes directly
behind the last statement, where no bracket is open, exactly if the last row of that statement still
ends in a quoted text and no row of the code starts with `import` with such a row from there on.
Which brackets are open is told by reading a text from its start, in disregard of those in quotes
and in comments.
-/
import GuidedMigration.Proofs.Code.ImportScan
import GuidedMigration.Proofs.Text.Lines

namespace GuidedMigration.Code

open Text

/-! ### Open brackets -/

/-- What a character is read in: code, a slash that may open a comment, a quoted text, behind a
backslash in one, a comment to the end of the row, a comment that is closed, or behind a star in
one. -/
inductive Mode where
  | code
  | slash
  | quoted (mark : Char)
  | escaped (mark : Char)
  | remark
  | comment
  | star
  deriving DecidableEq

/-- How far a text is read: the mode, and how many brackets are open. -/
structure Lexer where
  mode : Mode
  depth : Int
  deriving DecidableEq

namespace Lexer

/-- Reads a character of code. -/
def readCode (depth : Int) (char : Char) : Lexer :=
  if char = '/' then ⟨.slash, depth⟩
  else if isQuote char || char = '\x60' then ⟨.quoted char, depth⟩
  else if isOpener char then ⟨.code, depth + 1⟩
  else if isCloser char then ⟨.code, depth - 1⟩
  else ⟨.code, depth⟩

/-- Reads a character. -/
def read : Lexer → Char → Lexer
  | ⟨.code, depth⟩, char => readCode depth char
  | ⟨.slash, depth⟩, char =>
    if char = '/' then ⟨.remark, depth⟩
    else if char = '*' then ⟨.comment, depth⟩
    else readCode depth char
  | ⟨.quoted mark, depth⟩, char =>
    if char = mark then ⟨.code, depth⟩
    else if char = '\\' then ⟨.escaped mark, depth⟩
    else ⟨.quoted mark, depth⟩
  | ⟨.escaped mark, depth⟩, _ => ⟨.quoted mark, depth⟩
  | ⟨.remark, depth⟩, char => if char = '\n' then ⟨.code, depth⟩ else ⟨.remark, depth⟩
  | ⟨.comment, depth⟩, char => if char = '*' then ⟨.star, depth⟩ else ⟨.comment, depth⟩
  | ⟨.star, depth⟩, char =>
    if char = '/' then ⟨.code, depth⟩
    else if char = '*' then ⟨.star, depth⟩
    else ⟨.comment, depth⟩

/-- Reads a text. -/
def readAll (lexer : Lexer) (text : Text) : Lexer := text.foldl read lexer

/-- In code, with no bracket open. -/
def outermost : Lexer := ⟨.code, 0⟩

theorem readAll_append (lexer : Lexer) (left right : Text) :
    lexer.readAll (left ++ right) = (lexer.readAll left).readAll right :=
  List.foldl_append

theorem readCode_blank {char : Char} (blank : isBlank char = true) (depth : Int) :
    readCode depth char = ⟨.code, depth⟩ := by
  have apart {other : Char} (solid' : isBlank other = false) : char ≠ other := by
    rintro rfl
    exact Bool.false_ne_true (solid'.symm.trans blank)
  simp [readCode, isQuote, isOpener, isCloser, @apart '/' (by decide), @apart '\'' (by decide),
    @apart '"' (by decide), @apart '\x60' (by decide), @apart '(' (by decide),
    @apart '[' (by decide), @apart '\x7b' (by decide), @apart ')' (by decide),
    @apart ']' (by decide), @apart '\x7d' (by decide)]

theorem readAll_blank {text : Text} (blank : isBlankText text = true) (depth : Int) :
    readAll ⟨.code, depth⟩ text = ⟨.code, depth⟩ := by
  induction text with
  | nil => rfl
  | cons char text inductionHypothesis =>
    rw [isBlankText, List.all_cons, Bool.and_eq_true] at blank
    rw [readAll, List.foldl_cons, read, readCode_blank blank.1]
    exact inductionHypothesis blank.2

/-- A comment to the end of the row reads as nothing. -/
theorem readAll_remark {words : Text} (inRow : '\n' ∉ words) (depth : Int) :
    readAll ⟨.code, depth⟩ ('/' :: '/' :: words ++ ['\n']) = ⟨.code, depth⟩ := by
  have within {words : Text} (inRow : '\n' ∉ words) :
      readAll ⟨.remark, depth⟩ words = ⟨.remark, depth⟩ := by
    induction words with
    | nil => rfl
    | cons char words inductionHypothesis =>
      rw [List.mem_cons, not_or] at inRow
      rw [readAll, List.foldl_cons, read, if_neg (Ne.symm inRow.1)]
      exact inductionHypothesis inRow.2
  have opened : readAll ⟨.code, depth⟩ ['/', '/'] = ⟨.remark, depth⟩ := rfl
  rw [show '/' :: '/' :: words ++ ['\n'] = ['/', '/'] ++ (words ++ ['\n']) from rfl,
    readAll_append, opened, readAll_append, within inRow]
  rfl

end Lexer

/-! ### Statements with comments -/

/-- A comment to the end of a row, if there is one. -/
def remarkText : Option Text → Text
  | none => []
  | some words => '/' :: '/' :: words

/-- An import statement as it stands in a file: blank rows, rows that do not end it, and the row
that does, with a comment perhaps. Without the comment its brackets and quotes are closed. -/
structure ImportStatement where
  gap : List Text
  upper : List Text
  final : Text
  remark : Option Text
  blank : ∀ row ∈ gap, isBlankText row = true
  begins : (upper ++ [final ++ remarkText remark]).head?.any startsImport = true
  goesOn : ∀ row ∈ upper, endsImport row = false
  ends : endsImport final = true
  inRow : '\n' ∉ remarkText remark
  balanced : Lexer.outermost.readAll (joinLines (upper ++ [final])) = .outermost

namespace ImportStatement

variable (statement : ImportStatement)

/-- The rows of a statement. -/
def rows : List Text :=
  statement.gap ++ (statement.upper ++ [statement.final ++ remarkText statement.remark])

/-- Whether the search sees that a statement ends: its last row ends in a quoted text, with the
comment if there is one. -/
def isSeen : Bool := endsImport (statement.final ++ remarkText statement.remark)

/-- Behind the rows of a statement no bracket is open if none is in front of them. -/
theorem readAll_rows : Lexer.outermost.readAll (closed statement.rows) = .outermost := by
  have blank : isBlankText (closed statement.gap) = true := by
    rw [isBlankText, closed, List.all_flatMap, List.all_eq_true]
    intro row member
    have blankRow := statement.blank row member
    rw [isBlankText] at blankRow
    rw [List.all_append, blankRow]
    rfl
  have cut : closed statement.rows = closed statement.gap ++
      (joinLines (statement.upper ++ [statement.final]) ++
        (remarkText statement.remark ++ ['\n'])) := by
    have last : joinLines (statement.upper ++ [statement.final]) =
        closed statement.upper ++ statement.final := joinLines_append (by simp) _
    rw [rows, closed_append, closed_append, last]
    simp [closed]
  have remark : Lexer.outermost.readAll (remarkText statement.remark ++ ['\n']) =
      .outermost := by
    have inRow := statement.inRow
    cases remark : statement.remark with
    | none => rfl
    | some words =>
      rw [remark] at inRow
      refine Lexer.readAll_remark (fun member => inRow ?_) 0
      exact List.mem_cons_of_mem _ (List.mem_cons_of_mem _ member)
  rw [cut, Lexer.readAll_append, Lexer.readAll_append,
    show Lexer.outermost.readAll (closed statement.gap) = .outermost from
      Lexer.readAll_blank blank 0, statement.balanced, remark]

end ImportStatement

/-- The rows of statements. -/
def importRows (statements : List ImportStatement) : List Text :=
  statements.flatMap (·.rows)

theorem readAll_importRows (statements : List ImportStatement) :
    Lexer.outermost.readAll (closed (importRows statements)) = .outermost := by
  induction statements with
  | nil => rfl
  | cons statement statements inductionHypothesis =>
    rw [importRows, List.flatMap_cons, closed_append, Lexer.readAll_append,
      statement.readAll_rows]
    exact inductionHypothesis

/-- Behind statements is where an import goes exactly if the end of the last one is seen and the
code that follows has no rows that are taken for a statement. -/
theorem importPlace_importRows_iff (statements : List ImportStatement) (code : List Text) :
    importPlace (importRows statements ++ code) = (importRows statements).length ↔
      statements.getLast?.all (·.isSeen) = true ∧ IsFree code := by
  rcases List.eq_nil_or_concat statements with rfl | ⟨others, last, rfl⟩
  · rw [show importRows [] = [] from rfl, endsBlock_nil.importPlace_append_iff]
    simp
  have cut : importRows (others.concat last) = importRows others ++ last.gap ++
      (last.upper ++ [last.final ++ remarkText last.remark]) := by
    rw [List.concat_eq_append, importRows, importRows, List.flatMap_append, List.flatMap_singleton,
      ImportStatement.rows, List.append_assoc]
  rw [cut, List.concat_eq_append, List.getLast?_concat, Option.all_some]
  cases seen : last.isSeen with
  | true =>
    rw [(endsBlock_append last.begins last.goesOn seen _).importPlace_append_iff]
    simp
  | false =>
    refine iff_of_false ?_ (by simp)
    rw [← List.append_assoc, List.append_assoc _ _ code]
    exact importPlace_ne_of_not_endsImport seen

/-- In a file of import statements with code behind them, a new import goes directly behind the
statements, where no bracket is open, exactly if the end of the last statement is seen and the code
has no rows that are taken for a statement. -/
theorem insert?_behind_imports_iff {content fragment : Text} {statements : List ImportStatement}
    {code : List Text} (laid : contentRows content = importRows statements ++ code)
    (missing : contains content fragment = false) :
    (∃ locator, Primitive.importStatement.insert? content fragment = some
        ⟨joinLines ((contentRows content).take (importPlace (contentRows content)) ++
            rendered fragment [] ++
              (contentRows content).drop (importPlace (contentRows content))) ++
          if content.isEmpty || content.getLast? = some '\n' then ['\n'] else [],
          some locator⟩) ∧
      (importPlace (contentRows content) = (importRows statements).length ↔
        statements.getLast?.all (·.isSeen) = true ∧ IsFree code) ∧
      Lexer.outermost.readAll (closed (importRows statements)) = .outermost := by
  refine ⟨insert?_import missing, ?_, readAll_importRows statements⟩
  rw [laid]
  exact importPlace_importRows_iff statements code

/-- A statement with a comment behind it. -/
def remarkedImport : ImportStatement :=
  ⟨[], [], "import a from 'a'; ".toList, some " first".toList, by decide, rfl, by decide, rfl,
    by decide, by decide⟩

/-- A statement with a comment behind it, and a grouped one behind an empty row. -/
def importsAbove : List ImportStatement :=
  [remarkedImport,
    ⟨[[]], ["import \x7b".toList, "  b,".toList], "\x7d from 'b';".toList, none, by decide, rfl,
      by decide, rfl, by decide, by decide⟩]

theorem insert?_behind_grouped_import :
    ∃ content, contentRows content = importRows importsAbove ++ ["const c = 'x';".toList] ∧
      contains content "import d from 'd';".toList = false ∧
      (Primitive.importStatement.insert? content "import d from 'd';".toList).map (·.content) =
        some ("import a from 'a'; // first\n\nimport \x7b\n  b,\n\x7d from 'b';\n".toList ++
          "import d from 'd';\nconst c = 'x';\n".toList) := by
  let content := closed (importRows importsAbove ++ ["const c = 'x';".toList])
  have laid : contentRows content = importRows importsAbove ++ ["const c = 'x';".toList] := by
    decide
  have missing : contains content "import d from 'd';".toList = false := by decide
  have free : IsFree ["const c = 'x';".toList] :=
    (@importRangesFrom_none_eq_nil 0 _).mp (by decide)
  obtain ⟨⟨locator, inserted⟩, placed, -⟩ := insert?_behind_imports_iff laid missing
  refine ⟨content, laid, missing, ?_⟩
  rw [inserted, placed.mpr ⟨by decide, free⟩, Option.map_some]
  dsimp only
  decide

/-- Behind a comment, an import goes to where the next quoted text ends a row, in a function. -/
theorem insert?_in_function :
    contentRows "import a from 'a'; // first\nconst f = () => \x7b\n  return 'x';\n\x7d;\n".toList =
        importRows [remarkedImport] ++
          ["const f = () => \x7b".toList, "  return 'x';".toList, "\x7d;".toList] ∧
      (Primitive.importStatement.insert?
          "import a from 'a'; // first\nconst f = () => \x7b\n  return 'x';\n\x7d;\n".toList
          "import b from 'b';".toList).map (·.content) =
        some ("import a from 'a'; // first\nconst f = () => \x7b\n  return 'x';\n".toList ++
          "import b from 'b';\n\x7d;\n".toList) ∧
      Lexer.outermost.readAll
          "import a from 'a'; // first\nconst f = () => \x7b\n  return 'x';\n".toList =
        ⟨.code, 1⟩ := by
  decide

end GuidedMigration.Code
