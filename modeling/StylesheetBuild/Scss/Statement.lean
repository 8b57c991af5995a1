import StylesheetBuild.Scss.Value

/-!
# Statements

What stands before a semicolon or a closing brace, and the selectors before an opening one. In a
rule everything that is neither an assignment nor starts with an at sign is a declaration.
-/

namespace StylesheetBuild.Scss

/-- One selector of a list. -/
structure Selector where
  text : String
  /-- Whether it starts on another line than the comma before it. -/
  startsLine : Bool := false
deriving DecidableEq

inductive Statement where
  | assign (name : String) (value : List Piece)
  | declare (property : String) (value : List Piece)
  | load (file : String) (position : Position)
  /-- An import that stays in the stylesheet, with its quoted target. -/
  | link (target : String)
  /-- The column is that of the first character of the comment. -/
  | comment (text : String) (column : Nat)
  | rule (selectors : List Selector) (body : List Statement)

/-! ## Assignments and declarations -/

def headPosition (text : List Mark) (stop : Position) : Position :=
  (text.head?.map Mark.position).getD stop

/-- The place of the colon that the text starts with, and what follows it. -/
def readColon (text : List Mark) (stop : Position) : Except Refusal (Position × List Mark) :=
  match text.dropWhile Mark.isBlank with
  | ⟨':', colon⟩ :: value => .ok (colon, value)
  | rest => .error (expectedChar ':' (headPosition rest stop))

/-- The text is what follows the dollar sign. -/
def readAssignment (text : List Mark) (stop : Position) : Except Refusal Statement := do
  let name := text.takeWhile fun m => isNameChar m.char
  let (colon, value) ← readColon (text.drop name.length) stop
  return .assign (variableName (Mark.chars name)) (← readValue .scss colon value)

def readDeclaration (text : List Mark) (stop : Position) : Except Refusal Statement := do
  let property := text.takeWhile (·.char != ':')
  match text.drop property.length with
  | [] => throw (expectedChar '\x7b' stop)
  | colon :: value =>
    return .declare (Mark.text (Mark.trim property)) (← readValue .scss colon.position value)

/-- The character before a name in CSS that hides the declaration from some readers. -/
def startsHidden (m : Mark) : Bool :=
  [':', '*', '.', '#'].contains m.char

/-- The property of a declaration in CSS, the place of the colon and what follows it. -/
def readProperty (text : List Mark) (stop : Position) :
    Except Refusal (String × Position × List Mark) := do
  let before := match text with
    | [] => []
    | m :: rest => if startsHidden m then m :: rest.takeWhile Mark.isBlank else []
  let rest := text.drop before.length
  let name := rest.takeWhile fun m => isNameChar m.char
  if name.isEmpty then throw ⟨"Expected identifier.", headPosition rest stop⟩
  let (colon, value) ← readColon (rest.drop name.length) stop
  return (Mark.text (before ++ name), colon, value)

def readCssDeclaration (text : List Mark) (stop : Position) : Except Refusal Statement := do
  let (property, colon, value) ← readProperty text stop
  return .declare property (← readValue .css colon value)

/-- The error for an opening brace in a rule of CSS, where only a declaration can stand. -/
def nestedRefusal (head : List Mark) (brace : Position) : Refusal :=
  let read := do
    let (_, colon, value) ← readProperty head brace
    if value.all Mark.isBlank then pure [] else readValue .css colon value
  match read with
  | .error r => r
  | .ok _ => noNestedDeclarations brace

/-! ## Imports -/

/-- A quoted string, the place where it starts and what follows it. -/
structure QuotedText where
  quote : Char
  content : String
  position : Position
  rest : List Mark

def readQuoted (text : List Mark) (stop : Position) : Except Refusal QuotedText :=
  match text.dropWhile Mark.isBlank with
  | [] => .error ⟨"Expected string.", stop⟩
  | m :: ms =>
    let content := ms.takeWhile (·.char ≠ m.char)
    if isQuote m.char then
      .ok ⟨m.char, Mark.text content, m.position, ms.drop (content.length + 1)⟩
    else .error ⟨"Expected string.", m.position⟩

def quoted (quote : Char) (content : String) : String :=
  quote.toString ++ content ++ quote.toString

/-- Whether an import names what a browser loads: a file with the extension of CSS or an address. -/
def isLink (target : String) : Bool :=
  let cs := target.toList.map Char.toLower
  5 ≤ target.utf8ByteSize &&
    (".css".toList.isSuffixOf cs ||
      ["http://", "https://", "//"].any fun start => start.toList.isPrefixOf cs)

/-- A link is written as it was read. -/
def readImport (stop : Position) (text : List Mark) : Except Refusal Statement := do
  let q ← readQuoted text stop
  return if isLink q.content then .link (quoted q.quote q.content) else .load q.content q.position

/-- An import of CSS stays what it is; double quotes are preferred. -/
def readCssImport (text : List Mark) (stop : Position) : Except Refusal Statement := do
  let q ← readQuoted text stop
  match q.rest.dropWhile Mark.isBlank with
  | [] => return .link (quoted (if q.content.contains '"' then '\'' else '"') q.content)
  | m :: _ => throw (expectedChar ';' m.position)

/-- The text starts with an at sign. -/
def readAtRule (d : Dialect) (text : List Mark) (stop : Position) :
    Except Refusal (List Statement) := do
  let name := text.tail.takeWhile fun m => isNameChar m.char
  let rest := text.drop (name.length + 1)
  if Mark.text name = "import" then
    match d with
    | .scss => (Mark.splitAtCommas none rest).mapM (readImport stop)
    | .css => return [← readCssImport rest stop]
  else throw ⟨"This at-rule is not allowed here.", headPosition text stop⟩

/-- An item is not empty and does not start with a blank. -/
def readItem (d : Dialect) (isInRule : Bool) (text : List Mark) (stop : Position) :
    Except Refusal (List Statement) := do
  match text, d with
  | ⟨'$', _⟩ :: rest, .scss => return [← readAssignment rest stop]
  | ⟨'$', p⟩ :: _, .css => throw (noVariables p)
  | ⟨'@', _⟩ :: _, _ => readAtRule d text stop
  | _, _ =>
    if !isInRule then throw (expectedChar '\x7b' stop)
    match d with
    | .scss => return [← readDeclaration text stop]
    | .css => return [← readCssDeclaration text stop]

/-! ## Selectors -/

/-- The words of a text with single spaces between them. -/
def singleSpaced (cs : List Char) : String :=
  " ".intercalate (((cs.splitOnP isBlankChar).filter (!·.isEmpty)).map String.ofList)

def startsWithLineEnd (cs : List Char) : Bool :=
  (cs.takeWhile isBlankChar).contains '\n'

/-- The selectors between the commas of a list, where the line may have ended before the first. -/
def selectorsOf (lineEnded : Bool) : List (List Char) → List Selector
  | [] => []
  | part :: parts =>
    let lineEnded := lineEnded || startsWithLineEnd part
    let text := singleSpaced part
    if text.isEmpty then selectorsOf lineEnded parts
    else ⟨text, lineEnded⟩ :: selectorsOf false parts

def readSelectors (head : List Mark) : List Selector :=
  selectorsOf false ((Mark.splitAtCommas none head).map Mark.chars)

end StylesheetBuild.Scss
