import StylesheetBuild.Scss.Tree
import StylesheetBuild.Text.Blank
import StylesheetBuild.Text.Lines

/-!
# Stylesheets

What evaluation leaves: comments, flat rules and imports, which come before everything else. In the expanded style a blank line follows each
rule that ends a group and has something after it, and selectors stay on lines of their own; in the
compressed style only comments that start with `/*!` are kept. Rules without declarations and
comments do not show.
-/

namespace StylesheetBuild.Scss

inductive Entry where
  | declaration (property : String) (value : List Token)
  | comment (text : String) (column : Nat)
  | link (target : String)
deriving DecidableEq

structure StyleRule where
  selectors : List Selector
  entries : List Entry
  /-- Whether it is the last rule that came from a rule outside of rules. -/
  endsGroup : Bool := false
deriving DecidableEq

inductive Node where
  | entry (entry : Entry)
  | rule (rule : StyleRule)
deriving DecidableEq

namespace Token

def isComma (t : Token) : Bool :=
  t == comma

def word? : Token → Option String
  | word s => some s
  | comma => none

end Token

namespace Style

def separator : Style → String
  | expanded => ", "
  | compressed => ","

def value (style : Style) (tokens : List Token) : String :=
  style.separator.intercalate
    ((tokens.splitOnP Token.isComma).map fun ts => " ".intercalate (ts.filterMap Token.word?))

/-- A line loses as many blanks as its comment was indented by. -/
def outdent (column : Nat) (line : List Char) : List Char :=
  let indent := (String.ofList (line.takeWhile Text.isBlank)).utf8ByteSize
  List.replicate (indent - column) ' ' ++ Text.trimStart line

def comment (text : String) (column : Nat) : String :=
  match Text.lines text.toList with
  | [] => ""
  | first :: rest =>
    "\n".intercalate ((Text.trimStart first :: rest.map (outdent column)).map String.ofList)

def keepsComment (style : Style) (text : String) : Bool :=
  style == expanded || "/*!".isPrefixOf text

def link (target : String) : String :=
  "@import " ++ target

/-- The lines of a rule's body. -/
def expandedEntry : Entry → String
  | .declaration property tokens => "  " ++ property ++ ": " ++ expanded.value tokens ++ ";\n"
  | .comment text column => "  " ++ comment text column ++ "\n"
  | .link target => "  " ++ link target ++ ";\n"

def compressedEntry : Entry → String
  | .declaration property tokens => property ++ ":" ++ compressed.value tokens
  | .comment text column => if compressed.keepsComment text then comment text column else ""
  | .link target => link target

def needsSemicolon : Entry → Bool
  | .declaration _ _ | .link _ => true
  | .comment _ _ => false

/-- A semicolon follows each declaration and import but the last entry. -/
def compressedEntries : List Entry → String
  | [] => ""
  | [e] => compressedEntry e
  | e :: es => compressedEntry e ++ (if needsSemicolon e then ";" else "") ++ compressedEntries es

/-- A selector with the separator before it. -/
def furtherSelector (style : Style) (s : Selector) : String :=
  (if s.startsLine && style == expanded then ",\n" else style.separator) ++ s.text

def selectorList (style : Style) : List Selector → String
  | [] => ""
  | s :: ss => s.text ++ String.join (ss.map style.furtherSelector)

def rule (style : Style) (r : StyleRule) : String :=
  let selector := style.selectorList r.selectors
  match style with
  | expanded => selector ++ " \x7b\n" ++ String.join (r.entries.map expandedEntry) ++ "\x7d"
  | compressed => selector ++ "\x7b" ++ compressedEntries r.entries ++ "\x7d"

def node (style : Style) : Node → String
  | .rule r => style.rule r
  | .entry (.comment text column) => if style.keepsComment text then comment text column else ""
  | .entry (.link target) => link target ++ ";"
  | .entry (.declaration _ _) => ""

end Style

namespace Node

def isVisible : Node → Bool
  | rule r => !r.entries.isEmpty
  | entry _ => true

def isLink : Node → Bool
  | entry (.link _) => true
  | _ => false

def endsGroup : Node → Bool
  | rule r => r.endsGroup
  | entry _ => false

/-- The last rule, now the end of a group. -/
def markGroupEnd : Node → Node
  | rule r => rule { r with endsGroup := true }
  | n => n

end Node

namespace Style

def expandedNodes : List Node → String
  | [] => ""
  | [n] => expanded.node n ++ "\n"
  | n :: ns => expanded.node n ++ (if n.endsGroup then "\n\n" else "\n") ++ expandedNodes ns

def nodes (style : Style) (ns : List Node) : String :=
  let shown := ns.filter Node.isLink ++ ns.filter fun n => n.isVisible && !n.isLink
  match style with
  | expanded => expandedNodes shown
  | compressed => String.join (shown.map compressed.node)

/-- What tells a reader of the text how it is encoded. -/
def encodingMark : Style → String
  | expanded => "@charset \"UTF-8\";\n"
  | compressed => "\ufeff"

/-- The text of a stylesheet, marked if it is not ASCII. -/
def render (style : Style) (ns : List Node) : String :=
  let text := style.nodes ns
  if text.toList.all fun c => c.toNat < 128 then text else style.encodingMark ++ text

end Style

end StylesheetBuild.Scss
