import StylesheetBuild.Stage.Basic
import StylesheetBuild.Text.Substitution

/-!
# The banner stage

Puts a comment in front of the source and records its text in the context. An end of comment inside
the text is broken up, because it would close the comment early.
-/

namespace StylesheetBuild.Banner

def contextKey : String := "banner"

def commentEnd : List Char := ['*', '/']

def sanitize (text : String) : String :=
  String.ofList (Text.replaceAll commentEnd ['*', ' ', '/'] text.toList)

def comment (text : String) : String :=
  "/* " ++ sanitize text ++ " */"

def apply (text content : String) (context : StageContext) : String × StageContext :=
  (comment text ++ "\n" ++ content, context.insert contextKey (.str (sanitize text)))

def stage [Monad m] (text : String) : Stage m :=
  .ofFunction "banner" fun content context => .ok (apply text content context)

end StylesheetBuild.Banner
