import Std.Data.ExtTreeMap
import StylesheetBuild.Diagnostic.Basic
import StylesheetBuild.Path.Order

/-!
# Current diagnostics

The diagnostics of each file, in the order of the files. A file without diagnostics has no entry.
-/

namespace StylesheetBuild

structure DiagnosticCollection where
  entries : Std.ExtTreeMap Path.Key (List Diagnostic) := ∅

namespace DiagnosticCollection

def empty : DiagnosticCollection := {}

def get (c : DiagnosticCollection) (file : Path) : List Diagnostic :=
  c.entries[file.key]?.getD []

def delete (c : DiagnosticCollection) (file : Path) : DiagnosticCollection :=
  ⟨c.entries.erase file.key⟩

/-- Replaces the diagnostics of a file; none at all clear it. -/
def set (c : DiagnosticCollection) (file : Path) (ds : List Diagnostic) : DiagnosticCollection :=
  if ds.isEmpty then c.delete file else ⟨c.entries.insert file.key ds⟩

theorem get_delete (c : DiagnosticCollection) (file other : Path) :
    (c.delete file).get other = if other.key = file.key then [] else c.get other := by
  by_cases h : other.key = file.key
  · simp [get, delete, h]
  · simp [get, delete, h, Std.ExtTreeMap.getElem?_erase, Ne.symm h]

theorem get_set (c : DiagnosticCollection) (file other : Path) (ds : List Diagnostic) :
    (c.set file ds).get other = if other.key = file.key then ds else c.get other := by
  cases ds with
  | nil => exact get_delete c file other
  | cons d ds =>
    by_cases h : other.key = file.key
    · simp [get, set, h]
    · simp [get, set, h, Std.ExtTreeMap.getElem?_insert, Ne.symm h]

def isEmpty (c : DiagnosticCollection) : Bool :=
  c.entries.isEmpty

/-- All diagnostics, in the order of their files. -/
def toList (c : DiagnosticCollection) : List Diagnostic :=
  c.entries.toList.flatMap Prod.snd

/-- Records the failed compile of a document: its diagnostic is the only one of the affected file. -/
def recordFailure (c : DiagnosticCollection) (d : Diagnostic) : DiagnosticCollection :=
  c.set d.affectedFile [d]

end DiagnosticCollection

end StylesheetBuild
