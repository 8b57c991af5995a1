import StylesheetBuild.Error.Io
import StylesheetBuild.Path.Basic

/-!
# The working directory

Relative paths start from the directory that the process runs in. The system names it by an absolute
path without `..`, or says why there is none: the directory may be gone.
-/

namespace StylesheetBuild

class WorkingDirectory where
  current : Except IoError Path
  isAbsolute_current : ∀ here, current = .ok here → here.isAbsolute = true
  not_parent_mem_current : ∀ here, current = .ok here → .parent ∉ here.steps

namespace WorkingDirectory

/-- A process in the given directory. -/
@[reducible]
def of (here : Path) (hAbsolute : here.isAbsolute = true) (hParent : .parent ∉ here.steps) :
    WorkingDirectory where
  current := .ok here
  isAbsolute_current := by rintro _ ⟨⟩; exact hAbsolute
  not_parent_mem_current := by rintro _ ⟨⟩; exact hParent

/-- A process in the root directory. -/
@[reducible]
def root : WorkingDirectory :=
  .of ⟨"/"⟩ (by decide) (by decide)

/-- A process whose directory cannot be named. -/
@[reducible]
def lost (cause : IoError) : WorkingDirectory where
  current := .error cause
  isAbsolute_current := by rintro _ ⟨⟩
  not_parent_mem_current := by rintro _ ⟨⟩

end WorkingDirectory

end StylesheetBuild
