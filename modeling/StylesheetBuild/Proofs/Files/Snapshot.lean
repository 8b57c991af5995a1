import Mathlib.Tactic.Common
import StylesheetBuild.Files.Tree

/-!
# Snapshots

A file tree that is only read from answers like fixed contents. `Reads` relates a program on a tree
to what it answers without the tree being changed, and is carried through sequencing.
-/

namespace StylesheetBuild

theorem fromUTF8?_toUTF8 (text : String) : String.fromUTF8? text.toUTF8 = some text := by
  rw [String.fromUTF8?, String.toUTF8, dif_pos text.isValidUTF8]
  rfl

theorem FileSystem.textOfBytes_toUTF8 (text : String) : textOfBytes text.toUTF8 = .ok text := by
  rw [textOfBytes, fromUTF8?_toUTF8]

namespace FileTree

/-- The contents of a tree. Nothing that is written shows in them. -/
def snapshot (t : FileTree) (cwd : Place) : FileSystem Id where
  isFile p := t.isFile cwd p
  isDirectory p := t.isDirectory cwd p
  read p := ExceptT.mk (t.read cwd p)
  write _ _ := pure ()
  createDirectories _ := pure ()

theorem readText_snapshot {t : FileTree} {cwd place : Place} {p : Path} {text : String}
    (h : t.lookup cwd p = .ok (place, .file text.toUTF8)) :
    ((t.snapshot cwd).readText p).run.run = .ok text := by
  have hRead : t.read cwd p = .ok text.toUTF8 := by rw [FileTree.read, h]
  have hContent : (t.snapshot cwd).read p = pure text.toUTF8 :=
    congrArg (ExceptT.mk (m := Id)) hRead
  rw [FileSystem.readText, hContent, pure_bind]
  exact FileSystem.textOfBytes_toUTF8 text

/-- The program answers without changing the tree. -/
def Reads (t : FileTree) (program : StateM FileTree α) (answer : Id α) : Prop :=
  program.run t = (answer.run, t)

namespace Reads

variable {t : FileTree}

theorem pure (a : α) : t.Reads (pure a) (Pure.pure a) :=
  rfl

theorem bind {program : StateM FileTree α} {answer : Id α} {next : α → StateM FileTree β}
    {nextAnswer : α → Id β} (h : t.Reads program answer)
    (hNext : ∀ a, t.Reads (next a) (nextAnswer a)) :
    t.Reads (program >>= next) (answer >>= nextAnswer) := by
  rw [Reads, StateT.run_bind, h]
  exact hNext answer.run

theorem isFile (cwd : Place) (p : Path) :
    t.Reads ((fileSystem cwd).isFile p) ((t.snapshot cwd).isFile p) :=
  rfl

theorem readText (cwd : Place) (p : Path) :
    t.Reads ((fileSystem cwd).readText p).run ((t.snapshot cwd).readText p).run := by
  rw [FileSystem.readText, FileSystem.readText, ExceptT.run_bind, ExceptT.run_bind]
  refine bind rfl fun content => ?_
  cases content <;> rfl

theorem findM? {p : α → StateM FileTree Bool} {q : α → Id Bool} (h : ∀ a, t.Reads (p a) (q a))
    (as : List α) : t.Reads (as.findM? p) (as.findM? q) := by
  induction as with
  | nil => exact pure none
  | cons a as ih =>
    rw [List.findM?, List.findM?]
    refine bind (h a) fun found => ?_
    cases found with
    | true => exact pure (some a)
    | false => exact ih

end Reads

end FileTree

end StylesheetBuild
