import StylesheetBuild.Proofs.Options.Layers
import StylesheetBuild.Proofs.Path.Parents
import StylesheetBuild.Settings.Lookup

/-!
# Precedence of settings

For fixed contents of the file system, the options of a document are those of four layers, searched
key by key from the top: its directives, the nearest settings file at or above its directory, the
global settings file and the defaults. Files that cannot be read as settings are empty layers.
-/

namespace StylesheetBuild.Settings

/-- The nearest directory with a settings file, from a directory upwards. -/
inductive NearestAbove (fs : FileSystem Id) : Option Path → Option Path → Prop where
  | nowhere : NearestAbove fs none none
  | here {dir : Path} (isFile : (fs.isFile (dir.joinText fileName)).run = true) :
    NearestAbove fs (some dir) (some dir)
  | above {dir : Path} {found : Option Path}
    (isMissing : (fs.isFile (dir.joinText fileName)).run = false)
    (further : NearestAbove fs dir.parent? found) : NearestAbove fs (some dir) found

theorem NearestAbove.unique {fs : FileSystem Id} {start? found other : Option Path}
    (h : NearestAbove fs start? found) (hOther : NearestAbove fs start? other) : found = other := by
  induction h with
  | nowhere =>
    cases hOther
    rfl
  | here isFile =>
    cases hOther with
    | here => rfl
    | above isMissing => simp [isFile] at isMissing
  | above isMissing further ih =>
    cases hOther with
    | here isFile => simp [isFile] at isMissing
    | above _ furtherOther => exact ih furtherOther

/-- What a settings file says; nothing if it cannot be read or does not hold options. -/
def layer (decode : Decoder) (fs : FileSystem Id) (file : Path) : Options :=
  ((fs.readText file).run.run.toOption.bind (parse? decode)).getD .empty

def globalLayer (decode : Decoder) (fs : FileSystem Id) : Option Path → Options
  | none => .empty
  | some file => if (fs.isFile file).run then layer decode fs file else .empty

def nearestLayer (decode : Decoder) (fs : FileSystem Id) : Option Path → Options
  | none => .empty
  | some dir => layer decode fs (dir.joinText fileName)

section

variable (decode : Decoder) (fs : FileSystem Id)

theorem load?_getD (file : Path) :
    (load? decode fs file).run.getD .empty = layer decode fs file := by
  rw [layer, load?, load]
  cases hText : (fs.readText file).run.run with
  | error e => simp [hText, Except.toOption]
  | ok text => cases hOptions : parse? decode text <;> simp [hText, hOptions, Except.toOption]

theorem globalLayer?_getD (global : Option Path) :
    (globalLayer? decode fs global).run.getD .empty = globalLayer decode fs global := by
  cases global with
  | none => rfl
  | some file =>
    rw [globalLayer, ← load?_getD]
    cases hFile : (fs.isFile file).run with
    | false => simp [globalLayer?, hFile]
    | true => simp [globalLayer?, hFile]

omit decode in
theorem findWorkspace?_eq (start : Path) :
    ∃ found, NearestAbove fs (some start) found ∧
      (findWorkspace? fs start).run = found.map (·.joinText fileName) := by
  rw [findWorkspace?, start.ancestors_eq]
  cases hFile : (fs.isFile (start.joinText fileName)).run with
  | true => exact ⟨some start, .here hFile, by simp [hFile]⟩
  | false =>
    cases hParent : start.parent? with
    | none => exact ⟨none, .above hFile (by rw [hParent]; exact .nowhere), by simp [hFile]⟩
    | some up =>
      obtain ⟨found, hFound, hUp⟩ := findWorkspace?_eq up
      refine ⟨found, .above hFile (hParent ▸ hFound), ?_⟩
      rw [findWorkspace?] at hUp
      simpa [hFile] using hUp
termination_by start.components.length
decreasing_by
  obtain ⟨last, hLast⟩ := Path.components_of_parent? hParent
  simp [hLast]

theorem NearestAbove.isTrimmed {fs : FileSystem Id} {start? : Option Path} {dir : Path}
    (h : NearestAbove fs start? (some dir)) (hStart : ∀ start ∈ start?, start.IsTrimmed) :
    dir.IsTrimmed := by
  generalize hFound : some dir = found at h
  induction h with
  | nowhere => cases hFound
  | here isFile =>
    cases hFound
    exact hStart dir rfl
  | above isMissing further ih => exact ih (fun up hUp => Path.isTrimmed_of_parent? hUp) hFound

theorem workspace?_eq (document : Path) :
    ∃ found, NearestAbove fs document.parent? found ∧
      (workspace? decode fs document).run =
        found.map fun dir => (layer decode fs (dir.joinText fileName), dir) := by
  cases hParent : document.parent? with
  | none => exact ⟨none, .nowhere, by simp [workspace?, hParent]⟩
  | some start =>
    obtain ⟨found, hFound, hWorkspace⟩ := findWorkspace?_eq fs start
    refine ⟨found, hFound, ?_⟩
    cases found with
    | none => simp [workspace?, hParent, hWorkspace]
    | some dir =>
      have hTrimmed : dir.IsTrimmed := by
        apply hFound.isTrimmed
        rintro _ ⟨⟩
        exact Path.isTrimmed_of_parent? hParent
      have hDirectory : (dir.joinText fileName).directory = dir :=
        hTrimmed.directory_joinText (by decide) (by decide)
      simp [workspace?, hParent, hWorkspace, load?_getD, hDirectory]

end

/-- The layers of a document from the highest to the lowest. -/
def layers (decode : Decoder) (fs : FileSystem Id) (global : Option Path) (d : Document)
    (nearest : Option Path) : List Options :=
  [.ofContent d.content, nearestLayer decode fs nearest, globalLayer decode fs global,
    .defaultsFor d.path]

theorem get?_underSettings (document : Path) (global : Option Options)
    (workspace : Option (Options × Path)) (k : OptionKey α) :
    (Options.underSettings document (combine global workspace)).1.get? k =
      (((workspace.map Prod.fst).getD .empty).get? k).or
        (((global.getD .empty).get? k).or ((Options.defaultsFor document).get? k)) := by
  cases global <;> cases workspace <;> simp [combine, Options.underSettings, Option.or_assoc]

theorem workspaceRoot_underSettings (document : Path) (global : Option Options)
    (workspace : Option (Options × Path)) :
    (Options.underSettings document (combine global workspace)).2 = workspace.map Prod.snd := by
  cases global <;> cases workspace <;> rfl

/-- Each key has the value of the highest layer that sets it, and the nearest settings file marks the
workspace. -/
theorem resolve_precedence (decode : Decoder) (fs : FileSystem Id) (global : Option Path)
    (d : Document) :
    ∃ nearest, NearestAbove fs d.path.parent? nearest ∧
      (d.resolve (lookup decode fs global d.path).run).workspaceRoot = nearest ∧
      ∀ {α : Type} (k : OptionKey α),
        (d.resolve (lookup decode fs global d.path).run).options.get? k =
          (layers decode fs global d nearest).findSome? (·.get? k) := by
  obtain ⟨nearest, hNearest, hWorkspace⟩ := workspace?_eq decode fs d.path
  have hLookup : (lookup decode fs global d.path).run =
      combine (globalLayer? decode fs global).run
        (nearest.map fun dir => (layer decode fs (dir.joinText fileName), dir)) := by
    rw [← hWorkspace]
    rfl
  refine ⟨nearest, hNearest, ?_, ?_⟩
  · rw [hLookup]
    change (Options.underSettings d.path (combine _ _)).2 = nearest
    rw [workspaceRoot_underSettings, Option.map_map]
    exact Option.map_id'
  · intro α k
    rw [hLookup]
    change ((Options.underSettings d.path (combine _ _)).1.withDirectives d.content).get? k = _
    have hLayer : ((nearest.map fun dir => (layer decode fs (dir.joinText fileName), dir)).map
        Prod.fst).getD .empty = nearestLayer decode fs nearest := by
      cases nearest <;> rfl
    rw [Options.withDirectives, Options.get?_merge, get?_underSettings, globalLayer?_getD, hLayer]
    simp only [layers, Options.findSome?_get?_cons, List.findSome?_nil, Option.or_none]

end StylesheetBuild.Settings
