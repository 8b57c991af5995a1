import StylesheetBuild.Proofs.Compile.Trace
import StylesheetBuild.Proofs.Files.Snapshot
import StylesheetBuild.Proofs.Options.PassedOn
import StylesheetBuild.Proofs.Settings.Precedence
import StylesheetBuild.Toml.Reader

/-!
# Options passed on to the renderer

The extra options that reach the renderer are those of the effective layer. Merging only chooses
between layers, so each key has the last field of the highest layer with that key, and the keys that
no layer passes on do not get in by merging either.
-/

namespace StylesheetBuild

open Value Options

namespace Settings

variable {key : String} (decode : Decoder) (fs : FileSystem Id)

/-- The fields of a file that can be read as settings. -/
def fileFields (file : Path) : List (String × Value) :=
  match (fs.readText file).run.run.toOption.bind decode with
  | none => []
  | some table => if (ofValue? table).isSome then tableFields table else []

def nearestFields : Option Path → List (String × Value)
  | none => []
  | some dir => fileFields decode fs (dir.joinText fileName)

def globalFields : Option Path → List (String × Value)
  | none => []
  | some file => if (fs.isFile file).run then fileFields decode fs file else []

theorem extra_layer (file : Path) :
    (layer decode fs file).extra[key]? = passedOn? (fileFields decode fs file) key := by
  rw [layer, fileFields]
  cases (fs.readText file).run.run.toOption with
  | none => simp [Options.empty]
  | some text =>
    rw [Option.bind_some, Option.bind_some, parse?]
    cases decode text with
    | none => simp [Options.empty]
    | some table =>
      rw [Option.bind_some]
      cases hRead : ofValue? table with
      | none => simp [hRead, Options.empty]
      | some o => simpa [hRead] using extra_of_ofValue? hRead

theorem extra_nearestLayer (nearest : Option Path) :
    (nearestLayer decode fs nearest).extra[key]? =
      passedOn? (nearestFields decode fs nearest) key := by
  cases nearest with
  | none => simp [nearestLayer, nearestFields, Options.empty]
  | some dir => exact extra_layer decode fs _

theorem extra_globalLayer (global : Option Path) :
    (globalLayer decode fs global).extra[key]? = passedOn? (globalFields decode fs global) key := by
  cases global with
  | none => simp [globalLayer, globalFields, Options.empty]
  | some file =>
    rw [globalLayer, globalFields]
    split
    · exact extra_layer decode fs file
    · simp [Options.empty]

end Settings

/-! ## What the renderer gets -/

def Document.toRequest (d : Document) (settings : Option ScopedSettings) : CompileRequest :=
  let (defaults, workspaceRoot) := Options.underSettings d.path settings
  ⟨d.path, d.content, defaults, workspaceRoot⟩

/-- The fields that a document's options come from, those of the highest layer first. -/
def passedFields (decode : Settings.Decoder) (fs : FileSystem Id) (global nearest : Option Path)
    (content : String) : List (List (String × Value)) :=
  [(Directive.ofContent content).map Directive.field, Settings.nearestFields decode fs nearest,
    Settings.globalFields decode fs global]

/-- No known key is passed on, and any other key with the value that the highest layer gives it last.
The short form of a key is a directive's only, so it comes from a settings file if at all. -/
structure PassesOn (decode : Settings.Decoder) (fs : FileSystem Id)
    (global nearest : Option Path) (content : String) (extra : ExtraOptions) : Prop where
  noKnown : ∀ key ∈ knownKeys, extra[key]? = none
  highest : ∀ key, key ∉ knownKeys →
    extra[key]? = (passedFields decode fs global nearest content).findSome? (lastField? · key)
  noShort : extra["out"]? =
    [Settings.nearestFields decode fs nearest, Settings.globalFields decode fs global].findSome?
      (lastField? · "out")

variable {decode : Settings.Decoder} {fs : FileSystem Id} {global nearest : Option Path}
  {content : String}

theorem lastField?_out_directives (content : String) :
    lastField? ((Directive.ofContent content).map Directive.field) "out" = none := by
  rw [lastField?, field?, List.lookup_eq_none_iff]
  intro f hf
  rw [List.mem_reverse, List.mem_map] at hf
  obtain ⟨d, hd, rfl⟩ := hf
  rw [bne_iff_ne]
  exact (Directive.ne_out_of_mem hd).symm

theorem passesOn_of_passedOn? {extra : ExtraOptions}
    (h : ∀ key, extra[key]? =
      (passedFields decode fs global nearest content).findSome? (passedOn? · key)) :
    PassesOn decode fs global nearest content extra := by
  have hOther : ∀ key, key ∉ knownKeys →
      extra[key]? =
        (passedFields decode fs global nearest content).findSome? (lastField? · key) := by
    intro key hKey
    rw [h]
    congr 1
    funext fields
    rw [passedOn?, if_neg hKey]
  constructor
  case noKnown =>
    intro key hKey
    rw [h, List.findSome?_eq_none_iff]
    intro fields _
    rw [passedOn?, if_pos hKey]
  case highest => exact hOther
  case noShort =>
    rw [hOther "out" (by decide), passedFields, List.findSome?_cons, lastField?_out_directives]

theorem extra_resolved (decode : Settings.Decoder) (fs : FileSystem Id) (global : Option Path)
    (d : Document) :
    ∃ nearest, Settings.NearestAbove fs d.path.parent? nearest ∧
      PassesOn decode fs global nearest d.content
        (d.toRequest (Settings.lookup decode fs global d.path).run).resolve.options.extra := by
  obtain ⟨nearest, hNearest, hWorkspace⟩ := Settings.workspace?_eq decode fs d.path
  refine ⟨nearest, hNearest, passesOn_of_passedOn? fun key => ?_⟩
  have hLookup : (Settings.lookup decode fs global d.path).run =
      Settings.combine (Settings.globalLayer? decode fs global).run
        (nearest.map fun dir =>
          (Settings.layer decode fs (dir.joinText Settings.fileName), dir)) := by
    rw [← hWorkspace]
    rfl
  have hLayer : ((nearest.map fun dir =>
      (Settings.layer decode fs (dir.joinText Settings.fileName), dir)).map Prod.fst).getD .empty =
        Settings.nearestLayer decode fs nearest := by
    cases nearest <;> rfl
  have hDefaults : (defaultsFor d.path).extra[key]? = none := Std.ExtTreeMap.getElem?_empty
  rw [hLookup]
  change ((underSettings d.path (Settings.combine _ _)).1.withDirectives d.content).extra[key]? = _
  rw [withDirectives, getElem?_extra_merge, ofContent, Directive.extra_ofDirectives]
  change (passedOn? _ key).or ((underSettings d.path (Settings.combine _ _)).1.get? (.extra key)) = _
  rw [Settings.get?_underSettings, hLayer, Settings.globalLayer?_getD]
  simp only [get?, Settings.extra_nearestLayer, Settings.extra_globalLayer, hDefaults, passedFields,
    findSome?_passedOn?_cons, List.findSome?_nil]

theorem CompileTrace.Conforms.extra [WorkingDirectory] {t : CompileTrace} {count : Nat}
    {r : ResolvedRequest}
    (h : t.Conforms count r) : ∀ call ∈ t.renders, call.options.extra = r.options.extra := by
  intro call hCall
  rw [h.options_eq call hCall]
  rfl

/-- The renderer is passed no option that the build itself knows, whatever the layers hold, and every
other one with the value of the highest layer that sets it. -/
theorem compile_passesOn [WorkingDirectory] {m : Type → Type} [Monad m] [LawfulMonad m]
    (decode : Settings.Decoder) (c : Compiler m) (progress : Progress m) (fs : FileSystem Id)
    (global : Option Path) (d : Document) :
    ∃ nearest, Settings.NearestAbove fs d.path.parent? nearest ∧
      let request := d.toRequest (Settings.lookup decode fs global d.path).run
      ∃ run : m {t : CompileTrace // t.Conforms c.stages.length request.resolve ∧
          ∀ call ∈ t.renders, PassesOn decode fs global nearest d.content call.options.extra},
        (c.compile progress request).run = (fun t => t.1.result) <$> run ∧
        (c.recorded.compile progress.recorded request).run.run [] =
          (fun t => (t.1.result, t.1.calls)) <$> run := by
  obtain ⟨nearest, hNearest, hPassed⟩ := extra_resolved decode fs global d
  obtain ⟨run, hPlain, hRecorded⟩ := c.traced_compileResolved progress
    (d.toRequest (Settings.lookup decode fs global d.path).run).resolve
  refine ⟨nearest, hNearest, (fun out => ⟨out.2.choose, out.2.choose_spec.1, ?_⟩) <$> run, ?_, ?_⟩
  · intro call hCall
    rw [out.2.choose_spec.1.extra call hCall]
    exact hPassed
  · rw [Compiler.compile, hPlain, ← comp_map]
    congr
    funext out
    exact out.2.choose_spec.2.2
  · rw [Compiler.compile, hRecorded [], ← comp_map]
    congr
    funext out
    exact Prod.ext out.2.choose_spec.2.2 out.2.choose_spec.2.1

/-- A directive that does not fit, a short form and keys that are set in several layers. -/
def layeredDocument : Document :=
  ⟨⟨"/ws/ui/a.less"⟩, "// out: \"dist/\", relativeUrls: 3, math: strict, math: parens\n.a \x7b\x7d"⟩

def layeredFiles : FileTree :=
  let tree := (FileTree.empty.set ["ws"] .directory).set ["ws", "ui"] .directory
  let nearest := "[compile]\nout = \"x\"\nlint = nan\n"
  let global := "[compile]\nlint = true\npaths = \"lib\"\n"
  (tree.set ["ws", Settings.fileName] (.file nearest.toUTF8)).set ["global.toml"]
    (.file global.toUTF8)

section

attribute [local instance] WorkingDirectory.root

theorem compile_passesOn_layered :
    let fs := layeredFiles.snapshot []
    let global : Option Path := some ⟨"/global.toml"⟩
    let c : Compiler Id := ⟨[Banner.stage "notice"], RenderScript.renderer {}, ⟨fun _ _ => pure ()⟩⟩
    let request := layeredDocument.toRequest
      (Settings.lookup Toml.parse? fs global layeredDocument.path).run
    LawfulMonad Id ∧ ∃ t : CompileTrace, (c.compile .silent request).run = t.result ∧
      t.calls.length = 3 ∧ ∀ call ∈ t.renders,
        call.options.extra["math"]?.bind Value.str? = some "parens" ∧
        call.options.extra["out"]?.bind Value.str? = some "x" ∧
        call.options.extra["lint"]?.map Value.bool? = some none ∧
        call.options.extra["paths"]?.bind Value.str? = some "lib" ∧
        call.options.extra["relativeUrls"]? = none := by
  intro fs global c request
  obtain ⟨nearest, hNearest, run, hPlain, hRecorded⟩ :=
    compile_passesOn Toml.parse? c .silent fs global layeredDocument
  have hParent : layeredDocument.path.parent? = some ⟨"/ws/ui"⟩ := by decide +kernel
  have hUp : (⟨"/ws/ui"⟩ : Path).parent? = some ⟨"/ws"⟩ := by decide +kernel
  have hHere : Settings.NearestAbove fs layeredDocument.path.parent? (some ⟨"/ws"⟩) := by
    rw [hParent]
    refine .above (by decide +kernel) ?_
    rw [hUp]
    exact .here (by decide +kernel)
  obtain rfl := hNearest.unique hHere
  have hCalls : ((c.recorded.compile (Progress.recorded .silent) request).run.run []).2.length = 3 := by
    decide +kernel
  rw [hRecorded] at hCalls
  refine ⟨inferInstance, run.1, hPlain, hCalls, fun call hCall => ?_⟩
  have hPassed := run.2.2 call hCall
  rw [hPassed.highest "math" (by decide), hPassed.noShort, hPassed.highest "lint" (by decide),
    hPassed.highest "paths" (by decide)]
  exact ⟨by decide +kernel, by decide +kernel, by decide +kernel, by decide +kernel,
    hPassed.noKnown _ (by decide)⟩

end

end StylesheetBuild
