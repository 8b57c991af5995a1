import StylesheetBuild.Proofs.Compile.Trace
import StylesheetBuild.Proofs.Text.Trimming

/-!
# Browser targets in one string

Targets strung together with commas and semicolons, in any mixture and with any blanks around them,
are read like the list of the targets. As long as there is a text to read, a compile makes no
difference between the two: vendor prefixes for these targets are the first plugin.
-/

namespace StylesheetBuild

namespace Autoprefixer

structure Gap where
  before : List Char
  separator : Char
  after : List Char
  before_blank : ∀ c ∈ before, Text.isBlank c = true
  separates : isSeparator separator = true
  after_blank : ∀ c ∈ after, Text.isBlank c = true

/-- A target that can stand in a string of several. -/
def IsSingle (target : String) : Prop :=
  ∀ c ∈ target.toList, isSeparator c = false

def joinedChars (first : String) : List (Gap × String) → List Char
  | [] => first.toList
  | (gap, target) :: others =>
    first.toList ++ gap.before ++ gap.separator :: (gap.after ++ joinedChars target others)

def joined (first : String) (others : List (Gap × String)) : String :=
  String.ofList (joinedChars first others)

theorem isSeparator_of_isBlank {c : Char} (h : Text.isBlank c = true) : isSeparator c = false := by
  rw [← Bool.not_eq_true, isSeparator, Bool.or_eq_true, beq_iff_eq, beq_iff_eq]
  rintro (rfl | rfl) <;> exact absurd h (by decide)

theorem IsSingle.between_blanks {target : String} (h : IsSingle target) {before after : List Char}
    (hBefore : ∀ c ∈ before, Text.isBlank c = true) (hAfter : ∀ c ∈ after, Text.isBlank c = true) :
    ∀ c ∈ before ++ target.toList ++ after, isSeparator c = false := by
  intro c hc
  rcases List.mem_append.mp hc with hc | hc
  · rcases List.mem_append.mp hc with hc | hc
    · exact isSeparator_of_isBlank (hBefore c hc)
    · exact h c hc
  · exact isSeparator_of_isBlank (hAfter c hc)

/-- Cutting and trimming undoes joining, also behind the blanks that end the gap before. -/
theorem map_trim_splitOnP_joinedChars {front : List Char}
    (hFront : ∀ c ∈ front, Text.isBlank c = true) {first : String} {others : List (Gap × String)}
    (h : ∀ target ∈ first :: others.map Prod.snd, IsSingle target) :
    ((front ++ joinedChars first others).splitOnP isSeparator).map Text.trim =
      (first :: others.map Prod.snd).map fun target => Text.trim target.toList := by
  induction others generalizing front first with
  | nil =>
    have hWhole := (h first List.mem_cons_self).between_blanks hFront (List.forall_mem_nil _)
    rw [List.append_nil] at hWhole
    rw [joinedChars, List.splitOnP_eq_singleton hWhole, List.map_singleton,
      Text.trim_append_of_isBlank hFront]
    rfl
  | cons other others ih =>
    obtain ⟨gap, target⟩ := other
    have hPiece := (h first List.mem_cons_self).between_blanks hFront gap.before_blank
    have hRest := ih gap.after_blank fun other hOther => h other (List.mem_cons_of_mem first hOther)
    have hText : front ++ joinedChars first ((gap, target) :: others) =
        front ++ first.toList ++ gap.before ++
          gap.separator :: (gap.after ++ joinedChars target others) := by
      simp [joinedChars]
    rw [hText, List.splitOnP_append_cons_of_forall_mem hPiece gap.separator gap.separates,
      List.map_cons, hRest, Text.trim_append_blanks gap.before_blank,
      Text.trim_append_of_isBlank hFront]
    rfl

variable {first : String} {others : List (Gap × String)}

theorem browsers_joined (h : ∀ target ∈ first :: others.map Prod.snd, IsSingle target) :
    (single (joined first others)).browsers = (list (first :: others.map Prod.snd)).browsers := by
  have hPieces := map_trim_splitOnP_joinedChars (List.forall_mem_nil _) h
  rw [List.nil_append] at hPieces
  have hTexts := congrArg (List.map String.ofList) hPieces
  rw [List.map_map, List.map_map] at hTexts
  simp only [browsers, joined, String.toList_ofList]
  exact hTexts

theorem isEnabled_single_iff (s : String) : (single s).isEnabled = true ↔ s ≠ "" := by
  simp [isEnabled]

end Autoprefixer

namespace ResolvedRequest

variable (r : ResolvedRequest)

def withTargets (a : Autoprefixer) : ResolvedRequest :=
  { r with options := { r.options with autoprefixer := some a } }

theorem plugins_withTargets {a : Autoprefixer} (h : a.isEnabled = true) (content : String) :
    (r.withTargets a).plugins content =
      [.vendorPrefixes a.browsers, .documents (.forRoot r.source content)] := by
  simp [plugins, withTargets, Option.filter, h]

end ResolvedRequest

variable {m : Type → Type} [Monad m]

/-- A compile reads the targets only through the plugins. -/
theorem Compiler.compileResolved_withTargets [WorkingDirectory] {a b : Autoprefixer}
    (hA : a.isEnabled = true)
    (hB : b.isEnabled = true) (hBrowsers : a.browsers = b.browsers) (c : Compiler m)
    (progress : Progress m) (r : ResolvedRequest) :
    c.compileResolved progress (r.withTargets a) = c.compileResolved progress (r.withTargets b) := by
  have hOptions (changed : Bool) (content : String) :
      (r.withTargets a).rendererOptions changed content =
        (r.withTargets b).rendererOptions changed content := by
    rw [ResolvedRequest.rendererOptions, ResolvedRequest.rendererOptions, r.plugins_withTargets hA,
      r.plugins_withTargets hB, hBrowsers]
    rfl
  rw [compileResolved, compileResolved]
  simp only [hOptions]
  rfl

/-- Whatever is rendered comes with the plugin for the targets, ahead of the documents. -/
def CompileTrace.PrefixesFirst (t : CompileTrace) (browsers : List String) (source : Path) : Prop :=
  ∀ call ∈ t.renders,
    call.options.plugins = [.vendorPrefixes browsers, .documents (.forRoot source call.content)]

theorem CompileTrace.Conforms.prefixesFirst [WorkingDirectory] {t : CompileTrace} {count : Nat}
    {r : ResolvedRequest}
    {a : Autoprefixer} (hOn : a.isEnabled = true) (h : t.Conforms count (r.withTargets a)) :
    t.PrefixesFirst a.browsers r.source := by
  intro call hCall
  rw [h.options_eq call hCall]
  exact r.plugins_withTargets hOn call.content

/-- Targets in one string are the targets in a list, and unless that string is empty a compile runs
with either in the same way: it makes the same calls, those of the renderer with vendor prefixes for
these targets as the first plugin. -/
theorem joined_targets_agree [WorkingDirectory] [LawfulMonad m] (c : Compiler m)
    (progress : Progress m)
    (r : ResolvedRequest) {first : String} {others : List (Autoprefixer.Gap × String)}
    (h : ∀ target ∈ first :: others.map Prod.snd, Autoprefixer.IsSingle target) :
    let text := Autoprefixer.joined first others
    let single := Autoprefixer.single text
    let list := Autoprefixer.list (first :: others.map Prod.snd)
    single.browsers = list.browsers ∧
    list.isEnabled = true ∧ (single.isEnabled = true ↔ text ≠ "") ∧
    (text ≠ "" →
      ∃ run : m {t : CompileTrace // t.Conforms c.stages.length (r.withTargets list) ∧
          t.PrefixesFirst list.browsers r.source},
        ∀ a ∈ [single, list],
          (c.compileResolved progress (r.withTargets a)).run = (fun t => t.1.result) <$> run ∧
          c.recordedCompile progress (r.withTargets a) =
            (fun t => (t.1.result, t.1.calls)) <$> run) := by
  intro text single list
  have hBrowsers : single.browsers = list.browsers := Autoprefixer.browsers_joined h
  have hEnabled : single.isEnabled = true ↔ text ≠ "" := Autoprefixer.isEnabled_single_iff text
  refine ⟨hBrowsers, rfl, hEnabled, fun hText => ?_⟩
  obtain ⟨run, hPlain, hRecorded⟩ := c.exists_run_of_conforms progress (r.withTargets list)
    fun _ hConforms => And.intro hConforms (hConforms.prefixesFirst rfl)
  refine ⟨run, fun a ha => ?_⟩
  rcases List.mem_pair.mp ha with rfl | rfl
  · have hOn : single.isEnabled = true := hEnabled.mpr hText
    rw [Compiler.recordedCompile, Compiler.compileResolved_withTargets hOn rfl hBrowsers,
      Compiler.compileResolved_withTargets hOn rfl hBrowsers, ← Compiler.recordedCompile]
    exact ⟨hPlain, hRecorded⟩
  · exact ⟨hPlain, hRecorded⟩

/-- No blank, wide blanks and an empty target. -/
def mixedTargets : List (Autoprefixer.Gap × String) :=
  [(⟨[' '], ';', ['\u00a0', '\t'], List.all_eq_true.mp rfl, rfl, List.all_eq_true.mp rfl⟩, ""),
    (⟨[], ',', [], by simp, rfl, by simp⟩, " last 2 versions")]

section

attribute [local instance] WorkingDirectory.root

theorem joined_targets_agree_mixed :
    let targets := "> 5%" :: mixedTargets.map Prod.snd
    let text := "> 5% ;\u00a0\t, last 2 versions"
    let browsers := ["> 5%", "", "last 2 versions"]
    let c : Compiler Id := ⟨[Banner.stage "notice"], RenderScript.renderer {}, ⟨fun _ _ => pure ()⟩⟩
    let r : ResolvedRequest := ⟨⟨"/w/a.scss"⟩, ".a \x7b \x7d", {}, none⟩
    LawfulMonad Id ∧ (∀ target ∈ targets, Autoprefixer.IsSingle target) ∧
      Autoprefixer.joined "> 5%" mixedTargets = text ∧ text ≠ "" ∧
      (Autoprefixer.list targets).browsers = browsers ∧
      (Autoprefixer.single text).browsers = browsers ∧
      ∃ t : CompileTrace, t.PrefixesFirst browsers r.source ∧
        c.recordedCompile .silent (r.withTargets (.single text)) = (t.result, t.calls) ∧
        c.recordedCompile .silent (r.withTargets (.list targets)) = (t.result, t.calls) ∧
        t.calls.length = 3 ∧ (failure? t.result).isNone = true := by
  intro targets text browsers c r
  have hSingle : ∀ target ∈ targets, Autoprefixer.IsSingle target := by
    simp [targets, mixedTargets, Autoprefixer.IsSingle, Autoprefixer.isSeparator]
  have hJoined : Autoprefixer.joined "> 5%" mixedTargets = text := by decide +kernel
  have hList : (Autoprefixer.list targets).browsers = browsers := by decide +kernel
  obtain ⟨hBrowsers, -, -, hRuns⟩ := joined_targets_agree c .silent r hSingle
  rw [hJoined] at hBrowsers hRuns
  have hSome : text ≠ "" := by decide +kernel
  obtain ⟨run, hSame⟩ := hRuns hSome
  have hFromText := (hSame (.single text) List.mem_cons_self).2
  have hFromList := (hSame (.list targets) (List.mem_cons_of_mem _ List.mem_cons_self)).2
  have hCalls : (c.recordedCompile .silent (r.withTargets (.list targets))).2.length = 3 := by
    decide +kernel
  have hDone : (failure? (c.recordedCompile .silent (r.withTargets (.list targets))).1).isNone = true := by
    decide +kernel
  rw [hFromList] at hCalls hDone
  exact ⟨inferInstance, hSingle, hJoined, hSome, hList, hBrowsers.trans hList, run.1,
    hList ▸ run.2.2, hFromText, hFromList, hCalls, hDone⟩

end

end StylesheetBuild
