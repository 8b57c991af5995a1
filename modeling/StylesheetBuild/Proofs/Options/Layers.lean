import StylesheetBuild.Options.Resolution

/-!
# Options key by key

A layer of options seen as a partial map from keys to values, each key with the type of its values.
Stacking layers is then a search: the value of a key is that of the highest layer that has one.
-/

namespace StylesheetBuild

inductive OptionKey : Type → Type where
  | outputPath : OptionKey OutputPath
  | outputExtension : OptionKey String
  | sameBaseWithCssFolder : OptionKey Bool
  | keepFolderStructure : OptionKey Bool
  | sourceMap : OptionKey SourceMapOption
  | autoprefixer : OptionKey Autoprefixer
  | relativeUrls : OptionKey Bool
  | rootFileInfo : OptionKey RootFileInfo
  | extra (key : String) : OptionKey Value

namespace Options

def get? (o : Options) : OptionKey α → Option α
  | .outputPath => o.outputPath
  | .outputExtension => o.outputExtension
  | .sameBaseWithCssFolder => o.sameBaseWithCssFolder
  | .keepFolderStructure => o.keepFolderStructure
  | .sourceMap => o.sourceMap
  | .autoprefixer => o.autoprefixer
  | .relativeUrls => o.relativeUrls
  | .rootFileInfo => o.rootFileInfo
  | .extra key => o.extra[key]?

theorem ext_get? {o other : Options}
    (h : ∀ {α : Type} (k : OptionKey α), o.get? k = other.get? k) : o = other := by
  obtain ⟨outputPath, outputExtension, sameBase, keepFolders, sourceMap, autoprefixer, relativeUrls,
    rootFileInfo, extra⟩ := o
  obtain rfl : outputPath = _ := h .outputPath
  obtain rfl : outputExtension = _ := h .outputExtension
  obtain rfl : sameBase = _ := h .sameBaseWithCssFolder
  obtain rfl : keepFolders = _ := h .keepFolderStructure
  obtain rfl : sourceMap = _ := h .sourceMap
  obtain rfl : autoprefixer = _ := h .autoprefixer
  obtain rfl : relativeUrls = _ := h .relativeUrls
  obtain rfl : rootFileInfo = _ := h .rootFileInfo
  obtain rfl : extra = _ := Std.ExtTreeMap.ext_getElem? fun key => h (.extra key)
  rfl

@[simp]
theorem get?_empty (k : OptionKey α) : empty.get? k = none := by
  cases k with
  | extra key => simp [get?, empty]
  | _ => rfl

@[simp]
theorem get?_merge (lower higher : Options) (k : OptionKey α) :
    (lower.merge higher).get? k = (higher.get? k).or (lower.get? k) := by
  cases k with
  | extra key => exact getElem?_extra_merge lower higher key
  | _ => rfl

theorem findSome?_get?_cons (highest : Options) (layers : List Options) (k : OptionKey α) :
    (highest :: layers).findSome? (·.get? k) =
      (highest.get? k).or (layers.findSome? (·.get? k)) := by
  cases hValue : highest.get? k <;> simp [hValue]

theorem get?_foldl_merge (layers : List Options) (start : Options) (k : OptionKey α) :
    (layers.foldl merge start).get? k =
      (layers.reverse.findSome? (·.get? k)).or (start.get? k) := by
  induction layers generalizing start with
  | nil => simp
  | cons layer layers ih =>
    rw [List.foldl_cons, ih, get?_merge, List.reverse_cons, List.findSome?_append,
      findSome?_get?_cons, List.findSome?_nil, Option.or_none, Option.or_assoc]

/-- The last layer that sets a key wins. -/
theorem get?_stack (layers : List Options) (k : OptionKey α) :
    (stack layers).get? k = layers.reverse.findSome? (·.get? k) := by
  rw [stack, get?_foldl_merge, get?_empty, Option.or_none]

end Options

end StylesheetBuild
