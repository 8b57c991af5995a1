import StylesheetBuild.Proofs.Artifact.Placement

/-!
# Expansion behind a literal text

Placeholders are replaced one after another in one text. No placeholder has a slash in it, and each
starts with a dollar sign or a brace, so none can start in a literal folder or in a plain file name
and reach into what follows. Such a text is passed over by every replacement.
-/

namespace StylesheetBuild.Artifact

/-! ## Placeholders behind a text -/

section

variable {old before after : List Char}

/-- No occurrence in the whole text starts in `before`. -/
def Passes (old before after : List Char) : Prop :=
  ∀ s, s <:+ before → s ≠ [] → ¬old <+: s ++ after

theorem Passes.tail {c : Char} (h : Passes old (c :: before) after) : Passes old before after :=
  fun s hSuffix => h s (hSuffix.trans (List.suffix_cons c before))

theorem Passes.not_here {c : Char} (h : Passes old (c :: before) after) :
    ¬old <+: c :: (before ++ after) :=
  h (c :: before) (List.suffix_refl _) (List.cons_ne_nil c before)

theorem Passes.free (h : Passes old before after) (hAfter : ¬old <:+: after) :
    ¬old <:+: before ++ after := by
  induction before with
  | nil => exact hAfter
  | cons c before ih =>
    rw [List.cons_append, List.infix_cons_iff, not_or]
    exact ⟨h.not_here, ih h.tail⟩

theorem Passes.substituteFrom (h : Passes old before after) (new : List Char) :
    Text.substituteFrom old new 0 (before ++ after) =
      before ++ Text.substituteFrom old new 0 after := by
  induction before with
  | nil => rfl
  | cons c before ih =>
    rw [List.cons_append, Text.substituteFrom, if_neg, ih h.tail, List.cons_append]
    rw [List.isPrefixOf_iff_prefix]
    exact h.not_here

theorem Passes.replaceAll (h : Passes old before after) (hOld : old ≠ []) (new : List Char) :
    Text.replaceAll old new (before ++ after) = before ++ Text.replaceAll old new after := by
  have hSome : ¬old.isEmpty = true := by rwa [List.isEmpty_iff]
  rw [Text.replaceAll, if_neg hSome, h.substituteFrom, Text.replaceAll, if_neg hSome]

theorem Passes.replaceFirst (h : Passes old before after) (new : List Char) :
    Text.replaceFirst old new (before ++ after) = before ++ Text.replaceFirst old new after := by
  induction before with
  | nil => rfl
  | cons c before ih =>
    rw [List.cons_append, Text.replaceFirst, if_neg, ih h.tail, List.cons_append]
    rw [List.isPrefixOf_iff_prefix]
    exact h.not_here

theorem passes_of_head {c : Char} (hHead : old.head? = some c) (hBefore : c ∉ before) :
    Passes old before after := by
  intro s hSuffix hSome hPrefix
  obtain ⟨d, s, rfl⟩ := List.exists_cons_of_ne_nil hSome
  obtain ⟨rest, rfl⟩ := List.head?_eq_some_iff.mp hHead
  rw [List.cons_append, List.cons_prefix_cons] at hPrefix
  apply hBefore
  rw [hPrefix.1]
  exact hSuffix.subset (by simp)

theorem passes_of_ends (hEnds : before.getLast? = some '/') (hSlash : '/' ∉ old)
    (hPlain : ¬old <:+: before) : Passes old before after := by
  intro s hSuffix hSome hPrefix
  rcases List.prefix_or_prefix_of_prefix hPrefix (List.prefix_append s after) with hShort | hLong
  · exact hPlain (hShort.isInfix.trans hSuffix.isInfix)
  · -- the slash at the end would have to be in the placeholder
    obtain ⟨front, rfl⟩ := hSuffix
    rw [List.getLast?_append_of_ne_nil _ hSome] at hEnds
    exact hSlash (hLong.subset (List.mem_of_getLast? hEnds))

end

/-! ## Expansion -/

/-- A folder with no placeholder in its spelling. -/
structure IsLiteralFolder (folder : List Char) : Prop where
  ends : folder.getLast? = some '/'
  isPlain : ∀ placeholder ∈ placeholders, ¬placeholder <:+: folder

/-- The placeholders that are looked for after the extension has been put in. -/
def laterPlaceholders (root : Option Path) : List (List Char) :=
  [firstPlaceholder, secondPlaceholder] ++ if root.isSome then workspacePlaceholders else []

/-- No placeholder can start in the text. -/
def IsPlainStem (stem : List Char) : Prop :=
  '$' ∉ stem ∧ '\x7b' ∉ stem

def writtenName (folder : String) : String :=
  folder ++ "\x7bname\x7d\x7bext\x7d"

theorem toList_writtenName (folder : String) :
    (writtenName folder).toList = folder.toList ++ (namePlaceholder ++ extensionPlaceholder) := by
  have hName : "\x7bname\x7d\x7bext\x7d".toList = namePlaceholder ++ extensionPlaceholder := by decide
  rw [writtenName, String.toList_append, hName]

section

variable {folder stem extension : List Char}

theorem IsLiteralFolder.passes (hFolder : IsLiteralFolder folder) {placeholder : List Char}
    (h : placeholder ∈ placeholders) (after : List Char) : Passes placeholder folder after := by
  have hSlash : ∀ placeholder ∈ placeholders, '/' ∉ placeholder := by decide
  exact passes_of_ends hFolder.ends (hSlash _ h) (hFolder.isPlain _ h)

theorem IsPlainStem.passes (hStem : IsPlainStem stem) {placeholder : List Char}
    (h : placeholder ∈ placeholders) (after : List Char) : Passes placeholder stem after := by
  have hHeads : ∀ placeholder ∈ placeholders,
      placeholder.head? = some '$' ∨ placeholder.head? = some '\x7b' := by decide
  rcases hHeads _ h with hHead | hHead
  · exact passes_of_head hHead hStem.1
  · exact passes_of_head hHead hStem.2

theorem fileText_free (hFolder : IsLiteralFolder folder) (hStem : IsPlainStem stem)
    {placeholder : List Char} (h : placeholder ∈ placeholders)
    (hExtension : ¬placeholder <:+: extension) : ¬placeholder <:+: folder ++ (stem ++ extension) :=
  (hFolder.passes h _).free ((hStem.passes h _).free hExtension)

theorem expandNames_writtenName (hFolder : IsLiteralFolder folder) (hStem : IsPlainStem stem)
    (hExtension : ∀ placeholder ∈ [firstPlaceholder, secondPlaceholder], ¬placeholder <:+: extension) :
    expandNames stem extension (folder ++ (namePlaceholder ++ extensionPlaceholder)) =
      folder ++ (stem ++ extension) := by
  have hName : namePlaceholder ∈ placeholders := by decide
  have hExt : extensionPlaceholder ∈ placeholders := by decide
  have hNameSome : namePlaceholder ≠ [] := by decide
  have hExtSome : extensionPlaceholder ≠ [] := by decide
  have hOther : ¬namePlaceholder <:+: extensionPlaceholder := by decide
  have hNames : Text.replaceAll namePlaceholder stem
      (folder ++ (namePlaceholder ++ extensionPlaceholder)) =
      folder ++ (stem ++ extensionPlaceholder) := by
    rw [(hFolder.passes hName _).replaceAll hNameSome, Text.replaceAll_self_append hNameSome,
      Text.replaceAll_eq_self hOther]
  have hExtensions : Text.replaceAll extensionPlaceholder extension
      (folder ++ (stem ++ extensionPlaceholder)) = folder ++ (stem ++ extension) := by
    rw [(hFolder.passes hExt _).replaceAll hExtSome, (hStem.passes hExt _).replaceAll hExtSome,
      Text.replaceAll_self hExtSome]
  rw [expandNames, hNames, hExtensions,
    Text.replaceFirst_eq_self (fileText_free hFolder hStem (by decide) (hExtension _ (by simp))),
    Text.replaceFirst_eq_self (fileText_free hFolder hStem (by decide) (hExtension _ (by simp)))]

theorem expandChars_writtenName (hFolder : IsLiteralFolder folder) (values : TemplateValues)
    (hStem : IsPlainStem values.name.toList)
    (hExtension : ∀ placeholder ∈ laterPlaceholders values.workspaceRoot,
      ¬placeholder <:+: values.extension.toList) :
    values.expandChars (folder ++ (namePlaceholder ++ extensionPlaceholder)) =
      folder ++ (values.name.toList ++ values.extension.toList) := by
  rw [TemplateValues.expandChars, expandNames_writtenName hFolder hStem]
  · apply expandWorkspace_eq_self
    cases hRoot : values.workspaceRoot with
    | none => exact .inl rfl
    | some root =>
      refine .inr fun placeholder hWorkspace => fileText_free hFolder hStem ?_ ?_
      · exact List.mem_append_right _ hWorkspace
      · apply hExtension
        rw [laterPlaceholders, hRoot]
        exact List.mem_append_right _ hWorkspace
  · exact fun placeholder hLater => hExtension _ (List.mem_append_left _ hLater)

end

end StylesheetBuild.Artifact
