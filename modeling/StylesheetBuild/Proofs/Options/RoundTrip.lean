import Mathlib.Data.List.Nodup
import Mathlib.Data.List.Perm.Basic
import StylesheetBuild.Options.Codec
import StylesheetBuild.Proofs.Options.Layers

/-!
# Layers written and read back

Every option is read from the shape that it is written in, so a written layer is read back as long as
each of its fields meets the right reader. That is so when no extra option bears the name of a known
one: the fields of the written object then have different keys, whose order does not matter, and those
that no known option claims are the extra ones. A layer that has been read has no other extra options.
-/

namespace StylesheetBuild

namespace Value

/-- What is written for an option is read as that option, and never stands for an unset one. -/
def Restores (read? : Value → Option α) (toValue : α → Value) : Prop :=
  ∀ a, (toValue a).optional? read? = some (some a)

theorem optional?_of_restores {read? : Value → Option α} {toValue : α → Value}
    (h : Restores read? toValue) (option : Option α) :
    ((option.map toValue).getD .null).optional? read? = some option := by
  cases option with
  | none => rfl
  | some a => exact h a

theorem restores_bool : Restores bool? .bool :=
  fun _ => rfl

theorem restores_str : Restores str? .str :=
  fun _ => rfl

section

variable {fields more : List (String × Value)}

theorem field?_eq_some_iff (hDistinct : (fields.map Prod.fst).Nodup) (key : String) (v : Value) :
    field? fields key = some v ↔ (key, v) ∈ fields := by
  induction fields with
  | nil => simp [field?]
  | cons f fields ih =>
    obtain ⟨hOther, hRest⟩ := List.nodup_cons.mp hDistinct
    obtain ⟨first, w⟩ := f
    rw [field?, List.lookup_cons, List.mem_cons]
    by_cases hKey : key = first
    · subst hKey
      have hAbsent : (key, v) ∉ fields := by
        intro hv
        exact hOther (List.mem_map.mpr ⟨(key, v), hv, rfl⟩)
      simp [hAbsent, eq_comm]
    · rw [beq_eq_false_iff_ne.mpr hKey, ← ih hRest]
      simp [field?, hKey]

/-- The order of fields with different keys is of no account. -/
theorem field?_eq_of_perm (hDistinct : (fields.map Prod.fst).Nodup) (hPerm : fields.Perm more)
    (key : String) : field? fields key = field? more key := by
  have hMore : (more.map Prod.fst).Nodup := (hPerm.map Prod.fst).nodup_iff.mp hDistinct
  ext v
  rw [field?_eq_some_iff hDistinct, field?_eq_some_iff hMore, hPerm.mem_iff]

theorem getElem?_ofList (hDistinct : (fields.map Prod.fst).Nodup) (key : String) :
    (Std.ExtTreeMap.ofList fields : Std.ExtTreeMap String Value)[key]? = field? fields key := by
  have hPairs : fields.Pairwise fun f g => ¬compare f.1 g.1 = .eq := by
    refine (List.pairwise_map.mp hDistinct).imp ?_
    intro f g hOther hEq
    exact hOther (Std.LawfulEqOrd.eq_of_compare hEq)
  cases hField : field? fields key with
  | some v =>
    have hMember := (field?_eq_some_iff hDistinct key v).mp hField
    exact Std.ExtTreeMap.getElem?_ofList_of_mem Std.ReflOrd.compare_self hPairs hMember
  | none =>
    apply Std.ExtTreeMap.getElem?_ofList_of_contains_eq_false
    rw [← Bool.not_eq_true, List.contains_iff_mem]
    intro hMember
    obtain ⟨⟨_, v⟩, hv, rfl⟩ := List.mem_map.mp hMember
    rw [(field?_eq_some_iff hDistinct _ v).mpr hv] at hField
    cases hField

end

end Value

open Value

theorem OutputPath.restores : Restores ofValue? toValue := by
  intro p
  cases p <;> rfl

theorem SourceMapOption.restores : Restores ofValue? toValue := by
  intro s
  cases s with
  | flag on => rfl
  | table outputSourceFiles => cases outputSourceFiles <;> rfl

theorem Autoprefixer.mapM_str? (items : List String) : (items.map .str).mapM str? = some items := by
  induction items with
  | nil => rfl
  | cons item items ih => simp [List.mapM_cons, ih, str?]

theorem Autoprefixer.restores : Restores ofValue? toValue := by
  intro a
  cases a with
  | single text => rfl
  | list items =>
    change (((items.map .str).mapM str?).map list).map some = some (some (list items))
    rw [mapM_str?]
    rfl

theorem RootFileInfo.restores : Restores ofValue? toValue :=
  fun _ => rfl

namespace OptionKey

def name : OptionKey α → String
  | outputPath => "outputPath"
  | outputExtension => "outputExtension"
  | sameBaseWithCssFolder => "sameBaseWithCssFolder"
  | keepFolderStructure => "keepFolderStructure"
  | sourceMap => "sourceMap"
  | autoprefixer => "autoprefixer"
  | relativeUrls => "relativeUrls"
  | rootFileInfo => "rootFileInfo"
  | extra key => key

def ofValue? : OptionKey α → Value → Option α
  | outputPath => OutputPath.ofValue?
  | outputExtension => str?
  | sameBaseWithCssFolder => bool?
  | keepFolderStructure => bool?
  | sourceMap => SourceMapOption.ofValue?
  | autoprefixer => Autoprefixer.ofValue?
  | relativeUrls => bool?
  | rootFileInfo => RootFileInfo.ofValue?
  | extra _ => some

def toValue : OptionKey α → α → Value
  | outputPath => OutputPath.toValue
  | outputExtension => .str
  | sameBaseWithCssFolder => .bool
  | keepFolderStructure => .bool
  | sourceMap => SourceMapOption.toValue
  | autoprefixer => Autoprefixer.toValue
  | relativeUrls => .bool
  | rootFileInfo => RootFileInfo.toValue
  | extra _ => id

def IsKnown : OptionKey α → Prop
  | extra _ => False
  | _ => True

theorem IsKnown.name_mem {k : OptionKey α} (h : k.IsKnown) : k.name ∈ Options.knownKeys := by
  cases k with
  | extra key => cases h
  | _ => decide

theorem IsKnown.restores {k : OptionKey α} (h : k.IsKnown) : Restores k.ofValue? k.toValue := by
  cases k with
  | outputPath => exact OutputPath.restores
  | outputExtension => exact restores_str
  | sameBaseWithCssFolder => exact restores_bool
  | keepFolderStructure => exact restores_bool
  | sourceMap => exact SourceMapOption.restores
  | autoprefixer => exact Autoprefixer.restores
  | relativeUrls => exact restores_bool
  | rootFileInfo => exact RootFileInfo.restores
  | extra key => cases h

end OptionKey

namespace Options

/-! ## The fields of a written layer -/

def knownFields (o : Options) : List (String × Value) :=
  knownField "outputPath" OutputPath.toValue o.outputPath ++
  knownField "outputExtension" Value.str o.outputExtension ++
  knownField "sameBaseWithCssFolder" Value.bool o.sameBaseWithCssFolder ++
  knownField "keepFolderStructure" Value.bool o.keepFolderStructure ++
  knownField "sourceMap" SourceMapOption.toValue o.sourceMap ++
  knownField "autoprefixer" Autoprefixer.toValue o.autoprefixer ++
  knownField "relativeUrls" Value.bool o.relativeUrls ++
  knownField "rootFileInfo" RootFileInfo.toValue o.rootFileInfo

theorem toFields_eq (o : Options) : o.toFields = o.knownFields ++ o.extra.toList :=
  rfl

theorem keys_knownField_sublist (key : String) (toValue : α → Value) (option : Option α) :
    ((knownField key toValue option).map Prod.fst).Sublist [key] := by
  cases option <;> simp [knownField]

theorem keys_knownFields_sublist (o : Options) :
    (o.knownFields.map Prod.fst).Sublist knownKeys := by
  have hAppend : knownKeys = ["outputPath"] ++ ["outputExtension"] ++ ["sameBaseWithCssFolder"] ++
      ["keepFolderStructure"] ++ ["sourceMap"] ++ ["autoprefixer"] ++ ["relativeUrls"] ++
      ["rootFileInfo"] := rfl
  rw [hAppend, knownFields]
  simp only [List.map_append]
  repeat' apply List.Sublist.append
  all_goals exact keys_knownField_sublist _ _ _

theorem nodup_knownKeys : knownKeys.Nodup := by
  decide

theorem lookup_knownField (key other : String) (toValue : α → Value) (option : Option α) :
    (knownField key toValue option).lookup other =
      if other == key then option.map toValue else none := by
  cases option with
  | none => simp [knownField]
  | some a =>
    rw [knownField, Option.map_some, Option.toList_some, List.lookup_cons]
    cases other == key <;> rfl

theorem field?_knownFields (o : Options) {k : OptionKey α} (hKnown : k.IsKnown) :
    field? o.knownFields k.name = (o.get? k).map k.toValue := by
  cases k with
  | extra key => cases hKnown
  | _ => simp [OptionKey.name, OptionKey.toValue, get?, field?, knownFields, List.lookup_append,
      lookup_knownField]

theorem mem_extra_of_mem_toList {extra : ExtraOptions} {f : String × Value}
    (h : f ∈ extra.toList) : f.1 ∈ extra := by
  rw [← Std.ExtTreeMap.mem_keys, ← Std.ExtTreeMap.map_fst_toList_eq_keys]
  exact List.mem_map_of_mem h

theorem nodup_keys_toList (extra : ExtraOptions) : (extra.toList.map Prod.fst).Nodup := by
  rw [Std.ExtTreeMap.map_fst_toList_eq_keys]
  exact Std.ExtTreeMap.nodup_keys

section

variable {o : Options} (hExtra : ∀ key ∈ o.extra, key ∉ knownKeys)
include hExtra

theorem nodup_keys_toFields : (o.toFields.map Prod.fst).Nodup := by
  rw [toFields_eq, List.map_append, List.nodup_append]
  refine ⟨o.keys_knownFields_sublist.nodup nodup_knownKeys, nodup_keys_toList o.extra, ?_⟩
  rintro key hKnown _ hOwn rfl
  obtain ⟨f, hf, rfl⟩ := List.mem_map.mp hOwn
  exact hExtra f.1 (mem_extra_of_mem_toList hf) (o.keys_knownFields_sublist.subset hKnown)

/-- A known option stands in its own field and nowhere else. -/
theorem field?_toFields {k : OptionKey α} (hKnown : k.IsKnown) :
    field? o.toFields k.name = (o.get? k).map k.toValue := by
  have hNone : o.extra.toList.lookup k.name = none := by
    rw [List.lookup_eq_none_iff]
    intro f hf
    rw [bne_iff_ne]
    intro hKey
    exact hExtra f.1 (mem_extra_of_mem_toList hf) (hKey ▸ hKnown.name_mem)
  rw [← field?_knownFields o hKnown, toFields_eq, field?, List.lookup_append, hNone,
    Option.or_none, field?]

theorem extraFields_toFields : extraFields o.toFields = o.extra.toList := by
  have hKnown : o.knownFields.filter (fun f => !knownKeys.contains f.1) = [] := by
    rw [List.filter_eq_nil_iff]
    intro f hf
    have hKey := o.keys_knownFields_sublist.subset (List.mem_map_of_mem hf)
    simpa using hKey
  have hKept : o.extra.toList.filter (fun f => !knownKeys.contains f.1) = o.extra.toList := by
    rw [List.filter_eq_self]
    intro f hf
    simpa using hExtra f.1 (mem_extra_of_mem_toList hf)
  rw [extraFields, toFields_eq, List.filter_append, hKnown, hKept, List.nil_append]

theorem ofList_extraFields {fields : List (String × Value)} (hPerm : fields.Perm o.toFields) :
    (Std.ExtTreeMap.ofList (extraFields fields) : ExtraOptions) = o.extra := by
  have hOwn : (extraFields fields).Perm o.extra.toList := by
    rw [← extraFields_toFields hExtra]
    exact hPerm.filter _
  have hDistinct : ((extraFields fields).map Prod.fst).Nodup :=
    (hOwn.map Prod.fst).nodup_iff.mpr (nodup_keys_toList o.extra)
  apply Std.ExtTreeMap.ext_getElem?
  intro key
  ext v
  rw [getElem?_ofList hDistinct, field?_eq_some_iff hDistinct, hOwn.mem_iff,
    Std.ExtTreeMap.mem_toList_iff_getElem?_eq_some]

end

/-! ## Reading -/

theorem ofFields?_eq_some {fields : List (String × Value)} {o : Options}
    (hKnown : ∀ {α : Type} {k : OptionKey α}, k.IsKnown →
      field? fields k.name = (o.get? k).map k.toValue)
    (hExtra : Std.ExtTreeMap.ofList (extraFields fields) = o.extra) :
    ofFields? fields = some o := by
  have hRead {α : Type} (k : OptionKey α) (hk : k.IsKnown) :
      known? fields k.name k.ofValue? = some (o.get? k) := by
    rw [known?, hKnown hk, optional?_of_restores hk.restores]
  refine Option.bind_eq_some_iff.mpr ⟨_, hRead .outputPath trivial, ?_⟩
  refine Option.bind_eq_some_iff.mpr ⟨_, hRead .outputExtension trivial, ?_⟩
  refine Option.bind_eq_some_iff.mpr ⟨_, hRead .sameBaseWithCssFolder trivial, ?_⟩
  refine Option.bind_eq_some_iff.mpr ⟨_, hRead .keepFolderStructure trivial, ?_⟩
  refine Option.bind_eq_some_iff.mpr ⟨_, hRead .sourceMap trivial, ?_⟩
  refine Option.bind_eq_some_iff.mpr ⟨_, hRead .autoprefixer trivial, ?_⟩
  refine Option.bind_eq_some_iff.mpr ⟨_, hRead .relativeUrls trivial, ?_⟩
  refine Option.bind_eq_some_iff.mpr ⟨_, hRead .rootFileInfo trivial, ?_⟩
  rw [hExtra]
  rfl

/-- A layer that has been read keeps only those fields as extra options that no known one claims. -/
theorem not_mem_knownKeys_of_ofValue? {v : Value} {o : Options} (h : ofValue? v = some o) :
    ∀ key ∈ o.extra, key ∉ knownKeys := by
  cases v with
  | obj fields =>
    simp only [ofValue?, ofFields?, Option.bind_eq_bind, Option.bind_eq_some_iff, Option.pure_def,
      Option.some.injEq] at h
    obtain ⟨_, -, _, -, _, -, _, -, _, -, _, -, _, -, _, -, rfl⟩ := h
    intro key hKey
    rw [Std.ExtTreeMap.mem_ofList, List.contains_iff_mem] at hKey
    obtain ⟨f, hf, rfl⟩ := List.mem_map.mp hKey
    simpa using (List.mem_filter.mp hf).2
  | _ => cases h

/-- The written layer is an object without repeated keys, and reading it gives the layer again in
whatever order its fields come. -/
structure ReadsBack (o : Options) : Prop where
  value : ofValue? o.toValue = some o
  distinct : (o.toFields.map Prod.fst).Nodup
  reordered : ∀ fields, fields.Perm o.toFields → ofValue? (.obj fields) = some o

theorem readsBack_of_apart {o : Options} (hExtra : ∀ key ∈ o.extra, key ∉ knownKeys) :
    o.ReadsBack := by
  have hDistinct := nodup_keys_toFields hExtra
  have hReordered : ∀ fields, fields.Perm o.toFields → ofValue? (.obj fields) = some o := by
    intro fields hPerm
    apply ofFields?_eq_some
    · intro α k hKnown
      rw [← field?_eq_of_perm hDistinct hPerm.symm, field?_toFields hExtra hKnown]
    · exact ofList_extraFields hExtra hPerm
  exact ⟨hReordered o.toFields (.refl _), hDistinct, hReordered⟩

/-- A layer is read back just when its extra options keep clear of the names of the known ones, and so
whenever it has itself been read from a value. -/
theorem readsBack_iff (o : Options) :
    (o.ReadsBack ↔ ∀ key ∈ o.extra, key ∉ knownKeys) ∧
    ∀ v, ofValue? v = some o → o.ReadsBack := by
  constructor
  · constructor
    · intro hBack
      exact not_mem_knownKeys_of_ofValue? hBack.value
    · exact readsBack_of_apart
  · intro v hRead
    exact readsBack_of_apart (not_mem_knownKeys_of_ofValue? hRead)

/-- Every kind of value that is written in a way of its own: an empty table, an empty list, a root
document, and extra options that hold null and the name of a known option further inside. -/
def manyShapes : Options where
  outputPath := some (.template "../css/")
  sourceMap := some (.table none)
  autoprefixer := some (.list [])
  relativeUrls := some false
  rootFileInfo := some (.ofPath ⟨"/w/a.scss"⟩)
  extra := .ofList [("math", Value.null), ("vars", .obj [("outputPath", .arr [.null, .int 1])])]

/-- The fields of a root document in order, and a known option that is null. -/
def listedValue : Value :=
  .obj [("rootFileInfo", .arr [.str "a.scss", .str "/w", .str "/w/", .bool true]),
    ("outputPath", .null), ("sourceMap", .arr [.bool true]), ("compress", .bool true)]

theorem readsBack_many_shapes :
    (∀ key ∈ manyShapes.extra, key ∉ knownKeys) ∧ manyShapes.ReadsBack ∧
    ∃ o, ofValue? listedValue = some o ∧ o.ReadsBack ∧
      o.toFields.map Prod.fst = ["sourceMap", "rootFileInfo", "compress"] := by
  have hExtra : ∀ key ∈ manyShapes.extra, key ∉ knownKeys := by
    intro key hKey
    rw [manyShapes, Std.ExtTreeMap.mem_ofList] at hKey
    simp only [List.map_cons, List.map_nil, List.contains_iff_mem, List.mem_cons,
      List.not_mem_nil, or_false] at hKey
    rcases hKey with rfl | rfl <;> decide
  obtain ⟨o, hRead, hFields⟩ : ∃ o, ofValue? listedValue = some o ∧
      o.toFields.map Prod.fst = ["sourceMap", "rootFileInfo", "compress"] :=
    ⟨_, rfl, by decide +kernel⟩
  exact ⟨hExtra, (readsBack_iff manyShapes).1.mpr hExtra, o, hRead,
    (readsBack_iff o).2 listedValue hRead, hFields⟩

end Options

end StylesheetBuild
