import Mathlib.Data.List.Induction
import StylesheetBuild.Directive.Basic
import StylesheetBuild.Proofs.Options.RoundTrip
import StylesheetBuild.Settings.File

/-!
# Options passed on by a layer

Every layer of options comes from a list of fields: the table of a settings file, or one field for
each directive. What such a layer passes on is a function of its fields alone, `Options.passedOn?`,
which leaves out the known keys whether or not their values fit. A directive that does not fit is
skipped, but it is one of a known key, so the stacked directives pass on what their fields do.
-/

namespace StylesheetBuild

namespace Value

variable {fields : List (String × Value)} {key : String}

/-- The last field named `key`. -/
def lastField? (fields : List (String × Value)) (key : String) : Option Value :=
  field? fields.reverse key

theorem lastField?_append (fields more : List (String × Value)) :
    lastField? (fields ++ more) key = (lastField? more key).or (lastField? fields key) := by
  rw [lastField?, field?, List.reverse_append, List.lookup_append]
  rfl

theorem lastField?_singleton (f : String × Value) :
    lastField? [f] key = if f.1 = key then some f.2 else none := by
  obtain ⟨name, v⟩ := f
  rw [lastField?, field?, List.reverse_singleton, List.lookup_cons, List.lookup_nil]
  by_cases hKey : key = name
  · simp [hKey]
  · simp [beq_eq_false_iff_ne.mpr hKey, Ne.symm hKey]

theorem getElem?_insertMany (t : ExtraOptions) :
    (t.insertMany fields)[key]? = (lastField? fields key).or t[key]? := by
  induction fields generalizing t with
  | nil => rfl
  | cons f fields ih =>
    rw [Std.ExtTreeMap.insertMany_cons, ih, ← List.singleton_append, lastField?_append,
      lastField?_singleton, Std.ExtTreeMap.getElem?_insert, Option.or_assoc]
    simp only [Std.LawfulEqOrd.compare_eq_iff_eq]
    congr 1
    split <;> rfl

theorem getElem?_ofList_last :
    (Std.ExtTreeMap.ofList fields : ExtraOptions)[key]? = lastField? fields key := by
  rw [Std.ExtTreeMap.ofList_eq_insertMany_empty, getElem?_insertMany,
    Std.ExtTreeMap.getElem?_empty, Option.or_none]

end Value

open Value

namespace Options

variable {fields : List (String × Value)} {key : String}

/-- The value of a key that fields pass on: the last one, unless the key is known. -/
def passedOn? (fields : List (String × Value)) (key : String) : Option Value :=
  if key ∈ knownKeys then none else lastField? fields key

theorem lookup_filter (kept : String → Bool) :
    (fields.filter fun f => kept f.1).lookup key = if kept key then fields.lookup key else none := by
  induction fields with
  | nil => simp
  | cons f fields ih =>
    obtain ⟨first, v⟩ := f
    by_cases hKey : key = first
    · subst hKey
      cases hKept : kept key <;> simp [hKept, ih]
    · have hOther : (key == first) = false := beq_eq_false_iff_ne.mpr hKey
      cases hKept : kept first <;> simp [List.lookup_cons, hKept, hOther, ih]

theorem lastField?_extraFields : lastField? (extraFields fields) key = passedOn? fields key := by
  rw [lastField?, field?, extraFields, ← List.filter_reverse,
    lookup_filter fun name => !knownKeys.contains name, passedOn?]
  by_cases hKnown : key ∈ knownKeys
  · simp [hKnown]
  · simp [hKnown, lastField?, field?]

theorem passedOn?_append (fields more : List (String × Value)) :
    passedOn? (fields ++ more) key = (passedOn? more key).or (passedOn? fields key) := by
  simp only [passedOn?]
  split
  · rfl
  · exact lastField?_append fields more

theorem passedOn?_cons (f : String × Value) (fields : List (String × Value)) :
    passedOn? (f :: fields) key = (passedOn? fields key).or (passedOn? [f] key) :=
  passedOn?_append [f] fields

theorem findSome?_passedOn?_cons (highest : List (String × Value))
    (lower : List (List (String × Value))) :
    (highest :: lower).findSome? (passedOn? · key) =
      (passedOn? highest key).or (lower.findSome? (passedOn? · key)) := by
  cases hValue : passedOn? highest key <;> simp [hValue]

@[simp]
theorem passedOn?_nil : passedOn? [] key = none := by
  rw [passedOn?, lastField?]
  exact ite_self none

theorem getElem?_extra_of_ofFields? {o : Options} (h : ofFields? fields = some o) :
    o.extra[key]? = passedOn? fields key := by
  simp only [ofFields?, Option.bind_eq_bind, Option.bind_eq_some_iff, Option.pure_def,
    Option.some.injEq] at h
  obtain ⟨_, -, _, -, _, -, _, -, _, -, _, -, _, -, _, -, rfl⟩ := h
  rw [getElem?_ofList_last, lastField?_extraFields]

theorem isSome_ofFields?_of_unknown (h : ∀ f ∈ fields, f.1 ∉ knownKeys) :
    (ofFields? fields).isSome = true := by
  have hUnset {α : Type} (key : String) (hKey : key ∈ knownKeys) (read? : Value → Option α) :
      known? fields key read? = some none := by
    have hNone : field? fields key = none := by
      rw [field?, List.lookup_eq_none_iff]
      intro f hf
      rw [bne_iff_ne]
      rintro rfl
      exact h f hf hKey
    rw [known?, hNone]
    rfl
  simp (disch := decide) [ofFields?, hUnset]

end Options

open Options

/-! ## What each layer passes on -/

namespace Directive

variable {key : String}

/-- The one field of the layer that the directive sets. -/
def field (d : Directive) : String × Value :=
  (d.key, d.value.toValue)

/-- A directive that does not fit is one of a known key, so nothing is lost with it. -/
theorem extra_of_layer? (d : Directive) :
    (d.layer?.bind fun o => o.extra[key]?) = passedOn? [d.field] key := by
  cases hLayer : d.layer? with
  | some o => exact getElem?_extra_of_ofFields? hLayer
  | none =>
    have hKnown : d.key ∈ knownKeys := by
      by_contra hOther
      have hFits : (ofFields? [d.field]).isSome = true :=
        isSome_ofFields?_of_unknown (by simpa [field] using hOther)
      rw [layer?] at hLayer
      simp [field, hLayer] at hFits
    rw [passedOn?]
    split
    · rfl
    · have hOther : d.key ≠ key := by
        rintro rfl
        contradiction
      rw [lastField?_singleton, field, if_neg hOther, Option.bind_none]

theorem extra_ofDirectives (directives : List Directive) :
    (ofDirectives directives).extra[key]? = passedOn? (directives.map field) key := by
  induction directives using List.reverseRecOn with
  | nil => simp [ofDirectives, stack, Options.empty, passedOn?, lastField?, Value.field?]
  | append_singleton directives d ih =>
    have hLast : (ofDirectives (directives ++ [d])).extra[key]? =
        (d.layer?.bind fun o => o.extra[key]?).or (ofDirectives directives).extra[key]? := by
      cases hLayer : d.layer? with
      | none => simp [ofDirectives, List.filterMap_append, hLayer]
      | some o =>
        simp [ofDirectives, stack, List.filterMap_append, hLayer, getElem?_extra_merge]
    rw [hLast, extra_of_layer?, ih, List.map_append, List.map_singleton, passedOn?_append]

theorem exists_eq_of_ofEntry? {entry : List Char} {d : Directive} (h : ofEntry? entry = some d) :
    ∃ key raw, d = ⟨optionKey key, .ofText raw⟩ := by
  unfold ofEntry? at h
  split at h
  · cases h
  · dsimp only at h
    split at h
    · cases h
    · cases h
      exact ⟨_, _, rfl⟩

theorem exists_eq_of_mem {content : String} {d : Directive} (h : d ∈ ofContent content) :
    ∃ key raw, d = ⟨optionKey key, .ofText raw⟩ := by
  unfold ofContent at h
  split at h
  · cases h
  · obtain ⟨entry, -, hEntry⟩ := List.mem_filterMap.mp h
    exact exists_eq_of_ofEntry? hEntry

theorem ne_out_of_mem {content : String} {d : Directive} (h : d ∈ ofContent content) :
    d.key ≠ "out" := by
  obtain ⟨key, raw, rfl⟩ := exists_eq_of_mem h
  change optionKey key ≠ "out"
  unfold optionKey
  split
  · decide
  · assumption

end Directive

namespace Settings

/-- The entries of the table of options. A number that no text can spell stands as null. -/
def tableFields : Value → List (String × Value)
  | .obj fields =>
    match field? fields tableKey with
    | some (.obj entries) => entries.map fun f => (f.1, f.2.spellable)
    | _ => []
  | _ => []

theorem layerField_of_unknown {f : String × Value} (h : f.1 ∉ knownKeys) :
    layerField f = (f.1, f.2.spellable) := by
  obtain ⟨key, v⟩ := f
  unfold layerField
  split
  · rename_i hShape
    cases hShape
    exact absurd (by simp [knownKeys]) h
  · rename_i hShape
    cases hShape
    simp [h]

theorem layerField_key (f : String × Value) : (layerField f).1 = f.1 := by
  unfold layerField
  split <;> rfl

variable {key : String}

theorem passedOn?_layerField (entries : List (String × Value)) :
    passedOn? (entries.map layerField) key =
      passedOn? (entries.map fun f => (f.1, f.2.spellable)) key := by
  induction entries with
  | nil => rfl
  | cons f entries ih =>
    rw [List.map_cons, List.map_cons, passedOn?_cons, ih, passedOn?_cons _ (List.map _ entries)]
    congr 1
    rw [passedOn?, passedOn?, lastField?_singleton, lastField?_singleton, layerField_key]
    split
    · rfl
    · split
      · rename_i hOther hKey
        rw [layerField_of_unknown (hKey ▸ hOther)]
      · rfl

theorem extra_of_ofValue? {table : Value} {o : Options} (h : ofValue? table = some o) :
    o.extra[key]? = passedOn? (tableFields table) key := by
  unfold ofValue? at h
  split at h
  · rename_i fields
    rw [tableFields]
    split at h
    · rename_i hNone
      cases h
      rw [hNone, passedOn?_nil]
      exact Std.ExtTreeMap.getElem?_empty
    · rename_i entries hTable
      rw [hTable, ← passedOn?_layerField]
      exact getElem?_extra_of_ofFields? h
    · cases h
  · cases h

end Settings

end StylesheetBuild
