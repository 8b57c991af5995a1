import Mathlib.Data.List.Induction
import StylesheetBuild.Compile.Command

/-!
# Diagnostics after a series of attempts

The diagnostics that a series of attempts leaves behind, read off the series itself: a failure
stands at the file that it affects until a later failure takes its place or the file, compiled as a
document, succeeds. What the collection looks like follows from each entry being one such failure.
-/

namespace StylesheetBuild

/-- Some item has `P`, and every item after it has `Q`. -/
def Since (P Q : α → Prop) (items : List α) : Prop :=
  ∃ before a after, items = before ++ a :: after ∧ P a ∧ ∀ b ∈ after, Q b

theorem not_since_nil (P Q : α → Prop) : ¬Since P Q [] := by
  rintro ⟨before, a, after, hSplit, -⟩
  simp at hSplit

theorem since_concat_iff (P Q : α → Prop) (items : List α) (x : α) :
    Since P Q (items ++ [x]) ↔ P x ∨ (Q x ∧ Since P Q items) := by
  constructor
  · rintro ⟨before, a, after, hSplit, hHere, hLater⟩
    rcases List.eq_nil_or_concat after with rfl | ⟨after, y, rfl⟩
    · obtain ⟨-, hLast⟩ := List.append_inj' hSplit rfl
      obtain rfl : x = a := by simpa using hLast
      exact .inl hHere
    · have hSplit' : items ++ [x] = (before ++ a :: after) ++ [y] := by simpa using hSplit
      obtain ⟨hInit, hLast⟩ := List.append_inj' hSplit' rfl
      obtain rfl : x = y := by simpa using hLast
      refine .inr ⟨hLater x (by simp), before, a, after, hInit, hHere, ?_⟩
      exact fun b hb => hLater b (by simp [hb])
  · rintro (hHere | ⟨hLast, before, a, after, rfl, hHere, hLater⟩)
    · exact ⟨items, x, [], rfl, hHere, by simp⟩
    · refine ⟨before, a, after ++ [x], by simp, hHere, ?_⟩
      intro b hb
      rcases List.mem_append.mp hb with hb | hb
      · exact hLater b hb
      · rw [List.mem_singleton.mp hb]
        exact hLast

structure Attempt where
  document : Path
  result : Except Diagnostic CompileReport

namespace Attempt

/-- The file whose diagnostics the attempt decides. -/
def touched (a : Attempt) : Path :=
  match a.result with
  | .ok _ => a.document
  | .error d => d.affectedFile

def recorded? (a : Attempt) : Option (List Diagnostic) :=
  match a.result with
  | .ok _ => none
  | .error d => some [d]

theorem mem_recorded?_iff (a : Attempt) (d : Diagnostic) :
    d ∈ a.recorded?.getD [] ↔ a.result = .error d := by
  cases hResult : a.result <;> simp [recorded?, hResult, eq_comm]

theorem touched_of_error {a : Attempt} {d : Diagnostic} (h : a.result = .error d) :
    a.touched = d.affectedFile := by
  simp [touched, h]

def FailsAt (a : Attempt) (file : Path) : Prop :=
  ∃ d, a.result = .error d ∧ d.affectedFile.key = file.key

def Clears (a : Attempt) (file : Path) : Prop :=
  a.result.isOk = true ∧ a.document.key = file.key

theorem touched_key_eq_iff (a : Attempt) (file : Path) :
    a.touched.key = file.key ↔ a.FailsAt file ∨ a.Clears file := by
  cases hResult : a.result with
  | ok r => simp [touched, FailsAt, Clears, hResult, Except.isOk, Except.toBool]
  | error d => simp [touched, FailsAt, Clears, hResult, Except.isOk, Except.toBool]

/-- The latest failure at the file, with no success of the file itself since. -/
def Standing (attempts : List Attempt) (file : Path) (d : Diagnostic) : Prop :=
  ∃ before a after, attempts = before ++ a :: after ∧
    a.result = .error d ∧ d.affectedFile.key = file.key ∧
    (∀ b ∈ after, ¬b.FailsAt file) ∧ ∀ b ∈ after, ¬b.Clears file

theorem standing_iff (attempts : List Attempt) (file : Path) (d : Diagnostic) :
    Standing attempts file d ↔
      Since (fun a => a.result = .error d ∧ d.affectedFile.key = file.key)
        (fun b => b.touched.key ≠ file.key) attempts := by
  simp only [Standing, Since, ne_eq, touched_key_eq_iff, not_or, forall_and, and_assoc]

theorem not_standing_nil (file : Path) (d : Diagnostic) : ¬Standing [] file d := by
  rw [standing_iff]
  exact not_since_nil _ _

theorem standing_concat_iff (attempts : List Attempt) (a : Attempt) (file : Path) (d : Diagnostic) :
    Standing (attempts ++ [a]) file d ↔
      (a.result = .error d ∧ d.affectedFile.key = file.key) ∨
        (a.touched.key ≠ file.key ∧ Standing attempts file d) := by
  simp only [standing_iff, since_concat_iff]

/-- Some diagnostic stands at a file if the file has not succeeded since one of its failures, be it
the latest or not. -/
theorem exists_standing_iff (attempts : List Attempt) (file : Path) :
    (∃ d, Standing attempts file d) ↔
      Since (fun a => a.FailsAt file) (fun b => ¬b.Clears file) attempts := by
  induction attempts using List.reverseRecOn with
  | nil => simp [not_standing_nil, not_since_nil]
  | append_singleton attempts a ih =>
    rw [since_concat_iff, ← ih]
    simp only [standing_concat_iff, ne_eq, touched_key_eq_iff, not_or, exists_or,
      exists_and_left]
    constructor
    · rintro (hFails | ⟨⟨-, hKept⟩, hStanding⟩)
      · exact .inl hFails
      · exact .inr ⟨hKept, hStanding⟩
    · rintro (hFails | ⟨hKept, hStanding⟩)
      · exact .inl hFails
      · by_cases hFails : a.FailsAt file
        · exact .inl hFails
        · exact .inr ⟨⟨hFails, hKept⟩, hStanding⟩

end Attempt

namespace DiagnosticCollection

theorem entries_record (c : DiagnosticCollection) (a : Attempt) (key : Path.Key) :
    (c.record a.document a.result).entries[key]? =
      if a.touched.key = key then a.recorded? else c.entries[key]? := by
  cases hResult : a.result with
  | ok r => simp [record, delete, Attempt.touched, Attempt.recorded?, hResult,
      Std.ExtTreeMap.getElem?_erase]
  | error d => simp [record, recordFailure, set, Attempt.touched, Attempt.recorded?, hResult,
      Std.ExtTreeMap.getElem?_insert]

theorem ext_entries {c c' : DiagnosticCollection}
    (h : ∀ key : Path.Key, c.entries[key]? = c'.entries[key]?) : c = c' := by
  obtain ⟨entries⟩ := c
  obtain ⟨entries'⟩ := c'
  exact congrArg mk (Std.ExtTreeMap.ext_getElem? fun {key} => h key)

def recordAll (c : DiagnosticCollection) (attempts : List Attempt) : DiagnosticCollection :=
  attempts.foldl (fun c a => c.record a.document a.result) c

theorem recordAll_cons (c : DiagnosticCollection) (a : Attempt) (attempts : List Attempt) :
    c.recordAll (a :: attempts) = (c.record a.document a.result).recordAll attempts := rfl

theorem recordAll_append (c : DiagnosticCollection) (attempts more : List Attempt) :
    c.recordAll (attempts ++ more) = (c.recordAll attempts).recordAll more :=
  List.foldl_append

theorem recordAll_concat (c : DiagnosticCollection) (attempts : List Attempt) (a : Attempt) :
    c.recordAll (attempts ++ [a]) = (c.recordAll attempts).record a.document a.result :=
  c.recordAll_append attempts [a]

theorem recordAll_swap (c : DiagnosticCollection) {a b : Attempt}
    (h : a.touched.key ≠ b.touched.key) : c.recordAll [a, b] = c.recordAll [b, a] := by
  apply ext_entries
  intro key
  simp only [recordAll, List.foldl_cons, List.foldl_nil, entries_record]
  by_cases hKey : a.touched.key = key
  · rw [if_pos hKey, if_pos hKey, if_neg (hKey ▸ h.symm)]
  · rw [if_neg hKey, if_neg hKey]

/-- What is recorded at a file depends on nothing that is recorded elsewhere. -/
theorem entries_recordAll_congr (attempts : List Attempt) {c c' : DiagnosticCollection}
    {key : Path.Key} (h : c.entries[key]? = c'.entries[key]?) :
    (c.recordAll attempts).entries[key]? = (c'.recordAll attempts).entries[key]? := by
  induction attempts generalizing c c' with
  | nil => exact h
  | cons a attempts ih =>
    apply ih
    rw [entries_record, entries_record, h]

/-- Of two attempts that decide the same file the later one decides it alone. -/
theorem recordAll_forgets (c : DiagnosticCollection) (a last : Attempt)
    (hSame : a.touched.key = last.touched.key) (between : List Attempt) :
    c.recordAll (a :: (between ++ [last])) = c.recordAll (between ++ [last]) := by
  apply ext_entries
  intro key
  by_cases hLast : last.touched.key = key
  · rw [← List.cons_append, recordAll_concat, recordAll_concat, entries_record, entries_record,
      if_pos hLast, if_pos hLast]
  · rw [recordAll_cons]
    apply entries_recordAll_congr
    rw [entries_record, if_neg (hSame ▸ hLast)]

def ofAttempts (attempts : List Attempt) : DiagnosticCollection :=
  attempts.foldl (fun c a => c.record a.document a.result) .empty

theorem ofAttempts_concat (attempts : List Attempt) (a : Attempt) :
    ofAttempts (attempts ++ [a]) = (ofAttempts attempts).record a.document a.result := by
  simp [ofAttempts]

/-- Every entry is a single diagnostic of the file that it is filed under. -/
def Filed (c : DiagnosticCollection) : Prop :=
  ∀ (key : Path.Key) (ds : List Diagnostic), c.entries[key]? = some ds →
    ∃ d, ds = [d] ∧ d.affectedFile.key = key

theorem filed_empty : Filed .empty := by
  intro key ds hEntry
  simp [empty] at hEntry

theorem Filed.record {c : DiagnosticCollection} (h : c.Filed) (a : Attempt) :
    (c.record a.document a.result).Filed := by
  intro key ds hEntry
  rw [entries_record] at hEntry
  split at hEntry
  · rename_i hTouched
    cases hResult : a.result with
    | ok r => simp [Attempt.recorded?, hResult] at hEntry
    | error d =>
      simp only [Attempt.recorded?, hResult, Option.some.injEq] at hEntry
      refine ⟨d, hEntry.symm, ?_⟩
      simpa [Attempt.touched, hResult] using hTouched
  · exact h key ds hEntry

theorem filed_ofAttempts (attempts : List Attempt) : (ofAttempts attempts).Filed := by
  induction attempts using List.reverseRecOn with
  | nil => exact filed_empty
  | append_singleton attempts a ih =>
    rw [ofAttempts_concat]
    exact ih.record a

theorem get_record (c : DiagnosticCollection) (a : Attempt) (file : Path) :
    (c.record a.document a.result).get file =
      if a.touched.key = file.key then a.recorded?.getD [] else c.get file := by
  rw [get, entries_record]
  split <;> rfl

theorem mem_get_ofAttempts_iff (attempts : List Attempt) (file : Path) (d : Diagnostic) :
    d ∈ (ofAttempts attempts).get file ↔ Attempt.Standing attempts file d := by
  induction attempts using List.reverseRecOn with
  | nil => simp [ofAttempts, get, empty, Attempt.not_standing_nil]
  | append_singleton attempts a ih =>
    rw [ofAttempts_concat, Attempt.standing_concat_iff, ← ih, get_record]
    split
    · rename_i hTouched
      rw [Attempt.mem_recorded?_iff]
      constructor
      · intro hResult
        exact .inl ⟨hResult, Attempt.touched_of_error hResult ▸ hTouched⟩
      · rintro (⟨hResult, -⟩ | ⟨hOther, -⟩)
        · exact hResult
        · exact absurd hTouched hOther
    · rename_i hTouched
      constructor
      · exact fun hd => .inr ⟨hTouched, hd⟩
      · rintro (⟨hResult, hFile⟩ | ⟨-, hd⟩)
        · rw [Attempt.touched_of_error hResult] at hTouched
          exact absurd hFile hTouched
        · exact hd

theorem Filed.get_eq {c : DiagnosticCollection} (h : c.Filed) (file : Path) :
    c.get file = [] ∨ ∃ d, c.get file = [d] := by
  cases hEntry : c.entries[file.key]? with
  | none => exact .inl (by simp [get, hEntry])
  | some ds =>
    obtain ⟨d, rfl, -⟩ := h _ _ hEntry
    exact .inr ⟨d, by simp [get, hEntry]⟩

/-- Every file has the diagnostic that stands at it after the attempts, and no other. -/
def Reflects (c : DiagnosticCollection) (attempts : List Attempt) : Prop :=
  ∀ (file : Path) (ds : List Diagnostic), c.get file = ds ↔
    (∃ d, Attempt.Standing attempts file d ∧ ds = [d]) ∨
      ((∀ d, ¬Attempt.Standing attempts file d) ∧ ds = [])

theorem reflects_ofAttempts (attempts : List Attempt) : (ofAttempts attempts).Reflects attempts := by
  intro file ds
  simp only [← mem_get_ofAttempts_iff]
  rcases (filed_ofAttempts attempts).get_eq file with hGet | ⟨d, hGet⟩
  · simp [hGet, eq_comm]
  · simp [hGet, eq_comm]

theorem Filed.isEmpty_iff {c : DiagnosticCollection} (h : c.Filed) :
    c.isEmpty = true ↔ c.toList = [] := by
  rw [isEmpty, toList, List.flatMap_eq_nil_iff, ← Std.ExtTreeMap.isEmpty_toList,
    List.isEmpty_iff]
  constructor
  · intro hNone entry hEntry
    simp [hNone] at hEntry
  · intro hNone
    rw [List.eq_nil_iff_forall_not_mem]
    rintro ⟨key, ds⟩ hEntry
    obtain ⟨d, rfl, -⟩ := h key ds (Std.ExtTreeMap.mem_toList_iff_getElem?_eq_some.mp hEntry)
    exact absurd (hNone _ hEntry) (by simp)

theorem Filed.ordered {c : DiagnosticCollection} (h : c.Filed) :
    c.toList.Pairwise fun a b => compare a.affectedFile.key b.affectedFile.key = .lt := by
  have hSingle : ∀ entry ∈ c.entries.toList, ∃ d, entry.2 = [d] ∧ d.affectedFile.key = entry.1 := by
    rintro ⟨key, ds⟩ hEntry
    exact h key ds (Std.ExtTreeMap.mem_toList_iff_getElem?_eq_some.mp hEntry)
  rw [toList, List.pairwise_flatMap]
  constructor
  · intro entry hEntry
    obtain ⟨d, hd, -⟩ := hSingle entry hEntry
    simp [hd]
  · refine List.Pairwise.imp_of_mem ?_ Std.ExtTreeMap.ordered_keys_toList
    intro entry other hEntry hOther hLess d hd e he
    obtain ⟨d', hd', hKey⟩ := hSingle entry hEntry
    obtain ⟨e', he', hKey'⟩ := hSingle other hOther
    obtain rfl : d = d' := by simpa [hd'] using hd
    obtain rfl : e = e' := by simpa [he'] using he
    rwa [hKey, hKey']

theorem Filed.mem_toList_iff {c : DiagnosticCollection} (h : c.Filed) (d : Diagnostic) :
    d ∈ c.toList ↔ d ∈ c.get d.affectedFile := by
  rw [toList, List.mem_flatMap, get]
  constructor
  · rintro ⟨⟨key, ds⟩, hEntry, hd⟩
    have hGet := Std.ExtTreeMap.mem_toList_iff_getElem?_eq_some.mp hEntry
    obtain ⟨e, rfl, rfl⟩ := h key ds hGet
    obtain rfl := List.mem_singleton.mp hd
    simp [hGet]
  · intro hd
    cases hEntry : c.entries[d.affectedFile.key]? with
    | none => simp [hEntry] at hd
    | some ds =>
      refine ⟨(d.affectedFile.key, ds), Std.ExtTreeMap.mem_toList_iff_getElem?_eq_some.mpr hEntry, ?_⟩
      simpa [hEntry] using hd

theorem mem_toList_ofAttempts_iff (attempts : List Attempt) (d : Diagnostic) :
    d ∈ (ofAttempts attempts).toList ↔ Attempt.Standing attempts d.affectedFile d := by
  rw [(filed_ofAttempts attempts).mem_toList_iff, mem_get_ofAttempts_iff]

/-- Nothing is left once every failure has been followed by a success of the file that it affects. -/
theorem toList_ofAttempts_eq_nil_iff (attempts : List Attempt) :
    (ofAttempts attempts).toList = [] ↔
      ∀ before a after d, attempts = before ++ a :: after → a.result = .error d →
        ∃ b ∈ after, b.Clears d.affectedFile := by
  constructor
  · intro hNone before a after d hSplit hResult
    by_contra hKept
    have hSince : Since (fun a => a.FailsAt d.affectedFile) (fun b => ¬b.Clears d.affectedFile)
        attempts :=
      ⟨before, a, after, hSplit, ⟨d, hResult, rfl⟩, fun b hb hClears => hKept ⟨b, hb, hClears⟩⟩
    obtain ⟨e, hStanding⟩ := (Attempt.exists_standing_iff attempts d.affectedFile).mpr hSince
    have hFile : e.affectedFile.key = d.affectedFile.key := by
      obtain ⟨-, -, -, -, -, hFile, -⟩ := hStanding
      exact hFile
    have hOwn : e ∈ (ofAttempts attempts).toList := by
      rw [(filed_ofAttempts attempts).mem_toList_iff, get, hFile]
      exact (mem_get_ofAttempts_iff attempts d.affectedFile e).mpr hStanding
    simp [hNone] at hOwn
  · intro hCleared
    rw [List.eq_nil_iff_forall_not_mem]
    intro d hd
    obtain ⟨before, a, after, hSplit, hResult, -, -, hKept⟩ :=
      (mem_toList_ofAttempts_iff attempts d).mp hd
    obtain ⟨b, hb, hClears⟩ := hCleared before a after d hSplit hResult
    exact hKept b hb hClears

structure Orderly (c : DiagnosticCollection) : Prop where
  noneEmpty : ∀ (key : Path.Key) (ds : List Diagnostic), c.entries[key]? = some ds → ds ≠ []
  ownFile : ∀ (key : Path.Key) (ds : List Diagnostic), c.entries[key]? = some ds →
    ∀ d ∈ ds, d.affectedFile.key = key
  isEmpty_iff : c.isEmpty = true ↔ c.toList = []
  ordered : c.toList.Pairwise fun a b => compare a.affectedFile.key b.affectedFile.key = .lt

theorem Filed.orderly {c : DiagnosticCollection} (h : c.Filed) : c.Orderly where
  noneEmpty := by
    intro key ds hEntry
    obtain ⟨d, rfl, -⟩ := h key ds hEntry
    simp
  ownFile := by
    intro key ds hEntry e he
    obtain ⟨d, rfl, hKey⟩ := h key ds hEntry
    rw [List.mem_singleton.mp he]
    exact hKey
  isEmpty_iff := h.isEmpty_iff
  ordered := h.ordered

end DiagnosticCollection

/-- The diagnostics before an execution only matter for those after it. -/
theorem Compiler.execute_eq [WorkingDirectory] {m : Type → Type} [Monad m] [LawfulMonad m]
    (c : Compiler m) (store : SettingsStore m) (progress : Progress m) (document : Document)
    (diagnostics : DiagnosticCollection) :
    c.execute store progress document diagnostics =
      (fun out => (out.1, diagnostics.record document.path out.1.result)) <$>
        c.execute store progress document .empty := by
  simp [execute]

end StylesheetBuild
