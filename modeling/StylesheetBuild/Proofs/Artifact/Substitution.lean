import Mathlib.Data.List.Infix
import StylesheetBuild.Proofs.Artifact.Expansion

/-!
# Substitution at once

A template is cut once, from left to right, into letters and slots, and the slots are filled with
the values. Replacing the placeholders one after another comes to the same as long as each of them,
at its turn, stands only where the template has it: a value that a placeholder can start in, or
literal text that a value completes to a placeholder, is expanded again.
-/

namespace StylesheetBuild.Artifact

/-! ## Slots -/

/-- The placeholders, in the order in which they are replaced. -/
inductive Slot where
  | name
  | extension
  | firstName
  | firstExtension
  | workspaceFolder
  | workspaceRoot
  deriving DecidableEq

namespace Slot

def text : Slot → List Char
  | name => namePlaceholder
  | extension => extensionPlaceholder
  | firstName => firstPlaceholder
  | firstExtension => secondPlaceholder
  | workspaceFolder => "$\x7bworkspaceFolder\x7d".toList
  | workspaceRoot => "$\x7bworkspaceRoot\x7d".toList

def countsOnce : Slot → Bool
  | firstName | firstExtension => true
  | _ => false

def value (v : TemplateValues) : Slot → List Char
  | name | firstName => v.name.toList
  | extension | firstExtension => v.extension.toList
  | workspaceFolder | workspaceRoot => (v.workspaceRoot.map Path.chars).getD []

/-- The slots that have a value. -/
def known (root : Option Path) : List Slot :=
  [name, extension, firstName, firstExtension] ++
    if root.isSome then [workspaceFolder, workspaceRoot] else []

/-- The slots to look for behind one that has been met. -/
def remaining (s : Slot) (slots : List Slot) : List Slot :=
  if s.countsOnce then slots.erase s else slots

def replace (v : TemplateValues) (template : List Char) (s : Slot) : List Char :=
  if s.countsOnce then Text.replaceFirst s.text (s.value v) template
  else Text.replaceAll s.text (s.value v) template

theorem text_ne_nil (s : Slot) : s.text ≠ [] := by
  cases s <;> decide

theorem text_mem_placeholders (s : Slot) : s.text ∈ placeholders := by
  cases s <;> decide

theorem nodup_known (root : Option Path) : (known root).Nodup := by
  unfold known
  split <;> decide

theorem remaining_subset (s : Slot) (slots : List Slot) : s.remaining slots ⊆ slots := by
  unfold remaining
  split
  · exact List.erase_subset
  · exact List.Subset.refl slots

theorem mem_remaining {s t : Slot} {slots : List Slot} (hMem : s ∈ slots)
    (hStays : s = t → t.countsOnce = false) : s ∈ t.remaining slots := by
  unfold remaining
  split
  case isTrue hOnce =>
    refine (List.mem_erase_of_ne ?_).mpr hMem
    intro hSame
    rw [hStays hSame] at hOnce
    cases hOnce
  case isFalse => exact hMem

end Slot

theorem expandChars_eq_foldl (v : TemplateValues) (template : List Char) :
    v.expandChars template = (Slot.known v.workspaceRoot).foldl (Slot.replace v) template := by
  obtain ⟨name, extension, root⟩ := v
  cases root <;> rfl

/-! ## Cutting -/

inductive Piece where
  | letter (c : Char)
  | slot (s : Slot)

/-- The pieces of the text behind its first `skip` characters. -/
def cutFrom : List Slot → Nat → List Char → List Piece
  | _, _, [] => []
  | slots, skip + 1, _ :: cs => cutFrom slots skip cs
  | slots, 0, c :: cs =>
    match slots.find? (fun s => s.text.isPrefixOf (c :: cs)) with
    | some s => .slot s :: cutFrom (s.remaining slots) (s.text.length - 1) cs
    | none => .letter c :: cutFrom slots 0 cs

def Piece.filled (v : TemplateValues) : Piece → List Char
  | letter c => [c]
  | slot s => s.value v

def TemplateValues.cut (v : TemplateValues) (template : String) : List Piece :=
  cutFrom (Slot.known v.workspaceRoot) 0 template.toList

def TemplateValues.substituted (v : TemplateValues) (template : String) : String :=
  String.ofList ((v.cut template).flatMap (Piece.filled v))

/-- The pieces make up the text, and no letter of them starts one of the slots. -/
inductive IsCut : List Slot → List Char → List Piece → Prop where
  | nil (slots : List Slot) : IsCut slots [] []
  | letter {slots : List Slot} {c : Char} {cs : List Char} {pieces : List Piece}
      (hNone : ∀ s ∈ slots, ¬s.text <+: c :: cs) (hRest : IsCut slots cs pieces) :
      IsCut slots (c :: cs) (.letter c :: pieces)
  | slot {slots : List Slot} {s : Slot} {cs : List Char} {pieces : List Piece}
      (hMem : s ∈ slots) (hRest : IsCut (s.remaining slots) cs pieces) :
      IsCut slots (s.text ++ cs) (.slot s :: pieces)

theorem isCut_cutFrom (slots : List Slot) (skip : Nat) (cs : List Char) :
    IsCut slots (cs.drop skip) (cutFrom slots skip cs) := by
  induction cs generalizing slots skip with
  | nil =>
    rw [List.drop_nil, cutFrom]
    exact .nil slots
  | cons c cs ih =>
    cases skip with
    | succ skip =>
      rw [List.drop_succ_cons, cutFrom]
      exact ih slots skip
    | zero =>
      rw [List.drop_zero, cutFrom]
      split
      case h_1 s hFound =>
        have hHere := List.find?_some hFound
        rw [List.isPrefixOf_iff_prefix] at hHere
        obtain ⟨after, hText⟩ := hHere
        obtain ⟨d, rest, hHead⟩ := List.exists_cons_of_ne_nil s.text_ne_nil
        have hAfter : cs.drop (s.text.length - 1) = after := by
          rw [hHead, List.cons_append, List.cons.injEq] at hText
          rw [hHead, ← hText.2]
          exact List.drop_left
        have hRest := ih (s.remaining slots) (s.text.length - 1)
        rw [hAfter] at hRest
        rw [← hText]
        exact .slot (List.mem_of_find?_eq_some hFound) hRest
      case h_2 hNone =>
        refine .letter ?_ (ih slots 0)
        intro s hMem hPrefix
        rw [List.find?_eq_none] at hNone
        exact hNone s hMem (List.isPrefixOf_iff_prefix.mpr hPrefix)

/-! ## Replacing in turn -/

section

variable {v : TemplateValues} {done slots : List Slot} {s t : Slot} {cs : List Char}
  {pieces : List Piece}

/-- The text of a piece once the slots in `done` are replaced. -/
def Piece.shown (v : TemplateValues) (done : List Slot) : Piece → List Char
  | letter c => [c]
  | slot s => if s ∈ done then s.value v else s.text

def shown (v : TemplateValues) (done : List Slot) (pieces : List Piece) : List Char :=
  pieces.flatMap (Piece.shown v done)

@[simp] theorem shown_cons (p : Piece) :
    shown v done (p :: pieces) = p.shown v done ++ shown v done pieces := rfl

@[simp] theorem shown_letter (c : Char) : (Piece.letter c).shown v done = [c] := rfl

theorem shown_slot_of_mem (h : s ∈ done) : (Piece.slot s).shown v done = s.value v := if_pos h

theorem shown_slot_of_not_mem (h : s ∉ done) : (Piece.slot s).shown v done = s.text := if_neg h

theorem Piece.shown_cons_of_ne {p : Piece} (h : p ≠ .slot s) :
    p.shown v (s :: done) = p.shown v done := by
  cases p with
  | letter c => rfl
  | slot t =>
    have hNe : t ≠ s := fun hSame => h (congrArg Piece.slot hSame)
    simp [Piece.shown, hNe]

theorem IsCut.shown_eq_text (hCut : IsCut slots cs pieces) : shown v [] pieces = cs := by
  induction hCut with
  | nil => rfl
  | letter _ _ ih => rw [shown_cons, ih, shown_letter, List.singleton_append]
  | slot _ _ ih => rw [shown_cons, ih, shown_slot_of_not_mem List.not_mem_nil]

theorem IsCut.mem_slots (hCut : IsCut slots cs pieces) (hMem : .slot s ∈ pieces) : s ∈ slots := by
  induction hCut with
  | nil => cases hMem
  | letter _ _ ih =>
    rcases List.mem_cons.mp hMem with hHere | hLater
    · cases hHere
    · exact ih hLater
  | slot hIn _ ih =>
    rcases List.mem_cons.mp hMem with hHere | hLater
    · cases hHere
      exact hIn
    · exact Slot.remaining_subset _ _ (ih hLater)

theorem IsCut.shown_eq_filled (hCut : IsCut slots cs pieces) (hAll : slots ⊆ done) :
    shown v done pieces = pieces.flatMap (Piece.filled v) := by
  induction hCut with
  | nil => rfl
  | letter _ _ ih => rw [shown_cons, List.flatMap_cons, ih hAll]; rfl
  | slot hMem _ ih =>
    rw [shown_cons, List.flatMap_cons, ih (List.Subset.trans (Slot.remaining_subset _ _) hAll),
      shown_slot_of_mem (hAll hMem)]
    rfl

/-- In the pieces as they are shown, the slot is found only where it stands. One that counts once is
not looked for behind its own place. -/
inductive FoundInPlace (v : TemplateValues) (done : List Slot) (s : Slot) : List Piece → Prop where
  | nil : FoundInPlace v done s []
  | once {pieces : List Piece} (hOnce : s.countsOnce = true) :
      FoundInPlace v done s (.slot s :: pieces)
  | here {pieces : List Piece} (hOnce : s.countsOnce = false)
      (hRest : FoundInPlace v done s pieces) : FoundInPlace v done s (.slot s :: pieces)
  | past {p : Piece} {pieces : List Piece} (hOther : p ≠ .slot s)
      (hPasses : Passes s.text (p.shown v done) (shown v done pieces))
      (hRest : FoundInPlace v done s pieces) : FoundInPlace v done s (p :: pieces)

/-- Every slot to come is found in place when its turn is. -/
def FoundInTurn (v : TemplateValues) (pieces : List Piece) : List Slot → List Slot → Prop
  | _, [] => True
  | done, s :: slots => FoundInPlace v done s pieces ∧ FoundInTurn v pieces (s :: done) slots

def TemplateValues.ExpandsInPlace (v : TemplateValues) (template : String) : Prop :=
  FoundInTurn v (v.cut template) [] (Slot.known v.workspaceRoot)

theorem Slot.replace_past {before after : List Char} (h : Passes s.text before after) :
    Slot.replace v (before ++ after) s = before ++ Slot.replace v after s := by
  unfold Slot.replace
  split
  · exact h.replaceFirst _
  · exact h.replaceAll s.text_ne_nil _

theorem Slot.replace_nil (v : TemplateValues) (s : Slot) : Slot.replace v [] s = [] := by
  cases s <;> rfl

theorem Slot.replace_here (hOnce : s.countsOnce = false) (after : List Char) :
    Slot.replace v (s.text ++ after) s = s.value v ++ Slot.replace v after s := by
  unfold Slot.replace
  rw [if_neg (by simp [hOnce]), if_neg (by simp [hOnce]), Text.replaceAll_self_append s.text_ne_nil]

theorem Slot.replace_once (hOnce : s.countsOnce = true) (after : List Char) :
    Slot.replace v (s.text ++ after) s = s.value v ++ after := by
  unfold Slot.replace
  rw [if_pos hOnce, Text.replaceFirst_self_append s.text_ne_nil]

theorem shown_cons_of_not_mem (h : .slot s ∉ pieces) :
    shown v (s :: done) pieces = shown v done pieces := by
  induction pieces with
  | nil => rfl
  | cons p pieces ih =>
    rw [List.mem_cons, not_or] at h
    rw [shown_cons, shown_cons, ih h.2, Piece.shown_cons_of_ne (Ne.symm h.1)]

/-- One replacement fills the places of its slot and leaves everything else. -/
theorem replace_shown (hCut : IsCut slots cs pieces) (hSlots : slots.Nodup) (hNew : s ∉ done)
    (hFound : FoundInPlace v done s pieces) :
    Slot.replace v (shown v done pieces) s = shown v (s :: done) pieces := by
  induction hCut with
  | nil => exact Slot.replace_nil v s
  | letter _ _ ih =>
    cases hFound with
    | past hOther hPasses hRest =>
      rw [shown_cons, Slot.replace_past hPasses, ih hSlots hRest, shown_cons,
        Piece.shown_cons_of_ne hOther]
  | @slot slots t cs pieces _ hCut ih =>
    have hLater : (t.remaining slots).Nodup := by
      unfold Slot.remaining
      split
      · exact hSlots.erase t
      · exact hSlots
    cases hFound with
    | once hOnce =>
      -- behind the place of the slot it does not stand again
      have hNone : .slot s ∉ pieces := by
        intro hMem
        have hStays := hCut.mem_slots hMem
        rw [Slot.remaining, if_pos hOnce] at hStays
        exact hSlots.not_mem_erase hStays
      rw [shown_cons, shown_slot_of_not_mem hNew, Slot.replace_once hOnce, shown_cons,
        shown_slot_of_mem List.mem_cons_self, shown_cons_of_not_mem hNone]
    | here hOnce hRest =>
      rw [shown_cons, shown_slot_of_not_mem hNew, Slot.replace_here hOnce, ih hLater hRest,
        shown_cons, shown_slot_of_mem List.mem_cons_self]
    | past hOther hPasses hRest =>
      rw [shown_cons, Slot.replace_past hPasses, ih hLater hRest, shown_cons,
        Piece.shown_cons_of_ne hOther]

theorem foldl_replace_shown {todo : List Slot} (hCut : IsCut slots cs pieces)
    (hSlots : slots.Nodup) (hTodo : todo.Nodup) (hNew : ∀ s ∈ todo, s ∉ done)
    (hTurn : FoundInTurn v pieces done todo) :
    todo.foldl (Slot.replace v) (shown v done pieces) =
      shown v (todo.reverse ++ done) pieces := by
  induction todo generalizing done with
  | nil => rfl
  | cons s todo ih =>
    obtain ⟨hFresh, hTodo⟩ := List.nodup_cons.mp hTodo
    have hLater : ∀ t ∈ todo, t ∉ s :: done := by
      intro t hMem
      rw [List.mem_cons, not_or]
      refine ⟨?_, hNew t (List.mem_cons_of_mem s hMem)⟩
      rintro rfl
      exact hFresh hMem
    rw [List.foldl_cons, replace_shown hCut hSlots (hNew s List.mem_cons_self) hTurn.1,
      ih hTodo hLater hTurn.2, List.reverse_cons, List.append_assoc, List.singleton_append]

/-! ## Values without placeholders -/

/-- No placeholder can start in a value. -/
def TemplateValues.IsPlain (v : TemplateValues) : Prop :=
  ∀ s ∈ Slot.known v.workspaceRoot, IsPlainStem (s.value v)

/-- The letters up to the next slot. -/
def lettersAhead : List Piece → Option (List Char)
  | [] => none
  | .letter c :: pieces => (lettersAhead pieces).map (c :: ·)
  | .slot _ :: _ => some []

/-- Nowhere does the literal text in front of a slot begin a placeholder and leave it unfinished. -/
def NoneBegun (slots : List Slot) (pieces : List Piece) : Prop :=
  ∀ tail ∈ pieces.tails, ∀ run ∈ lettersAhead tail, run ≠ [] →
    ∀ s ∈ slots, run <+: s.text → run = s.text

theorem NoneBegun.tail {p : Piece} (h : NoneBegun slots (p :: pieces)) : NoneBegun slots pieces :=
  fun tail hTail => h tail (by rw [List.tails_cons]; exact List.mem_cons_of_mem _ hTail)

theorem NoneBegun.ahead (h : NoneBegun slots pieces) :
    ∀ run ∈ lettersAhead pieces, run ≠ [] → ∀ s ∈ slots, run <+: s.text → run = s.text :=
  h pieces (by simp)

theorem passes_text (h : s ≠ t) (after : List Char) : Passes s.text t.text after := by
  have hApart : ∀ rest ∈ t.text.tails, rest ≠ [] → ¬s.text <+: rest ∧ ¬rest <+: s.text := by
    cases s <;> cases t <;> first | exact absurd rfl h | decide +kernel
  intro rest hSuffix hSome hPrefix
  obtain ⟨hShort, hLong⟩ := hApart rest ((List.mem_tails _ _).mpr hSuffix) hSome
  rcases List.prefix_or_prefix_of_prefix hPrefix (List.prefix_append rest after) with hLe | hLe
  · exact hShort hLe
  · exact hLong hLe

theorem IsCut.not_prefix_shown (hCut : IsCut slots cs pieces) {run : List Char}
    (hNone : ¬s.text <+: run ++ cs)
    (hBegun : ∀ more ∈ lettersAhead pieces, run ++ more <+: s.text → run ++ more = s.text) :
    ¬s.text <+: run ++ shown v done pieces := by
  induction hCut generalizing run with
  | nil => exact hNone
  | @letter _ c cs pieces _ _ ih =>
    rw [shown_cons, shown_letter, ← List.append_assoc]
    apply ih
    · rwa [List.append_assoc]
    · intro more hMore
      rw [List.append_assoc]
      exact hBegun (c :: more) (Option.mem_map_of_mem _ hMore)
  | slot =>
    intro hPrefix
    rw [lettersAhead] at hBegun
    have hRun := hBegun [] rfl
    rw [List.append_nil] at hRun
    apply hNone
    rcases List.prefix_or_prefix_of_prefix hPrefix (List.prefix_append run _) with hLe | hLe
    · exact hLe.trans (List.prefix_append run _)
    · rw [← hRun hLe]
      exact List.prefix_append run _

theorem foundInPlace_of_isPlain {all : List Slot} (hCut : IsCut slots cs pieces)
    (hPlain : ∀ t ∈ all, IsPlainStem (t.value v)) (hNone : NoneBegun all pieces)
    (hSub : slots ⊆ all) (hMem : s ∈ slots) : FoundInPlace v done s pieces := by
  induction hCut with
  | nil => exact .nil
  | @letter slots c cs pieces hLetter hCut ih =>
    refine .past (by simp) ?_ (ih hNone.tail hSub hMem)
    have hHere : ¬s.text <+: [c] ++ shown v done pieces := by
      refine hCut.not_prefix_shown (hLetter s hMem) ?_
      intro more hMore
      exact hNone.ahead (c :: more) (Option.mem_map_of_mem _ hMore) (by simp) s (hSub hMem)
    intro rest hSuffix hSome
    rcases List.suffix_cons_iff.mp hSuffix with rfl | hNil
    · exact hHere
    · exact absurd (List.suffix_nil.mp hNil) hSome
  | @slot slots t cs pieces hIn _ ih =>
    have hLater : t.remaining slots ⊆ all :=
      List.Subset.trans (Slot.remaining_subset t slots) hSub
    by_cases hSame : s = t
    · subst hSame
      cases hOnce : s.countsOnce with
      | true => exact .once hOnce
      | false =>
        exact .here hOnce (ih hNone.tail hLater (Slot.mem_remaining hMem fun _ => hOnce))
    · refine .past (by simpa using Ne.symm hSame) ?_
        (ih hNone.tail hLater (Slot.mem_remaining hMem (absurd · hSame)))
      by_cases hDone : t ∈ done
      · rw [shown_slot_of_mem hDone]
        exact (hPlain t (hSub hIn)).passes s.text_mem_placeholders _
      · rw [shown_slot_of_not_mem hDone]
        exact passes_text hSame _

theorem foundInTurn_of_isPlain {todo : List Slot} (hCut : IsCut slots cs pieces)
    (hPlain : ∀ t ∈ slots, IsPlainStem (t.value v)) (hNone : NoneBegun slots pieces)
    (hTodo : todo ⊆ slots) : FoundInTurn v pieces done todo := by
  induction todo generalizing done with
  | nil => trivial
  | cons s todo ih =>
    obtain ⟨hMem, hTodo⟩ := List.cons_subset.mp hTodo
    exact ⟨foundInPlace_of_isPlain hCut hPlain hNone (List.Subset.refl slots) hMem, ih hTodo⟩

end

/-! ## Expansion -/

/-- Replacing the placeholders in turn fills the template at once when every one of them is found in
place, as it is for values that no placeholder can start in. -/
theorem expand_eq_substituted (v : TemplateValues) (template : String) :
    (v.ExpandsInPlace template → v.expand template = v.substituted template) ∧
    (v.IsPlain → NoneBegun (Slot.known v.workspaceRoot) (v.cut template) →
      v.ExpandsInPlace template) := by
  have hCut : IsCut (Slot.known v.workspaceRoot) template.toList (v.cut template) :=
    isCut_cutFrom _ 0 _
  have hNodup := Slot.nodup_known v.workspaceRoot
  constructor
  · intro hTurn
    have hFilled := foldl_replace_shown hCut hNodup hNodup (by simp) hTurn
    rw [hCut.shown_eq_text, hCut.shown_eq_filled (by simp)] at hFilled
    rw [TemplateValues.expand, expandChars_eq_foldl, hFilled, TemplateValues.substituted]
  · intro hPlain hNone
    exact foundInTurn_of_isPlain hCut hPlain hNone (List.Subset.refl _)

theorem expand_eq_substituted_repeated :
    let v : TemplateValues := ⟨"site.v1", ".min.css", some ⟨"/ws"⟩⟩
    let template := "$\x7bworkspaceRoot\x7d/$1/$1\x7bext\x7d"
    v.IsPlain ∧ NoneBegun (Slot.known v.workspaceRoot) (v.cut template) ∧
      v.ExpandsInPlace template ∧ v.expand template = v.substituted template ∧
      v.substituted template = "/ws/site.v1/$1.min.css" := by
  intro v template
  have hPlain : v.IsPlain := by
    unfold TemplateValues.IsPlain IsPlainStem
    decide +kernel
  have hNone : NoneBegun (Slot.known v.workspaceRoot) (v.cut template) := by
    unfold NoneBegun
    decide +kernel
  obtain ⟨hEqual, hInPlace⟩ := expand_eq_substituted v template
  have hTurn := hInPlace hPlain hNone
  exact ⟨hPlain, hNone, hTurn, hEqual hTurn, by decide +kernel⟩

/-- A placeholder can come with a value, and a value can complete one or close the gap in it. -/
theorem expand_ne_substituted :
    let v : TemplateValues := ⟨"\x7bext\x7d", ".css", none⟩
    let numbered : TemplateValues := ⟨"1", "", none⟩
    let rooted : TemplateValues := ⟨"main", ".css", some ⟨"/$\x7bworkspaceRoot\x7d"⟩⟩
    v.expand "\x7bname\x7d" ≠ v.substituted "\x7bname\x7d" ∧
    (v.expand "\x7bname\x7d" = ".css" ∧ v.substituted "\x7bname\x7d" = "\x7bext\x7d") ∧
    (numbered.expand "$\x7bname\x7d" = "1" ∧ numbered.substituted "$\x7bname\x7d" = "$1") ∧
    (numbered.expand "$\x7bext\x7d1" = "1" ∧ numbered.substituted "$\x7bext\x7d1" = "$1") ∧
    rooted.expand "$\x7bworkspaceFolder\x7d" = "//$\x7bworkspaceRoot\x7d" ∧
      rooted.substituted "$\x7bworkspaceFolder\x7d" = "/$\x7bworkspaceRoot\x7d" := by
  decide +kernel

end StylesheetBuild.Artifact
