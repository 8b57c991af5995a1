import Mathlib.Data.List.Basic
import StylesheetBuild.Directive.Basic
import StylesheetBuild.Proofs.Directive.Cutting
import StylesheetBuild.Proofs.Options.Layers
import StylesheetBuild.Proofs.Text.Lines
import StylesheetBuild.Proofs.Text.Trimming

/-!
# Printed directives

A printer for directive lines and the proof that reading undoes it. Flags and numbers are printed
bare and every text in a pair of quotes that it does not hold, so that commas, colons and blanks
inside it stay and a text that looks like a flag or a number is still a text.
-/

namespace StylesheetBuild

/-! ## Values -/

namespace DirectiveValue

def print (quote : Char) : DirectiveValue → List Char
  | flag on => if on then "true".toList else "false".toList
  | number n => (toString n).toList
  | text s => quote :: s.toList ++ [quote]

/-- Numbers are signed words of 64 bits, and texts hold neither a line feed nor the quote. -/
def Printable (quote : Char) : DirectiveValue → Prop
  | flag _ => True
  | number n => Value.isWord n = true
  | text s => Directive.isQuote quote = true ∧ quote ∉ s.toList ∧ '\n' ∉ s.toList

instance (quote : Char) : (v : DirectiveValue) → Decidable (v.Printable quote)
  | flag _ => inferInstanceAs (Decidable True)
  | number _ => inferInstanceAs (Decidable (_ = true))
  | text _ => inferInstanceAs (Decidable (_ ∧ _ ∧ _))

theorem isDigit_of_mem_toDigits {n : Nat} {c : Char} (h : c ∈ Nat.toDigits 10 n) :
    c.isDigit = true :=
  Nat.isDigit_of_mem_toDigits (by decide) (by decide) h

theorem unsigned?_toDigits (n : Nat) : unsigned? (Nat.toDigits 10 n) = some n := by
  have hDigits : (Nat.toDigits 10 n).any (!·.isDigit) = false := by
    rw [List.any_eq_false]
    intro c hc
    simp [isDigit_of_mem_toDigits hc]
  have hSome : (Nat.toDigits 10 n).isEmpty = false := by simp [Nat.toDigits_ne_nil]
  have hValue : digitsValue (Nat.toDigits 10 n) = n := by
    rw [digitsValue, ← Nat.ofDigitChars_eq_foldl, Nat.ofDigitChars_ten_toDigits]
  rw [unsigned?, hDigits, hSome, hValue]
  rfl

theorem integer?_of_isDigit {c : Char} (h : c.isDigit = true) (digits : List Char) :
    integer? (c :: digits) = (unsigned? (c :: digits)).map Int.ofNat := by
  unfold integer?
  split
  · rename_i hSign
    cases hSign
    exact absurd h (by decide)
  · rename_i hSign
    cases hSign
    exact absurd h (by decide)
  · rfl

theorem integer?_toDigits (n : Nat) : integer? (Nat.toDigits 10 n) = some (n : Int) := by
  obtain ⟨c, digits, hDigits⟩ := List.exists_cons_of_ne_nil (Nat.toDigits_ne_nil (b := 10) (n := n))
  have hFirst : c.isDigit = true := isDigit_of_mem_toDigits (n := n) (by simp [hDigits])
  have hUnsigned := unsigned?_toDigits n
  rw [hDigits] at hUnsigned ⊢
  rw [integer?_of_isDigit hFirst, hUnsigned]
  rfl

theorem integer?_toString (n : Int) : integer? (toString n).toList = some n := by
  rw [Int.toString_eq_repr, Int.repr_eq_if]
  split
  · rename_i hSign
    rw [Nat.toList_repr, integer?_toDigits]
    exact congrArg some (Int.toNat_of_nonneg hSign)
  · rename_i hSign
    have hText : ("-" ++ (-n).toNat.repr).toList = '-' :: Nat.toDigits 10 (-n).toNat := by
      rw [String.toList_append, Nat.toList_repr]
      rfl
    rw [hText, integer?, unsigned?_toDigits]
    have hAbs : ((-n).toNat : Int) = -n := Int.toNat_of_nonneg (by omega)
    simp [hAbs]

theorem ofText_toString {n : Int} (h : Value.isWord n = true) :
    ofText (toString n).toList = number n := by
  have hOther : ∀ word : List Char, integer? word = none → (toString n).toList ≠ word := by
    rintro word hWord rfl
    rw [integer?_toString] at hWord
    cases hWord
  rw [ofText, if_neg (hOther _ (by decide)), if_neg (hOther _ (by decide)), integer?_toString]
  simp [Option.filter, h]

theorem ofText_quoted {quote : Char} (hQuote : Directive.isQuote quote = true) (s : List Char) :
    ofText (quote :: s ++ [quote]) = text (String.ofList s) := by
  have hQuotes : quote = '"' ∨ quote = '\'' := by simpa [Directive.isQuote] using hQuote
  have hInteger : integer? (quote :: s ++ [quote]) = none := by
    rcases hQuotes with rfl | rfl <;> simp [integer?, unsigned?]
  have hUnquoted : unquoted? (quote :: s ++ [quote]) = some s := by
    rw [List.cons_append, unquoted?, if_pos ⟨hQuote, List.getLast?_concat⟩, List.dropLast_concat]
  have hWord : ∀ word : List Char, word.head?.any Directive.isQuote = false →
      quote :: s ++ [quote] ≠ word := by
    rintro word hFirst rfl
    simp [hQuote] at hFirst
  rw [ofText, if_neg (hWord _ (by decide)), if_neg (hWord _ (by decide)), hInteger, hUnquoted]
  rfl

theorem ofText_flag (quote : Char) (on : Bool) : ofText (print quote (flag on)) = flag on := by
  cases on with
  | false =>
    change ofText "false".toList = flag false
    decide
  | true =>
    change ofText "true".toList = flag true
    decide

theorem ofText_print {quote : Char} {v : DirectiveValue} (h : v.Printable quote) :
    ofText (v.print quote) = v := by
  cases v with
  | flag on => exact ofText_flag quote on
  | number n => exact ofText_toString h
  | text s =>
    obtain ⟨hQuote, -, -⟩ := h
    rw [print, ofText_quoted hQuote, String.ofList_toList]

/-! ### The characters of a printed value -/

theorem isBlank_of_isDigit {c : Char} (h : c.isDigit = true) : Text.isBlank c = false := by
  have hRange : 48 ≤ c.toNat ∧ c.toNat ≤ 57 := Char.isDigit_iff_toNat.mp h
  rw [← Bool.not_eq_true, Text.isBlank, Text.inRanges_iff]
  simp only [Text.blankRanges, List.mem_cons, List.not_mem_nil, or_false]
  rintro ⟨range, hMem, hLow, hHigh⟩
  rcases hMem with rfl | rfl | rfl | rfl | rfl | rfl | rfl | rfl | rfl | rfl <;>
    simp only at hLow hHigh <;> omega

theorem mem_toString {n : Int} {c : Char} (h : c ∈ (toString n).toList) :
    c = '-' ∨ c.isDigit = true := by
  rw [Int.toString_eq_repr, Int.repr_eq_if] at h
  split at h
  · rw [Nat.toList_repr] at h
    exact .inr (isDigit_of_mem_toDigits h)
  · rw [String.toList_append, Nat.toList_repr] at h
    rcases List.mem_append.mp h with h | h
    · exact .inl (by simpa using h)
    · exact .inr (isDigit_of_mem_toDigits h)

/-- Nothing in a bare value is cut, trimmed or taken for a quote. -/
theorem bare_of_mem_print {quote : Char} {v : DirectiveValue} (hBare : ∀ s, v ≠ text s) {c : Char}
    (h : c ∈ v.print quote) :
    c ≠ ',' ∧ Directive.isQuote c = false ∧ Text.isBlank c = false := by
  cases v with
  | flag on =>
    have hWords : ("true".toList ++ "false".toList).all
        (fun c => c != ',' && !Directive.isQuote c && !Text.isBlank c) = true := by decide
    have hMem : c ∈ "true".toList ++ "false".toList := by
      cases on with
      | false => exact List.mem_append_right _ h
      | true => exact List.mem_append_left _ h
    simpa [and_assoc] using List.all_eq_true.mp hWords c hMem
  | number n =>
    rcases mem_toString h with rfl | hDigit
    · decide
    · have hOther : ∀ other : Char, other.isDigit = false → c ≠ other := by
        rintro other hNo rfl
        rw [hDigit] at hNo
        cases hNo
      refine ⟨hOther _ (by decide), ?_, isBlank_of_isDigit hDigit⟩
      simp [Directive.isQuote, hOther '"' (by decide), hOther '\'' (by decide)]
  | text s => exact absurd rfl (hBare s)

theorem print_ne_nil (quote : Char) (v : DirectiveValue) : v.print quote ≠ [] := by
  cases v with
  | flag on => cases on <;> simp [print]
  | number n =>
    intro hEmpty
    have hInteger := integer?_toString n
    rw [print] at hEmpty
    rw [hEmpty] at hInteger
    cases hInteger
  | text s => simp [print]

theorem isBlank_of_isQuote {c : Char} (h : Directive.isQuote c = true) : Text.isBlank c = false := by
  have hQuotes : c = '"' ∨ c = '\'' := by simpa [Directive.isQuote] using h
  rcases hQuotes with rfl | rfl <;> decide

variable {quote : Char} {v : DirectiveValue}

theorem isTight_print (h : v.Printable quote) : Text.IsTight (v.print quote) := by
  have hBare : (∀ s, v ≠ text s) → Text.IsTight (v.print quote) := fun hBare =>
    Text.isTight_of_not_isBlank (print_ne_nil quote v) fun c hc => (bare_of_mem_print hBare hc).2.2
  cases v with
  | flag on => exact hBare (by simp)
  | number n => exact hBare (by simp)
  | text s =>
    have hQuote : Text.IsTight [quote] :=
      Text.isTight_of_not_isBlank (by simp) (by simpa using isBlank_of_isQuote h.1)
    exact hQuote.append hQuote s.toList

theorem isWhole_print (h : v.Printable quote) : Directive.IsWhole (v.print quote) := by
  have hBare : (∀ s, v ≠ text s) → Directive.IsWhole (v.print quote) := fun hBare =>
    Directive.isWhole_of_plain fun c hc =>
      ⟨(bare_of_mem_print hBare hc).1, (bare_of_mem_print hBare hc).2.1⟩
  cases v with
  | flag on => exact hBare (by simp)
  | number n => exact hBare (by simp)
  | text s => exact Directive.isWhole_quoted h.1 h.2.1

theorem lineFeed_not_mem_print (h : v.Printable quote) : '\n' ∉ v.print quote := by
  have hBare : (∀ s, v ≠ text s) → '\n' ∉ v.print quote := fun hBare hFeed =>
    absurd (bare_of_mem_print hBare hFeed).2.2 (by decide)
  cases v with
  | flag on => exact hBare (by simp)
  | number n => exact hBare (by simp)
  | text s =>
    have hQuote : quote ≠ '\n' := by
      rintro rfl
      exact absurd h.1 (by decide)
    simp [print, h.2.2, Ne.symm hQuote]

end DirectiveValue

namespace Directive

/-! ## Entries -/

/-- An entry to be printed, with the quote to be used if the value is a text. -/
structure Written where
  key : String
  value : DirectiveValue
  quote : Char

namespace Written

def print (e : Written) : List Char :=
  e.key.toList ++ ':' :: ' ' :: e.value.print e.quote

/-- The key is not empty, not trimmed any further and free of what ends a key or an entry. -/
structure Printable (e : Written) : Prop where
  key_ne : e.key ≠ ""
  key_trimmed : Text.trimmed e.key = e.key
  key_plain : ∀ c ∈ e.key.toList, c ≠ ',' ∧ c ≠ ':' ∧ isQuote c = false ∧ c ≠ '\n'
  value : e.value.Printable e.quote

instance (e : Written) : Decidable e.Printable :=
  letI : Decidable (∀ c ∈ e.key.toList, c ≠ ',' ∧ c ≠ ':' ∧ isQuote c = false ∧ c ≠ '\n') :=
    List.decidableBAll _ _
  decidable_of_iff (e.key ≠ "" ∧ Text.trimmed e.key = e.key ∧
      (∀ c ∈ e.key.toList, c ≠ ',' ∧ c ≠ ':' ∧ isQuote c = false ∧ c ≠ '\n') ∧
      e.value.Printable e.quote)
    ⟨fun ⟨hSome, hTrimmed, hPlain, hValue⟩ => ⟨hSome, hTrimmed, hPlain, hValue⟩,
      fun h => ⟨h.key_ne, h.key_trimmed, h.key_plain, h.value⟩⟩

def directive (e : Written) : Directive :=
  ⟨optionKey e.key, e.value⟩

/-- The layer that sets the key alone, if the value fits it. -/
def layer? (e : Written) : Option Options :=
  Options.ofFields? [(optionKey e.key, e.value.toValue)]

variable {e : Written}

theorem Printable.isTight_key (h : e.Printable) : Text.IsTight e.key.toList := by
  apply Text.isTight_of_trim_eq
  · rw [← Text.toList_trimmed, h.key_trimmed]
  · intro hEmpty
    exact h.key_ne (String.toList_inj.mp hEmpty)

theorem Printable.isTight_print (h : e.Printable) : Text.IsTight e.print :=
  h.isTight_key.append (DirectiveValue.isTight_print h.value) [':', ' ']

theorem Printable.isWhole_print (h : e.Printable) : IsWhole e.print := by
  have hKey : IsWhole e.key.toList :=
    isWhole_of_plain fun c hc => ⟨(h.key_plain c hc).1, (h.key_plain c hc).2.2.1⟩
  have hColon : IsWhole [':', ' '] := isWhole_of_plain (by simp [isQuote])
  exact hKey.append (hColon.append (DirectiveValue.isWhole_print h.value))

theorem Printable.lineFeed_not_mem_print (h : e.Printable) : '\n' ∉ e.print := by
  intro hFeed
  rw [print, List.mem_append, List.mem_cons, List.mem_cons] at hFeed
  rcases hFeed with hKey | hColon | hBlank | hValue
  · exact (h.key_plain _ hKey).2.2.2 rfl
  · exact absurd hColon (by decide)
  · exact absurd hBlank (by decide)
  · exact DirectiveValue.lineFeed_not_mem_print h.value hValue

/-- Reading an entry back, whether or not a blank stands before it. -/
theorem Printable.ofEntry?_eq (h : e.Printable) {front : List Char}
    (hFront : front = [] ∨ front = [' ']) : ofEntry? (front ++ e.print) = some e.directive := by
  have hColon : ∀ c ∈ front ++ e.key.toList, (c != ':') = true := by
    intro c hc
    rw [bne_iff_ne]
    rcases List.mem_append.mp hc with hc | hc
    · rcases hFront with rfl | rfl
      · cases hc
      · rw [List.mem_singleton.mp hc]
        decide
    · exact (h.key_plain c hc).2.1
  have hKey : Text.trim (front ++ e.key.toList) = e.key.toList := by
    rcases hFront with rfl | rfl
    · exact h.isTight_key.trim_eq
    · rw [List.singleton_append, Text.trim_cons_of_isBlank (by decide), h.isTight_key.trim_eq]
  have hRaw : Text.trim (' ' :: e.value.print e.quote) = e.value.print e.quote := by
    rw [Text.trim_cons_of_isBlank (by decide), (DirectiveValue.isTight_print h.value).trim_eq]
  have hSome : e.key.toList.isEmpty = false := by simp [h.isTight_key.ne_nil]
  rw [print, ← List.append_assoc, ofEntry?, List.dropWhile_append_of_pos hColon,
    List.takeWhile_append_of_pos hColon, List.dropWhile_cons_of_neg (by decide),
    List.takeWhile_cons_of_neg (by decide), List.append_nil]
  simp only [hKey, hRaw, hSome, Bool.false_eq_true, if_false, String.ofList_toList,
    DirectiveValue.ofText_print h.value, directive]

end Written

/-! ## Lines -/

def printLine (es : List Written) : List Char :=
  "// ".toList ++ ", ".toList.intercalate (es.map Written.print)

variable {es : List Written}

theorem isTight_printEntries {e : Written} (h : ∀ w ∈ e :: es, w.Printable) :
    Text.IsTight (", ".toList.intercalate ((e :: es).map Written.print)) := by
  rw [List.map_cons]
  apply Text.IsTight.intercalate (h e (by simp)).isTight_print
  intro cs hcs
  obtain ⟨w, hw, rfl⟩ := List.mem_map.mp hcs
  exact (h w (List.mem_cons_of_mem _ hw)).isTight_print

theorem lineFeed_not_mem_printEntries (h : ∀ e ∈ es, e.Printable) :
    '\n' ∉ ", ".toList.intercalate (es.map Written.print) := by
  induction es with
  | nil => simp
  | cons e es ih =>
    have hEntry := (h e (by simp)).lineFeed_not_mem_print
    have hOthers := ih fun w hw => h w (List.mem_cons_of_mem _ hw)
    cases es with
    | nil => simpa using hEntry
    | cons next es =>
      rw [List.map_cons, List.map_cons, List.intercalate_cons_cons, List.mem_append,
        List.mem_append, not_or, not_or]
      exact ⟨⟨hEntry, by decide⟩, hOthers⟩

theorem lineFeed_not_mem_printLine (h : ∀ e ∈ es, e.Printable) : '\n' ∉ printLine es := by
  rw [printLine, List.mem_append, not_or]
  exact ⟨by decide, lineFeed_not_mem_printEntries h⟩

theorem getLast?_printLine (h : ∀ e ∈ es, e.Printable) : (printLine es).getLast? ≠ some '\r' := by
  cases es with
  | nil => decide
  | cons e es =>
    intro hLast
    have hTight := isTight_printEntries h
    rw [printLine, List.getLast?_append, List.getLast?_eq_some_getLast hTight.ne_nil] at hLast
    have hReturn := hTight.last '\r' (by rw [List.getLast?_eq_some_getLast hTight.ne_nil]; exact hLast)
    exact absurd hReturn (by decide)

theorem line?_printLine (h : ∀ e ∈ es, e.Printable) {rest : List Char}
    (hRest : rest = [] ∨ rest.head? = some '\n') :
    line? (printLine es ++ rest) = some (", ".toList.intercalate (es.map Written.print)) := by
  have hTrim : Text.trim (", ".toList.intercalate (es.map Written.print)) =
      ", ".toList.intercalate (es.map Written.print) := by
    cases es with
    | nil => rfl
    | cons e es => exact (isTight_printEntries h).trim_eq
  have hStart : Text.trimStart (printLine es) =
      '/' :: '/' :: ' ' :: ", ".toList.intercalate (es.map Written.print) := by
    rw [Text.trimStart_eq_self]
    · rfl
    · rintro c ⟨⟩
      decide
  rw [line?, Text.firstLine_append (lineFeed_not_mem_printLine h) (getLast?_printLine h) hRest, hStart]
  simp only [Text.trim_cons_of_isBlank (by decide : Text.isBlank ' ' = true), hTrim]

theorem filterMap_ofEntry?_print (h : ∀ e ∈ es, e.Printable) :
    ((es.map Written.print).map (' ' :: ·)).filterMap ofEntry? = es.map Written.directive := by
  rw [List.map_map, List.filterMap_map, ← List.filterMap_eq_map]
  exact List.filterMap_congr fun w hw => (h w hw).ofEntry?_eq (.inr rfl)

/-- Reading a printed line gives back the entries, whatever follows on later lines. -/
theorem ofContent_printLine (h : ∀ e ∈ es, e.Printable) {rest : List Char}
    (hRest : rest = [] ∨ rest.head? = some '\n') :
    ofContent (String.ofList (printLine es ++ rest)) = es.map Written.directive := by
  rw [ofContent, String.toList_ofList, line?_printLine h hRest]
  cases es with
  | nil => rfl
  | cons e es =>
    have hFirst : e.Printable := h e (by simp)
    have hOthers : ∀ w ∈ es, w.Printable := fun w hw => h w (List.mem_cons_of_mem _ hw)
    have hWhole : ∀ text ∈ es.map Written.print, IsWhole text := by
      intro text hText
      obtain ⟨w, hw, rfl⟩ := List.mem_map.mp hText
      exact (hOthers w hw).isWhole_print
    have hEntry : ofEntry? e.print = some e.directive := hFirst.ofEntry?_eq (.inl rfl)
    change (entries ([',', ' '].intercalate (e.print :: es.map Written.print))).filterMap ofEntry? = _
    rw [entries_intercalate hFirst.isWhole_print hWhole, List.filterMap_cons_some hEntry,
      filterMap_ofEntry?_print hOthers]
    rfl

end Directive

/-- The options of a document with a printed directive line are the layers of the entries that fit,
stacked from left to right; for each key the last of them that sets it wins. -/
theorem options_of_printed_line {es : List Directive.Written} (h : ∀ e ∈ es, e.Printable)
    {rest : List Char} (hRest : rest = [] ∨ rest.head? = some '\n') :
    Options.ofContent (String.ofList (Directive.printLine es ++ rest)) =
        Options.stack (es.filterMap Directive.Written.layer?) ∧
      ∀ {α : Type} (k : OptionKey α),
        (Options.ofContent (String.ofList (Directive.printLine es ++ rest))).get? k =
          (es.filterMap Directive.Written.layer?).reverse.findSome? (·.get? k) := by
  have hOptions : Options.ofContent (String.ofList (Directive.printLine es ++ rest)) =
      Options.stack (es.filterMap Directive.Written.layer?) := by
    rw [Options.ofContent, Directive.ofContent_printLine h hRest, Options.ofDirectives,
      List.filterMap_map]
    rfl
  refine ⟨hOptions, ?_⟩
  intro α k
  rw [hOptions, Options.get?_stack]

/-- An option set three times, the last time with a number that does not fit it, and texts that hold
the other quote, look like a number or end in a blank. -/
def writtenLine : List Directive.Written :=
  [⟨"out", .text "a, 'b': c", '"'⟩, ⟨"maxLineLen", .number (-9223372036854775808), '"'⟩,
   ⟨"out", .text " dist/ ", '\''⟩, ⟨"banner", .text "42", '"'⟩, ⟨"out", .number 3, '"'⟩]

theorem options_of_written_line :
    (∀ e ∈ writtenLine, e.Printable) ∧ "\n// out: false".toList.head? = some '\n' ∧
      (Options.ofContent (String.ofList
        (Directive.printLine writtenLine ++ "\n// out: false".toList))).get? .outputPath =
          some (.template " dist/ ") := by
  have hPrintable : ∀ e ∈ writtenLine, e.Printable := by decide +kernel
  have hRest : "\n// out: false".toList.head? = some '\n' := by decide
  refine ⟨hPrintable, hRest, ?_⟩
  rw [(options_of_printed_line hPrintable (.inr hRest)).2 .outputPath]
  decide +kernel

end StylesheetBuild
