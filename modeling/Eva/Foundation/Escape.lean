import Eva.Foundation.Replace

/-! # Escaping by successive replacement

A text is escaped by replacing one character after the other by a marker and a
code, and unescaped by replacing the codes back in any order that leaves the
marker's own code to the end. The library follows the escape table that is in
force between two replacements.
-/

namespace Eva.Text

def replaceChar (char : Char) (replacement text : List Char) : List Char :=
  text.flatMap fun current => if current = char then replacement else [current]

/-- The code of every character that is escaped. -/
abbrev EscapeTable := Char → Option (List Char)

def escapeChar (marker : Char) (table : EscapeTable) (char : Char) : List Char :=
  match table char with
  | some code => marker :: code
  | none => [char]

def escapeWith (marker : Char) (table : EscapeTable) (text : List Char) : List Char :=
  text.flatMap (escapeChar marker table)

/-- A table that can be undone one replacement at a time. -/
structure Unambiguous (marker : Char) (width : Nat) (table : EscapeTable) : Prop where
  markerEscaped : (table marker).isSome
  codeWidth : ∀ char code, table char = some code → code.length = width
  codeUnmarked : ∀ char code, table char = some code → marker ∉ code
  codeUnique : ∀ left right code,
    table left = some code → table right = some code → left = right

@[simp] theorem escapeWith_cons (marker : Char) (table : EscapeTable)
    (char : Char) (text : List Char) :
    escapeWith marker table (char :: text) =
      escapeChar marker table char ++ escapeWith marker table text := rfl

theorem escapeWith_empty (marker : Char) (text : List Char) :
    escapeWith marker (fun _ => none) text = text := by
  induction text with
  | nil => rfl
  | cons char text induction => simp [escapeChar, induction]

/-! ## Escaping one more character -/

private theorem replaceChar_of_notMem (absent : char ∉ text) (replacement : List Char) :
    replaceChar char replacement text = text := by
  induction text with
  | nil => rfl
  | cons first text induction =>
      simp only [List.mem_cons, not_or] at absent
      simp [replaceChar, Ne.symm absent.1]
      simpa [replaceChar] using induction absent.2

private theorem replaceChar_append (char : Char) (replacement left right : List Char) :
    replaceChar char replacement (left ++ right) =
      replaceChar char replacement left ++ replaceChar char replacement right := by
  simp [replaceChar]

theorem replaceChar_escapeWith (code : List Char) (unescaped : table char = none)
    (fresh : ∀ other used, table other = some used → char ∉ marker :: used)
    (text : List Char) :
    replaceChar char (marker :: code) (escapeWith marker table text) =
      escapeWith marker (Function.update table char (some code)) text := by
  induction text with
  | nil => rfl
  | cons first text induction =>
      rw [escapeWith_cons, replaceChar_append, induction, escapeWith_cons]
      congr 1
      by_cases same : first = char
      · subst same
        simp [escapeChar, unescaped, replaceChar]
      · cases entry : table first with
        | none => simp [escapeChar, entry, same, replaceChar]
        | some used =>
            have unchanged := replaceChar_of_notMem (fresh first used entry) (marker :: code)
            simpa [escapeChar, entry, same] using unchanged

/-! ## Unescaping one character -/

private theorem not_prefix_tail {passed tail : List Char} (unmarked : marker ∉ passed)
    (suffix : tail ∈ passed.tails) (nonempty : tail ≠ []) (code rest : List Char) :
    ¬marker :: code <+: tail ++ rest := by
  cases tail with
  | nil => exact absurd rfl nonempty
  | cons char tail =>
      have member := ((List.mem_tails _ _).mp suffix).subset List.mem_cons_self
      intro starts
      have first := (List.cons_prefix_cons.mp starts).1
      exact unmarked (first ▸ member)

private theorem replaceAll_unmarked
    (unmarked : marker ∉ passed) (code replacement rest : List Char) :
    replaceAll (marker :: code) replacement (passed ++ rest) =
      passed ++ replaceAll (marker :: code) replacement rest :=
  replaceAll_append rest fun _ suffix nonempty => not_prefix_tail unmarked suffix nonempty _ _

theorem replaceAll_of_notMem (unmarked : marker ∉ text)
    (code replacement : List Char) : replaceAll (marker :: code) replacement text = text := by
  have passed := replaceAll_unmarked unmarked code replacement []
  simpa [replaceAll, replaceFrom] using passed

private theorem replaceAll_code
    (replacement rest : List Char) (same : code.length = used.length)
    (unmarked : marker ∉ used) :
    replaceAll (marker :: code) replacement (marker :: used ++ rest) =
      (if code = used then replacement else marker :: used) ++
        replaceAll (marker :: code) replacement rest := by
  by_cases equal : code = used
  · subst equal
    rw [if_pos rfl]
    exact replaceAll_pattern (by simp) rest
  · rw [if_neg equal]
    refine replaceAll_append rest ?_
    rw [List.tails_cons, List.forall_mem_cons]
    refine ⟨fun _ starts => equal ?_, fun _ suffix nonempty =>
      not_prefix_tail unmarked suffix nonempty _ _⟩
    have whole := List.prefix_of_prefix_length_le starts (List.prefix_append _ rest) (by simp [same])
    exact (List.cons.inj (whole.eq_of_length (by simp [same]))).2

theorem replaceAll_escapeWith (unambiguous : Unambiguous marker width table)
    (escaped : table char = some code) (text : List Char) :
    replaceAll (marker :: code) [char] (escapeWith marker table text) =
      escapeWith marker (Function.update table char none) text := by
  induction text with
  | nil => rfl
  | cons first text induction =>
      rw [escapeWith_cons, escapeWith_cons, ← induction]
      cases entry : table first with
      | none =>
          have literal : first ≠ marker := by
            rintro rfl
            simpa [entry] using unambiguous.markerEscaped
          have other : first ≠ char := by
            rintro rfl
            simp [escaped] at entry
          have unmarked : marker ∉ [first] := by simpa using literal.symm
          have passed := replaceAll_unmarked unmarked code [char]
            (escapeWith marker table text)
          simpa [escapeChar, entry, other] using passed
      | some used =>
          have same : code.length = used.length := by
            rw [unambiguous.codeWidth char code escaped, unambiguous.codeWidth first used entry]
          have replaced := replaceAll_code [char] (escapeWith marker table text) same
            (unambiguous.codeUnmarked first used entry)
          by_cases equal : first = char
          · subst equal
            have equal : code = used := by simpa [escaped] using entry
            simpa [escapeChar, entry, equal] using replaced
          · have different : code ≠ used := by
              rintro rfl
              exact equal (unambiguous.codeUnique first char code entry escaped)
            simpa [escapeChar, entry, equal, different] using replaced

/-- Undoing the escape of any character but the marker keeps the rest undoable. -/
theorem Unambiguous.erase
    (unambiguous : Unambiguous marker width table) (char : Char) (other : char ≠ marker) :
    Unambiguous marker width (Function.update table char none) := by
  have remains : ∀ left code, Function.update table char none left = some code →
      table left = some code := by
    intro left code entry
    by_cases same : left = char
    · simp [same] at entry
    · simpa [same] using entry
  exact {
    markerEscaped := by simpa [Ne.symm other] using unambiguous.markerEscaped
    codeWidth := fun left code entry => unambiguous.codeWidth left code (remains _ _ entry)
    codeUnmarked := fun left code entry =>
      unambiguous.codeUnmarked left code (remains _ _ entry)
    codeUnique := fun left right code first second =>
      unambiguous.codeUnique left right code (remains _ _ first) (remains _ _ second) }

/-- An escaped text holds the marker, codes and characters that are not escaped. -/
theorem mem_escapeWith (member : char ∈ escapeWith marker table text) :
    (table char = none ∧ char ∈ text) ∨ char = marker ∨
      ∃ source code, table source = some code ∧ char ∈ code := by
  obtain ⟨first, firstMember, member⟩ := List.mem_flatMap.mp member
  cases entry : table first with
  | none =>
      have same : char = first := by simpa [escapeChar, entry] using member
      exact .inl ⟨same ▸ entry, same ▸ firstMember⟩
  | some code =>
      have cases : char = marker ∨ char ∈ code := by
        simpa [escapeChar, entry] using member
      exact .inr (cases.imp_right fun member => ⟨first, code, entry, member⟩)

theorem escapeWith_eq_nil_iff :
    escapeWith marker table text = [] ↔ text = [] := by
  cases text with
  | nil => simp [escapeWith]
  | cons char text =>
      cases entry : table char <;> simp [escapeChar, entry]

end Eva.Text
