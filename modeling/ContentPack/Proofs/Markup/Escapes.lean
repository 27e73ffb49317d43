import ContentPack.Markup.CharacterReference
import ContentPack.Proofs.Lists

/-!
# Escapes

`escape` writes the characters that mean something in markup as references, four of them by name.
Each of the rules by which references are read takes such a reference for the character that it was
written for, whatever follows it (`ReadsEscapes`): a semicolon ends every name and every number. So
one pass reads escaped text back, also where it looks as if it had been escaped before
(`decodeAttribute_escape`, `unescape_escape`).
-/

namespace ContentPack.Markup

/-- A character, written as a reference if it means something in markup. -/
def escapeChar : Char → List Char
  | '&' => "&amp;".toList
  | '<' => "&lt;".toList
  | '>' => "&gt;".toList
  | '"' => "&quot;".toList
  | '\'' => "&#x27;".toList
  | c => [c]

/-- Text with its escapes. -/
def escape (cs : List Char) : List Char := cs.flatMap escapeChar

theorem escape_cons (c : Char) (cs : List Char) : escape (c :: cs) = escapeChar c ++ escape cs :=
  List.flatMap_cons

/-- The characters that are escaped by their names. -/
def names : List (Char × List Char) :=
  [('&', "amp".toList), ('<', "lt".toList), ('>', "gt".toList), ('"', "quot".toList)]

/-- The characters that are escaped, with what follows the ampersand. -/
def escapes : List (Char × List Char) :=
  names.map (fun e => (e.1, e.2 ++ [';'])) ++ [('\'', "#x27;".toList)]

theorem escapeChar_cases (c : Char) :
    (∃ tail, (c, tail) ∈ escapes ∧ escapeChar c = '&' :: tail) ∨
      (c ∉ escapes.map (·.1) ∧ escapeChar c = [c]) := by
  unfold escapeChar
  split
  · exact Or.inl ⟨_, by decide, rfl⟩
  · exact Or.inl ⟨_, by decide, rfl⟩
  · exact Or.inl ⟨_, by decide, rfl⟩
  · exact Or.inl ⟨_, by decide, rfl⟩
  · exact Or.inl ⟨_, by decide, rfl⟩
  · refine Or.inr ⟨?_, rfl⟩
    show c ∉ ['&', '<', '>', '"', '\'']
    simp only [List.mem_cons, List.not_mem_nil, or_false]
    rintro (h | h | h | h | h)
    all_goals contradiction

/-- Of the characters that are escaped only the ampersand is left. -/
theorem notMem_escape {c : Char} (hc : c ∈ escapes.map (·.1)) (hamp : c ≠ '&') (cs : List Char) :
    c ∉ escape cs := by
  intro hmem
  obtain ⟨d, -, hd⟩ := List.mem_flatMap.mp hmem
  rcases escapeChar_cases d with ⟨tail, htail, heq⟩ | ⟨hplain, heq⟩
  · rw [heq] at hd
    have hfree : ∀ e ∈ escapes, ∀ e' ∈ escapes, e'.1 ∉ e.2 := by decide
    obtain ⟨e', he', rfl⟩ := List.mem_map.mp hc
    rcases List.mem_cons.mp hd with h | h
    · exact hamp h
    · exact hfree _ htail e' he' h
  · rw [heq, List.mem_singleton] at hd
    exact hplain (hd ▸ hc)

/-- What holds of the characters of a text and of the references holds of the escaped text. -/
theorem all_escape {p : Char → Bool} (hescapes : ∀ e ∈ escapes, ('&' :: e.2).all p = true)
    {cs : List Char} (hcs : cs.all p = true) : (escape cs).all p = true := by
  rw [List.all_eq_true] at hcs ⊢
  intro c hc
  obtain ⟨d, hd, hc⟩ := List.mem_flatMap.mp hc
  rcases escapeChar_cases d with ⟨tail, htail, heq⟩ | ⟨-, heq⟩
  · rw [heq] at hc
    exact List.all_eq_true.mp (hescapes _ htail) c hc
  · rw [heq, List.mem_singleton] at hc
    exact hc ▸ hcs d hd

/-! ### Rules that read escapes -/

/-- **The rule reads every escape** as the character that it was written for. -/
def ReadsEscapes (read : List Char → Option (List Char × Nat)) : Prop :=
  ∀ e ∈ escapes, ∀ rest, read (e.2 ++ rest) = some ([e.1], e.2.length)

theorem replaceReferences_skip (read : List Char → Option (List Char × Nat))
    (skipped rest : List Char) :
    replaceReferences read skipped.length (skipped ++ rest) = replaceReferences read 0 rest := by
  induction skipped with
  | nil => rfl
  | cons c skipped ih => exact ih

/-- **A rule that reads every escape reads escaped text back.** -/
theorem ReadsEscapes.replaceReferences_escape {read : List Char → Option (List Char × Nat)}
    (h : ReadsEscapes read) (cs : List Char) : replaceReferences read 0 (escape cs) = cs := by
  induction cs with
  | nil => rfl
  | cons c cs ih =>
    rw [escape_cons]
    rcases escapeChar_cases c with ⟨tail, htail, heq⟩ | ⟨hplain, heq⟩
    · have hread : read (tail ++ escape cs) = some ([c], tail.length) := h _ htail (escape cs)
      rw [heq, List.cons_append, replaceReferences, if_pos (beq_self_eq_true _), hread]
      show [c] ++ replaceReferences read tail.length (tail ++ escape cs) = c :: cs
      rw [replaceReferences_skip, ih]
      rfl
    · have hamp : ¬(c == '&') = true := by
        rw [beq_iff_eq]
        rintro rfl
        exact hplain (by decide)
      rw [heq, List.cons_append, List.nil_append, replaceReferences, if_neg hamp, ih]

/-! ### The two rules -/

section Names

variable {name : List Char} {c : Char}

theorem numbered?_eq_none (halnum : name.all Char.isAlphanum = true) (rest : List Char) :
    numbered? (name ++ ';' :: rest) = none := by
  cases name with
  | nil => rfl
  | cons d name =>
    rw [List.cons_append]
    unfold numbered?
    split
    · rename_i heq
      obtain ⟨rfl, -⟩ := List.cons.inj heq
      exact absurd (List.all_eq_true.mp halnum '#' List.mem_cons_self) (by decide)
    · rfl

/-- A semicolon ends a name. -/
theorem named?_terminated (hname : namedChars? name = some [c]) (rest : List Char) :
    named? name (';' :: rest) = some ([c], name.length + 1) := by
  simp only [named?, semicolonLength, if_true, hname]

theorem attributeReference?_name (halnum : name.all Char.isAlphanum = true)
    (hname : namedChars? name = some [c]) (rest : List Char) :
    attributeReference? (name ++ ';' :: rest) = some ([c], name.length + 1) := by
  have hrun : (name ++ ';' :: rest).takeWhile Char.isAlphanum = name :=
    takeWhile_append_stop (List.all_eq_true.mp halnum) (by decide) rest
  unfold attributeReference?
  simp only [numbered?_eq_none halnum, hrun, List.drop_left, named?_terminated hname]
  exact if_pos (Nat.lt_succ_self _)

theorem textReference?_name (halnum : name.all Char.isAlphanum = true)
    (hends : name.all (!endsName ·) = true) (hlength : name.length ≤ maxNameLength)
    (hname : namedChars? name = some [c]) (rest : List Char) :
    textReference? (name ++ ';' :: rest) = some ([c], name.length + 1) := by
  have hrun : (name ++ ';' :: rest).takeWhile (!endsName ·) = name :=
    takeWhile_append_stop (List.all_eq_true.mp hends) (by decide) rest
  unfold textReference?
  simp only [numbered?_eq_none halnum, hrun, List.take_of_length_le hlength, List.drop_left,
    named?_terminated hname]

end Names

theorem namedChars?_of_mem_names : ∀ e ∈ names, namedChars? e.2 = some [e.1] := by decide +kernel

theorem isAlphanum_of_mem_names : ∀ e ∈ names, e.2.all Char.isAlphanum = true := by decide

theorem reads_attributeReference? : ReadsEscapes attributeReference? := by
  intro e he rest
  rcases List.mem_append.mp he with he | he
  · obtain ⟨⟨c, name⟩, hname, rfl⟩ := List.mem_map.mp he
    show attributeReference? ((name ++ [';']) ++ rest) = some ([c], (name ++ [';']).length)
    rw [List.append_assoc, List.length_append]
    exact attributeReference?_name (isAlphanum_of_mem_names _ hname)
      (namedChars?_of_mem_names _ hname) rest
  · obtain rfl := List.mem_singleton.mp he
    rfl

theorem reads_textReference? : ReadsEscapes textReference? := by
  intro e he rest
  rcases List.mem_append.mp he with he | he
  · obtain ⟨⟨c, name⟩, hname, rfl⟩ := List.mem_map.mp he
    have hends : ∀ e ∈ names, e.2.all (!endsName ·) = true := by decide
    have hlength : ∀ e ∈ names, e.2.length ≤ maxNameLength := by decide
    show textReference? ((name ++ [';']) ++ rest) = some ([c], (name ++ [';']).length)
    rw [List.append_assoc, List.length_append]
    exact textReference?_name (isAlphanum_of_mem_names _ hname) (hends _ hname)
      (hlength _ hname) (namedChars?_of_mem_names _ hname) rest
  · obtain rfl := List.mem_singleton.mp he
    rfl

/-- **An escaped value of an attribute reads back.** -/
theorem decodeAttribute_escape (cs : List Char) : decodeAttribute (escape cs) = cs :=
  reads_attributeReference?.replaceReferences_escape cs

/-- **Escaped text reads back.** -/
theorem unescape_escape (cs : List Char) : unescape (escape cs) = cs :=
  reads_textReference?.replaceReferences_escape cs

end ContentPack.Markup
