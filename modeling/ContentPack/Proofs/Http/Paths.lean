import ContentPack.Http.Address
import Mathlib.Data.List.Basic

/-!
# Paths of addresses

What escapes and resolved segments do to a path. Two texts without percent signs have different
escapes (`escape_inj`). A path stays as it is exactly if it has no segments `.` and `..`
(`normalizePath_eq_self_iff`); of any other path something is left out.
-/

namespace ContentPack

/-! ### Pieces -/

namespace Text

theorem splitOn_eq (separator : Char) (cs : List Char) :
    splitOn separator cs = cs.splitOn separator := by
  induction cs with
  | nil => rfl
  | cons c cs ih =>
    rw [List.splitOn_cons_eq_if_modifyHead, splitOn, ih]
    by_cases h : c = separator
    · simp [h]
    · obtain ⟨piece, rest, hpieces⟩ := List.exists_cons_of_ne_nil (List.splitOn_ne_nil separator cs)
      simp [h, hpieces]

/-- No piece has a separator. -/
theorem notMem_of_mem_splitOn {separator : Char} {cs piece : List Char}
    (h : piece ∈ splitOn separator cs) : separator ∉ piece := by
  induction cs generalizing piece with
  | nil =>
    obtain rfl := List.mem_singleton.mp h
    exact List.not_mem_nil
  | cons c cs ih =>
    rw [splitOn_eq] at ih
    obtain ⟨first, rest, hpieces⟩ := List.exists_cons_of_ne_nil (List.splitOn_ne_nil separator cs)
    rw [hpieces] at ih
    simp only [splitOn, splitOn_eq, hpieces] at h
    split at h
    · rcases List.mem_cons.mp h with rfl | h
      · exact List.not_mem_nil
      · exact ih h
    · next hc =>
      rcases List.mem_cons.mp h with rfl | h
      · exact List.not_mem_cons_of_ne_of_not_mem (Ne.symm hc) (ih List.mem_cons_self)
      · exact ih (List.mem_cons_of_mem _ h)

theorem cut_cons_of_ne {mark c : Char} (h : c ≠ mark) (cs : List Char) :
    cut mark (c :: cs) = (c :: (cut mark cs).1, (cut mark cs).2) := by
  simp [cut, h]

/-- A text is not cut before its first mark. -/
theorem cut_append {mark : Char} {before : List Char} (h : mark ∉ before) (cs : List Char) :
    cut mark (before ++ cs) = (before ++ (cut mark cs).1, (cut mark cs).2) := by
  induction before with
  | nil => rfl
  | cons c before ih =>
    simp only [List.mem_cons, not_or] at h
    rw [List.cons_append, cut_cons_of_ne (Ne.symm h.1), ih h.2]
    rfl

theorem cut_of_notMem {mark : Char} {cs : List Char} (h : mark ∉ cs) :
    cut mark cs = (cs, none) := by
  have hcut := cut_append h []
  rwa [List.append_nil, show cut mark [] = ([], none) from rfl, List.append_nil] at hcut

theorem cut_append_cons {mark : Char} {before : List Char} (h : mark ∉ before)
    (after : List Char) : cut mark (before ++ mark :: after) = (before, some after) := by
  rw [cut_append h]
  simp [cut]

/-- A text is what stands before a mark, and the rest from there. -/
theorem exists_eq_cut (mark : Char) (cs : List Char) :
    ∃ rest, cs = (cut mark cs).1 ++ rest ∧ mark ∉ (cut mark cs).1 ∧ (mark ∉ cs → rest = []) := by
  by_cases h : mark ∈ cs
  · obtain ⟨before, after, rfl, hbefore⟩ := List.eq_append_cons_of_mem h
    rw [cut_append_cons hbefore]
    exact ⟨mark :: after, rfl, hbefore, absurd h⟩
  · rw [cut_of_notMem h]
    exact ⟨[], (List.append_nil cs).symm, h, fun _ => rfl⟩

end Text

namespace Http

/-! ### Escapes -/

theorem escape_cons (stands : Char → Bool) (c : Char) (cs : List Char) :
    escape stands (c :: cs) =
      (if stands c then [c] else (String.utf8EncodeChar c).flatMap escapeByte) ++
        escape stands cs :=
  rfl

@[simp]
theorem escape_append (stands : Char → Bool) (cs ds : List Char) :
    escape stands (cs ++ ds) = escape stands cs ++ escape stands ds :=
  List.flatMap_append

theorem escape_eq_self {stands : Char → Bool} {cs : List Char} (h : ∀ c ∈ cs, stands c) :
    escape stands cs = cs := by
  induction cs with
  | nil => rfl
  | cons c cs ih =>
    rw [escape_cons, if_pos (h c List.mem_cons_self),
      ih fun d hd => h d (List.mem_cons_of_mem c hd)]
    rfl

/-- An escaped text holds characters that stand for themselves, and escapes. -/
theorem mem_escape {stands : Char → Bool} {c : Char} {cs : List Char} (h : c ∈ escape stands cs) :
    c ∈ cs ∧ stands c ∨ ∃ b, c ∈ escapeByte b := by
  obtain ⟨d, hd, hc⟩ := List.mem_flatMap.mp h
  split at hc
  · next hstands =>
    obtain rfl := List.mem_singleton.mp hc
    exact Or.inl ⟨hd, hstands⟩
  · obtain ⟨b, -, hb⟩ := List.mem_flatMap.mp hc
    exact Or.inr ⟨b, hb⟩

theorem hexDigit_of_lt : ∀ {n : Nat}, n < 16 → isPathChar (hexDigit n) ∧ hexDigit n ≠ '/' := by
  decide

theorem hexDigit_inj {m n : Nat} (hm : m < 16) (hn : n < 16) (h : hexDigit m = hexDigit n) :
    m = n := by
  have hinj : ∀ m < 16, ∀ n < 16, hexDigit m = hexDigit n → m = n := by decide
  exact hinj m hm n hn h

/-- Escapes can stand in a path, and they separate nothing. -/
theorem of_mem_escapeByte {b : UInt8} {c : Char} (h : c ∈ escapeByte b) :
    isPathChar c ∧ c ≠ '/' := by
  have hb := b.toNat_lt
  simp only [escapeByte, List.mem_cons, List.not_mem_nil, or_false] at h
  obtain rfl | rfl | rfl := h
  · decide
  · exact hexDigit_of_lt (by omega)
  · exact hexDigit_of_lt (by omega)

theorem escapeByte_injective : Function.Injective escapeByte := by
  intro b b' h
  simp only [escapeByte, List.cons.injEq, and_true, true_and] at h
  have hb := b.toNat_lt
  have hb' := b'.toNat_lt
  have hhigh := hexDigit_inj (by omega) (by omega) h.1
  have hlow := hexDigit_inj (by omega) (by omega) h.2
  exact UInt8.toNat_inj.mp (by omega)

/-- An escaped path can stand in a path. -/
theorem isPathChar_of_mem_escape {c : Char} {cs : List Char} (h : c ∈ escape isPathChar cs) :
    isPathChar c := by
  rcases mem_escape h with ⟨-, hstands⟩ | ⟨b, hb⟩
  · exact hstands
  · exact (of_mem_escapeByte hb).1

theorem slash_notMem_escape {cs : List Char} (h : '/' ∉ cs) : '/' ∉ escape isPathChar cs := by
  intro hslash
  rcases mem_escape hslash with ⟨hmem, -⟩ | ⟨b, hb⟩
  · exact h hmem
  · exact (of_mem_escapeByte hb).2 rfl

/-- An escape starts with a percent sign. -/
theorem exists_escapes (c : Char) : ∃ rest,
    (String.utf8EncodeChar c).flatMap escapeByte = '%' :: rest := by
  obtain ⟨b, bs, hbytes⟩ := List.exists_cons_of_ne_nil (@String.utf8EncodeChar_ne_nil c)
  rw [hbytes]
  exact ⟨_, rfl⟩

/-- Where no percent sign came in, nothing was escaped. -/
theorem escape_eq_self_of_notMem {stands : Char → Bool} {cs : List Char}
    (h : '%' ∉ escape stands cs) : escape stands cs = cs := by
  refine escape_eq_self fun c hc => ?_
  by_contra hstands
  obtain ⟨rest, hrest⟩ := exists_escapes c
  exact h (List.mem_flatMap.mpr ⟨c, hc, by simp [hstands, hrest]⟩)

/-- Bytes can be read off their escapes, as far as both of two texts have them. -/
theorem comparable_of_escapes {bs bs' : List UInt8} {cs cs' : List Char}
    (h : bs.flatMap escapeByte ++ cs = bs'.flatMap escapeByte ++ cs') :
    ∃ more more', bs ++ more = bs' ++ more' := by
  induction bs generalizing bs' with
  | nil => exact ⟨bs', [], by simp⟩
  | cons b bs ih =>
    cases bs' with
    | nil => exact ⟨[], b :: bs, by simp⟩
    | cons b' bs' =>
      simp only [List.flatMap_cons, List.append_assoc] at h
      obtain ⟨hb, hrest⟩ := List.append_inj h rfl
      obtain rfl := escapeByte_injective hb
      obtain ⟨more, more', hmore⟩ := ih hrest
      exact ⟨more, more', congrArg (b :: ·) hmore⟩

/-- A character can be read off the start of its bytes. -/
theorem char_eq_of_utf8 {c c' : Char} {more more' : List UInt8}
    (h : String.utf8EncodeChar c ++ more = String.utf8EncodeChar c' ++ more') : c = c' := by
  have hbytes := congrArg List.toByteArray h
  simp only [List.toByteArray_append] at hbytes
  have hdecode := @ByteArray.utf8DecodeChar?_utf8EncodeChar_append more.toByteArray c
  rw [hbytes, ByteArray.utf8DecodeChar?_utf8EncodeChar_append] at hdecode
  exact (Option.some.inj hdecode).symm

theorem escape_cons_ne_nil (stands : Char → Bool) (c : Char) (cs : List Char) :
    escape stands (c :: cs) ≠ [] := by
  obtain ⟨rest, hrest⟩ := exists_escapes c
  rw [escape_cons, hrest]
  split <;> nofun

/-- **Different texts have different escapes** if a percent sign is in none of them. -/
theorem escape_inj {stands : Char → Bool} {cs cs' : List Char} (hcs : '%' ∉ cs) (hcs' : '%' ∉ cs')
    (h : escape stands cs = escape stands cs') : cs = cs' := by
  induction cs generalizing cs' with
  | nil =>
    cases cs' with
    | nil => rfl
    | cons c' cs' => exact absurd h.symm (escape_cons_ne_nil stands c' cs')
  | cons c cs ih =>
    cases cs' with
    | nil => exact absurd h (escape_cons_ne_nil stands c cs)
    | cons c' cs' =>
      simp only [List.mem_cons, not_or] at hcs hcs'
      obtain ⟨rest, hrest⟩ := exists_escapes c
      obtain ⟨rest', hrest'⟩ := exists_escapes c'
      rw [escape_cons, escape_cons] at h
      by_cases hc : stands c <;> by_cases hc' : stands c'
      · rw [if_pos hc, if_pos hc'] at h
        obtain ⟨hhead, htail⟩ := List.cons.inj h
        rw [hhead, ih hcs.2 hcs'.2 htail]
      · -- an escape starts with a percent sign, and a character that stands for itself is none
        rw [if_pos hc, if_neg hc', hrest'] at h
        exact absurd (List.cons.inj h).1.symm hcs.1
      · rw [if_neg hc, if_pos hc', hrest] at h
        exact absurd (List.cons.inj h).1 hcs'.1
      · rw [if_neg hc, if_neg hc'] at h
        obtain ⟨more, more', hmore⟩ := comparable_of_escapes h
        obtain rfl := char_eq_of_utf8 hmore
        rw [ih hcs.2 hcs'.2 (List.append_cancel_left h)]

/-! ### Segments -/

theorem escape_intercalate (segments : List (List Char)) :
    escape isPathChar (['/'].intercalate segments) =
      ['/'].intercalate (segments.map (escape isPathChar)) := by
  induction segments with
  | nil => rfl
  | cons segment segments ih =>
    cases segments with
    | nil => simp
    | cons next segments =>
      rw [List.intercalate_cons_cons, escape_append, escape_append, ih]
      simp only [List.map_cons, List.intercalate_cons_cons]
      rfl

/-- The segments of an escaped path are those of the path, escaped. -/
theorem splitOn_escape (path : List Char) :
    Text.splitOn '/' (escape isPathChar path) =
      (Text.splitOn '/' path).map (escape isPathChar) := by
  have hslash : ∀ segment ∈ (Text.splitOn '/' path).map (escape isPathChar), '/' ∉ segment := by
    intro segment hsegment
    obtain ⟨plain, hplain, rfl⟩ := List.mem_map.mp hsegment
    exact slash_notMem_escape (Text.notMem_of_mem_splitOn hplain)
  have hne : (Text.splitOn '/' path).map (escape isPathChar) ≠ [] := by
    simp [Text.splitOn_eq]
  calc Text.splitOn '/' (escape isPathChar path)
      = Text.splitOn '/' (escape isPathChar (['/'].intercalate (Text.splitOn '/' path))) := by
        rw [Text.splitOn_eq '/' path, List.intercalate_splitOn]
    _ = (Text.splitOn '/' path).map (escape isPathChar) := by
        rw [escape_intercalate, Text.splitOn_eq, List.splitOn_intercalate '/' hslash hne]

/-- Paths without segments `.` and `..`. -/
def HasNoDots (path : List Char) : Prop :=
  ∀ segment ∈ Text.splitOn '/' path, segment ≠ ['.'] ∧ segment ≠ ['.', '.']
  deriving Decidable

theorem hasNoDots_append_cons {path path' : List Char} :
    HasNoDots (path ++ '/' :: path') ↔ HasNoDots path ∧ HasNoDots path' := by
  simp only [HasNoDots, Text.splitOn_eq, List.splitOn_append_cons_self, List.forall_mem_append]

theorem hasNoDots_escape {path : List Char} :
    HasNoDots (escape isPathChar path) ↔ HasNoDots path := by
  have hdots : ∀ {segment dots : List Char}, '%' ∉ dots → dots.all isPathChar →
      (escape isPathChar segment = dots ↔ segment = dots) := by
    intro segment dots hpercent hstands
    constructor
    · rintro rfl
      exact (escape_eq_self_of_notMem hpercent).symm
    · rintro rfl
      exact escape_eq_self (List.all_eq_true.mp hstands)
  simp only [HasNoDots, splitOn_escape, List.forall_mem_map]
  refine forall₂_congr fun segment _ =>
    and_congr (not_congr (hdots ?_ ?_)) (not_congr (hdots ?_ ?_))
  all_goals decide

/-! ### Resolved segments -/

theorem resolveSegment_sublist (before : List (List Char)) (segment : List Char) :
    (resolveSegment before segment).Sublist (segment :: before) := by
  unfold resolveSegment
  split
  · exact List.sublist_cons_self _ _
  · split
    · split
      · exact List.sublist_cons_self _ _
      · exact (List.drop_sublist _ _).trans (List.sublist_cons_self _ _)
    · exact List.Sublist.refl _

theorem foldl_resolveSegment_sublist (segments before : List (List Char)) :
    (segments.foldl resolveSegment before).Sublist (segments.reverse ++ before) := by
  induction segments generalizing before with
  | nil => exact List.Sublist.refl _
  | cons segment segments ih =>
    refine (ih _).trans ?_
    rw [List.reverse_cons, List.append_assoc]
    exact (resolveSegment_sublist before segment).append_left _

theorem intercalate_sublist {segments segments' : List (List Char)}
    (h : segments.Sublist segments') :
    (['/'].intercalate segments).Sublist (['/'].intercalate segments') := by
  induction h with
  | slnil => exact List.Sublist.refl _
  | @cons segments segments' segment h ih =>
    cases segments' with
    | nil =>
      obtain rfl := List.sublist_nil.mp h
      exact List.nil_sublist _
    | cons next rest =>
      rw [List.intercalate_cons_cons]
      exact ih.trans (List.sublist_append_right _ _)
  | @cons_cons segments segments' segment h ih =>
    cases segments with
    | nil =>
      cases segments' with
      | nil => exact List.Sublist.refl _
      | cons next rest =>
        rw [List.intercalate_cons_cons, List.intercalate_singleton, List.append_assoc]
        exact List.sublist_append_left _ _
    | cons first segments =>
      cases segments' with
      | nil => cases h
      | cons next rest =>
        rw [List.intercalate_cons_cons, List.intercalate_cons_cons]
        exact ih.append_left _

/-- Resolving leaves out a part of a path, and adds nothing. -/
theorem normalizePath_sublist (path : List Char) : (normalizePath path).Sublist path := by
  have hsegments := (foldl_resolveSegment_sublist (Text.splitOn '/' path) []).reverse
  rw [List.append_nil, List.reverse_reverse] at hsegments
  have h := intercalate_sublist hsegments
  rwa [Text.splitOn_eq, List.intercalate_splitOn, ← Text.splitOn_eq] at h

theorem foldl_resolveSegment_eq {segments : List (List Char)}
    (h : ∀ segment ∈ segments, segment ≠ ['.'] ∧ segment ≠ ['.', '.']) (before) :
    segments.foldl resolveSegment before = segments.reverse ++ before := by
  induction segments generalizing before with
  | nil => rfl
  | cons segment segments ih =>
    obtain ⟨hdot, hdots⟩ := h segment List.mem_cons_self
    rw [List.foldl_cons, ih fun s hs => h s (List.mem_cons_of_mem _ hs)]
    simp [resolveSegment, hdot, hdots]

theorem foldl_resolveSegment_noDots (segments : List (List Char)) (before : List (List Char))
    (h : ∀ segment ∈ before, segment ≠ ['.'] ∧ segment ≠ ['.', '.']) :
    ∀ segment ∈ segments.foldl resolveSegment before, segment ≠ ['.'] ∧ segment ≠ ['.', '.'] := by
  induction segments generalizing before with
  | nil => exact h
  | cons segment segments ih =>
    refine ih _ ?_
    unfold resolveSegment
    split
    · exact h
    · next hdot =>
      split
      · split
        · exact h
        · exact fun s hs => h s (List.mem_of_mem_drop hs)
      · next hdots => exact List.forall_mem_cons.mpr ⟨⟨hdot, hdots⟩, h⟩

/-- A resolved path has no segments to resolve. -/
theorem hasNoDots_normalizePath (path : List Char) : HasNoDots (normalizePath path) := by
  have hresolved := foldl_resolveSegment_noDots (Text.splitOn '/' path) [] nofun
  have hsegments := (foldl_resolveSegment_sublist (Text.splitOn '/' path) []).subset
  unfold HasNoDots normalizePath
  generalize (Text.splitOn '/' path).foldl resolveSegment [] = resolved at hresolved hsegments
  by_cases hempty : resolved = []
  · subst hempty
    decide
  · have hslash : ∀ segment ∈ resolved.reverse, '/' ∉ segment := by
      intro segment hsegment
      have hmem := hsegments (List.mem_reverse.mp hsegment)
      rw [List.append_nil, List.mem_reverse] at hmem
      exact Text.notMem_of_mem_splitOn hmem
    rw [Text.splitOn_eq, List.splitOn_intercalate '/' hslash (by simpa using hempty)]
    exact fun segment hsegment => hresolved segment (List.mem_reverse.mp hsegment)

/-- **A path stays as it is exactly if it has no segments to resolve.** -/
theorem normalizePath_eq_self_iff {path : List Char} :
    normalizePath path = path ↔ HasNoDots path := by
  constructor
  · intro h
    exact h ▸ hasNoDots_normalizePath path
  · intro h
    rw [normalizePath, foldl_resolveSegment_eq h, List.append_nil, List.reverse_reverse,
      Text.splitOn_eq, List.intercalate_splitOn]

end Http

end ContentPack
