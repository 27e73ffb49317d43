import ContentPack.Table
import ContentPack.Proofs.Lists

/-!
# Tables with distinct keys

A table that was made by putting entries has distinct keys (`Table.nodup_keys_ofEntries`), namely
the keys of the entries in the order of their first occurrences (`Table.keys_ofEntries`). In such
a table the look-up and the membership of entries say the same (`Table.get?_eq_some_iff`).
-/

namespace ContentPack

namespace Table

variable {κ ν : Type}

@[simp] theorem keys_nil : keys ([] : Table κ ν) = [] := rfl

@[simp] theorem keys_cons (key : κ) (value : ν) (rest : Table κ ν) :
    keys ((key, value) :: rest) = key :: keys rest := rfl

variable [DecidableEq κ]

theorem keys_put (key : κ) (value : ν) (table : Table κ ν) :
    (table.put key value).keys =
      if key ∈ table.keys then table.keys else table.keys ++ [key] := by
  induction table with
  | nil => simp [put]
  | cons entry rest ih =>
    obtain ⟨k, v⟩ := entry
    by_cases hk : k = key
    · subst hk
      rw [put, if_pos rfl, keys_cons, keys_cons, if_pos List.mem_cons_self]
    · have hmem : key ∈ k :: keys rest ↔ key ∈ keys rest := by
        rw [List.mem_cons]
        exact or_iff_right fun h => hk h.symm
      rw [put, if_neg hk, keys_cons, keys_cons, ih]
      by_cases hkey : key ∈ keys rest
      · rw [if_pos hkey, if_pos (hmem.mpr hkey)]
      · rw [if_neg hkey, if_neg (mt hmem.mp hkey), List.cons_append]

theorem mem_of_mem_put {table : Table κ ν} {key : κ} {value : ν} {entry : κ × ν}
    (h : entry ∈ table.put key value) : entry = (key, value) ∨ entry ∈ table := by
  induction table with
  | nil => exact Or.inl (List.mem_singleton.mp h)
  | cons first rest ih =>
    obtain ⟨k, v⟩ := first
    unfold put at h
    split at h
    · rename_i hk
      rcases List.mem_cons.mp h with rfl | hmem
      · exact Or.inl (by rw [hk])
      · exact Or.inr (List.mem_cons_of_mem _ hmem)
    · rcases List.mem_cons.mp h with rfl | hmem
      · exact Or.inr List.mem_cons_self
      · rcases ih hmem with heq | hmem
        · exact Or.inl heq
        · exact Or.inr (List.mem_cons_of_mem _ hmem)

theorem put_put (key : κ) (value value' : ν) (table : Table κ ν) :
    (table.put key value).put key value' = table.put key value' := by
  induction table with
  | nil => simp [put]
  | cons entry rest ih =>
    obtain ⟨k, v⟩ := entry
    by_cases hk : k = key
    · simp [put, hk]
    · simp [put, hk, ih]

/-- Putting what is there changes nothing. -/
theorem put_of_get? {table : Table κ ν} {key : κ} {value : ν} (h : table.get? key = some value) :
    table.put key value = table := by
  induction table with
  | nil => cases h
  | cons entry rest ih =>
    obtain ⟨k, v⟩ := entry
    unfold get? at h
    by_cases hk : k = key
    · rw [if_pos hk] at h
      rw [put, if_pos hk, Option.some.inj h]
    · rw [if_neg hk] at h
      rw [put, if_neg hk, ih h]

theorem nodup_keys_put {table : Table κ ν} (h : table.keys.Nodup) (key : κ) (value : ν) :
    (table.put key value).keys.Nodup := by
  rw [keys_put]
  split
  · exact h
  · rename_i hkey
    exact List.nodup_append.mpr ⟨h, List.nodup_singleton key, by
      intro a ha b hb
      obtain rfl := List.mem_singleton.mp hb
      exact fun heq => hkey (heq ▸ ha)⟩

theorem mem_of_get? {table : Table κ ν} {key : κ} {value : ν} (h : table.get? key = some value) :
    (key, value) ∈ table := by
  induction table with
  | nil => cases h
  | cons entry rest ih =>
    obtain ⟨k, v⟩ := entry
    unfold get? at h
    split at h
    · rename_i hkey
      obtain rfl := Option.some.inj h
      exact hkey ▸ List.mem_cons_self
    · exact List.mem_cons_of_mem _ (ih h)

/-- In a table with distinct keys the look-up finds every entry. -/
theorem get?_eq_some_iff {table : Table κ ν} (h : table.keys.Nodup) {key : κ} {value : ν} :
    table.get? key = some value ↔ (key, value) ∈ table := by
  induction table with
  | nil => simp
  | cons entry rest ih =>
    obtain ⟨k, v⟩ := entry
    obtain ⟨hk, hrest⟩ := List.nodup_cons.mp h
    unfold get?
    by_cases heq : k = key
    · subst heq
      rw [if_pos rfl, List.mem_cons]
      constructor
      · intro hv
        exact Or.inl (by rw [Option.some.inj hv])
      · rintro (hv | hmem)
        · rw [(Prod.mk.inj hv).2]
        · exact absurd (List.mem_map.mpr ⟨_, hmem, rfl⟩) hk
    · rw [if_neg heq, ih hrest, List.mem_cons]
      constructor
      · exact Or.inr
      · rintro (hv | hmem)
        · exact absurd (Prod.mk.inj hv).1.symm heq
        · exact hmem

/-! ### Tables of entries -/

theorem ofEntries_append (front : List (κ × ν)) (key : κ) (value : ν) :
    ofEntries (front ++ [(key, value)]) = (ofEntries front).put key value := by
  unfold ofEntries
  rw [List.foldl_append]
  rfl

theorem keys_ofEntries (entries : List (κ × ν)) :
    (ofEntries entries).keys = (entries.map (·.1)).eraseDups := by
  induction entries using List.reverseRecOn with
  | nil => rfl
  | append_singleton front entry ih =>
    obtain ⟨key, value⟩ := entry
    rw [ofEntries_append, keys_put, ih, List.map_append, List.eraseDups_append]
    by_cases hkey : key ∈ front.map (·.1)
    · have hmem : key ∈ (front.map (·.1)).eraseDups := List.mem_eraseDups.mpr hkey
      rw [if_pos hmem]
      simp only [List.map_cons, List.map_nil, List.removeAll, List.filter_cons, List.filter_nil,
        List.elem_eq_mem, hkey, decide_true, Bool.not_true, Bool.false_eq_true, if_false,
        List.eraseDups_nil, List.append_nil]
    · have hmem : key ∉ (front.map (·.1)).eraseDups := fun h => hkey (List.mem_eraseDups.mp h)
      rw [if_neg hmem]
      simp only [List.map_cons, List.map_nil, List.removeAll, List.filter_cons, List.filter_nil,
        List.elem_eq_mem, hkey, decide_false, Bool.not_false, if_true,
        eraseDups_of_nodup (List.nodup_singleton key)]

/-- A table has no other entries than those that were put. -/
theorem mem_of_mem_ofEntries {entries : List (κ × ν)} {entry : κ × ν}
    (h : entry ∈ ofEntries entries) : entry ∈ entries := by
  induction entries using List.reverseRecOn generalizing entry with
  | nil => cases h
  | append_singleton front last ih =>
    obtain ⟨key, value⟩ := last
    rw [ofEntries_append] at h
    rw [List.mem_append, List.mem_singleton]
    rcases mem_of_mem_put h with rfl | hmem
    · exact Or.inr rfl
    · exact Or.inl (ih hmem)

theorem nodup_keys_ofEntries (entries : List (κ × ν)) : (ofEntries entries).keys.Nodup := by
  rw [keys_ofEntries]
  exact nodup_eraseDups _

/-- A key that is not there is put at the end. -/
theorem put_of_notMem {table : Table κ ν} {key : κ} (h : key ∉ table.keys) (value : ν) :
    table.put key value = table ++ [(key, value)] := by
  induction table with
  | nil => rfl
  | cons entry rest ih =>
    obtain ⟨k, v⟩ := entry
    have hk : k ≠ key := fun heq => h (by simp [keys, heq])
    have hrest : key ∉ keys rest := fun hmem => h (List.mem_cons_of_mem _ hmem)
    rw [put, if_neg hk, ih hrest]
    rfl

/-- Entries with distinct keys are a table as they are. -/
theorem ofEntries_of_nodup {entries : List (κ × ν)} (h : (entries.map (·.1)).Nodup) :
    ofEntries entries = entries := by
  induction entries using List.reverseRecOn with
  | nil => rfl
  | append_singleton front entry ih =>
    obtain ⟨key, value⟩ := entry
    rw [List.map_append, List.nodup_append] at h
    obtain ⟨hfront, -, hne⟩ := h
    rw [ofEntries_append, ih hfront]
    exact put_of_notMem (fun hmem => hne key hmem key (by simp) rfl) value

/-- Values under distinct keys of their own. -/
theorem ofEntries_map_of_nodup {key : ν → κ} {values : List ν} (h : (values.map key).Nodup) :
    ofEntries (values.map fun value => (key value, value)) =
      values.map fun value => (key value, value) := by
  refine ofEntries_of_nodup ?_
  rw [List.map_map]
  exact h

/-- Values under distinct keys of a list. -/
theorem ofEntries_zip_of_nodup {keys : List κ} {values : List ν} (h : keys.Nodup)
    (hlength : keys.length = values.length) :
    ofEntries (keys.zip values) = keys.zip values := by
  refine ofEntries_of_nodup ?_
  have hkeys : (keys.zip values).map (·.1) = keys := List.map_fst_zip (Nat.le_of_eq hlength)
  rw [hkeys]
  exact h

end Table

end ContentPack
