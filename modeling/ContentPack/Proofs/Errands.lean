import ContentPack.Assembly
import ContentPack.Proofs.Lists
import ContentPack.Proofs.Table

/-!
# The errands for the parts of a pack

The parts of a pack are looked for in groups, and the structures of a group are distinct: pages and
stories (`nodup_pageErrands_storyErrands`), explorations (`nodup_explorationErrands`), and skills
(`SkillClosure.nodup_errands`). Only the errands for pages carry a declared subtopic.
-/

namespace ContentPack

namespace Assembler

theorem map_id_errands (group : Group) (ids : List (StructureId × Option Subtopic)) :
    (errands group ids).map (·.id) = ids.map (·.1) := by
  unfold errands
  apply List.ext_getElem
  · simp
  · intro i _ _
    simp

theorem exists_of_mem_errands {group : Group} {ids : List (StructureId × Option Subtopic)}
    {e : Errand} (he : e ∈ errands group ids) : (e.id, e.subtopic) ∈ ids := by
  unfold errands at he
  obtain ⟨i, hi, rfl⟩ := List.mem_mapIdx.mp he
  exact List.getElem_mem hi

/-- The errands for the pages of a topic. -/
def pageErrands (t : Topic) : List Errand :=
  errands .subtopic (t.subtopicTable.map fun entry => (.subtopic t.id entry.1, some entry.2))

/-- The errands for structures that are known by their names. -/
def namedErrands (group : Group) (id : String → StructureId) (names : List String) :
    List Errand :=
  errands group (names.map fun name => (id name, none))

@[simp]
theorem map_id_pageErrands (t : Topic) :
    (pageErrands t).map (·.id) = t.subtopicTable.keys.map (.subtopic t.id) := by
  unfold pageErrands Table.keys
  rw [map_id_errands, List.map_map, List.map_map]
  rfl

@[simp]
theorem map_id_namedErrands (group : Group) (id : String → StructureId) (names : List String) :
    (namedErrands group id names).map (·.id) = names.map id := by
  unfold namedErrands
  rw [map_id_errands, List.map_map]
  rfl

theorem exists_of_mem_pageErrands {t : Topic} {e : Errand} (he : e ∈ pageErrands t) :
    ∃ index declared, (index, declared) ∈ t.subtopicTable ∧ e.id = .subtopic t.id index ∧
      e.subtopic = some declared := by
  obtain ⟨⟨index, declared⟩, hmem, heq⟩ := List.mem_map.mp (exists_of_mem_errands he)
  obtain ⟨hid, hsubtopic⟩ := Prod.mk.inj heq
  exact ⟨index, declared, hmem, hid.symm, hsubtopic.symm⟩

theorem exists_of_mem_namedErrands {group : Group} {id : String → StructureId}
    {names : List String} {e : Errand} (he : e ∈ namedErrands group id names) :
    ∃ name ∈ names, e.id = id name ∧ e.subtopic = none := by
  obtain ⟨name, hmem, heq⟩ := List.mem_map.mp (exists_of_mem_errands he)
  obtain ⟨hid, hsubtopic⟩ := Prod.mk.inj heq
  exact ⟨name, hmem, hid.symm, hsubtopic.symm⟩

/-- The pages of a topic and its stories are different structures. -/
theorem nodup_pageIds_storyIds (t : Topic) :
    (t.subtopicTable.keys.map (.subtopic t.id) ++ t.storyIds.map .story :
      List StructureId).Nodup := by
  refine List.nodup_append.mpr ⟨?_, ?_, ?_⟩
  · exact (Table.nodup_keys_ofEntries _).map fun _ _ heq => (StructureId.subtopic.inj heq).2
  · exact (nodup_eraseDups _).map fun _ _ heq => StructureId.story.inj heq
  · intro id hid id' hid'
    obtain ⟨index, -, rfl⟩ := List.mem_map.mp hid
    obtain ⟨name, -, rfl⟩ := List.mem_map.mp hid'
    exact StructureId.noConfusion

theorem nodup_pageErrands_storyErrands (t : Topic) :
    ((pageErrands t ++ namedErrands .story .story t.storyIds).map (·.id)).Nodup := by
  rw [List.map_append, map_id_pageErrands, map_id_namedErrands]
  exact nodup_pageIds_storyIds t

theorem nodup_explorationErrands (stories : Fragment) :
    ((namedErrands .exploration .exploration (explorationIds stories)).map (·.id)).Nodup := by
  rw [map_id_namedErrands]
  exact (nodup_eraseDups _).map fun _ _ heq => StructureId.exploration.inj heq

end Assembler

namespace SkillClosure

theorem map_id_errands (ids : List String) :
    (errands ids).map (·.id) = ids.map StructureId.skill := by
  unfold errands
  apply List.ext_getElem
  · simp
  · intro i _ _
    simp

theorem exists_of_mem_errands {ids : List String} {e : Errand} (he : e ∈ errands ids) :
    ∃ name ∈ ids, e.id = .skill name ∧ e.subtopic = none := by
  unfold errands at he
  obtain ⟨i, hi, rfl⟩ := List.mem_mapIdx.mp he
  exact ⟨_, List.getElem_mem hi, rfl, rfl⟩

theorem nodup_errands {ids : List String} (h : ids.Nodup) : ((errands ids).map (·.id)).Nodup := by
  rw [map_id_errands]
  exact h.map fun _ _ heq => StructureId.skill.inj heq

theorem nodup_expand {ids : List String} {skills : List Loaded} : (expand ids skills).Nodup :=
  nodup_eraseDups _

end SkillClosure

end ContentPack
