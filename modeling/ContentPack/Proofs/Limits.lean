import ContentPack.Compatibility.SchemaLimits
import ContentPack.Proofs.Interleaving
import ContentPack.Proofs.Search.Path

/-!
# Wider limits on schema versions

A structure is accepted if its schema is within the limit for its kind and if it is suitable for
reasons that the limits have nothing to do with: its language, or the subtopic that is declared for
a page (`SchemaLimits.check_eq_compatible_iff`). So an application that understands newer schemas
accepts at least as much (`SchemaLimits.AtMost.accepts`), and a search in the same store finds a
version at least as new (`SchemaLimits.resolve_wider`).

The two searches take different steps, so they are compared by what they find
(`Resolver.exists_found`): wherever one checker accepts all that another one does, nothing that the
narrower one finds lies above what the other finds (`Facts.Found.exists_newer`).
-/

namespace ContentPack

/-! ### What the limits are about -/

theorem Verdict.ofReasons_eq_compatible_iff {reasons : List Rejection} :
    Verdict.ofReasons reasons = .compatible ↔ reasons = [] := by
  cases reasons <;> simp [ofReasons]

/-- The version of the schema of a structure. -/
def Loaded.schemaVersion : Loaded → Int
  | topic t => t.schemaVersion
  | page p => p.schemaVersion
  | story s => s.schemaVersion
  | exploration e => e.exploration.schemaVersion
  | skill s => s.schemaVersion

/-- **The structure is suitable**, whatever its schema is: it is written in a language that is
supported, or it is the page of the subtopic that was declared. Of skills nothing is asked. -/
def Loaded.IsSuitable (declared : Option Subtopic) : Loaded → Prop
  | topic t => Language.ofCode t.languageCode ≠ .unspecified
  | page p => declared.map (·.id) = some p.subtopicIndex
  | story s => Language.ofCode s.languageCode ≠ .unspecified
  | exploration e => Language.ofCode e.exploration.languageCode ≠ .unspecified
  | skill _ => True

namespace SchemaLimits

/-- The limit for structures of a kind. -/
def limit (limits : SchemaLimits) : Kind → Int
  | .topic => limits.topic
  | .subtopic => limits.page
  | .story => limits.story
  | .exploration => limits.exploration
  | .skill => limits.skill

section Reasons

variable {kind : Kind} {id : String} {version : Version}

theorem schemaReasons_eq_nil_iff {schema limit : Int} :
    schemaReasons kind id version schema limit = [] ↔ schema ≤ limit := by
  unfold schemaReasons
  split <;> simp [*]

/-- Nothing is wrong with the schema, and nothing else is. -/
theorem ofReasons_schema_iff {schema limit : Int} {others : List Rejection} :
    Verdict.ofReasons (schemaReasons kind id version schema limit ++ others) = .compatible ↔
      schema ≤ limit ∧ others = [] := by
  rw [Verdict.ofReasons_eq_compatible_iff, List.append_eq_nil_iff, schemaReasons_eq_nil_iff]

theorem languageReasons_eq_nil_iff {code : String} :
    languageReasons kind id version code = [] ↔ Language.ofCode code ≠ .unspecified := by
  unfold languageReasons
  split <;> simp [*]

theorem declarationReasons_eq_nil_iff {page : SubtopicPage} {declared : Option Subtopic} :
    declarationReasons page id declared = [] ↔ declared.map (·.id) = some page.subtopicIndex := by
  cases declared with
  | none => simp [declarationReasons]
  | some subtopic =>
    simp only [declarationReasons, Option.map_some, Option.some.injEq]
    split <;> simp [*]

end Reasons

/-- **What is accepted**: a schema within the limit for the kind, and what is suitable. -/
theorem check_eq_compatible_iff {limits : SchemaLimits} {declared : Option Subtopic} {l : Loaded} :
    limits.checker.check declared l = .compatible ↔
      l.schemaVersion ≤ limits.limit l.id.kind ∧ l.IsSuitable declared := by
  cases l with
  | topic t =>
    show Verdict.ofReasons (_ ++ _) = _ ↔ _
    rw [ofReasons_schema_iff, languageReasons_eq_nil_iff]
    rfl
  | page p =>
    show Verdict.ofReasons (_ ++ _) = _ ↔ _
    rw [ofReasons_schema_iff, declarationReasons_eq_nil_iff]
    rfl
  | story s =>
    show Verdict.ofReasons (_ ++ _) = _ ↔ _
    rw [ofReasons_schema_iff, languageReasons_eq_nil_iff]
    rfl
  | exploration e =>
    show Verdict.ofReasons (_ ++ _) = _ ↔ _
    rw [ofReasons_schema_iff, languageReasons_eq_nil_iff]
    rfl
  | skill s =>
    show Verdict.ofReasons _ = _ ↔ _
    rw [Verdict.ofReasons_eq_compatible_iff, schemaReasons_eq_nil_iff]
    exact (and_iff_left trivial).symm

/-! ### Two limits -/

/-- **No limit is greater than the other one** for the same kind. -/
structure AtMost (limits wider : SchemaLimits) : Prop where
  topic : limits.topic ≤ wider.topic
  page : limits.page ≤ wider.page
  story : limits.story ≤ wider.story
  exploration : limits.exploration ≤ wider.exploration
  skill : limits.skill ≤ wider.skill

theorem AtMost.limit_le {limits wider : SchemaLimits} (h : limits.AtMost wider) (kind : Kind) :
    limits.limit kind ≤ wider.limit kind := by
  cases kind with
  | topic => exact h.topic
  | subtopic => exact h.page
  | story => exact h.story
  | exploration => exact h.exploration
  | skill => exact h.skill

/-- **Wider limits accept at least as much.** -/
theorem AtMost.accepts {limits wider : SchemaLimits} (h : limits.AtMost wider)
    {declared : Option Subtopic} {l : Loaded}
    (hl : limits.checker.check declared l = .compatible) :
    wider.checker.check declared l = .compatible := by
  obtain ⟨hschema, hsuitable⟩ := check_eq_compatible_iff.mp hl
  exact check_eq_compatible_iff.mpr ⟨Int.le_trans hschema (h.limit_le _), hsuitable⟩

end SchemaLimits

/-! ### Two searches -/

section Search

variable {store : Store} {id : StructureId} {declared : Option Subtopic} {checker wider : Checker}

/-- What a search for a structure finds in a store without a gap. -/
theorem Resolver.exists_found {σ : Type} {source : Source σ} (hs : store.Faithful)
    (ha : source.Answers store) (hgap : ¬store.HasGap id) (checker : Checker) (window : Int)
    (declared : Option Subtopic) (remote : σ) :
    ∃ o, (ExceptT.run (({ source, judge := checker.judge, window } : Resolver Loaded σ).resolve id
        declared) { remote }).1 = .ok o ∧
      (Facts.ofJudge store (checker.judge declared)).Found id o := by
  obtain ⟨-, o, rest, -, hrun, h, -, hsound, hsettled⟩ := exists_path
    (F := .ofJudge store (checker.judge declared))
    (r := { source, judge := checker.judge, window }) hs ha checker.judge_ne_pending
    (fun _ => rfl) hgap { remote } (fun _ hh => by cases hh)
  exact ⟨o, congrArg Prod.fst hrun, hsettled.found hsound⟩

/-- A version that is accepted is of use. -/
theorem Checker.not_useless_of_stored {v : Version} {l : Loaded} (hl : store.stored? id v = some l)
    (haccepted : checker.check declared l = .compatible) :
    ¬(Facts.ofJudge store (checker.judge declared)).Useless id v := by
  intro huseless
  refine huseless l ?_
  rw [hl, Option.map_some, Checker.judge_eq_success_iff.mpr ⟨haccepted, rfl⟩]

/-- **Where more is accepted, nothing older is found.** -/
theorem Facts.Found.exists_newer (hs : store.Faithful)
    (haccepts : ∀ l, checker.check declared l = .compatible → wider.check declared l = .compatible)
    {l : Loaded} {o : Outcome Loaded}
    (hfound : (Facts.ofJudge store (checker.judge declared)).Found id (.success l))
    (hfound' : (Facts.ofJudge store (wider.judge declared)).Found id o) :
    ∃ l', o = .success l' ∧ l.version.number ≤ l'.version.number := by
  obtain ⟨_, v, hl, hverdict, -⟩ | ⟨_, hfailure, -⟩ := hfound
  · obtain rfl := Outcome.success.inj hl
    obtain ⟨stored, hstored, hjudge⟩ := Option.map_eq_some_iff.mp hverdict
    obtain ⟨haccepted, rfl⟩ := Checker.judge_eq_success_iff.mp hjudge
    -- what was found is of use for the wider checker, too
    have huseful := Checker.not_useless_of_stored hstored (haccepts _ haccepted)
    obtain ⟨l', v', rfl, hverdict', habove⟩ | ⟨_, -, hnone⟩ := hfound'
    · obtain ⟨stored', hstored', hjudge'⟩ := Option.map_eq_some_iff.mp hverdict'
      obtain ⟨-, rfl⟩ := Checker.judge_eq_success_iff.mp hjudge'
      refine ⟨stored', rfl, ?_⟩
      rw [hs.version_eq hstored, hs.version_eq hstored']
      by_contra hlt
      exact huseful (habove v (not_le.mp hlt))
    · exact absurd (hnone v) huseful
  · cases hfailure

end Search

/-- **Newer applications find nothing older.** If no limit is lowered, every version that was
accepted is accepted, and whenever a search for a structure of which a store holds all versions
finds one of them, a search with the wider limits finds one that is at least as new, whatever the
declared subtopic is and however many versions either search asks for together. -/
theorem SchemaLimits.resolve_wider {limits wider : SchemaLimits} (hwider : limits.AtMost wider) :
    (∀ declared l, limits.checker.check declared l = .compatible →
      wider.checker.check declared l = .compatible) ∧
    ∀ (documents : List Document) (translations : List Translation) (id : StructureId)
      (newest : Loaded), (Store.ofContents documents translations).HoldsUpTo id newest →
      ∀ {σ : Type} (source : Source σ), source.Answers (.ofContents documents translations) →
      ∀ (declared : Option Subtopic) (window window' : Int) (remote remote' : σ) (l : Loaded),
        let narrow : Resolver Loaded σ := { source, judge := limits.checker.judge, window }
        let wide : Resolver Loaded σ :=
          { source, judge := wider.checker.judge, window := window' }
        (ExceptT.run (narrow.resolve id declared) { remote }).1 = .ok (.success l) →
        ∃ l', (ExceptT.run (wide.resolve id declared) { remote := remote' }).1 =
          .ok (.success l') ∧ l.version.number ≤ l'.version.number := by
  refine ⟨fun declared l => hwider.accepts, ?_⟩
  intro documents translations id newest hholds σ source ha declared window window' remote remote'
    l narrow wide hrun
  have hs := Store.faithful_ofContents documents translations
  have hgap := hholds.not_hasGap
  obtain ⟨o, hnarrow, hfound⟩ :=
    Resolver.exists_found hs ha hgap limits.checker window declared remote
  obtain ⟨o', hwide, hfound'⟩ :=
    Resolver.exists_found hs ha hgap wider.checker window' declared remote'
  obtain rfl : o = .success l := Except.ok.inj (hnarrow.symm.trans hrun)
  obtain ⟨l', rfl, hle⟩ := hfound.exists_newer hs (fun _ => hwider.accepts) hfound'
  exact ⟨l', hwide, hle⟩

/-! ### Three schemas -/

namespace Upgrade

/-- A version of a story, with the version of its schema. -/
def edition (n : Nat) (schemaVersion : Int) : Document :=
  .story { id := "s", version := .after n, schemaVersion }

/-- Three versions of the story, each with a newer schema. -/
def documents : List Document := [edition 0 5, edition 1 6, edition 2 9]

/-- Limits that are the usual ones but for stories. -/
def limits : SchemaLimits := { story := 7 }

theorem holdsUpTo : (Store.ofContents documents []).HoldsUpTo (.story "s")
    (.story { id := "s", version := .after 2, schemaVersion := 9 }) :=
  .of_keys (Store.faithful_ofContents ..) (by decide +kernel) (by decide +kernel)

/-- **The wider limits find the second version**, where the usual ones find the first. -/
theorem finds_second_edition :
    SchemaLimits.AtMost {} limits ∧
    (Store.ofContents documents []).HoldsUpTo (.story "s")
      (.story { id := "s", version := .after 2, schemaVersion := 9 }) ∧
    (ExceptT.run ((Resolver.ofStore (.ofContents documents []) (SchemaLimits.checker {}) 2).resolve
      (.story "s")) { remote := [] }).1 =
        .ok (.success (.story { id := "s", version := .first, schemaVersion := 5 })) ∧
    ∃ l, (ExceptT.run ((Resolver.ofStore (.ofContents documents []) limits.checker 1).resolve
      (.story "s")) { remote := [] }).1 = .ok (.success l) ∧
      l = .story { id := "s", version := .after 1, schemaVersion := 6 } ∧
      Version.first.number ≤ l.version.number := by
  have hwider : SchemaLimits.AtMost {} limits :=
    ⟨by decide, by decide, by decide, by decide, by decide⟩
  have hfirst : (ExceptT.run ((Resolver.ofStore (.ofContents documents [])
      (SchemaLimits.checker {}) 2).resolve (.story "s")) { remote := [] }).1 =
        .ok (.success (.story { id := "s", version := .first, schemaVersion := 5 })) := by
    decide +kernel
  have hsecond : (ExceptT.run ((Resolver.ofStore (.ofContents documents [])
      limits.checker 1).resolve (.story "s")) { remote := [] }).1 =
        .ok (.success (.story { id := "s", version := .after 1, schemaVersion := 6 })) := by
    decide +kernel
  obtain ⟨l, hrun, hle⟩ := (SchemaLimits.resolve_wider hwider).2 documents [] (.story "s") _
    holdsUpTo _ (Store.source_answers _) none 2 1 [] [] _ hfirst
  have hl : l = .story { id := "s", version := .after 1, schemaVersion := 6 } :=
    Outcome.success.inj (Except.ok.inj (hrun.symm.trans hsecond))
  exact ⟨hwider, holdsUpTo, hfirst, l, hrun, hl, hle⟩

end Upgrade

end ContentPack
