import ContentPack.Proofs.Contents
import ContentPack.Proofs.Http.Attempts
import ContentPack.Proofs.Http.Paths
import Mathlib.Data.Set.Operations

/-!
# What the requests for structures ask a service for

The key of a structure becomes part of the text of an address as it is, and that text is read and
resolved like any other. So a request asks for its own target exactly if its key has no question
mark, no number sign and no segment `.` or `..` (`Client.target_eq_ownTarget_iff`), and different
structures are told apart exactly if the escapes of their keys are (`Connection.isFaithful_iff`).
Keys that are escaped before they come are not told apart from those that are not, and keys that
point elsewhere are followed (`Misled`).
-/

namespace ContentPack.Http

/-! ### Requests for structures -/

/-- The request for the newest version of a structure, or for some of its versions. -/
def lookup (id : StructureId) : Option (List Int) → Request
  | none => .latest id.locator
  | some versions => .versions id.locator versions

/-- What stands behind the key of a structure in the path of a request. -/
def lookupPath : Option (List Int) → String
  | none => ""
  | some _ => "/versions"

/-- A query behind a path, as it is asked for. -/
def queryText : Option (List Char) → List Char
  | none => []
  | some query => '?' :: query

/-- The query for versions, in the order in which they are asked for. -/
def versionsQuery (versions : List Int) : List Char :=
  ['&'].intercalate (versions.map fun v => ("v=" ++ toString v).toList)

/-- The collection of a structure, as it stands in a path. -/
def folderOf (id : StructureId) : List Char := (collection id.kind).toList ++ ['/']

/-- **The target of its own** that the request for a structure should have: below its collection,
its key, where characters that cannot stand in a path are escaped. -/
def ownTarget (base : Address) (id : StructureId) (versions? : Option (List Int)) : List Char :=
  base.target ++ folderOf id ++ escape isPathChar id.key.toList ++ (lookupPath versions?).toList ++
    queryText (versions?.map versionsQuery)

/-- Keys that are no more than a place below their collection. -/
structure IsPlain (key : List Char) : Prop where
  /-- No query starts in the key. -/
  query : '?' ∉ key
  /-- No fragment starts in the key. -/
  fragment : '#' ∉ key
  /-- The key leads nowhere else. -/
  dots : HasNoDots key

instance (key : List Char) : Decidable (IsPlain key) :=
  decidable_of_iff ('?' ∉ key ∧ '#' ∉ key ∧ HasNoDots key)
    ⟨fun ⟨hquery, hfragment, hdots⟩ => ⟨hquery, hfragment, hdots⟩,
      fun h => ⟨h.query, h.fragment, h.dots⟩⟩

theorem requestPath_lookup (id : StructureId) (versions? : Option (List Int)) :
    (requestPath (lookup id versions?)).toList =
      '/' :: (folderOf id ++ (id.key.toList ++ (lookupPath versions?).toList)) := by
  have hslash : "/".toList = ['/'] := rfl
  have hpath : requestPath (lookup id versions?) =
      structurePath id.locator ++ lookupPath versions? := by
    cases versions? with
    | none => exact String.append_empty.symm
    | some versions => rfl
  rw [hpath]
  simp only [structurePath, folderOf, StructureId.locator, String.toList_append, hslash,
    List.append_assoc, List.nil_append, List.cons_append]

/-! ### The parts of addresses -/

section Parts

variable {p : AddressParts} {a : Address}

/-- What an address has from its parts. -/
theorem of_address? (h : p.address? = some a) :
    a.scheme = p.scheme.map Char.toLower ∧ a.query = p.query.map (escape isQueryChar) ∧
      (p.scheme ≠ [] → a.path = escape isPathChar (normalizePath p.path)) ∧
      (p.scheme = [] → p.authority = [] → a.path = escape isPathChar p.path) := by
  obtain ⟨-, -, h⟩ := Option.bind_eq_some_iff.mp h
  obtain ⟨host, hhost, h⟩ := Option.bind_eq_some_iff.mp h
  obtain ⟨port, hport, h⟩ := Option.bind_eq_some_iff.mp h
  obtain ⟨-, -, h⟩ := Option.bind_eq_some_iff.mp h
  obtain rfl := Option.some.inj h
  refine ⟨rfl, rfl, fun hscheme => ?_, fun hscheme hauthority => ?_⟩
  · simp [hscheme]
  · obtain rfl : host = [] := by
      rw [hauthority] at hhost
      exact (Option.some.inj hhost).symm
    obtain rfl : port = none := by
      rw [hauthority] at hport
      exact (Option.some.inj hport).symm
    simp only [hscheme, hauthority]
    rfl

end Parts

/-- A path as it is asked for. -/
def pathText (path : List Char) : List Char := if path.isEmpty then ['/'] else path

theorem target_eq (a : Address) : a.target = pathText a.path ++ queryText a.query := by
  unfold Address.target
  cases a.query <;> rfl

/-- The path and the query of a text, before any fragment. -/
def shown (cs : List Char) : List Char × Option (List Char) := Text.cut '?' (Text.cut '#' cs).1

theorem shown_append {cs : List Char} (hfragment : '#' ∉ cs) (hquery : '?' ∉ cs)
    (ds : List Char) : shown (cs ++ ds) = (cs ++ (shown ds).1, (shown ds).2) := by
  rw [shown, Text.cut_append hfragment, Text.cut_append hquery]
  rfl

/-- The path is the start of the text. All of it is path exactly if neither a query nor a fragment
starts in it. -/
theorem exists_eq_shown (cs : List Char) :
    ∃ rest, cs = (shown cs).1 ++ rest ∧ (rest = [] ↔ '?' ∉ cs ∧ '#' ∉ cs) := by
  obtain ⟨rest, hrest, hfragment, hnone⟩ := Text.exists_eq_cut '#' cs
  obtain ⟨rest', hrest', hquery, hnone'⟩ := Text.exists_eq_cut '?' (Text.cut '#' cs).1
  have heq : cs = (shown cs).1 ++ (rest' ++ rest) := by
    rw [← List.append_assoc]
    exact hrest.trans (congrArg (· ++ rest) hrest')
  refine ⟨rest' ++ rest, heq, fun hempty => ?_, fun ⟨hq, hf⟩ => ?_⟩
  · obtain ⟨rfl, rfl⟩ := List.append_eq_nil_iff.mp hempty
    rw [List.append_nil] at hrest hrest'
    exact ⟨hrest ▸ hrest' ▸ hquery, hrest ▸ hfragment⟩
  · have hrest := hnone hf
    subst hrest
    rw [Text.cut_of_notMem hf] at hnone'
    rw [hnone' hq, List.append_nil]

theorem shown_of_notMem {cs : List Char} (hquery : '?' ∉ cs) (hfragment : '#' ∉ cs) :
    shown cs = (cs, none) := by
  rw [shown, Text.cut_of_notMem hfragment, Text.cut_of_notMem hquery]

/-- The address of a path that stands alone. -/
theorem of_parse?_path {c : Char} {cs : List Char} {a : Address} (hslash : c ≠ '/')
    (hfragment : c ≠ '#') (h : Address.parse? ('/' :: c :: cs) = some a) :
    a.scheme = [] ∧ a.path = '/' :: escape isPathChar (shown (c :: cs)).1 ∧
      a.query = (shown (c :: cs)).2.map (escape isQueryChar) := by
  unfold Address.parse? at h
  split at h
  · have hcut : Text.cut '#' ('/' :: c :: cs) =
        ('/' :: c :: (Text.cut '#' cs).1, (Text.cut '#' cs).2) := by
      rw [Text.cut_cons_of_ne (by decide), Text.cut_cons_of_ne hfragment]
    have hscheme : ∀ ds, AddressParts.splitScheme ('/' :: ds) = ([], '/' :: ds) := by
      intro ds
      rw [AddressParts.splitScheme, Text.cut_cons_of_ne (by decide)]
      cases (Text.cut ':' ds).2 <;> rfl
    have hauthority : ∀ ds,
        AddressParts.splitAuthority ('/' :: c :: ds) = ([], '/' :: c :: ds) := by
      intro ds
      unfold AddressParts.splitAuthority
      split
      · next heq => exact absurd (List.cons.inj (List.cons.inj heq).2).1 hslash
      · rfl
    have hparts : AddressParts.ofText ('/' :: c :: cs) =
        { path := '/' :: (shown (c :: cs)).1, query := (shown (c :: cs)).2
          fragment := (Text.cut '#' cs).2 } := by
      simp only [AddressParts.ofText, hcut, hscheme, hauthority, shown,
        Text.cut_cons_of_ne hfragment]
      rw [Text.cut_cons_of_ne (show '/' ≠ '?' by decide)]
    rw [hparts] at h
    obtain ⟨hscheme, hquery, -, hpath⟩ := of_address? h
    refine ⟨hscheme, ?_, hquery⟩
    rw [hpath rfl rfl]
    rfl
  · cases h

theorem cut_queryText {path : List Char} (h : '?' ∉ path) (query : Option (List Char)) :
    Text.cut '?' (path ++ queryText query) = (path, query) := by
  cases query with
  | none => rw [queryText, List.append_nil, Text.cut_of_notMem h]
  | some query => rw [queryText, Text.cut_append_cons h]

/-- What an address becomes with another target. -/
theorem of_withTarget? {a b : Address} {path : List Char} {query : Option (List Char)}
    (hscheme : a.scheme ≠ []) (hpath : '?' ∉ path)
    (h : a.withTarget? (path ++ queryText query) = some b) :
    b.path = escape isPathChar (normalizePath path) ∧ b.query = query.map (escape isQueryChar) := by
  unfold Address.withTarget? at h
  rw [cut_queryText hpath] at h
  obtain ⟨-, hquery, hresolved, -⟩ := of_address? h
  exact ⟨hresolved hscheme, hquery⟩

/-! ### Folders -/

/-- The address of a folder without a query, from which answers can be taken. -/
structure IsFolder (base : Address) : Prop where
  /-- It has a scheme. -/
  scheme : base.scheme ≠ []
  /-- Its target is a path that is resolved, with a slash at its end. -/
  target : ∃ folder, base.target = folder ++ ['/'] ∧ HasNoDots folder
  /-- The path is escaped. -/
  escaped : ∀ c ∈ base.target, isPathChar c

/-- An address with a scheme has an escaped and resolved path. -/
theorem of_address?_of_scheme {p : AddressParts} {a : Address} (h : p.address? = some a)
    (hscheme : a.scheme ≠ []) :
    HasNoDots (pathText a.path) ∧ ∀ c ∈ pathText a.path, isPathChar c := by
  obtain ⟨hlower, -, hpath, -⟩ := of_address? h
  have hne : p.scheme ≠ [] := by
    rintro hnil
    rw [hnil] at hlower
    exact hscheme hlower
  rw [hpath hne, pathText]
  split
  · exact ⟨by decide, List.all_eq_true.mp rfl⟩
  · exact ⟨hasNoDots_escape.mpr (hasNoDots_normalizePath _), fun _ => isPathChar_of_mem_escape⟩

theorem question_notMem {cs : List Char} (h : ∀ c ∈ cs, isPathChar c) : '?' ∉ cs :=
  fun hmem => absurd (h _ hmem) (by decide)

/-- An address that ends with a slash is a folder. -/
theorem isFolder_of_getLast? {a : Address} (hscheme : a.scheme ≠ []) (hquery : a.query = none)
    (hdots : HasNoDots (pathText a.path)) (hescaped : ∀ c ∈ pathText a.path, isPathChar c)
    (hlast : a.target.getLast? = some '/') : IsFolder a := by
  have htarget : a.target = pathText a.path := by
    rw [target_eq, hquery, queryText, List.append_nil]
  obtain ⟨folder, hfolder⟩ := List.getLast?_eq_some_iff.mp hlast
  rw [← htarget] at hdots hescaped
  rw [hfolder] at hdots
  exact ⟨hscheme, ⟨folder, hfolder, (hasNoDots_append_cons.mp hdots).1⟩, hescaped⟩

/-- So is an address that got a slash at its end, unless the slash belongs to its query. -/
theorem isFolder_of_withTarget? {a base : Address} (hscheme : a.scheme ≠ [])
    (hdots : HasNoDots (pathText a.path)) (hescaped : ∀ c ∈ pathText a.path, isPathChar c)
    (hbase : a.withTarget? (a.target ++ ['/']) = some base) (hscheme' : base.scheme ≠ [])
    (hquery : base.query = none) : IsFolder base := by
  rw [target_eq] at hbase
  cases hasked : a.query with
  | some query =>
    rw [hasked, queryText, List.append_assoc, List.cons_append] at hbase
    have hsome := (of_withTarget? hscheme (question_notMem hescaped)
      (show a.withTarget? (_ ++ queryText (some (query ++ ['/']))) = _ from hbase)).2
    rw [hquery] at hsome
    cases hsome
  | none =>
    rw [hasked, queryText, List.append_nil] at hbase
    have hslash : ∀ c ∈ pathText a.path ++ ['/'], isPathChar c :=
      List.forall_mem_append.mpr ⟨hescaped, List.all_eq_true.mp rfl⟩
    have hpath := (of_withTarget? hscheme (question_notMem hslash)
      (show a.withTarget? (_ ++ queryText none) = _ by rwa [queryText, List.append_nil])).1
    have hresolved : HasNoDots (pathText a.path ++ ['/']) :=
      hasNoDots_append_cons.mpr ⟨hdots, by decide⟩
    rw [normalizePath_eq_self_iff.mpr hresolved, escape_eq_self hslash] at hpath
    have htarget : base.target = pathText a.path ++ ['/'] := by
      rw [target_eq, hquery, queryText, List.append_nil, hpath, pathText]
      simp
    exact ⟨hscheme', ⟨_, htarget, hdots⟩, htarget ▸ hslash⟩

/-- The base of a client is a folder. -/
theorem isFolder_of_client? {τ : Type} {connection : Connection} {transport : Transport τ}
    {c : Client τ} (hc : connection.client? transport = some c) (hscheme : c.base.scheme ≠ [])
    (hquery : c.base.query = none) : IsFolder c.base := by
  simp only [Connection.client?, Option.bind_eq_bind, Option.bind_eq_some_iff,
    Option.pure_def] at hc
  obtain ⟨parsed, hparsed, base, hbase, hc⟩ := hc
  obtain rfl := Option.some.inj hc
  have hnamed : ∃ p : AddressParts, p.address? = some parsed := by
    unfold Address.parse? at hparsed
    split at hparsed
    · exact ⟨_, hparsed⟩
    · cases hparsed
  obtain ⟨p, hp⟩ := hnamed
  unfold Address.folder? at hbase
  split at hbase
  · next hlast =>
    obtain rfl := Option.some.inj hbase
    obtain ⟨hdots, hescaped⟩ := of_address?_of_scheme hp hscheme
    exact isFolder_of_getLast? hscheme hquery hdots hescaped hlast
  · have hscheme' : parsed.scheme ≠ [] := by
      intro hnil
      obtain ⟨hlower, -⟩ := of_address? hbase
      exact hscheme (hlower.trans (congrArg (List.map Char.toLower) hnil))
    obtain ⟨hdots, hescaped⟩ := of_address?_of_scheme hp hscheme'
    exact isFolder_of_withTarget? hscheme' hdots hescaped hbase hscheme hquery

/-! ### The targets of requests -/

theorem folderOf_facts (id : StructureId) :
    (∃ c cs, folderOf id = c :: cs ∧ c ≠ '/' ∧ c ≠ '#') ∧ '#' ∉ folderOf id ∧ '?' ∉ folderOf id ∧
      HasNoDots (collection id.kind).toList ∧ ∀ c ∈ folderOf id, isPathChar c := by
  unfold folderOf
  cases id.kind <;> exact ⟨⟨_, _, rfl, by decide, by decide⟩, by decide, by decide, by decide,
    List.all_eq_true.mp (by decide)⟩

variable {base address : Address} {id : StructureId} {versions? : Option (List Int)}

/-- What follows the collection in the path of a request. -/
def keyText (id : StructureId) (versions? : Option (List Int)) : List Char :=
  id.key.toList ++ (lookupPath versions?).toList

theorem eq_of_checkHost {b : Address}
    (h : (do b.checkHost; return b : Except AddressFault Address) = .ok address) : address = b := by
  cases hcheck : b.checkHost with
  | error fault =>
    rw [hcheck] at h
    cases h
  | ok _ =>
    rw [hcheck] at h
    exact (Except.ok.inj h).symm

/-- The address of a request is that of its path, except that versions replace the query. -/
theorem below?_of_requestAddress (h : requestAddress base (lookup id versions?) = .ok address) :
    ∃ b, base.below? ('/' :: (folderOf id ++ keyText id versions?)) = some b ∧
      address = versions?.elim b b.withVersions := by
  unfold requestAddress at h
  rw [requestPath_lookup, ← keyText] at h
  cases hbelow : base.below? ('/' :: (folderOf id ++ keyText id versions?)) with
  | none =>
    rw [hbelow] at h
    cases h
  | some b =>
    rw [hbelow] at h
    exact ⟨b, rfl, by cases versions? <;> exact eq_of_checkHost h⟩

/-- What the path of a request becomes below a folder. -/
theorem of_below? {b : Address} (hbase : IsFolder base) {cs : List Char}
    (h : base.below? ('/' :: (folderOf id ++ cs)) = some b) :
    b.path = normalizePath (base.target ++ folderOf id ++ escape isPathChar (shown cs).1) ∧
      (b.query = none ↔ (shown cs).2 = none) := by
  obtain ⟨⟨c, rest, hfolder, hslash, hfragment⟩, hfragments, hqueries, -, hescaped⟩ :=
    folderOf_facts id
  unfold Address.below? at h
  simp only [Option.bind_eq_bind, Option.bind_eq_some_iff] at h
  obtain ⟨a, ha, h⟩ := h
  have hparsed : Address.parse? ('/' :: c :: (rest ++ cs)) = some a := by
    rw [← List.cons_append, ← hfolder]
    exact ha
  obtain ⟨hscheme, hpath, hquery⟩ := of_parse?_path hslash hfragment hparsed
  rw [← List.cons_append, ← hfolder, shown_append hfragments hqueries] at hpath hquery
  have htarget : a.target.dropWhile (· == '/') =
      folderOf id ++ escape isPathChar (shown cs).1 ++ queryText a.query := by
    rw [target_eq, hpath, escape_append, escape_eq_self hescaped, hfolder]
    simp [pathText, hslash]
  have habsolute : a.isAbsolute = false := by simp [Address.isAbsolute, hscheme]
  rw [habsolute, if_neg Bool.false_ne_true, htarget, ← List.append_assoc, ← List.append_assoc] at h
  have hasked : ∀ c ∈ base.target ++ folderOf id ++ escape isPathChar (shown cs).1,
      isPathChar c :=
    List.forall_mem_append.mpr ⟨List.forall_mem_append.mpr ⟨hbase.escaped, hescaped⟩,
      fun _ => isPathChar_of_mem_escape⟩
  obtain ⟨hresolved, hqueried⟩ := of_withTarget? hbase.scheme (question_notMem hasked) h
  refine ⟨?_, ?_⟩
  · rw [hresolved]
    exact escape_eq_self fun c hc => hasked c ((normalizePath_sublist _).subset hc)
  · rw [hqueried, hquery]
    simp

/-- A path is the one that the request is meant for exactly if all of its text is path, and none of
it is resolved. -/
theorem normalizePath_eq_iff (hbase : IsFolder base) (cs : List Char) :
    normalizePath (base.target ++ folderOf id ++ escape isPathChar (shown cs).1) =
        base.target ++ folderOf id ++ escape isPathChar cs ↔
      '?' ∉ cs ∧ '#' ∉ cs ∧ HasNoDots cs := by
  obtain ⟨folder, hfolder, hdots⟩ := hbase.target
  obtain ⟨-, -, -, hcollection, -⟩ := folderOf_facts id
  obtain ⟨rest, hrest, hempty⟩ := exists_eq_shown cs
  have hresolves : HasNoDots (base.target ++ folderOf id ++ escape isPathChar cs) ↔
      HasNoDots cs := by
    rw [hfolder, folderOf, List.append_assoc, List.append_assoc, List.append_assoc,
      List.singleton_append, hasNoDots_append_cons, List.singleton_append, hasNoDots_append_cons,
      hasNoDots_escape]
    exact ⟨fun h => h.2.2, fun h => ⟨hdots, hcollection, h⟩⟩
  constructor
  · intro h
    -- a resolved path is not longer than its text, and what is meant is not longer than that
    have hlength := (normalizePath_sublist
      (base.target ++ folderOf id ++ escape isPathChar (shown cs).1)).length_le
    have hsplit := congrArg (fun text => (escape isPathChar text).length) hrest
    simp only [escape_append, List.length_append] at hsplit
    rw [h] at hlength
    simp only [List.length_append] at hlength
    have hnil : rest = [] := by
      cases rest with
      | nil => rfl
      | cons c rest =>
        have hpos := List.length_pos_iff.mpr (escape_cons_ne_nil isPathChar c rest)
        omega
    obtain ⟨hquery, hfragment⟩ := hempty.mp hnil
    rw [shown_of_notMem hquery hfragment] at h
    exact ⟨hquery, hfragment, hresolves.mp (normalizePath_eq_self_iff.mp h)⟩
  · rintro ⟨hquery, hfragment, h⟩
    rw [shown_of_notMem hquery hfragment]
    exact normalizePath_eq_self_iff.mpr (hresolves.mpr h)

/-- The key is followed by text that is a plain place itself. -/
theorem isPlain_iff (id : StructureId) (versions? : Option (List Int)) :
    ('?' ∉ keyText id versions? ∧ '#' ∉ keyText id versions? ∧
      HasNoDots (keyText id versions?)) ↔ IsPlain id.key.toList := by
  have hkey : keyText id versions? = id.key.toList ∨
      keyText id versions? = id.key.toList ++ '/' :: "versions".toList := by
    cases versions? with
    | none => exact Or.inl (List.append_nil _)
    | some versions =>
      have htext : "/versions".toList = '/' :: "versions".toList := by decide
      exact Or.inr (congrArg (id.key.toList ++ ·) htext)
  rcases hkey with hkey | hkey
  · rw [hkey]
    exact ⟨fun ⟨hq, hf, hd⟩ => ⟨hq, hf, hd⟩, fun h => ⟨h.query, h.fragment, h.dots⟩⟩
  · rw [hkey, hasNoDots_append_cons]
    constructor
    · rintro ⟨hq, hf, hd, -⟩
      exact ⟨fun h => hq (List.mem_append_left _ h), fun h => hf (List.mem_append_left _ h), hd⟩
    · intro h
      exact ⟨List.not_mem_append h.query (by decide), List.not_mem_append h.fragment (by decide),
        h.dots, by decide⟩

/-- The path of the target that a request should have. -/
def ownPath (base : Address) (id : StructureId) (versions? : Option (List Int)) : List Char :=
  base.target ++ folderOf id ++ escape isPathChar (keyText id versions?)

theorem ownTarget_eq (base : Address) (id : StructureId) (versions? : Option (List Int)) :
    ownTarget base id versions? =
      ownPath base id versions? ++ queryText (versions?.map versionsQuery) := by
  have hstands :
      escape isPathChar (lookupPath versions?).toList = (lookupPath versions?).toList := by
    cases versions? with
    | none => rfl
    | some versions =>
      have hall : "/versions".toList.all isPathChar := by decide
      exact escape_eq_self (List.all_eq_true.mp hall)
  rw [ownTarget, ownPath, keyText, escape_append, hstands, ← List.append_assoc]

theorem isPathChar_of_mem_ownPath (hbase : IsFolder base) :
    ∀ c ∈ ownPath base id versions?, isPathChar c := by
  obtain ⟨-, -, -, -, hescaped⟩ := folderOf_facts id
  exact List.forall_mem_append.mpr ⟨List.forall_mem_append.mpr ⟨hbase.escaped, hescaped⟩,
    fun _ => isPathChar_of_mem_escape⟩

theorem pathText_eq_iff (hbase : IsFolder base) {path : List Char} :
    pathText path = ownPath base id versions? ↔ path = ownPath base id versions? := by
  obtain ⟨folder, hfolder, -⟩ := hbase.target
  obtain ⟨⟨c, rest, hcollection, hslash, -⟩, -⟩ := folderOf_facts id
  have hlong : 2 ≤ (ownPath base id versions?).length := by
    simp only [ownPath, hfolder, hcollection, List.length_append, List.length_cons]
    omega
  cases path with
  | nil =>
    constructor <;>
    · intro h
      rw [← h] at hlong
      simp [pathText] at hlong
  | cons c path => rfl

/-- **A request has its own target exactly if its key is plain.** -/
theorem target_eq_ownTarget_iff (hbase : IsFolder base)
    (h : requestAddress base (lookup id versions?) = .ok address) :
    address.target = ownTarget base id versions? ↔ IsPlain id.key.toList := by
  obtain ⟨b, hbelow, haddress⟩ := below?_of_requestAddress h
  obtain ⟨hpath, hquery⟩ := of_below? hbase hbelow
  have hplain : b.path = ownPath base id versions? ↔ IsPlain id.key.toList := by
    rw [hpath, ← isPlain_iff id versions?]
    exact normalizePath_eq_iff hbase _
  rw [ownTarget_eq, haddress, ← hplain, ← pathText_eq_iff hbase, target_eq]
  cases versions? with
  | some versions => exact List.append_left_inj _
  | none =>
    have hnone : pathText b.path = ownPath base id none → b.query = none := by
      intro heq
      have hkey := (isPlain_iff id none).mpr (hplain.mp ((pathText_eq_iff hbase).mp heq))
      rw [hquery, shown_of_notMem hkey.1 hkey.2.1]
    constructor
    · intro heq
      rw [Option.elim_none, Option.map_none, queryText, List.append_nil] at heq
      cases hq : b.query with
      | none => rwa [hq, queryText, List.append_nil] at heq
      | some query =>
        -- a query would show in the target
        rw [hq] at heq
        have hmem : '?' ∈ ownPath base id none :=
          heq ▸ List.mem_append_right _ List.mem_cons_self
        exact absurd hmem (question_notMem (isPathChar_of_mem_ownPath hbase))
    · intro heq
      rw [Option.elim_none, hnone heq, heq]
      rfl

/-! ### Targets of different structures -/

theorem collection_inj {kind kind' : Kind}
    (h : (collection kind).toList = (collection kind').toList) : kind = kind' := by
  cases kind <;> cases kind' <;> first | rfl | exact absurd h (by decide)

theorem slash_notMem_collection (kind : Kind) : '/' ∉ (collection kind).toList := by
  cases kind <;> decide

/-- **Own targets tell structures apart** as far as the escapes of their keys do. -/
theorem ownTarget_inj {id' : StructureId} {versions?' : Option (List Int)}
    (h : ownTarget base id versions? = ownTarget base id' versions?') :
    id.kind = id'.kind ∧ escape isPathChar id.key.toList = escape isPathChar id'.key.toList := by
  simp only [ownTarget, folderOf, List.append_assoc, List.cons_append, List.nil_append] at h
  -- the collection ends at the first slash behind the base
  have hslash := congrArg (Text.cut '/') (List.append_cancel_left h)
  rw [Text.cut_append_cons (slash_notMem_collection _),
    Text.cut_append_cons (slash_notMem_collection _)] at hslash
  obtain ⟨hcollection, hkey⟩ := Prod.mk.inj hslash
  refine ⟨collection_inj hcollection, ?_⟩
  -- and the path at the first question mark
  have hpath : ∀ (id : StructureId) (versions? : Option (List Int)),
      '?' ∉ escape isPathChar id.key.toList ++ (lookupPath versions?).toList := by
    intro id versions?
    refine List.not_mem_append (question_notMem fun _ => isPathChar_of_mem_escape) ?_
    cases versions? with
    | none => exact List.not_mem_nil
    | some versions => exact show '?' ∉ "/versions".toList by decide
  have hquery := congrArg (Text.cut '?') (Option.some.inj hkey)
  rw [← List.append_assoc, ← List.append_assoc, cut_queryText (hpath _ _),
    cut_queryText (hpath _ _)] at hquery
  obtain ⟨heq, hversions⟩ := Prod.mk.inj hquery
  have hsuffix : lookupPath versions? = lookupPath versions?' := by
    cases versions? <;> cases versions?' <;> first | rfl | cases hversions
  rw [hsuffix] at heq
  exact List.append_cancel_right heq

/-- **The requests for some structures are faithful**: each asks for its own target, so below its
collection and for the versions in their order, and no two structures are asked for at the same
target. -/
structure IsFaithful {τ : Type} (c : Client τ) (ids : Set StructureId) : Prop where
  /-- Every request has its own target. -/
  own : ∀ id ∈ ids, ∀ versions? address, c.prepare (lookup id versions?) = .inl address →
    address.target = ownTarget c.base id versions?
  /-- Requests with the same target are for the same structure. -/
  apart : ∀ id ∈ ids, ∀ id' ∈ ids, ∀ versions? versions?' address address',
    c.prepare (lookup id versions?) = .inl address →
      c.prepare (lookup id' versions?') = .inl address' →
        address.target = address'.target → id = id'

theorem requestAddress_of_prepare {τ : Type} {c : Client τ} {r : Request}
    (h : c.prepare r = .inl address) : requestAddress c.base r = .ok address := by
  unfold Client.prepare at h
  split at h
  · cases h
  · split at h
    · next heq =>
      obtain rfl := Sum.inl.inj h
      exact heq
    · cases h

namespace Connection

variable {τ : Type} {connection : Connection} {transport : Transport τ} {c : Client τ}

/-- **Requests are faithful exactly for plain keys with different escapes.** Let a service have a
base address with a scheme and without a query, and let structures be given that it can be asked
for. -/
theorem isFaithful_iff (hc : connection.client? transport = some c) (hscheme : c.base.scheme ≠ [])
    (hquery : c.base.query = none) (ids : Set StructureId)
    (hsent : ∀ id ∈ ids, ∃ address, c.prepare (lookup id none) = .inl address) :
    IsFaithful c ids ↔ (∀ id ∈ ids, IsPlain id.key.toList) ∧
      ids.InjOn fun id => (id.kind, escape isPathChar id.key.toList) := by
  have hbase := isFolder_of_client? hc hscheme hquery
  have hown : ∀ {id versions? address}, c.prepare (lookup id versions?) = .inl address →
      (address.target = ownTarget c.base id versions? ↔ IsPlain id.key.toList) :=
    fun h => target_eq_ownTarget_iff hbase (requestAddress_of_prepare h)
  constructor
  · intro hfaithful
    have hplain : ∀ id ∈ ids, IsPlain id.key.toList := by
      intro id hid
      obtain ⟨address, haddress⟩ := hsent id hid
      exact (hown haddress).mp (hfaithful.own id hid none address haddress)
    refine ⟨hplain, fun id hid id' hid' heq => ?_⟩
    obtain ⟨address, haddress⟩ := hsent id hid
    obtain ⟨address', haddress'⟩ := hsent id' hid'
    refine hfaithful.apart id hid id' hid' none none address address' haddress haddress' ?_
    rw [hfaithful.own id hid none address haddress, hfaithful.own id' hid' none address' haddress']
    obtain ⟨hkind, hescape⟩ := Prod.mk.inj heq
    simp only [ownTarget, folderOf, hkind, hescape]
  · rintro ⟨hplain, hinj⟩
    refine ⟨fun id hid versions? address h => (hown h).mpr (hplain id hid), ?_⟩
    intro id hid id' hid' versions? versions?' address address' h h' heq
    rw [(hown h).mpr (hplain id hid), (hown h').mpr (hplain id' hid')] at heq
    obtain ⟨hkind, hescape⟩ := ownTarget_inj heq
    exact hinj hid hid' (Prod.ext hkind hescape)

end Connection

/-- Keys without percent signs have different escapes. -/
theorem injOn_of_percent_notMem {ids : Set StructureId} (h : ∀ id ∈ ids, '%' ∉ id.key.toList) :
    ids.InjOn fun id => (id.kind, escape isPathChar id.key.toList) := by
  intro id hid id' hid' heq
  obtain ⟨hkind, hescape⟩ := Prod.mk.inj heq
  have hkey := String.toList_inj.mp (escape_inj (h id hid) (h id' hid') hescape)
  exact StructureId.locator_injective (congrArg₂ Locator.mk hkind hkey)

/-! ### Keys that lead elsewhere -/

namespace Misled

/-- A client that is never asked to send anything. -/
def client : Client Unit where
  base := Connection.testBase
  retries := 2
  transport := fun _ state => (.ok {}, state)

/-- What the request for a skill asks the service for. -/
def asked (id : String) (versions? : Option (List Int) := none) : Option String :=
  (requestAddress client.base (lookup (.skill id) versions?)).toOption.map fun address =>
    String.ofList address.target

/-- **Keys lead elsewhere**: what follows a number sign is lost, versions take the place of what
follows a question mark, segments are resolved, and escapes are not escaped again. -/
theorem asked_elsewhere :
    asked "a#b" = asked "a" ∧ asked "a?b" (some [1, 2]) = some "/api/skills/a?v=1&v=2" ∧
      asked "../stories/s" = some "/api/stories/s" ∧ asked "a b" = asked "a%20b" := by
  decide +kernel

theorem prepare_of_asked {id : String} (h : (asked id).isSome) :
    ∃ address, client.prepare (lookup (.skill id) none) = .inl address := by
  rcases hrequest : requestAddress client.base (lookup (.skill id) none) with fault | address
  · rw [asked, hrequest] at h
    cases h
  · refine ⟨address, ?_⟩
    unfold lookup at hrequest
    simp only [Client.prepare, lookup, hrequest]

/-- **A space and a slash are told apart, and a number sign is not.** -/
theorem isFaithful_spaced :
    IsFaithful client {.skill "a b", .skill "a/b"} ∧
      ¬IsFaithful client {.skill "a b", .skill "a#b"} := by
  have hclient : Connection.testConnection.client? client.transport = some client :=
    Connection.client?_testConnection client.transport
  have hscheme : client.base.scheme ≠ [] := by decide
  constructor
  · have hsent : ∀ id ∈ ({.skill "a b", .skill "a/b"} : Set StructureId),
        ∃ address, client.prepare (lookup id none) = .inl address := by
      rintro id (rfl | rfl) <;> exact prepare_of_asked (by decide +kernel)
    refine (Connection.isFaithful_iff hclient hscheme rfl _ hsent).mpr ⟨?_, ?_⟩
    · rintro id (rfl | rfl) <;> decide +kernel
    · refine injOn_of_percent_notMem ?_
      rintro id (rfl | rfl) <;> decide +kernel
  · intro hfaithful
    have hsent : ∀ id ∈ ({.skill "a b", .skill "a#b"} : Set StructureId),
        ∃ address, client.prepare (lookup id none) = .inl address := by
      rintro id (rfl | rfl) <;> exact prepare_of_asked (by decide +kernel)
    have hplain := ((Connection.isFaithful_iff hclient hscheme rfl _ hsent).mp hfaithful).1
    have hsign : '#' ∈ (StructureId.skill "a#b").key.toList := by decide +kernel
    exact (hplain _ (Or.inr rfl)).fragment hsign

end Misled

end ContentPack.Http
