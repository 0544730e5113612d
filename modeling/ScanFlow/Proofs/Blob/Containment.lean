import ScanFlow.Blob.Directory

/-!
Keys cannot leave the directory with the blobs.

`Leads` says where the parts of a path lead without a word about how that is found out: a part
stays, goes up, enters, or stands for a link and is replaced by its target. Resolving a path
finds exactly the locations to which it leads through no more links than are allowed, and
something other than a link stands at each of them. What a key of a directory may name is then
what it leads to inside the base directory, wherever the path to that directory leads in turn,
and the two questions that a directory answers about a key agree on it.
-/

namespace ScanFlow

theorem Text.after?_isSome (word cs : List Char) :
    (after? word cs).isSome = true ↔ word <:+: cs := by
  induction cs with
  | nil =>
    unfold after?
    split
    · rename_i hstarts
      simp only [Option.isSome_some, true_iff]
      exact (List.isPrefixOf_iff_prefix.mp hstarts).isInfix
    · rename_i hstarts
      have hword : word ≠ [] := fun hnil => hstarts (by simp [hnil])
      simp [hword]
  | cons c rest ih =>
    unfold after?
    split
    · rename_i hstarts
      simp only [Option.isSome_some, true_iff]
      exact (List.isPrefixOf_iff_prefix.mp hstarts).isInfix
    · rename_i hstarts
      rw [ih, List.infix_cons_iff, ← List.isPrefixOf_iff_prefix]
      simp [hstarts]

theorem Text.parts_ne_nil (mark : Char) (text : String) : parts mark text ≠ [] := by
  have hsplit : ∀ cs, split mark cs ≠ [] := by
    intro cs
    fun_cases split mark cs with simp
  simpa [parts] using hsplit text.toList

namespace FileTree

variable {root : FileTree} {links used : Nat} {here location parts path : List String}

/-! ### Locations -/

theorem at?_append (tree : FileTree) (above below : List String) :
    tree.at? (above ++ below) = (tree.at? above).bind fun next => next.at? below := by
  induction above generalizing tree with
  | nil => rfl
  | cons name above ih =>
    simp only [List.cons_append, at?]
    cases tree.entry? name with
    | none => rfl
    | some next => exact ih next

def Opens (root : FileTree) (location : List String) : Prop :=
  ∃ entries, root.at? location = some (directory entries)

def Stands (root : FileTree) (location : List String) : Prop :=
  ∃ found, root.at? location = some found ∧ ∀ target, found ≠ link target

theorem opens_iff : (root.at? location).any isDirectory = true ↔ root.Opens location := by
  unfold Opens
  cases root.at? location with
  | none => simp
  | some found => cases found <;> simp [isDirectory]

theorem Opens.stands (h : root.Opens location) : root.Stands location := by
  obtain ⟨entries, hentries⟩ := h
  exact ⟨directory entries, hentries, fun target => nofun⟩

/-- Only directories have anything below them. -/
theorem opens_of_below {above below : List String} {found : FileTree} (hbelow : below ≠ [])
    (h : root.at? (above ++ below) = some found) : root.Opens above := by
  obtain ⟨name, rest, rfl⟩ := List.exists_cons_of_ne_nil hbelow
  rw [at?_append] at h
  obtain ⟨tree, htree, hfound⟩ := Option.bind_eq_some_iff.mp h
  cases tree with
  | directory entries => exact ⟨entries, htree⟩
  | file => cases hfound
  | link target => cases hfound

theorem Opens.top (h : root.Opens here) : root.Opens [] := by
  obtain ⟨entries, hentries⟩ := h
  by_cases hnil : here = []
  · exact ⟨entries, hnil ▸ hentries⟩
  · exact opens_of_below hnil (by simpa using hentries)

theorem Opens.dropLast (h : root.Opens here) : root.Opens here.dropLast := by
  rcases List.eq_nil_or_concat here with rfl | ⟨above, name, rfl⟩
  · exact h
  · obtain ⟨entries, hentries⟩ := h
    rw [List.concat_eq_append, List.dropLast_concat]
    exact opens_of_below (List.cons_ne_nil name []) (List.concat_eq_append ▸ hentries)

/-! ### Where a path leads -/

/-- The parts that stand for the directory they are taken in. -/
def Stays (part : String) : Prop := part = "" ∨ part = "."

theorem stays_iff {part : String} : (part = "" || part = ".") = true ↔ Stays part := by
  simp [Stays]

/-- The parts lead from one location to another through exactly so many links. -/
inductive Leads (root : FileTree) : Nat → List String → List String → List String → Prop where
  | arrived (here : List String) : Leads root 0 here [] here
  | stay {used : Nat} {here location rest : List String} {part : String} (hdir : root.Opens here)
      (hpart : Stays part) (hrest : Leads root used here rest location) :
      Leads root used here (part :: rest) location
  | up {used : Nat} {here location rest : List String} (hdir : root.Opens here)
      (hrest : Leads root used here.dropLast rest location) :
      Leads root used here (".." :: rest) location
  | enter {used : Nat} {here location rest : List String} {part : String} (hdir : root.Opens here)
      (hname : ¬ Stays part ∧ part ≠ "..") (hfound : root.Stands (here ++ [part]))
      (hrest : Leads root used (here ++ [part]) rest location) :
      Leads root used here (part :: rest) location
  | replaced {used : Nat} {here location rest : List String} {part target : String}
      (hdir : root.Opens here) (hname : ¬ Stays part ∧ part ≠ "..")
      (hlink : root.at? (here ++ [part]) = some (link target))
      (hrest : Leads root used (if isAbsolute target then [] else here)
        (Text.parts '/' target ++ rest) location) :
      Leads root (used + 1) here (part :: rest) location

/-- Where a path leads, something other than a link stands. -/
theorem Leads.stands (h : Leads root used here parts location) (hhere : root.Stands here) :
    root.Stands location := by
  induction h with
  | arrived here => exact hhere
  | stay _ _ _ ih => exact ih hhere
  | up hdir _ ih => exact ih hdir.dropLast.stands
  | enter _ _ hfound _ ih => exact ih hfound
  | replaced hdir _ _ _ ih =>
    refine ih ?_
    split
    · exact hdir.top.stands
    · exact hdir.stands

theorem Leads.opens (h : Leads root used here parts location) (hparts : parts ≠ []) :
    root.Opens here := by
  cases h with
  | arrived => exact absurd rfl hparts
  | stay hdir | up hdir | enter hdir | replaced hdir => exact hdir

/-- What is found is where the path leads, through no more links than are allowed. -/
theorem leads_of_follow (h : follow root links here parts = .ok location) :
    ∃ used ≤ links, Leads root used here parts location := by
  fun_induction follow root links here parts with
  | case1 links here =>
    obtain rfl := Except.ok.inj h
    exact ⟨0, Nat.zero_le links, .arrived here⟩
  | case2 | case5 | case6 => cases h
  | case3 links here part rest hdir hstays ih =>
    obtain ⟨used, hused, hleads⟩ := ih h
    exact ⟨used, hused, .stay (opens_iff.mp (by simpa using hdir)) (stays_iff.mp hstays)
      hleads⟩
  | case4 links here rest hdir _ ih =>
    obtain ⟨used, hused, hleads⟩ := ih h
    exact ⟨used, hused, .up (opens_iff.mp (by simpa using hdir)) hleads⟩
  | case7 here part rest hdir hstays hup target hlink links ih =>
    obtain ⟨used, hused, hleads⟩ := ih h
    exact ⟨used + 1, Nat.succ_le_succ hused, .replaced (opens_iff.mp (by simpa using hdir))
      ⟨mt stays_iff.mpr hstays, hup⟩ hlink hleads⟩
  | case8 links here part rest hdir hstays hup found hfound hat ih =>
    obtain ⟨used, hused, hleads⟩ := ih h
    exact ⟨used, hused, .enter (opens_iff.mp (by simpa using hdir))
      ⟨mt stays_iff.mpr hstays, hup⟩ ⟨found, hat, hfound⟩ hleads⟩

/-- Wherever a path leads through allowed links is found. -/
theorem Leads.follow (h : Leads root used here parts location) (hused : used ≤ links) :
    follow root links here parts = .ok location := by
  induction h generalizing links with
  | arrived here => rw [FileTree.follow]
  | stay hdir hpart _ ih =>
    rw [FileTree.follow, opens_iff.mpr hdir]
    simpa [stays_iff.mpr hpart] using ih hused
  | up hdir _ ih =>
    rw [FileTree.follow, opens_iff.mpr hdir]
    simpa using ih hused
  | enter hdir hname hfound _ ih =>
    obtain ⟨found, hat, hfound⟩ := hfound
    rw [FileTree.follow, opens_iff.mpr hdir, hat]
    cases found with
    | link target => exact absurd rfl (hfound target)
    | file | directory entries =>
      simpa [Bool.eq_false_iff.mpr (mt stays_iff.mp hname.1), hname.2] using ih hused
  | replaced hdir hname hlink _ ih =>
    obtain ⟨left, rfl⟩ := Nat.exists_eq_add_of_le' hused
    rw [FileTree.follow, opens_iff.mpr hdir, hlink]
    simpa [Bool.eq_false_iff.mpr (mt stays_iff.mp hname.1), hname.2] using ih (by omega)

/-- A path of two parts leads on from where the first of them leads. -/
theorem Leads.split {front back : List String} (h : Leads root used here (front ++ back) location) :
    ∃ early late middle, early + late = used ∧ Leads root early here front middle ∧
      Leads root late middle back location := by
  generalize hparts : front ++ back = parts at h
  induction h generalizing front with
  | arrived here =>
    obtain ⟨rfl, rfl⟩ := List.append_eq_nil_iff.mp hparts
    exact ⟨0, 0, here, rfl, .arrived here, .arrived here⟩
  | stay hdir hpart hrest ih =>
    rcases List.append_eq_cons_iff.mp hparts with ⟨rfl, rfl⟩ | ⟨front, rfl, rfl⟩
    · exact ⟨0, _, _, Nat.zero_add _, .arrived _, .stay hdir hpart hrest⟩
    · obtain ⟨early, late, middle, hsum, hfront, hback⟩ := ih rfl
      exact ⟨early, late, middle, hsum, .stay hdir hpart hfront, hback⟩
  | up hdir hrest ih =>
    rcases List.append_eq_cons_iff.mp hparts with ⟨rfl, rfl⟩ | ⟨front, rfl, rfl⟩
    · exact ⟨0, _, _, Nat.zero_add _, .arrived _, .up hdir hrest⟩
    · obtain ⟨early, late, middle, hsum, hfront, hback⟩ := ih rfl
      exact ⟨early, late, middle, hsum, .up hdir hfront, hback⟩
  | enter hdir hname hfound hrest ih =>
    rcases List.append_eq_cons_iff.mp hparts with ⟨rfl, rfl⟩ | ⟨front, rfl, rfl⟩
    · exact ⟨0, _, _, Nat.zero_add _, .arrived _, .enter hdir hname hfound hrest⟩
    · obtain ⟨early, late, middle, hsum, hfront, hback⟩ := ih rfl
      exact ⟨early, late, middle, hsum, .enter hdir hname hfound hfront, hback⟩
  | replaced hdir hname hlink hrest ih =>
    rcases List.append_eq_cons_iff.mp hparts with ⟨rfl, rfl⟩ | ⟨front, rfl, rfl⟩
    · exact ⟨0, _, _, Nat.zero_add _, .arrived _, .replaced hdir hname hlink hrest⟩
    · obtain ⟨early, late, middle, hsum, hfront, hback⟩ := ih (List.append_assoc _ front back)
      exact ⟨early + 1, late, middle, by omega, .replaced hdir hname hlink hfront, hback⟩

/-! ### What a path names -/

/-- The path, taken from a location, leads to another one through no more links than are allowed. -/
structure Names (root : FileTree) (here path location : List String) : Prop where
  written : path ≠ [] ∧ path ≠ [""]
  leads : ∃ used ≤ maxLinks, root.Leads used (origin here path) path location

theorem resolve_eq_ok_iff : root.resolve here path = .ok location ↔
    root.Names here path location := by
  unfold resolve
  split
  · rename_i hblank
    exact ⟨nofun, fun h => absurd hblank (not_or.mpr h.written)⟩
  · rename_i hwritten
    exact ⟨fun h => ⟨not_or.mp hwritten, leads_of_follow h⟩,
      fun ⟨_, used, hused, hleads⟩ => hleads.follow hused⟩

theorem Names.unique {other : List String} (h : root.Names here path location)
    (hother : root.Names here path other) : location = other := by
  have hresolve := resolve_eq_ok_iff.mpr h
  rw [resolve_eq_ok_iff.mpr hother] at hresolve
  exact (Except.ok.inj hresolve).symm

/-- What a path names below a directory is inside it. -/
theorem Names.inside {base below : List String} {place : List String}
    (hbase : root.Names here base place) (hnamed : root.Names here (base ++ below) location)
    (hbelow : below ≠ []) (hbegins : place <+: location) :
    ∃ entries names found, location = place ++ names ∧
      root.at? place = some (directory entries) ∧
      (directory entries).at? names = some found ∧ ∀ target, found ≠ link target := by
  obtain ⟨_, used, hused, hleads⟩ := hnamed
  have horigin : origin here (base ++ below) = origin here base := by
    simp [origin, hbase.written.1]
  rw [horigin] at hleads
  obtain ⟨early, late, middle, hsum, hfront, hback⟩ := hleads.split
  have hmiddle : root.Names here base middle := ⟨hbase.written, early, by omega, hfront⟩
  obtain rfl := hbase.unique hmiddle
  have hopens : root.Opens place := hback.opens hbelow
  obtain ⟨found, hfound, hlink⟩ := hback.stands hopens.stands
  obtain ⟨entries, hentries⟩ := hopens
  obtain ⟨names, rfl⟩ := hbegins
  rw [at?_append, hentries] at hfound
  exact ⟨entries, names, found, rfl, hentries, hfound, hlink⟩

/-- A link leads out of the directory it is in. -/
example :
    let blobs := directory [("app.jar", file), ("out", link "../../etc")]
    let etc := directory [("passwd", file)]
    let root := directory [("srv", directory [("blobs", blobs)]), ("etc", etc)]
    root.resolve ["srv"] ["blobs", ".", "app.jar"] = .ok ["srv", "blobs", "app.jar"] ∧
      root.resolve ["srv"] ["", "srv", "blobs", "out", "", "passwd"] = .ok ["etc", "passwd"] := by
  cbv

end FileTree

namespace BlobDirectory

variable {blobs : BlobDirectory} {key : String} {location : List String}

open FileTree

/-! ### What a key may name -/

def Leads (blobs : BlobDirectory) (path location : List String) : Prop :=
  blobs.root.Names blobs.working path location

def Improper (key : String) : Prop :=
  key = "" ∨ ['.', '.'] <:+: key.toList ∨ ['/'] <+: key.toList

/-- A key leads to a file or a directory inside the base directory, and its text could not have
meant anything else. -/
structure Holds (blobs : BlobDirectory) (key : String) (location : List String) : Prop where
  nonempty : key ≠ ""
  undotted : ¬ ['.', '.'] <:+: key.toList
  relative : ¬ ['/'] <+: key.toList
  short : (String.intercalate "/" (blobs.pathOf key)).utf8ByteSize ≤ maxPathBytes
  leads : blobs.Leads (blobs.pathOf key) location
  inside : ∃ base entries names found, blobs.Leads blobs.base base ∧ location = base ++ names ∧
    blobs.root.at? base = some (directory entries) ∧
    (directory entries).at? names = some found ∧ ∀ target, found ≠ link target

/-- The errors about a key: its text is improper, or there is no base directory, or the key leads
out of it. -/
inductive Refuses (blobs : BlobDirectory) (key : String) : BlobError → Prop where
  | improper (htext : Improper key) : Refuses blobs key
      (.invalidKey s!"Object key {Text.quoted key} contains invalid characters")
  | baseless {fault : PathFault} (htext : ¬ Improper key)
      (hbase : blobs.resolve blobs.base = .error fault) : Refuses blobs key
        (.config s!"Failed to canonicalize base path: {fault.message}")
  | outside {base location : List String} (htext : ¬ Improper key)
      (hbase : blobs.Leads blobs.base base) (hkey : blobs.Leads (blobs.pathOf key) location)
      (hout : ¬ base <+: location) : Refuses blobs key
        (.invalidKey "Object key resolves outside storage directory")

theorem isRefused_iff : isRefused key = true ↔ Improper key := by
  simp only [isRefused, isAbsolute, Bool.or_eq_true, Text.occurs, Text.after?_isSome,
    String.isEmpty_iff, String.startsWith_string_iff, or_assoc]
  rfl

theorem resolve_eq_ok_iff {path : List String} :
    blobs.resolve path = .ok location ↔ blobs.Leads path location :=
  FileTree.resolve_eq_ok_iff

structure Admits (blobs : BlobDirectory) (key : String) : Prop where
  text : ¬ Improper key
  inside : ∃ base, blobs.Leads blobs.base base ∧
    ∀ location, blobs.Leads (blobs.pathOf key) location → base <+: location

/-- A key is admitted, or refused for its reason. -/
theorem locate_cases (blobs : BlobDirectory) (key : String) :
    (blobs.Admits key ∧ blobs.locate key = .ok (blobs.pathOf key)) ∨
      ∃ fault, blobs.Refuses key fault ∧ blobs.locate key = .error fault := by
  fun_cases locate blobs key with
  | case1 hrefused => exact .inr ⟨_, .improper (isRefused_iff.mp hrefused), rfl⟩
  | case2 hproper fault hbase =>
    exact .inr ⟨_, .baseless (mt isRefused_iff.mpr hproper) hbase, rfl⟩
  | case3 hproper base hbase fault hkey =>
    refine .inl ⟨⟨mt isRefused_iff.mpr hproper, base, resolve_eq_ok_iff.mp hbase, ?_⟩, rfl⟩
    intro location hleads
    rw [resolve_eq_ok_iff.mpr hleads] at hkey
    cases hkey
  | case4 hproper base hbase location hkey hbegins =>
    refine .inl ⟨⟨mt isRefused_iff.mpr hproper, base, resolve_eq_ok_iff.mp hbase, ?_⟩, rfl⟩
    intro other hleads
    rw [(resolve_eq_ok_iff.mp hkey).unique hleads] at hbegins
    exact List.isPrefixOf_iff_prefix.mp hbegins
  | case5 hproper base hbase location hkey hout =>
    exact .inr ⟨_, .outside (mt isRefused_iff.mpr hproper) (resolve_eq_ok_iff.mp hbase)
      (resolve_eq_ok_iff.mp hkey) (mt List.isPrefixOf_iff_prefix.mpr hout), rfl⟩

theorem Refuses.not_admits {fault : BlobError} (h : blobs.Refuses key fault) :
    ¬ blobs.Admits key := by
  rintro ⟨htext, base, hbase, hinside⟩
  cases h with
  | improper himproper => exact htext himproper
  | baseless _ hmissing =>
    rw [resolve_eq_ok_iff.mpr hbase] at hmissing
    cases hmissing
  | outside _ hplace hkey hout =>
    rw [hplace.unique hbase] at hout
    exact hout (hinside _ hkey)

theorem Refuses.locate {fault : BlobError} (h : blobs.Refuses key fault) :
    blobs.locate key = .error fault := by
  unfold BlobDirectory.locate
  cases h with
  | improper htext => rw [if_pos (isRefused_iff.mpr htext)]
  | baseless htext hbase => rw [if_neg (mt isRefused_iff.mp htext), hbase]
  | outside htext hbase hkey hout =>
    rw [if_neg (mt isRefused_iff.mp htext), resolve_eq_ok_iff.mpr hbase,
      resolve_eq_ok_iff.mpr hkey]
    exact if_neg (mt List.isPrefixOf_iff_prefix.mp hout)

/-- There is one reason for a refusal. -/
theorem Refuses.unique {fault other : BlobError} (h : blobs.Refuses key fault)
    (hother : blobs.Refuses key other) : fault = other :=
  Except.error.inj (h.locate.symm.trans hother.locate)

theorem isThere_iff {path : List String} : blobs.isThere path = true ↔
    (String.intercalate "/" path).utf8ByteSize ≤ maxPathBytes ∧
      ∃ location, blobs.Leads path location := by
  have hfound : (blobs.resolve path).isOk = true ↔ ∃ location, blobs.Leads path location := by
    simp only [← resolve_eq_ok_iff]
    cases blobs.resolve path <;> simp [Except.isOk, Except.toBool]
  simp [isThere, hfound]

/-- What an admitted key leads to is inside the base directory. -/
theorem holds_iff : (∃ location, blobs.Holds key location) ↔
    blobs.Admits key ∧ blobs.isThere (blobs.pathOf key) = true := by
  rw [isThere_iff]
  constructor
  · rintro ⟨location, h⟩
    obtain ⟨base, _, names, _, hbase, rfl, _⟩ := h.inside
    refine ⟨⟨?_, base, hbase, ?_⟩, h.short, _, h.leads⟩
    · exact not_or.mpr ⟨h.nonempty, not_or.mpr ⟨h.undotted, h.relative⟩⟩
    · intro other hother
      rw [← h.leads.unique hother]
      exact List.prefix_append base names
  · rintro ⟨⟨htext, base, hbase, hinside⟩, hshort, location, hleads⟩
    obtain ⟨hnonempty, htext⟩ := not_or.mp htext
    obtain ⟨hundotted, hrelative⟩ := not_or.mp htext
    obtain ⟨entries, names, found, hstands⟩ :=
      hbase.inside hleads (Text.parts_ne_nil '/' key) (hinside location hleads)
    exact ⟨location, hnonempty, hundotted, hrelative, hshort, hleads, base, entries, names, found,
      hbase, hstands⟩

/-! ### The two questions -/

/-- Both questions about an admitted key are decided by what is there, and both about another key
are refused for its reason. -/
theorem answers_cases (blobs : BlobDirectory) (key : String) (now : Timestamp) (lifetime : Nat) :
    (blobs.Admits key ∧ blobs.exists? key = .ok (blobs.isThere (blobs.pathOf key)) ∧
        blobs.url now key lifetime =
          if blobs.isThere (blobs.pathOf key) then .ok (blobs.urlOf now key lifetime)
          else .error (.notFound key)) ∨
      ∃ fault, blobs.Refuses key fault ∧ blobs.exists? key = .error fault ∧
        blobs.url now key lifetime = .error fault := by
  unfold exists? url
  rcases blobs.locate_cases key with ⟨hadmits, hpath⟩ | ⟨fault, hrefuses, hfault⟩
  · rw [hpath]
    exact .inl ⟨hadmits, rfl, rfl⟩
  · rw [hfault]
    exact .inr ⟨fault, hrefuses, rfl, rfl⟩

theorem exists?_iff_holds : blobs.exists? key = .ok true ↔ ∃ location, blobs.Holds key location := by
  rw [holds_iff]
  rcases blobs.answers_cases key ⟨0, 0⟩ 0 with ⟨hadmits, hexists, -⟩ | ⟨fault, hrefuses, hexists, -⟩
  · simp [hexists, hadmits]
  · simp [hexists, hrefuses.not_admits]

/-- A key is refused by its text or by where it leads as long as the base directory is there. -/
theorem Refuses.cases {fault : BlobError} (h : blobs.Refuses key fault) :
    (∃ text, fault = .invalidKey text) ∨
      (∃ text, fault = .config text) ∧ ∀ location, ¬ blobs.Leads blobs.base location := by
  cases h with
  | improper | outside => exact .inl ⟨_, rfl⟩
  | baseless _ hbase =>
    refine .inr ⟨⟨_, rfl⟩, fun location hleads => ?_⟩
    rw [resolve_eq_ok_iff.mpr hleads] at hbase
    cases hbase

/-- **Keys cannot leave the directory with the blobs.** For every tree of files, directories and
links, a key is said to exist, and has a URL, exactly if it is a path of its own that leads to a
file or a directory inside the base directory. The two answers agree on every key: it exists if
it has a URL, does not exist if the URL is not found, and is otherwise refused by both with the
same words. While there is a base directory a refused key is an invalid one, and the last
statement gives the reason for each refusal. -/
theorem keys_contained (blobs : BlobDirectory) (key : String) (now : Timestamp) (lifetime : Nat) :
    (blobs.exists? key = .ok true ↔ ∃ location, blobs.Holds key location) ∧
    ((∃ url, blobs.url now key lifetime = .ok url) ↔ ∃ location, blobs.Holds key location) ∧
    (blobs.exists? key = .ok false ↔ blobs.url now key lifetime = .error (.notFound key)) ∧
    ((∃ found, blobs.exists? key = .ok found) ∨
      (∃ text, blobs.exists? key = .error (.invalidKey text) ∧
        blobs.url now key lifetime = .error (.invalidKey text)) ∨
      (∀ location, ¬ blobs.Leads blobs.base location) ∧
        ∃ text, blobs.exists? key = .error (.config text) ∧
          blobs.url now key lifetime = .error (.config text)) ∧
    ∀ fault, blobs.exists? key = .error fault ↔ blobs.Refuses key fault := by
  rw [← exists?_iff_holds]
  rcases blobs.answers_cases key now lifetime with
    ⟨hadmits, hexists, hurl⟩ | ⟨fault, hrefuses, hexists, hurl⟩
  · rw [hexists, hurl]
    have hnever : ∀ fault, ¬ blobs.Refuses key fault := fun _ h => h.not_admits hadmits
    cases hthere : blobs.isThere (blobs.pathOf key) with
    | true => simp [hnever]
    | false => simp [hnever]
  · have hmissing : fault ≠ .notFound key := by
      rintro rfl
      cases hrefuses
    rw [hexists, hurl]
    refine ⟨by simp, by simp, by simp [hmissing], .inr ?_, fun other => ?_⟩
    · rcases hrefuses.cases with ⟨text, rfl⟩ | ⟨⟨text, rfl⟩, hbaseless⟩
      · exact .inl ⟨text, rfl, rfl⟩
      · exact .inr ⟨hbaseless, text, rfl, rfl⟩
    · rw [Except.error.injEq]
      exact ⟨fun hsame => hsame ▸ hrefuses, fun hother => hrefuses.unique hother⟩

end BlobDirectory

end ScanFlow
