import Mathlib.Data.List.Induction
import TemplateJsx.Proofs.Project.Paths

/-
  What reading and writing a tree of files does. Whatever is
  held lies in directories all the way down, so that a path
  is followed exactly when its start and its end are held.
  Making directories changes the places on the way to them
  and no others, and changes nothing the second time.

  Key definitions include:
    * `Project.FileTree.Starts`
    * `Project.FileTree.KeepsDirectories`
    * `Project.FileTree.CanMake`
    * `Project.FileTree.IsMade`

  Main declarations:
    * `Project.FileTree.get?_of_append`
    * `Project.FileTree.put_eq_self`
    * `Project.FileTree.locate_foldl_step`
    * `Project.FileTree.find_print`
    * `Project.FileTree.KeepsDirectories.find_eq`
    * `Project.FileTree.makeDirectories_spec`
    * `Project.FileTree.makeDirectories_of_canMake`
-/

------------------------------------------------------------
-- Entries
------------------------------------------------------------

namespace TemplateJsx

namespace Project

theorem lookup_eq_some_iff
    {entries : List (Place × FileEntry)}
    (hDistinct : (entries.map Prod.fst).Nodup)
    (p : Place)
    (entry : FileEntry) :
    entries.lookup p = some entry ↔ (p, entry) ∈ entries := by
  induction entries with
  | nil => simp
  | cons held rest ih =>
      rcases held with ⟨q, other⟩
      rw [List.map_cons, List.nodup_cons] at hDistinct
      rw [List.lookup_cons, List.mem_cons, Prod.mk.injEq]
      split
      · rename_i hSame
        have hPlace : p = q := beq_iff_eq.mp hSame
        have hRest : (p, entry) ∉ rest := fun hMember =>
          hDistinct.1 (List.mem_map.mpr ⟨_, hMember, hPlace⟩)
        constructor
        · intro hEntry
          exact Or.inl ⟨hPlace, (Option.some_inj.mp hEntry).symm⟩
        · rintro (⟨_, hEntry⟩ | hMember)
          · rw [hEntry]
          · exact absurd hMember hRest
      · rename_i hOther
        have hPlace : p ≠ q := beq_eq_false_iff_ne.mp hOther
        rw [ih hDistinct.2]
        simp [hPlace]

/- Entering what is held already changes nothing. -/
theorem putEntry_of_lookup
    {p : Place}
    {entry : FileEntry}
    {entries : List (Place × FileEntry)}
    (hHeld : entries.lookup p = some entry) :
    putEntry p entry entries = entries := by
  induction entries with
  | nil => simp at hHeld
  | cons held rest ih =>
      rcases held with ⟨q, other⟩
      rw [List.lookup_cons] at hHeld
      rw [putEntry]
      split at hHeld
      · rename_i hSame
        rw [if_pos (beq_iff_eq.mp hSame).symm,
          beq_iff_eq.mp hSame, Option.some_inj.mp hHeld]
      · rename_i hOther
        rw [if_neg (Ne.symm (beq_eq_false_iff_ne.mp hOther)),
          ih hHeld]

namespace FileTree

------------------------------------------------------------
-- Places That Hold Something
------------------------------------------------------------

@[simp] theorem get?_nil
    (t : FileTree) :
    t.get? [] = some .directory := by
  rfl

theorem mem_entries_iff
    (t : FileTree)
    (p : Place)
    (entry : FileEntry) :
    (p, entry) ∈ t.entries ↔ p ≠ [] ∧ t.get? p = some entry := by
  have hLookup := lookup_eq_some_iff t.distinct p entry
  constructor
  · intro hMember
    have hSome : p ≠ [] := by
      rintro rfl
      exact (t.rooted _ hMember).1.1 rfl
    refine ⟨hSome, ?_⟩
    rw [get?, entryAt, if_neg hSome]
    exact hLookup.mpr hMember
  · rintro ⟨hSome, hHeld⟩
    rw [get?, entryAt, if_neg hSome] at hHeld
    exact hLookup.mp hHeld

/- What is held has a name and lies in a directory. -/
theorem get?_of_concat
    {t : FileTree}
    {p : Place}
    {name : String}
    {entry : FileEntry}
    (hHeld : t.get? (p ++ [name]) = some entry) :
    IsName name ∧ t.get? p = some .directory := by
  have hMember : (p ++ [name], entry) ∈ t.entries :=
    (t.mem_entries_iff _ _).mpr ⟨by simp, hHeld⟩
  have hRooted := t.rooted _ hMember
  rw [List.getLastD_concat, List.dropLast_concat] at hRooted
  exact hRooted

/- What lies further down lies below a directory. -/
theorem get?_of_append
    {t : FileTree}
    {p : Place}
    {names : List String}
    {entry : FileEntry}
    (hHeld : t.get? (p ++ names) = some entry)
    (hBelow : names ≠ []) :
    t.get? p = some .directory := by
  induction names using List.reverseRecOn generalizing entry with
  | nil => exact absurd rfl hBelow
  | append_singleton before name ih =>
      rw [← List.append_assoc] at hHeld
      have hParent := (get?_of_concat hHeld).2
      by_cases hFirst : before = []
      · rw [hFirst, List.append_nil] at hParent
        exact hParent
      · exact ih hParent hFirst

theorem get?_of_isPrefix
    {t : FileTree}
    {p q : Place}
    (hPrefix : p <+: q)
    (hHeld : t.get? q = some .directory) :
    t.get? p = some .directory := by
  rcases hPrefix with ⟨names, rfl⟩
  by_cases hBelow : names = []
  · rw [hBelow, List.append_nil] at hHeld
    exact hHeld
  · exact get?_of_append hHeld hBelow

/- All names on the way to what is held are legal. -/
theorem isName_of_mem
    {t : FileTree}
    {p : Place}
    {entry : FileEntry}
    (hHeld : t.get? p = some entry) :
    ∀ name ∈ p, IsName name := by
  induction p using List.reverseRecOn generalizing entry with
  | nil => exact fun name hName => absurd hName List.not_mem_nil
  | append_singleton before last ih =>
      rcases get?_of_concat hHeld with ⟨hLast, hParent⟩
      intro name hName
      rcases List.mem_append.mp hName with hBefore | hEnd
      · exact ih hParent name hBefore
      · rw [List.mem_singleton.mp hEnd]
        exact hLast

------------------------------------------------------------
-- Entering
------------------------------------------------------------

theorem get?_put
    {t : FileTree}
    {directory : Place}
    {name : String}
    (entry : FileEntry)
    (hAdmits : t.Admits directory name)
    (p : Place) :
    (t.put directory name entry hAdmits).get? p =
      if p = directory ++ [name] then some entry
      else t.get? p :=
  entryAt_putEntry p entry t.entries (by simp)

@[simp] theorem home_put
    {t : FileTree}
    {directory : Place}
    {name : String}
    (entry : FileEntry)
    (hAdmits : t.Admits directory name) :
    (t.put directory name entry hAdmits).home = t.home := by
  rfl

/- Putting what is held already changes nothing. -/
theorem put_eq_self
    {t : FileTree}
    {directory : Place}
    {name : String}
    {entry : FileEntry}
    (hAdmits : t.Admits directory name)
    (hHeld : t.get? (directory ++ [name]) = some entry) :
    t.put directory name entry hAdmits = t := by
  have hEntries :
      (t.put directory name entry hAdmits).entries = t.entries := by
    refine putEntry_of_lookup ?_
    rw [get?, entryAt, if_neg (by simp)] at hHeld
    exact hHeld
  rcases t with ⟨home, entries, distinct, rooted⟩
  simp only [put] at hEntries ⊢
  simp only [hEntries]

------------------------------------------------------------
-- Places of Addresses
------------------------------------------------------------

theorem locate_congr
    {t u : FileTree}
    (hHome : u.home = t.home)
    (a : Address) :
    u.locate a = t.locate a := by
  unfold locate
  rw [hHome]

theorem locate_eq_append
    (t : FileTree)
    (base : Base)
    (names : List String) :
    t.locate ⟨base, names⟩ = t.locate ⟨base, []⟩ ++ names := by
  cases base with
  | above levels => simp [locate]
  | root => rfl

theorem locate_child
    (t : FileTree)
    (a : Address)
    (name : String) :
    t.locate (a.child name) = t.locate a ++ [name] := by
  rcases a with ⟨base, names⟩
  rw [Address.child, locate_eq_append,
    locate_eq_append t base names, List.append_assoc]

theorem locate_parent
    (t : FileTree)
    (a : Address) :
    t.locate a.parent = (t.locate a).dropLast := by
  rcases a with ⟨base, names⟩
  by_cases hSome : names = []
  · subst hSome
    cases base with
    | above levels =>
        simp only [Address.parent, locate, List.append_nil]
        rw [List.dropLast_eq_take, List.take_take,
          List.length_take]
        congr 1
        omega
    | root => rfl
  · have hParent :
        Address.parent ⟨base, names⟩ = ⟨base, names.dropLast⟩ := by
      cases names with
      | nil => exact absurd rfl hSome
      | cons name rest => rfl
    rw [hParent, locate_eq_append, locate_eq_append t base names,
      List.dropLast_append_of_ne_nil hSome]

@[simp] theorem locate_here
    (t : FileTree) :
    t.locate .here = t.home := by
  simp [locate, Address.here]

/- Addresses and places take a component alike. -/
theorem locate_step
    (t : FileTree)
    (a : Address)
    (component : String) :
    t.locate (a.step component) =
      advance (t.locate a) component := by
  unfold Address.step advance
  split
  · rfl
  · split
    · exact locate_parent t a
    · exact locate_child t a component

theorem locate_foldl_step
    (t : FileTree)
    (a : Address)
    (cs : List String) :
    t.locate (cs.foldl Address.step a) =
      cs.foldl advance (t.locate a) := by
  induction cs generalizing a with
  | nil => rfl
  | cons c rest ih =>
      rw [List.foldl_cons, List.foldl_cons, ih, locate_step]

------------------------------------------------------------
-- Following Paths
------------------------------------------------------------

theorem follow_nil
    (t : FileTree)
    {p : Place}
    {entry : FileEntry}
    (hHeld : t.get? p = some entry) :
    t.follow p [] = .ok (p, entry) := by
  rw [follow, hHeld]

theorem follow_cons
    (t : FileTree)
    {p : Place}
    (component : String)
    (rest : List String)
    (hDirectory : t.get? p = some .directory) :
    t.follow p (component :: rest) =
      t.follow (advance p component) rest := by
  rw [follow, hDirectory]

/- Only directories are left by a component. -/
theorem follow_cons_eq_ok
    {t : FileTree}
    {p : Place}
    {component : String}
    {rest : List String}
    {found : Place × FileEntry}
    (hFound : t.follow p (component :: rest) = .ok found) :
    t.get? p = some .directory ∧
      t.follow (advance p component) rest = .ok found := by
  rw [follow] at hFound
  split at hFound
  · rename_i hDirectory
    exact ⟨hDirectory, hFound⟩
  · cases hFound
  · cases hFound

/- What is found is held where the components lead. -/
theorem follow_eq_ok
    {t : FileTree}
    {p q : Place}
    {cs : List String}
    {entry : FileEntry}
    (hFound : t.follow p cs = .ok (q, entry)) :
    q = cs.foldl advance p ∧ t.get? q = some entry := by
  induction cs generalizing p with
  | nil =>
      rw [follow] at hFound
      split at hFound
      · rename_i hHeld
        cases hFound
        exact ⟨rfl, hHeld⟩
      · cases hFound
  | cons c rest ih => exact ih (follow_cons_eq_ok hFound).2

theorem follow_append
    {t : FileTree}
    {p q : Place}
    {before : List String}
    (rest : List String)
    (hFound : t.follow p before = .ok (q, .directory)) :
    t.follow p (before ++ rest) = t.follow q rest := by
  induction before generalizing p with
  | nil => rw [(follow_eq_ok hFound).1, List.nil_append,
      List.foldl_nil]
  | cons c others ih =>
      rcases follow_cons_eq_ok hFound with ⟨hDirectory, hRest⟩
      rw [List.cons_append, follow_cons t c _ hDirectory, ih hRest]

/- The last component is looked up in a directory. -/
theorem follow_concat_eq_ok
    {t : FileTree}
    {p : Place}
    {before : List String}
    {last : String}
    {found : Place × FileEntry}
    (hFound : t.follow p (before ++ [last]) = .ok found) :
    ∃ directory, t.get? directory = some .directory ∧
      found.1 = advance directory last := by
  induction before generalizing p with
  | nil =>
      rcases follow_cons_eq_ok hFound with ⟨hDirectory, hRest⟩
      exact ⟨p, hDirectory, (follow_eq_ok hRest).1⟩
  | cons c rest ih => exact ih (follow_cons_eq_ok hFound).2

/- Every directory is left upwards into a directory. -/
theorem follow_up
    {t : FileTree}
    {p : Place}
    (count : Nat)
    (hDirectory : t.get? p = some .directory) :
    t.follow p (List.replicate count "..") =
      .ok (p.take (p.length - count), .directory) := by
  induction count generalizing p with
  | zero =>
      rw [List.replicate_zero, Nat.sub_zero, List.take_length]
      exact follow_nil t hDirectory
  | succ count ih =>
      have hUp : t.get? p.dropLast = some .directory :=
        get?_of_isPrefix (List.dropLast_prefix p) hDirectory
      rw [List.replicate_succ, follow_cons t _ _ hDirectory]
      change t.follow p.dropLast _ = _
      rw [ih hUp, List.dropLast_eq_take, List.take_take,
        List.length_take]
      congr 3
      omega

/- Names lead down to whatever is held at their end. -/
theorem follow_names
    {t : FileTree}
    {p : Place}
    {names : List String}
    {entry : FileEntry}
    (hHeld : t.get? (p ++ names) = some entry) :
    t.follow p names = .ok (p ++ names, entry) := by
  induction names generalizing p with
  | nil =>
      rw [List.append_nil] at hHeld ⊢
      exact follow_nil t hHeld
  | cons name rest ih =>
      have hDirectory := get?_of_append hHeld (by simp)
      rcases isName_of_mem hHeld name (by simp) with
        ⟨hEmpty, hHere, hUp, _⟩
      have hDown : advance p name = p ++ [name] := by
        unfold advance
        rw [if_neg (by simp [hEmpty, hHere]), if_neg hUp]
      rw [List.append_cons] at hHeld ⊢
      rw [follow_cons t _ _ hDirectory, hDown, ih hHeld]

------------------------------------------------------------
-- Finding
------------------------------------------------------------

/-
  The way to an address starts at the root of all files or in
  a working directory that exists.
-/
def Starts
    (t : FileTree)
    (a : Address) : Prop :=
  a.base = .root ∨ t.get? t.home = some .directory

theorem Starts.foldl_step
    {t : FileTree}
    {a : Address}
    (hStarts : t.Starts a)
    (cs : List String) :
    t.Starts (cs.foldl Address.step a) := by
  rcases hStarts with hRoot | hHome
  · exact Or.inl ((Address.base_foldl_step a cs).mpr hRoot)
  · exact Or.inr hHome

/- The base of such an address is a directory. -/
theorem Starts.get?_base
    {t : FileTree}
    {a : Address}
    (hStarts : t.Starts a) :
    t.get? (t.locate ⟨a.base, []⟩) = some .directory := by
  rcases a with ⟨base, names⟩
  cases base with
  | root => exact get?_nil t
  | above levels =>
      rcases hStarts with hRoot | hHome
      · cases hRoot
      · simp only [locate, List.append_nil]
        exact get?_of_isPrefix (List.take_prefix _ _) hHome

theorem find_eq_ok
    {t : FileTree}
    {path : String}
    {p : Place}
    {entry : FileEntry}
    (hFound : t.find path = .ok (p, entry)) :
    path ≠ "" ∧ t.Starts (Address.ofPath path) ∧
      p = t.locate (Address.ofPath path) ∧
      t.get? p = some entry := by
  unfold find at hFound
  split at hFound
  · cases hFound
  · rename_i hSome
    rcases follow_eq_ok hFound with ⟨hPlace, hHeld⟩
    refine ⟨hSome, ?_, ?_, hHeld⟩
    · refine Starts.foldl_step ?_ (components path)
      cases hComponents : components path with
      | nil => exact absurd hComponents (components_ne_nil path)
      | cons c rest =>
          rw [hComponents] at hFound
          have hStart := (follow_cons_eq_ok hFound).1
          unfold Starts startOf at *
          split
          · exact Or.inl rfl
          · rename_i hRelative
            rw [if_neg hRelative] at hStart
            rw [locate_here] at hStart
            exact Or.inr hStart
    · rw [hPlace, Address.ofPath, locate_foldl_step]

/- A file has the name that its path ends with. -/
theorem getLastD_of_find_file
    {t : FileTree}
    {path : String}
    {p : Place}
    {content : String}
    (hFound : t.find path = .ok (p, .file content)) :
    p.getLastD "" = fileName path := by
  rcases find_eq_ok hFound with ⟨hSome, _, _, hHeld⟩
  rw [find, if_neg hSome] at hFound
  rcases List.eq_nil_or_concat (components path) with
    hNone | ⟨before, last, hComponents⟩
  · exact absurd hNone (components_ne_nil path)
  · rw [List.concat_eq_append] at hComponents
    rw [hComponents] at hFound
    rcases follow_concat_eq_ok hFound with ⟨q, hDirectory, hPlace⟩
    rw [fileName, hComponents, List.getLast?_concat,
      Option.getD_some]
    change p = advance q last at hPlace
    -- The other components lead to directories.
    unfold advance at hPlace
    split at hPlace
    · rw [hPlace, hDirectory] at hHeld
      cases hHeld
    · split at hPlace
      · rw [hPlace,
          get?_of_isPrefix (List.dropLast_prefix q) hDirectory] at hHeld
        cases hHeld
      · rw [hPlace, List.getLastD_concat]

/-
  The shortest path to an address finds what is held there:
  it climbs from the working directory and then goes down.
-/
theorem find_print
    {t : FileTree}
    {a : Address}
    {entry : FileEntry}
    (hLegal : a.IsLegal)
    (hStarts : t.Starts a)
    (hHeld : t.get? (t.locate a) = some entry) :
    t.find a.print = .ok (t.locate a, entry) := by
  rw [find, if_neg (Address.print_ne_empty hLegal)]
  rcases a with ⟨base, names⟩
  change ∀ name ∈ names, IsName name at hLegal
  cases base with
  | root =>
      rw [Address.components_print_root hLegal,
        Address.startOf_print_root]
      change t.follow [] _ = _
      rw [follow_cons t _ _ (get?_nil t)]
      change t.follow [] _ = _
      split
      · rename_i hNone
        subst hNone
        rw [follow_cons t _ _ (get?_nil t)]
        exact follow_nil t hHeld
      · exact follow_names hHeld
  | above levels =>
      have hHome : t.get? t.home = some .directory :=
        hStarts.resolve_left nofun
      by_cases hSome : List.replicate levels ".." ++ names = []
      · rcases List.append_eq_nil_iff.mp hSome with ⟨hUp, hNames⟩
        rw [List.replicate_eq_nil_iff] at hUp
        subst hUp hNames
        change t.follow (t.locate .here) ["."] =
          .ok (t.locate .here, entry)
        change t.get? (t.locate .here) = some entry at hHeld
        rw [locate_here] at hHeld ⊢
        rw [follow_cons t _ _ hHome]
        exact follow_nil t hHeld
      · rw [Address.components_print_above hSome hLegal,
          Address.startOf_print_above hSome hLegal, locate_here,
          follow_append _ (follow_up levels hHome)]
        exact follow_names hHeld

/- What lies below a directory is found behind its path. -/
theorem find_joinPath
    {t : FileTree}
    {root : String}
    {directory : Place}
    {names : List String}
    {entry : FileEntry}
    (hRoot : t.find root = .ok (directory, .directory))
    (hHeld : t.get? (directory ++ names) = some entry)
    (hBelow : names ≠ []) :
    t.find (joinPath root (Text.joinWith "/" names)) =
      .ok (directory ++ names, entry) := by
  rcases find_eq_ok hRoot with ⟨hSome, hStarts, hPlace, _⟩
  have hNames : ∀ name ∈ names, IsName name := fun name hName =>
    isName_of_mem hHeld name (List.mem_append_right _ hName)
  have hComponents :
      components (Text.joinWith "/" names) = names :=
    components_joinWith hBelow fun name hName =>
      (hNames name hName).2.2.2
  have hLocate :
      t.locate
          (names.foldl Address.step (Address.ofPath root)) =
        directory ++ names := by
    rw [Address.foldl_step_of_isName _ hNames, locate_eq_append,
      ← List.append_assoc, ← locate_eq_append, hPlace]
  rw [Address.joinPath_eq_print _ hSome, hComponents, ← hLocate]
  refine find_print ?_ (hStarts.foldl_step names) ?_
  · apply Address.isLegal_foldl_step (Address.isLegal_ofPath root)
    exact fun name hName => (hNames name hName).2.2.2
  · rw [hLocate]
    exact hHeld

/-
  One tree keeps the directories of another. It may hold
  other files, and more directories.
-/
structure KeepsDirectories
    (t u : FileTree) : Prop where
  home : u.home = t.home
  directories :
    ∀ p, t.get? p = some .directory → u.get? p = some .directory

/- Then a path leads to the same place. -/
theorem KeepsDirectories.find_eq
    {t u : FileTree}
    {path : String}
    {p : Place}
    {entry other : FileEntry}
    (hKeeps : t.KeepsDirectories u)
    (hFound : t.find path = .ok (p, entry))
    (hHeld : u.get? p = some other) :
    u.find path = .ok (p, other) := by
  have hFollow : ∀ (cs : List String) (q : Place),
      t.follow q cs = .ok (p, entry) →
        u.follow q cs = .ok (p, other) := by
    intro cs
    induction cs with
    | nil =>
        intro q hFollowed
        have hSame : p = q := (follow_eq_ok hFollowed).1
        subst hSame
        exact follow_nil u hHeld
    | cons c rest ih =>
        intro q hFollowed
        rcases follow_cons_eq_ok hFollowed with ⟨hDir, hRest⟩
        rw [follow_cons u c rest (hKeeps.directories q hDir)]
        exact ih _ hRest
  unfold find at hFound ⊢
  split
  · rename_i hEmpty
    rw [if_pos hEmpty] at hFound
    cases hFound
  · rename_i hSome
    rw [if_neg hSome] at hFound
    rw [locate_congr hKeeps.home]
    exact hFollow _ _ hFound

------------------------------------------------------------
-- Making Directories
------------------------------------------------------------

/- No file is in the way of a directory. -/
def CanMake
    (t : FileTree)
    (p : Place) : Prop :=
  ∀ q content, q <+: p → t.get? q ≠ some (.file content)

/-
  A tree with a directory at a place. Only the places on the
  way to it can differ, and none of them held a file.
-/
structure IsMade
    (t made : FileTree)
    (p : Place) : Prop where
  home : made.home = t.home
  free : t.CanMake p
  get?_eq :
    ∀ q, made.get? q =
      if q <+: p then some .directory else t.get? q

theorem IsMade.keepsDirectories
    {t made : FileTree}
    {p : Place}
    (hMade : t.IsMade made p) :
    t.KeepsDirectories made where
  home := hMade.home
  directories := by
    intro q hHeld
    rw [hMade.get?_eq]
    split
    · rfl
    · exact hHeld

/- Files stay where they are. -/
theorem IsMade.get?_file
    {t made : FileTree}
    {p q : Place}
    {content : String}
    (hMade : t.IsMade made p) :
    made.get? q = some (.file content) ↔
      t.get? q = some (.file content) := by
  rw [hMade.get?_eq]
  split
  · rename_i hPrefix
    simp [hMade.free q content hPrefix]
  · rfl

theorem isMade_self
    {t : FileTree}
    {p : Place}
    (hHeld : t.get? p = some .directory) :
    t.IsMade t p where
  home := rfl
  free := by
    intro q content hPrefix
    rw [get?_of_isPrefix hPrefix hHeld]
    simp
  get?_eq := by
    intro q
    split
    · rename_i hPrefix
      exact get?_of_isPrefix hPrefix hHeld
    · rfl

/- A new directory on the way is one of those to be made. -/
theorem IsMade.of_put
    {t made : FileTree}
    {directory p : Place}
    {name : String}
    (hAdmits : t.Admits directory name)
    (hNone : t.get? (directory ++ [name]) = none)
    (hWay : directory ++ [name] <+: p)
    (hMade :
      (t.put directory name .directory hAdmits).IsMade made p) :
    t.IsMade made p where
  home := hMade.home
  free := by
    intro q content hPrefix hHeld
    apply hMade.free q content hPrefix
    rw [get?_put, if_neg]
    · exact hHeld
    · rintro rfl
      rw [hNone] at hHeld
      cases hHeld
  get?_eq := by
    intro q
    rw [hMade.get?_eq, get?_put]
    split
    · rfl
    · rename_i hOff
      rw [if_neg]
      rintro rfl
      exact hOff hWay

theorem makeBelow_spec
    {t made : FileTree}
    {a : Address}
    {names : List String}
    (hBase : t.get? (t.locate a) = some .directory)
    (hMade : t.makeBelow a names = .ok made) :
    t.IsMade made (t.locate a ++ names) := by
  induction names generalizing t a with
  | nil =>
      rw [List.append_nil]
      cases hMade
      exact isMade_self hBase
  | cons name rest ih =>
      rw [List.append_cons, ← locate_child]
      rw [makeBelow] at hMade
      split at hMade
      · rename_i hNext
        exact ih hNext hMade
      · cases hMade
      · rename_i hNext
        split at hMade
        · rename_i next hInsert
          rw [insert] at hInsert
          split at hInsert
          · rename_i hAdmits
            cases hInsert
            have hPlace :=
              locate_congr (home_put .directory hAdmits)
                (a.child name)
            have hMadeNext :=
              ih (by
                rw [hPlace, get?_put, if_pos (locate_child _ _ _)])
                hMade
            rw [hPlace] at hMadeNext
            rw [locate_child] at hNext hMadeNext ⊢
            exact hMadeNext.of_put hAdmits hNext
              (List.prefix_append _ _)
          · cases hInsert
        · cases hMade

theorem makeBelow_of_canMake
    {t : FileTree}
    {a : Address}
    {names : List String}
    (hBase : t.get? (t.locate a) = some .directory)
    (hNames : ∀ name ∈ names, IsName name)
    (hFree : t.CanMake (t.locate a ++ names)) :
    ∃ made, t.makeBelow a names = .ok made := by
  induction names generalizing t a with
  | nil => exact ⟨t, rfl⟩
  | cons name rest ih =>
      rw [List.append_cons, ← locate_child] at hFree
      have hRest : ∀ other ∈ rest, IsName other :=
        fun other hOther =>
          hNames other (List.mem_cons_of_mem _ hOther)
      rw [makeBelow]
      cases hNext : t.get? (t.locate (a.child name)) with
      | none =>
          have hAdmits : t.Admits (t.locate a) name := by
            refine ⟨hBase, hNames name List.mem_cons_self, ?_⟩
            rw [← locate_child, hNext]
            simp
          simp only [insert, dif_pos hAdmits]
          have hPlace :=
            locate_congr (home_put .directory hAdmits)
              (a.child name)
          apply ih _ hRest
          · rw [hPlace]
            intro q content hPrefix
            rw [get?_put]
            split
            · simp
            · exact hFree q content hPrefix
          · rw [hPlace, get?_put, if_pos (locate_child _ _ _)]
      | some entry =>
          cases entry with
          | directory => exact ih hNext hRest hFree
          | file content =>
              exact absurd hNext
                (hFree _ content (List.prefix_append _ _))

/- Directories that exist are not made. -/
theorem makeBelow_of_directory
    {t : FileTree}
    {a : Address}
    {names : List String}
    (hHeld : t.get? (t.locate a ++ names) = some .directory) :
    t.makeBelow a names = .ok t := by
  induction names generalizing a with
  | nil => rfl
  | cons name rest ih =>
      rw [List.append_cons, ← locate_child] at hHeld
      have hNext : t.get? (t.locate (a.child name)) =
          some .directory :=
        get?_of_isPrefix (List.prefix_append _ _) hHeld
      rw [makeBelow]
      simp only [hNext]
      exact ih hHeld

theorem makeDirectories_spec
    {t made : FileTree}
    {a : Address}
    (hStarts : t.Starts a)
    (hMade : t.makeDirectories a = .ok made) :
    t.IsMade made (t.locate a) := by
  rw [locate_eq_append t a.base a.names]
  exact makeBelow_spec hStarts.get?_base hMade

/- A directory is made unless a file is in its way. -/
theorem makeDirectories_of_canMake
    {t : FileTree}
    {a : Address}
    (hStarts : t.Starts a)
    (hLegal : a.IsLegal)
    (hFree : t.CanMake (t.locate a)) :
    ∃ made, t.makeDirectories a = .ok made := by
  rw [locate_eq_append t a.base a.names] at hFree
  exact makeBelow_of_canMake hStarts.get?_base hLegal hFree

theorem makeDirectories_of_directory
    {t : FileTree}
    {a : Address}
    (hHeld : t.get? (t.locate a) = some .directory) :
    t.makeDirectories a = .ok t := by
  rw [locate_eq_append t a.base a.names] at hHeld
  exact makeBelow_of_directory hHeld

------------------------------------------------------------
-- Writing Files
------------------------------------------------------------

section Writing

variable {t : FileTree}
variable {directory : Address}
variable {name : String}

theorem writeFile_of_admits
    (content : String)
    (hAdmits : t.Admits (t.locate directory) name) :
    t.writeFile directory name content =
      .ok (t.put (t.locate directory) name (.file content)
        hAdmits) := by
  rw [writeFile, insert, dif_pos hAdmits]
  rfl

/- A file does not take the place of a directory. -/
theorem writeFile_of_taken
    (content : String)
    (hDirectory : t.get? (t.locate directory) = some .directory)
    (hTaken :
      t.get? (t.locate directory ++ [name]) = some .directory) :
    t.writeFile directory name content =
      .error ⟨"open", (directory.child name).print,
        .isDirectory⟩ := by
  rw [writeFile, insert, dif_neg, obstacle, hDirectory]
  · rfl
  · exact fun hAdmits => hAdmits.2.2 hTaken

end Writing

end FileTree

end Project

end TemplateJsx
