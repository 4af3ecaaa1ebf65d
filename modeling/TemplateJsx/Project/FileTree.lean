import TemplateJsx.Project.Path

/-
  This file defines trees of files and what reading and
  writing them does. There are no links, so that every file
  has one place: the names that lead to it from the root
  of all files. Paths and addresses are taken from the
  working directory on, and several of them may lead to one
  place.

  A tree knows that each of its files has a name and lies in
  a directory of the tree.

  Key definitions include:
    * `Project.Place`
    * `Project.IsName`
    * `Project.FileTree`
    * `Project.FileTree.get?`
    * `Project.FileTree.insert`
    * `Project.FileTree.locate`
    * `Project.FileTree.find`
    * `Project.FileTree.readFile`
    * `Project.FileTree.makeDirectories`
    * `Project.FileTree.writeFile`
    * `Project.FileTree.below`
-/

------------------------------------------------------------
-- Errors
------------------------------------------------------------

namespace TemplateJsx

namespace Project

/- Why a file operation cannot be carried out. -/
inductive FileProblem where
  | missing
  | notDirectory
  | isDirectory
  deriving DecidableEq, Repr

/- The wording of a problem. -/
def FileProblem.message : FileProblem → String
  | .missing => "no such file or directory"
  | .notDirectory => "not a directory"
  | .isDirectory => "is a directory"

/- A file operation that could not be carried out. -/
structure FileError where
  operation : String
  path : String
  problem : FileProblem
  deriving DecidableEq, Repr

/- The wording of an error. -/
def FileError.message (e : FileError) : String :=
  e.operation ++ " " ++ e.path ++ ": " ++ e.problem.message

------------------------------------------------------------
-- Places
------------------------------------------------------------

/- The names from the root of all files down to a file. -/
abbrev Place :=
  List String

/- The place that a component of a path leads to. -/
def advance (p : Place) (component : String) : Place :=
  if component = "" ∨ component = "." then
    p
  else if component = ".." then
    p.dropLast
  else
    p ++ [component]

/- A name that a file can have in its directory. -/
def IsName (name : String) : Prop :=
  name ≠ "" ∧ name ≠ "." ∧ name ≠ ".." ∧ '/' ∉ name.toList

instance (name : String) : Decidable (IsName name) := by
  unfold IsName
  infer_instance

------------------------------------------------------------
-- Entries
------------------------------------------------------------

/- What a place can hold. -/
inductive FileEntry where
  | file (content : String)
  | directory
  deriving DecidableEq, Repr

/-
  What a place holds among some entries. The root of all
  files is a directory.
-/
def entryAt
    (entries : List (Place × FileEntry))
    (p : Place) : Option FileEntry :=
  if p = [] then
    some .directory
  else
    entries.lookup p

/- Enter something at a place, instead of its entry. -/
def putEntry
    (p : Place)
    (entry : FileEntry) :
    List (Place × FileEntry) → List (Place × FileEntry)
  | [] => [(p, entry)]
  | held :: rest =>
      if held.1 = p then
        (p, entry) :: rest
      else
        held :: putEntry p entry rest

theorem lookup_putEntry
    (p q : Place)
    (entry : FileEntry)
    (entries : List (Place × FileEntry)) :
    (putEntry p entry entries).lookup q =
      if q = p then some entry else entries.lookup q := by
  induction entries with
  | nil =>
      rw [putEntry, List.lookup_cons]
      split
      · rename_i hSame
        rw [if_pos (beq_iff_eq.mp hSame)]
      · rename_i hOther
        rw [if_neg (beq_eq_false_iff_ne.mp hOther)]
  | cons held rest ih =>
      rw [putEntry]
      split
      · rename_i hHeld
        rw [List.lookup_cons, List.lookup_cons, hHeld]
        split
        · rename_i hSame
          rw [if_pos (beq_iff_eq.mp hSame)]
        · rename_i hOther
          rw [if_neg (beq_eq_false_iff_ne.mp hOther)]
      · rename_i hHeld
        rw [List.lookup_cons, List.lookup_cons, ih]
        split
        · rename_i hSame
          rw [if_neg]
          rw [beq_iff_eq.mp hSame]
          exact hHeld
        · rfl

theorem entryAt_putEntry
    {p : Place}
    (q : Place)
    (entry : FileEntry)
    (entries : List (Place × FileEntry))
    (hBelow : p ≠ []) :
    entryAt (putEntry p entry entries) q =
      if q = p then some entry else entryAt entries q := by
  unfold entryAt
  by_cases hRoot : q = []
  · rw [if_pos hRoot, if_pos hRoot, if_neg]
    rw [hRoot]
    exact hBelow.symm
  · rw [if_neg hRoot, if_neg hRoot, lookup_putEntry]

/- Only the place that was written is new. -/
theorem mem_putEntry
    {p : Place}
    {entry : FileEntry}
    {entries : List (Place × FileEntry)}
    {held : Place × FileEntry}
    (hMember : held ∈ putEntry p entry entries) :
    held.1 = p ∨ held ∈ entries := by
  induction entries with
  | nil =>
      rw [List.mem_singleton.mp hMember]
      exact Or.inl rfl
  | cons first rest ih =>
      rw [putEntry] at hMember
      split at hMember
      · rcases List.mem_cons.mp hMember with rfl | hRest
        · exact Or.inl rfl
        · exact Or.inr (List.mem_cons_of_mem _ hRest)
      · rcases List.mem_cons.mp hMember with rfl | hRest
        · exact Or.inr List.mem_cons_self
        · rcases ih hRest with hSame | hOld
          · exact Or.inl hSame
          · exact Or.inr (List.mem_cons_of_mem _ hOld)

theorem nodup_putEntry
    (p : Place)
    (entry : FileEntry)
    {entries : List (Place × FileEntry)}
    (hDistinct : (entries.map Prod.fst).Nodup) :
    ((putEntry p entry entries).map Prod.fst).Nodup := by
  induction entries with
  | nil => simp [putEntry]
  | cons first rest ih =>
      rw [List.map_cons, List.nodup_cons] at hDistinct
      rw [putEntry]
      split
      · rename_i hFirst
        rw [List.map_cons, List.nodup_cons, ← hFirst]
        exact hDistinct
      · rename_i hFirst
        rw [List.map_cons, List.nodup_cons]
        refine ⟨?_, ih hDistinct.2⟩
        intro hMember
        rcases List.mem_map.mp hMember with ⟨held, hHeld, hSame⟩
        rcases mem_putEntry hHeld with hNew | hOld
        · exact hFirst (hSame.symm.trans hNew)
        · exact hDistinct.1
            (List.mem_map.mpr ⟨held, hOld, hSame⟩)

------------------------------------------------------------
-- Trees
------------------------------------------------------------

/-
  What is held where, and which place is the working
  directory. No place has two entries, and every entry
  has a name and lies in a directory.
-/
structure FileTree where
  home : Place
  entries : List (Place × FileEntry)
  distinct : (entries.map Prod.fst).Nodup
  rooted :
    ∀ held ∈ entries,
      IsName (held.1.getLastD "") ∧
        entryAt entries held.1.dropLast = some .directory
  deriving DecidableEq, Repr

namespace FileTree

/- A tree without files. -/
def empty : FileTree where
  home := []
  entries := []
  distinct := List.nodup_nil
  rooted := by
    intro held hHeld
    cases hHeld

/- What a place holds. -/
def get?
    (t : FileTree)
    (p : Place) : Option FileEntry :=
  entryAt t.entries p

/-
  Something can be entered under a name in a directory that
  exists, but not over a directory.
-/
def Admits
    (t : FileTree)
    (directory : Place)
    (name : String) : Prop :=
  t.get? directory = some .directory ∧ IsName name ∧
    t.get? (directory ++ [name]) ≠ some .directory

instance
    (t : FileTree)
    (directory : Place)
    (name : String) : Decidable (t.Admits directory name) := by
  unfold Admits
  infer_instance

/-
  Let a name in a directory hold something. What held other
  things stays in its directory, as no directory is lost.
-/
def put
    (t : FileTree)
    (directory : Place)
    (name : String)
    (entry : FileEntry)
    (hAdmits : t.Admits directory name) : FileTree where
  home := t.home
  entries := putEntry (directory ++ [name]) entry t.entries
  distinct := nodup_putEntry _ _ t.distinct
  rooted := by
    rcases hAdmits with ⟨hDirectory, hName, hFree⟩
    have hBelow : directory ++ [name] ≠ [] := by simp
    intro held hHeld
    rw [entryAt_putEntry _ _ _ hBelow]
    rcases mem_putEntry hHeld with hNew | hOld
    · rw [hNew, List.dropLast_concat, if_neg (by simp)]
      refine ⟨?_, hDirectory⟩
      rw [List.getLastD_concat]
      exact hName
    · rcases t.rooted held hOld with ⟨hHeldName, hParent⟩
      refine ⟨hHeldName, ?_⟩
      rw [if_neg]
      · exact hParent
      · intro hSame
        rw [hSame] at hParent
        exact hFree hParent

/- What stands in the way of entering something. -/
def obstacle
    (t : FileTree)
    (directory : Place) : FileProblem :=
  match t.get? directory with
  | none => .missing
  | some (.file _) => .notDirectory
  | some .directory => .isDirectory

/- Let a name in a directory hold something, if it can. -/
def insert
    (t : FileTree)
    (directory : Place)
    (name : String)
    (entry : FileEntry) : Except FileProblem FileTree :=
  if hAdmits : t.Admits directory name then
    .ok (t.put directory name entry hAdmits)
  else
    .error (t.obstacle directory)

/-
  The place of an address. There is nothing above the
  root of all files.
-/
def locate
    (t : FileTree)
    (a : Address) : Place :=
  match a.base with
  | .root => a.names
  | .above levels =>
      t.home.take (t.home.length - levels) ++ a.names

------------------------------------------------------------
-- Reading
------------------------------------------------------------

/-
  Follow the components of a path. Each has to be looked up
  in a directory.
-/
def follow
    (t : FileTree)
    (p : Place) :
    List String → Except FileProblem (Place × FileEntry)
  | [] =>
      match t.get? p with
      | some entry => .ok (p, entry)
      | none => .error .missing
  | component :: rest =>
      match t.get? p with
      | some .directory => follow t (advance p component) rest
      | some (.file _) => .error .notDirectory
      | none => .error .missing

/- What a path leads to. The empty path leads nowhere. -/
def find
    (t : FileTree)
    (path : String) :
    Except FileProblem (Place × FileEntry) :=
  if path = "" then
    .error .missing
  else
    t.follow (t.locate (startOf path)) (components path)

/- The content of a file. -/
def readFile
    (t : FileTree)
    (path : String) : Except FileError String :=
  match t.find path with
  | .ok (_, .file content) => .ok content
  | .ok (_, .directory) => .error ⟨"read", path, .isDirectory⟩
  | .error problem => .error ⟨"open", path, problem⟩

------------------------------------------------------------
-- Writing
------------------------------------------------------------

/- Make the directories on the way down from an address. -/
def makeBelow
    (t : FileTree)
    (a : Address) : List String → Except FileError FileTree
  | [] => .ok t
  | name :: rest =>
      let next := a.child name
      match t.get? (t.locate next) with
      | some .directory => makeBelow t next rest
      | some (.file _) =>
          .error ⟨"mkdir", next.print, .notDirectory⟩
      | none =>
          match t.insert (t.locate a) name .directory with
          | .ok made => makeBelow made next rest
          | .error problem =>
              .error ⟨"mkdir", next.print, problem⟩

/- Make a directory and the directories it lies in. -/
def makeDirectories
    (t : FileTree)
    (a : Address) : Except FileError FileTree :=
  t.makeBelow ⟨a.base, []⟩ a.names

/- Write a file in a directory. -/
def writeFile
    (t : FileTree)
    (directory : Address)
    (name : String)
    (content : String) : Except FileError FileTree :=
  (t.insert (t.locate directory) name (.file content)).mapError
    (⟨"open", (directory.child name).print, ·⟩)

------------------------------------------------------------
-- Walking
------------------------------------------------------------

/- The order in which a walk meets what lies below a place. -/
def meetsFirst : List String → List String → Bool
  | [], _ => true
  | _ :: _, [] => false
  | a :: as, b :: bs =>
      if a = b then meetsFirst as bs else decide (a < b)

/- The names from a directory down to a place below it. -/
def namesBelow?
    (directory : Place)
    (p : Place) : Option (List String) :=
  if directory.isPrefixOf p ∧ directory.length < p.length then
    some (p.drop directory.length)
  else
    none

/-
  Everything below a directory with the names that lead to
  it, each directory before what it holds and the names of a
  directory in order.
-/
def below
    (t : FileTree)
    (directory : Place) : List (List String × FileEntry) :=
  (t.entries.filterMap
    (fun (p, entry) =>
      (namesBelow? directory p).map (fun names => (names, entry)))
  ).mergeSort (fun x y => meetsFirst x.1 y.1)

end FileTree

end Project

end TemplateJsx
