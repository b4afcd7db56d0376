import Mathlib.Data.List.DropRight
import TableQuery.Files.Tree
import TableQuery.Proofs.Actions

/-!
# Making directories again

The directories of a path can be made again, once that has ended or the system has refused it: the
second attempt has a result as well, or the system refuses it.
-/

namespace TableQuery
namespace Files

/-! ## Nodes and places -/

@[simp] theorem Tree.node?_nil (tree : Tree) : tree.node? [] = some .directory := rfl

/-- A node that is put at a place leaves the others as they are. -/
theorem Tree.node?_put_of_ne
    (tree : Tree)
    {place other : List String}
    (different : place ≠ other)
    (node : Node) :
    (tree.put place node).node? other = tree.node? other := by
  cases other with
  | nil => rfl
  | cons name rest =>
      have elsewhere : ¬ Entry.standsAt ⟨place.length, place, node⟩ (name :: rest).length
          (name :: rest) := by
        simp [Entry.standsAt, different]
      simp only [Tree.node?, List.isEmpty_cons, Bool.false_eq_true, if_false, Tree.put,
        List.find?_cons, elsewhere]
      rw [List.find?_filter]
      congr 2
      funext entry
      by_cases here : entry.standsAt (name :: rest).length (name :: rest)
      · have moved : entry.standsAt place.length place = false := by
          simp only [Entry.standsAt, Bool.and_eq_true, beq_iff_eq] at here
          simp [Entry.standsAt, here.2, Ne.symm different]
        simp [moved]
      · rw [Bool.not_eq_true] at here
        simp only [here, Bool.false_eq_true, and_false, decide_false]

/-- A node that is put where no directory stands hides no directory. -/
theorem Tree.node?_put_of_directory
    {tree : Tree}
    {place other : List String}
    (free : tree.node? place ≠ some .directory)
    (node : Node)
    (stands : tree.node? other = some .directory) :
    (tree.put place node).node? other = some .directory := by
  have different : place ≠ other := by
    rintro rfl
    exact free stands
  rw [Tree.node?_put_of_ne tree different, stands]

@[simp] theorem Tree.node?_put
    (tree : Tree)
    {place : List String}
    (below : place ≠ [])
    (node : Node) :
    (tree.put place node).node? place = some node := by
  cases place with
  | nil => exact absurd rfl below
  | cons name rest => simp [Tree.node?, Tree.put, Entry.standsAt]

/-- Names are followed as before after a node is put where no directory stood. -/
theorem follow_put
    {tree : Tree}
    {place : List String}
    (free : tree.node? place ≠ some .directory)
    (node : Node)
    {names start found : List String}
    (followed : follow tree start names = .ok found) :
    follow (tree.put place node) start names = .ok found := by
  induction names generalizing start with
  | nil => exact followed
  | cons name rest inductionHypothesis =>
      rw [follow] at followed ⊢
      cases stands : tree.node? start with
      | none => simp [stands] at followed
      | some other =>
          cases other with
          | file content => simp [stands] at followed
          | directory =>
              rw [Tree.node?_put_of_directory free node stands]
              simp only [stands] at followed ⊢
              split at followed
              · simp at followed
              next short =>
                rw [if_neg short]
                split at followed
                next stays =>
                  rw [if_pos stays]
                  exact inductionHypothesis followed
                next moves =>
                  rw [if_neg moves]
                  split at followed
                  next climbs =>
                    rw [if_pos climbs]
                    exact inductionHypothesis followed
                  next descends =>
                    rw [if_neg descends]
                    exact inductionHypothesis followed

/-- Names are followed one part after the other. -/
theorem follow_append
    (tree : Tree)
    (start front back : List String) :
    follow tree start (front ++ back) =
      follow tree start front >>= fun place => follow tree place back := by
  induction front generalizing start with
  | nil => rfl
  | cons name rest inductionHypothesis =>
      simp only [List.cons_append, follow]
      cases tree.node? start with
      | none => rfl
      | some node =>
          cases node with
          | file content => rfl
          | directory =>
              by_cases long : nameLimit < name.utf8ByteSize
              · simp only [long, if_true]
                rfl
              · simp only [long, if_false, inductionHypothesis]
                by_cases stays : name = "" ∨ name = "."
                · simp only [stays, if_true]
                · simp only [if_neg stays]
                  by_cases climbs : name = ".."
                  · simp only [if_pos climbs]
                  · simp only [if_neg climbs]

/-- Only from a directory can a name be followed. -/
theorem node?_of_follow_cons
    {tree : Tree}
    {start found rest : List String}
    {name : String}
    (followed : follow tree start (name :: rest) = .ok found) :
    tree.node? start = some .directory := by
  rw [follow] at followed
  cases stands : tree.node? start with
  | none => simp [stands] at followed
  | some node =>
      cases node with
      | file content => simp [stands] at followed
      | directory => rfl

/-- Where names are followed to their end, so is each front of them. -/
theorem exists_of_follow_append
    {tree : Tree}
    {start front back found : List String}
    (followed : follow tree start (front ++ back) = .ok found) :
    ∃ place, follow tree start front = .ok place ∧ follow tree place back = .ok found := by
  rw [follow_append] at followed
  cases before : follow tree start front with
  | error trouble => simp [before, bind, Except.bind] at followed
  | ok place => exact ⟨place, rfl, by simpa [before, bind, Except.bind] using followed⟩

/-- The place before the last name is a directory, and a name that stays in place ends there. -/
theorem follow_concat
    {tree : Tree}
    {start names found : List String}
    {name : String}
    (followed : follow tree start (names ++ [name]) = .ok found) :
    ∃ place, follow tree start names = .ok place ∧ tree.node? place = some .directory ∧
      (name = "." → found = place) := by
  obtain ⟨place, reached, last⟩ := exists_of_follow_append followed
  have stands := node?_of_follow_cons last
  refine ⟨place, reached, stands, ?_⟩
  rintro rfl
  have stays : follow tree place ["."] = .ok place := by
    simp [follow, stands, (by decide : ¬ nameLimit < ".".utf8ByteSize)]
  rw [stays] at last
  exact (Except.ok.inj last).symm

/-! ## Paths and their last names -/

theorem splitOn_ne_nil
    (separator : Char)
    (chars : List Char) :
    splitOn separator chars ≠ [] := by
  cases chars with
  | nil => simp [splitOn]
  | cons c rest =>
      rw [splitOn]
      split
      · simp
      · split <;> simp

theorem splitOn_append
    (separator : Char)
    (front back : List Char) :
    splitOn separator (front ++ separator :: back) =
      splitOn separator front ++ splitOn separator back := by
  induction front with
  | nil => simp [splitOn]
  | cons c rest inductionHypothesis =>
      by_cases separates : c = separator
      · simp [splitOn, separates, inductionHypothesis]
      · simp only [List.cons_append, splitOn, separates, if_false, inductionHypothesis]
        cases found : splitOn separator rest with
        | nil => exact absurd found (splitOn_ne_nil separator rest)
        | cons part parts => rfl

/-- Characters without a separator are one part. -/
theorem splitOn_of_notMem
    {separator : Char}
    {chars : List Char}
    (whole : separator ∉ chars) :
    splitOn separator chars = [chars] := by
  induction chars with
  | nil => rfl
  | cons c rest inductionHypothesis =>
      simp only [List.mem_cons, not_or] at whole
      simp [splitOn, Ne.symm whole.1, inductionHypothesis whole.2]

/-- Separators in front of a name stand between empty parts. -/
theorem splitOn_replicate_append
    {separator : Char}
    {name : List Char}
    (whole : separator ∉ name)
    (count : Nat) :
    splitOn separator (List.replicate count separator ++ name) =
      List.replicate count [] ++ [name] := by
  induction count with
  | zero => exact splitOn_of_notMem whole
  | succ count inductionHypothesis =>
      simp [List.replicate_succ, splitOn, inductionHypothesis]

theorem toList_dropSlashes (path : String) :
    (dropSlashes path).toList = path.toList.rdropWhile (· == '/') := by
  rw [dropSlashes, String.toList_ofList, List.rdropWhile]

/-- Only slashes are dropped from the end of a path. -/
theorem dropSlashes_append (path : String) :
    ∃ count, (dropSlashes path).toList ++ List.replicate count '/' = path.toList := by
  have slashes : path.toList.rtakeWhile (· == '/') =
      List.replicate (path.toList.rtakeWhile (· == '/')).length '/' := by
    refine List.eq_replicate_iff.mpr ⟨rfl, fun c member => ?_⟩
    simpa using List.mem_rtakeWhile_imp member
  refine ⟨(path.toList.rtakeWhile (· == '/')).length, ?_⟩
  rw [toList_dropSlashes, ← slashes]
  exact List.rdropWhile_append_rtakeWhile

/-- A path without the slashes at its end has none to lose. -/
@[simp] theorem withoutSlashes_withoutSlashes (path : String) :
    withoutSlashes (withoutSlashes path) = withoutSlashes path := by
  have again : dropSlashes (dropSlashes path) = dropSlashes path := by
    rw [← String.toList_inj, toList_dropSlashes, toList_dropSlashes]
    exact List.rdropWhile_idempotent _ _
  by_cases root : dropSlashes path = "" <;> simp [withoutSlashes, root, again]

theorem splitLast_eq (path : String) :
    splitLast path =
      (withoutSlashes (String.ofList (path.toList.rdropWhile (· != '/'))),
        String.ofList (path.toList.rtakeWhile (· != '/'))) := rfl

theorem withoutSlashes_directoryOf (path : String) :
    withoutSlashes (directoryOf path) = directoryOf path := by
  rw [directoryOf, splitLast_eq]
  simp only [withoutSlashes_withoutSlashes]

/-- A path without slashes at its end is split once, even where it has no last name. -/
theorem parentAndName_of_trimmed
    {path : String}
    (trimmed : withoutSlashes path = path) :
    parentAndName path = splitLast path := by
  simp only [parentAndName]
  by_cases nameless : (splitLast path).2 = ""
  · have taken : path.toList.rtakeWhile (· != '/') = [] := by
      rw [splitLast_eq] at nameless
      simpa using congrArg String.toList nameless
    have parts : path.toList.rdropWhile (· != '/') ++ path.toList.rtakeWhile (· != '/') =
      path.toList := List.rdropWhile_append_rtakeWhile
    have same : (splitLast path).1 = path := by
      rw [taken, List.append_nil] at parts
      simp only [splitLast_eq, parts, String.ofList_toList, trimmed]
    rw [if_pos nameless, same]
  · rw [if_neg nameless]

/-- The part of a path before its last name loses a slash, unless it is empty. -/
theorem rdropWhile_eq_nil_of_dropSlashes
    {chars : List Char}
    (kept : (dropSlashes (String.ofList (chars.rdropWhile (· != '/')))).toList =
      chars.rdropWhile (· != '/')) :
    chars.rdropWhile (· != '/') = [] := by
  rw [toList_dropSlashes, String.toList_ofList] at kept
  by_contra nonempty
  have slashLast := List.rdropWhile_last_not (· != '/') chars nonempty
  exact List.rdropWhile_eq_self_iff.mp kept nonempty (by simpa using slashLast)

/-- What `splitLast` leaves out between a parent and a name are slashes; a parent that is nothing
but slashes is the root. -/
theorem toList_eq_of_splitLast
    {path parent name : String}
    (split : splitLast path = (parent, name)) :
    '/' ∉ name.toList ∧
      ((∃ gap, path.toList = parent.toList ++ '/' :: (List.replicate gap '/' ++ name.toList)) ∨
        ∃ count, parent.toList = List.replicate count '/' ∧
          path.toList = List.replicate count '/' ++ name.toList) := by
  have parts : path.toList.rdropWhile (· != '/') ++ path.toList.rtakeWhile (· != '/') =
    path.toList := List.rdropWhile_append_rtakeWhile
  rw [splitLast_eq, Prod.mk.injEq] at split
  obtain ⟨parentIs, rfl⟩ := split
  rw [String.toList_ofList]
  generalize left : path.toList.rdropWhile (· != '/') = before at parts parentIs
  obtain ⟨count, dropped⟩ := dropSlashes_append (String.ofList before)
  rw [String.toList_ofList] at dropped
  refine ⟨fun member => by simpa using List.mem_rtakeWhile_imp member, ?_⟩
  generalize path.toList.rtakeWhile (· != '/') = last at parts ⊢
  by_cases root : dropSlashes (String.ofList before) = ""
  · rw [withoutSlashes, if_pos root] at parentIs
    rw [root, String.toList_empty, List.nil_append] at dropped
    refine .inr ⟨count, ?_, ?_⟩
    · rw [← parentIs, String.toList_ofList, ← dropped]
    · rw [dropped, parts]
  · rw [withoutSlashes, if_neg root] at parentIs
    rw [parentIs] at dropped root
    cases count with
    | zero =>
        rw [List.replicate_zero, List.append_nil] at dropped
        have empty : before = [] := by
          subst left
          exact rdropWhile_eq_nil_of_dropSlashes (by rw [parentIs, dropped])
        rw [empty, String.toList_eq_nil_iff] at dropped
        exact absurd dropped root
    | succ gap =>
        refine .inl ⟨gap, ?_⟩
        rw [← parts, ← dropped, List.replicate_succ, List.append_assoc, List.cons_append]

/-! ## Parents of paths that lead somewhere -/

theorem locate_eq_ok_iff
    {tree : Tree}
    {directory place : List String}
    {path : String} :
    locate tree directory path = .ok place ↔
      '\x00' ∉ path.toList ∧ path ≠ "" ∧ path.utf8ByteSize ≤ pathLimit ∧
        follow tree (if isAbsolute path then [] else directory) (names path) = .ok place := by
  unfold locate
  by_cases nul : path.toList.contains '\x00'
  · simp_all
  · by_cases empty : path = ""
    · simp [empty]
    · by_cases long : pathLimit < path.utf8ByteSize
      · simp_all [Nat.not_le.mpr long]
      · simp_all [Nat.not_lt.mpr]

/-- A path leads where it led before after a node is put where no directory stood. -/
theorem locate_put
    {tree : Tree}
    {directory place found : List String}
    {path : String}
    (free : tree.node? place ≠ some .directory)
    (node : Node)
    (located : locate tree directory path = .ok found) :
    locate (tree.put place node) directory path = .ok found := by
  obtain ⟨noNul, nonempty, short, followed⟩ := locate_eq_ok_iff.mp located
  exact locate_eq_ok_iff.mpr ⟨noNul, nonempty, short, follow_put free node followed⟩

/-- Empty names at the root stay there. -/
theorem follow_root (tree : Tree) (count : Nat) :
    follow tree [] (List.replicate count "") = .ok [] := by
  induction count with
  | zero => rfl
  | succ count inductionHypothesis =>
      rw [List.replicate_succ, follow]
      simpa [nameLimit] using inductionHypothesis

/-- The names of a path are those of its parent, empty ones, and the last one. -/
theorem names_of_append
    {path parent name : String}
    (whole : '/' ∉ name.toList)
    {gap : Nat}
    (joined : path.toList = parent.toList ++ '/' :: (List.replicate gap '/' ++ name.toList)) :
    names path = names parent ++ (List.replicate gap "" ++ [name]) := by
  rw [names, joined, splitOn_append, splitOn_replicate_append whole]
  simp [names]

theorem names_of_root
    {path name : String}
    (whole : '/' ∉ name.toList)
    {count : Nat}
    (joined : path.toList = List.replicate count '/' ++ name.toList) :
    names path = List.replicate count "" ++ [name] := by
  rw [names, joined, splitOn_replicate_append whole]
  simp

/-- A path begins with its parent. -/
theorem exists_eq_append_of_splitLast
    {path parent name : String}
    (split : splitLast path = (parent, name)) :
    ∃ rest, path = parent ++ String.ofList rest := by
  obtain ⟨_, ⟨gap, joined⟩ | ⟨count, root, joined⟩⟩ := toList_eq_of_splitLast split
  · refine ⟨'/' :: (List.replicate gap '/' ++ name.toList), ?_⟩
    rw [← String.toList_inj, joined, String.toList_append, String.toList_ofList]
  · refine ⟨name.toList, ?_⟩
    rw [← String.toList_inj, joined, String.toList_append, String.toList_ofList, root]

theorem isAbsolute_append
    {front : String}
    (nonempty : front ≠ "")
    (back : String) :
    isAbsolute (front ++ back) = isAbsolute front := by
  rw [isAbsolute, isAbsolute, String.toList_append]
  cases chars : front.toList with
  | nil => exact absurd (String.toList_eq_nil_iff.mp chars) nonempty
  | cons c rest => rfl

/-- The last name of a path is the last of its names. -/
theorem exists_names_eq_concat
    {path parent name : String}
    (split : splitLast path = (parent, name)) :
    ∃ front, names path = front ++ [name] := by
  obtain ⟨whole, ⟨gap, joined⟩ | ⟨count, _, joined⟩⟩ := toList_eq_of_splitLast split
  · exact ⟨_, by rw [names_of_append whole joined, ← List.append_assoc]⟩
  · exact ⟨_, names_of_root whole joined⟩

/-- Where the names of a path can be followed, those of its parent lead to a directory. -/
theorem exists_directory_of_follow_names
    {tree : Tree}
    {directory place : List String}
    {path parent name : String}
    (split : splitLast path = (parent, name))
    (below : parent ≠ "")
    (followed : follow tree (if isAbsolute parent then [] else directory) (names path) =
      .ok place) :
    ∃ before,
      follow tree (if isAbsolute parent then [] else directory) (names parent) = .ok before ∧
        tree.node? before = some .directory := by
  obtain ⟨whole, ⟨gap, joined⟩ | ⟨count, root, _⟩⟩ := toList_eq_of_splitLast split
  · rw [names_of_append whole joined] at followed
    obtain ⟨before, reached, rest⟩ := exists_of_follow_append followed
    refine ⟨before, reached, ?_⟩
    cases gap with
    | zero => exact node?_of_follow_cons rest
    | succ gap => exact node?_of_follow_cons rest
  · have parentNames : names parent = List.replicate count "" ++ [""] :=
      names_of_root (by simp) (by simpa using root)
    have absolute : isAbsolute parent := by
      cases count with
      | zero => exact absurd (String.toList_eq_nil_iff.mp root) below
      | succ count => simp [isAbsolute, root, List.replicate_succ]
    refine ⟨[], ?_, rfl⟩
    rw [parentNames, ← List.replicate_succ', if_pos absolute, follow_root]

/-- A path that leads somewhere has a directory as its parent, and leads to it if its last name
stays in place. -/
theorem find?_parent
    {tree : Tree}
    {directory place : List String}
    {path : String}
    (below : (splitLast path).1 ≠ "")
    (located : locate tree directory path = .ok place) :
    find? tree directory (splitLast path).1 = some .directory ∧
      ((splitLast path).2 = "." → tree.node? place = some .directory) := by
  generalize split : splitLast path = parts at below ⊢
  obtain ⟨parent, name⟩ := parts
  simp only at below ⊢
  obtain ⟨noNul, _, short, followed⟩ := locate_eq_ok_iff.mp located
  constructor
  · obtain ⟨rest, joined⟩ := exists_eq_append_of_splitLast split
    have noNulAbove : '\x00' ∉ parent.toList := by
      intro member
      exact noNul (by simp [joined, member])
    have shorter : parent.utf8ByteSize ≤ pathLimit := by
      rw [joined, String.utf8ByteSize_append] at short
      omega
    have sameStart : isAbsolute path = isAbsolute parent := by
      rw [joined, isAbsolute_append below]
    rw [sameStart] at followed
    obtain ⟨before, reached, stands⟩ := exists_directory_of_follow_names split below followed
    rw [find?, locate_eq_ok_iff.mpr ⟨noNulAbove, below, shorter, reached⟩]
    exact stands
  · intro stays
    obtain ⟨front, pathNames⟩ := exists_names_eq_concat split
    rw [pathNames] at followed
    obtain ⟨before, _, stands, same⟩ := follow_concat followed
    rw [same stays]
    exact stands

/-- Names cannot be followed for a reason of the system. -/
theorem follow_error
    {tree : Tree}
    {start names : List String}
    {trouble : Trouble}
    (lost : follow tree start names = .error trouble) :
    trouble ≠ .exists ∧ trouble.isSystem := by
  induction names generalizing start with
  | nil => simp [follow] at lost
  | cons name rest inductionHypothesis =>
      rw [follow] at lost
      cases stands : tree.node? start with
      | none =>
          obtain rfl : Trouble.missing = trouble := by simpa [stands] using lost
          decide
      | some node =>
          cases node with
          | file content =>
              obtain rfl : Trouble.notDirectory = trouble := by simpa [stands] using lost
              decide
          | directory =>
              simp only [stands] at lost
              split at lost
              · obtain rfl := Except.error.inj lost
                decide
              · split at lost
                · exact inductionHypothesis lost
                · split at lost <;> exact inductionHypothesis lost

/-- A path cannot be followed for a reason of the system, unless it holds a NUL character. -/
theorem locate_error
    {tree : Tree}
    {directory : List String}
    {path : String}
    {trouble : Trouble}
    (lost : locate tree directory path = .error trouble) :
    trouble ≠ .exists ∧ ('\x00' ∉ path.toList → trouble.isSystem) := by
  unfold locate at lost
  split at lost
  next nul =>
      obtain rfl := Except.error.inj lost
      exact ⟨by decide, fun noNul => absurd (by simpa using nul) noNul⟩
  next =>
      split at lost
      · obtain rfl := Except.error.inj lost
        exact ⟨by decide, fun _ => by decide⟩
      · split at lost
        · obtain rfl := Except.error.inj lost
          exact ⟨by decide, fun _ => by decide⟩
        · obtain ⟨other, system⟩ := follow_error lost
          exact ⟨other, fun _ => system⟩

/-- A path that leads somewhere holds no NUL character. -/
theorem nul_notMem_of_find?
    {tree : Tree}
    {directory : List String}
    {path : String}
    (found : find? tree directory path ≠ none) :
    '\x00' ∉ path.toList := by
  cases located : locate tree directory path with
  | error trouble => simp [find?, located] at found
  | ok place => exact (locate_eq_ok_iff.mp located).1

theorem nul_mem_of_splitLast
    {path : String}
    (member : '\x00' ∈ path.toList) :
    '\x00' ∈ (splitLast path).1.toList ∨ '\x00' ∈ (splitLast path).2.toList := by
  generalize split : splitLast path = parts
  obtain ⟨parent, name⟩ := parts
  obtain ⟨_, ⟨gap, joined⟩ | ⟨count, root, joined⟩⟩ := toList_eq_of_splitLast split
  · simpa [joined] using member
  · simpa [root, joined] using member

/-! ## Runs of operations -/

theorem runFrom_makeDirectory
    (directory : List String)
    (path : String)
    (tree : Tree) :
    (makeDirectory directory path).runFrom tree =
      match locate tree directory (withoutSlashes path) with
      | .error trouble => (.error ⟨trouble, path⟩, tree)
      | .ok place =>
        match tree.node? place with
        | some _ => (.error ⟨.exists, path⟩, tree)
        | none => (.ok (), tree.put place .directory) := by
  unfold makeDirectory
  rw [ExceptT.runFrom_bind, ExceptT.runFrom_get]
  cases located : locate tree directory (withoutSlashes path) with
  | error trouble => simp [located]
  | ok place => cases stands : tree.node? place <;> simp [located, stands]

/-- Makes a directory in a directory that exists, unless it is there. -/
def ensureDirectory (directory : List String) (path : String) : Operation Unit :=
  tryCatch (makeDirectory directory path) fun error => do
    if isDirectory (← get) directory path then pure () else throw error

/-- Whether the directories above a path have to be made before it. -/
def LacksParent (tree : Tree) (directory : List String) (path : String) : Prop :=
  (parentAndName path).1 ≠ "" ∧ (parentAndName path).2 ≠ "" ∧
    (find? tree directory (parentAndName path).1).isNone

theorem runFrom_ensureDirectory
    (directory : List String)
    (path : String)
    (tree : Tree) :
    (ensureDirectory directory path).runFrom tree =
      match (makeDirectory directory path).runFrom tree with
      | (.ok (), after) => (.ok (), after)
      | (.error error, after) =>
        if isDirectory after directory path then (.ok (), after) else (.error error, after) := by
  unfold ensureDirectory
  rw [ExceptT.runFrom_tryCatch]
  rcases (makeDirectory directory path).runFrom tree with ⟨error | _, after⟩
  · by_cases there : isDirectory after directory path <;> simp [ExceptT.runFrom_bind, there]
  · rfl

/-- Below a parent that is found the directory itself is made. -/
theorem runFrom_makeDirectoriesWithin_of_parent
    {directory : List String}
    {path : String}
    {tree : Tree}
    (found : ¬ LacksParent tree directory path)
    (bound : Nat) :
    (makeDirectoriesWithin directory (bound + 1) path).runFrom tree =
      (ensureDirectory directory path).runFrom tree := by
  unfold LacksParent at found
  rw [makeDirectoriesWithin, ExceptT.runFrom_bind, ExceptT.runFrom_get]
  simp only [found, if_false, false_and]
  rfl

/-- The directories above are made first; one that is there as a file is passed over. -/
theorem runFrom_makeDirectoriesWithin_of_lacksParent
    {directory : List String}
    {path : String}
    {tree : Tree}
    (lacks : LacksParent tree directory path)
    (bound : Nat) :
    (makeDirectoriesWithin directory (bound + 1) path).runFrom tree =
      match (makeDirectoriesWithin directory bound (parentAndName path).1).runFrom tree with
      | (.ok (), after) =>
        if (parentAndName path).2 = "." then (.ok (), after)
        else (ensureDirectory directory path).runFrom after
      | (.error error, after) =>
        if error.trouble = .exists then
          if (parentAndName path).2 = "." then (.ok (), after)
          else (ensureDirectory directory path).runFrom after
        else (.error error, after) := by
  unfold LacksParent at lacks
  rw [makeDirectoriesWithin, ExceptT.runFrom_bind, ExceptT.runFrom_get]
  simp only [lacks, if_true, true_and, ne_eq, not_false_eq_true]
  rw [ExceptT.runFrom_bind, ExceptT.runFrom_tryCatch]
  rcases (makeDirectoriesWithin directory bound (parentAndName path).1).runFrom tree with
    ⟨error | _, after⟩
  · by_cases passed : error.trouble = .exists <;>
      by_cases stays : (parentAndName path).2 = "." <;> simp [passed, stays, ensureDirectory]
  · by_cases stays : (parentAndName path).2 = "." <;> simp [stays, ensureDirectory]

/-! ## Trying again -/

/-- A directory that is made, or was there, is found; otherwise nothing changes. -/
theorem ensureDirectory_cases
    {path : String}
    (trimmed : withoutSlashes path = path)
    (directory : List String)
    (tree : Tree) :
    (∃ after, (ensureDirectory directory path).runFrom tree = (.ok (), after) ∧
        find? after directory path = some .directory) ∨
      ∃ trouble, (ensureDirectory directory path).runFrom tree = (.error ⟨trouble, path⟩, tree) ∧
        ((trouble = .exists ∧ ∃ content, find? tree directory path = some (.file content)) ∨
          locate tree directory path = .error trouble) := by
  rw [runFrom_ensureDirectory, runFrom_makeDirectory, trimmed]
  cases located : locate tree directory path with
  | error trouble =>
      have lost : isDirectory tree directory path = false := by
        simp [isDirectory, find?, located]
      exact .inr ⟨trouble, by simp [lost], .inr rfl⟩
  | ok place =>
      cases stands : tree.node? place with
      | none =>
          have free : tree.node? place ≠ some .directory := by simp [stands]
          have below : place ≠ [] := by
            rintro rfl
            simp at stands
          have again := locate_put free .directory located
          refine .inl ⟨tree.put place .directory, by simp [stands], ?_⟩
          rw [find?, again]
          exact Tree.node?_put tree below .directory
      | some node =>
          have found : find? tree directory path = some node := by simp [find?, located, stands]
          cases node with
          | directory =>
              have there : isDirectory tree directory path := by simp [isDirectory, found]
              exact .inl ⟨tree, by simp [stands, there], found⟩
          | file content =>
              have elsewhere : isDirectory tree directory path = false := by
                simp [isDirectory, found]
              exact .inr ⟨.exists, by simp [stands, elsewhere], .inl ⟨rfl, content, found⟩⟩

/-- The parent of a path has no slashes at its end. -/
theorem withoutSlashes_parent
    {path : String}
    (trimmed : withoutSlashes path = path) :
    withoutSlashes (parentAndName path).1 = (parentAndName path).1 := by
  rw [parentAndName_of_trimmed trimmed]
  exact withoutSlashes_directoryOf path

/-- A path below one that leads nowhere leads nowhere. -/
theorem find?_of_lost_parent
    {tree : Tree}
    {directory : List String}
    {path : String}
    (trimmed : withoutSlashes path = path)
    (below : (parentAndName path).1 ≠ "")
    (lost : find? tree directory (parentAndName path).1 = none) :
    find? tree directory path = none := by
  rw [parentAndName_of_trimmed trimmed] at below lost
  cases located : locate tree directory path with
  | error trouble => simp [find?, located]
  | ok place =>
      rw [(find?_parent below located).1] at lost
      simp at lost

/-- A path that leads somewhere does not lack its parent. -/
theorem not_lacksParent
    {tree : Tree}
    {directory : List String}
    {path : String}
    (trimmed : withoutSlashes path = path)
    (found : find? tree directory path ≠ none) :
    ¬ LacksParent tree directory path := by
  rintro ⟨below, _, lost⟩
  exact found (find?_of_lost_parent trimmed below (Option.isNone_iff_eq_none.mp lost))

/-- Where a path leads somewhere, nothing is made. -/
theorem runFrom_makeDirectoriesWithin_of_found
    {directory : List String}
    {path : String}
    {tree : Tree}
    (trimmed : withoutSlashes path = path)
    {node : Node}
    (found : find? tree directory path = some node)
    (bound : Nat) :
    (makeDirectoriesWithin directory (bound + 1) path).runFrom tree =
      match node with
      | .directory => (.ok (), tree)
      | .file _ => (.error ⟨.exists, path⟩, tree) := by
  rw [runFrom_makeDirectoriesWithin_of_parent (not_lacksParent trimmed (by simp [found])),
    runFrom_ensureDirectory, runFrom_makeDirectory, trimmed]
  cases located : locate tree directory path with
  | error trouble => simp [find?, located] at found
  | ok place =>
      have stands : tree.node? place = some node := by simpa [find?, located] using found
      cases node <;> simp [stands, isDirectory, found]

/-- A directory that cannot be ensured is not there, and the tree stays as it was. -/
theorem find?_of_ensureDirectory_error
    {directory : List String}
    {path : String}
    (trimmed : withoutSlashes path = path)
    {tree after : Tree}
    {error : FileError}
    (ran : (ensureDirectory directory path).runFrom tree = (.error error, after)) :
    after = tree ∧ find? after directory path ≠ some .directory ∧
      (error.trouble ≠ .exists → find? after directory path = none) := by
  rcases ensureDirectory_cases trimmed directory tree with
    ⟨last, made, _⟩ | ⟨trouble, failed, cause⟩
  · simp [made] at ran
  · obtain ⟨rfl, rfl⟩ : ⟨trouble, path⟩ = error ∧ tree = after := by simpa [failed] using ran
    refine ⟨rfl, ?_⟩
    rcases cause with ⟨rfl, content, found⟩ | lost
    · simp [found]
    · simp [find?, lost]

/-- A directory that is not there after it was ensured could not be made. -/
theorem error_of_ensureDirectory_lost
    {directory : List String}
    {path : String}
    (trimmed : withoutSlashes path = path)
    {tree after : Tree}
    {result : Except FileError Unit}
    (ran : (ensureDirectory directory path).runFrom tree = (result, after))
    (lost : find? after directory path = none) :
    after = tree ∧ ∃ error, result = .error error ∧ error.trouble ≠ .exists := by
  rcases ensureDirectory_cases trimmed directory tree with
    ⟨last, made, found⟩ | ⟨trouble, failed, cause⟩
  · obtain ⟨_, rfl⟩ : .ok () = result ∧ last = after := by simpa [made] using ran
    simp [found] at lost
  · obtain ⟨rfl, rfl⟩ : .error ⟨trouble, path⟩ = result ∧ tree = after := by
      simpa [failed] using ran
    refine ⟨rfl, _, rfl, ?_⟩
    rcases cause with ⟨rfl, content, found⟩ | located
    · simp [found] at lost
    · exact (locate_error located).1

/-- Whether the system refuses an operation, for another reason than that something is there. -/
def IsRefused (operation : Operation Unit) (tree : Tree) : Prop :=
  ∃ error last, operation.runFrom tree = (.error error, last) ∧
    error.trouble ≠ .exists ∧ error.trouble.isSystem

/-- Below a path that leads somewhere, a name that stays in place can only be refused by the
system. -/
theorem ensureDirectory_of_stays
    {directory : List String}
    {path : String}
    (trimmed : withoutSlashes path = path)
    {tree : Tree}
    (below : (parentAndName path).1 ≠ "")
    (stays : (parentAndName path).2 = ".")
    (foundAbove : find? tree directory (parentAndName path).1 ≠ none)
    (lost : find? tree directory path = none) :
    IsRefused (ensureDirectory directory path) tree := by
  rw [parentAndName_of_trimmed trimmed] at below stays foundAbove
  cases located : locate tree directory path with
  | ok place =>
      have stands := (find?_parent below located).2 stays
      simp [find?, located, stands] at lost
  | error trouble =>
      have elsewhere : isDirectory tree directory path = false := by
        simp [isDirectory, find?, located]
      have noNul : '\x00' ∉ path.toList := by
        intro member
        rcases nul_mem_of_splitLast member with inParent | inName
        · exact nul_notMem_of_find? foundAbove inParent
        · rw [stays] at inName
          simp at inName
      refine ⟨⟨trouble, path⟩, tree, ?_, (locate_error located).1, (locate_error located).2 noNul⟩
      simp [runFrom_ensureDirectory, runFrom_makeDirectory, trimmed, located, elsewhere]

/-- Either the directories above cannot be made, or the directory itself is made after them, unless
its name stays in place. -/
theorem makeDirectoriesWithin_cases
    {directory : List String}
    {bound : Nat}
    {path : String}
    {tree after : Tree}
    {result : Except FileError Unit}
    (lacks : LacksParent tree directory path)
    (ran : (makeDirectoriesWithin directory (bound + 1) path).runFrom tree = (result, after)) :
    (∃ error, result = .error error ∧ error.trouble ≠ .exists ∧
        (makeDirectoriesWithin directory bound (parentAndName path).1).runFrom tree =
          (.error error, after)) ∨
      ∃ above middle,
        (makeDirectoriesWithin directory bound (parentAndName path).1).runFrom tree =
          (above, middle) ∧
        (∀ error, above = .error error → error.trouble = .exists) ∧
        ((parentAndName path).2 = "." ∧ result = .ok () ∧ after = middle ∨
          (parentAndName path).2 ≠ "." ∧
            (ensureDirectory directory path).runFrom middle = (result, after)) := by
  rw [runFrom_makeDirectoriesWithin_of_lacksParent lacks] at ran
  rcases made : (makeDirectoriesWithin directory bound (parentAndName path).1).runFrom tree with
    ⟨error | _, middle⟩
  · by_cases passed : error.trouble = .exists
    · refine .inr ⟨_, _, rfl, by simpa using passed, ?_⟩
      by_cases stays : (parentAndName path).2 = "." <;>
        simp only [made, passed, stays, if_true, if_false] at ran
      · simp_all
      · exact .inr ⟨stays, ran⟩
    · simp only [made, passed, if_false, Prod.mk.injEq] at ran
      exact .inl ⟨error, ran.1.symm, passed, by rw [ran.2]⟩
  · refine .inr ⟨_, _, rfl, by simp, ?_⟩
    by_cases stays : (parentAndName path).2 = "." <;>
      simp only [made, stays, if_true, if_false] at ran
    · simp_all
    · exact .inr ⟨stays, ran⟩

/-- Where making directories fails, the path leads to no directory, and nowhere at all unless
something is there. -/
theorem find?_of_makeDirectoriesWithin_error
    {directory : List String}
    {bound : Nat}
    {path : String}
    (trimmed : withoutSlashes path = path)
    {tree after : Tree}
    {error : FileError}
    (ran : (makeDirectoriesWithin directory bound path).runFrom tree = (.error error, after))
    (system : error.trouble.isSystem) :
    find? after directory path ≠ some .directory ∧
      (error.trouble ≠ .exists → find? after directory path = none) := by
  induction bound generalizing path error after with
  | zero =>
      obtain ⟨rfl, rfl⟩ : ⟨.tooDeep, path⟩ = error ∧ tree = after := by
        simpa [makeDirectoriesWithin] using ran
      exact absurd system (by decide : ¬ Trouble.tooDeep.isSystem)
  | succ bound inductionHypothesis =>
      by_cases lacks : LacksParent tree directory path
      · rcases makeDirectoriesWithin_cases lacks ran with
          ⟨cause, same, other, failed⟩ | ⟨above, middle, _, _, ⟨_, made, _⟩ | ⟨_, ensured⟩⟩
        · obtain rfl := Except.error.inj same
          have lostAbove := (inductionHypothesis (withoutSlashes_parent trimmed) failed system).2 other
          have lost := find?_of_lost_parent trimmed lacks.1 lostAbove
          simp [lost]
        · simp at made
        · exact (find?_of_ensureDirectory_error trimmed ensured).2
      · rw [runFrom_makeDirectoriesWithin_of_parent lacks] at ran
        exact (find?_of_ensureDirectory_error trimmed ran).2

/-- The directories of a path are refused where those above it are, and the directory itself where
it has a parent. -/
theorem isRefused_makeDirectoriesWithin
    {directory : List String}
    {bound : Nat}
    {path : String}
    {tree : Tree}
    (above : LacksParent tree directory path →
      IsRefused (makeDirectoriesWithin directory bound (parentAndName path).1) tree)
    (here : ¬ LacksParent tree directory path → IsRefused (ensureDirectory directory path) tree) :
    IsRefused (makeDirectoriesWithin directory (bound + 1) path) tree := by
  by_cases lacks : LacksParent tree directory path
  · obtain ⟨error, last, failed, other, system⟩ := above lacks
    refine ⟨error, last, ?_, other, system⟩
    simp [runFrom_makeDirectoriesWithin_of_lacksParent lacks, failed, other]
  · obtain ⟨error, last, failed, other, system⟩ := here lacks
    exact ⟨error, last, by rw [runFrom_makeDirectoriesWithin_of_parent lacks, failed], other, system⟩

/-- Where a path leads nowhere although its directories have been made, or the system has refused
to make them, the system refuses to make them again. -/
theorem makeDirectoriesWithin_again_of_lost
    {directory : List String}
    {bound : Nat}
    {path : String}
    (trimmed : withoutSlashes path = path)
    {tree after : Tree}
    {result : Except FileError Unit}
    (ran : (makeDirectoriesWithin directory bound path).runFrom tree = (result, after))
    (system : ∀ error, result = .error error → error.trouble.isSystem)
    (lost : find? after directory path = none) :
    IsRefused (makeDirectoriesWithin directory bound path) after := by
  induction bound generalizing path result after with
  | zero =>
      obtain ⟨rfl, rfl⟩ : .error ⟨.tooDeep, path⟩ = result ∧ tree = after := by
        simpa [makeDirectoriesWithin] using ran
      exact absurd (system _ rfl) (by decide : ¬ Trouble.tooDeep.isSystem)
  | succ bound inductionHypothesis =>
      have parentTrimmed := withoutSlashes_parent trimmed
      by_cases lacks : LacksParent tree directory path
      · rcases makeDirectoriesWithin_cases lacks ran with
          ⟨error, rfl, other, failed⟩ | ⟨above, middle, ranAbove, passed, last⟩
        · have missing := (find?_of_makeDirectoriesWithin_error parentTrimmed failed
            (system _ rfl)).2 other
          have stillLacks : LacksParent after directory path :=
            ⟨lacks.1, lacks.2.1, Option.isNone_iff_eq_none.mpr missing⟩
          exact isRefused_makeDirectoriesWithin
            (fun _ => inductionHypothesis parentTrimmed failed system missing)
            (fun found => absurd stillLacks found)
        · -- Nothing was made after the directories above, so they are tried again in the same tree.
          obtain ⟨rfl, here⟩ : after = middle ∧ (¬ LacksParent after directory path →
              IsRefused (ensureDirectory directory path) after) := by
            rcases last with ⟨stays, _, rfl⟩ | ⟨_, ensured⟩
            · refine ⟨rfl, fun found => ensureDirectory_of_stays trimmed lacks.1 stays ?_ lost⟩
              exact fun missing =>
                found ⟨lacks.1, lacks.2.1, Option.isNone_iff_eq_none.mpr missing⟩
            · obtain ⟨rfl, error, rfl, other⟩ := error_of_ensureDirectory_lost trimmed ensured lost
              exact ⟨rfl, fun _ => ⟨error, after, ensured, other, system error rfl⟩⟩
          refine isRefused_makeDirectoriesWithin (fun still => ?_) here
          have missing := Option.isNone_iff_eq_none.mp still.2.2
          refine inductionHypothesis parentTrimmed ranAbove (fun error failed => ?_) missing
          rw [passed error failed]
          decide
      · rw [runFrom_makeDirectoriesWithin_of_parent lacks] at ran
        obtain ⟨rfl, error, rfl, other⟩ := error_of_ensureDirectory_lost trimmed ran lost
        exact isRefused_makeDirectoriesWithin (fun still => absurd still lacks)
          (fun _ => ⟨error, after, ran, other, system error rfl⟩)

/-- Where there is room for a directory and a path leads somewhere, nothing is made above it
either. -/
theorem runFrom_makeDirectories_of_found
    {directory : List String}
    {path : String}
    {tree : Tree}
    (trimmed : withoutSlashes path = path)
    {node : Node}
    (found : find? tree directory path = some node)
    {nesting : Nat}
    (room : 0 < nesting) :
    (makeDirectories directory path nesting).runFrom tree =
      match node with
      | .directory => (.ok (), tree)
      | .file _ => (.error ⟨.exists, path⟩, tree) := by
  obtain ⟨bound, rfl⟩ := Nat.exists_eq_succ_of_ne_zero (Nat.ne_of_gt room)
  exact runFrom_makeDirectoriesWithin_of_found trimmed found bound

/-- What the system lets end had room. -/
theorem pos_of_makeDirectories
    {directory : List String}
    {path : String}
    {nesting : Nat}
    {tree after : Tree}
    {result : Except FileError Unit}
    (ran : (makeDirectories directory path nesting).runFrom tree = (result, after))
    (system : ∀ error, result = .error error → error.trouble.isSystem) :
    0 < nesting := by
  rcases nesting with _ | bound
  · have failed : .error ⟨.tooDeep, path⟩ = result := congrArg Prod.fst ran
    exact absurd (system _ failed.symm) (by decide : ¬ Trouble.tooDeep.isSystem)
  · exact Nat.succ_pos bound

/-- Making directories again after the system has let it end ends the same way: it is refused where
it was refused, and by the system. -/
theorem makeDirectories_again
    {directory : List String}
    {path : String}
    (trimmed : withoutSlashes path = path)
    {nesting : Nat}
    {tree after : Tree}
    {result : Except FileError Unit}
    (ran : (makeDirectories directory path nesting).runFrom tree = (result, after))
    (system : ∀ error, result = .error error → error.trouble.isSystem) :
    ((makeDirectories directory path nesting).runFrom after = (.ok (), after) ∧ result = .ok ()) ∨
      ∃ error last, (makeDirectories directory path nesting).runFrom after = (.error error, last) ∧
        error.trouble.isSystem := by
  cases found : find? after directory path with
  | none =>
      obtain ⟨error, last, again, _, refused⟩ :=
        makeDirectoriesWithin_again_of_lost trimmed ran system found
      exact .inr ⟨error, last, again, refused⟩
  | some node =>
      have again := runFrom_makeDirectories_of_found trimmed found (pos_of_makeDirectories ran system)
      cases node with
      | directory =>
          refine .inl ⟨again, ?_⟩
          cases result with
          | ok _ => rfl
          | error error =>
              exact absurd found (find?_of_makeDirectoriesWithin_error trimmed ran (system _ rfl)).1
      | file content => exact .inr ⟨_, _, again, (by decide : Trouble.exists.isSystem)⟩

/-! ## Directories that are nested too deeply -/

/-- A path of directories that are all called `a`, one below the other. -/
def nested : Nat → String
  | 0 => "a"
  | depth + 1 => nested depth ++ "/a"

theorem toList_nested (depth : Nat) :
    (nested (depth + 1)).toList = (nested depth).toList ++ ['/'] ++ ['a'] := by
  simp [nested]

theorem nested_ne_empty (depth : Nat) : nested depth ≠ "" := by
  cases depth <;> simp [nested]

theorem dropSlashes_nested (depth : Nat) : dropSlashes (nested depth) = nested depth := by
  rw [← String.toList_inj, toList_dropSlashes]
  cases depth with
  | zero => decide
  | succ depth => rw [toList_nested, List.rdropWhile_concat_neg _ _ _ (by decide)]

theorem withoutSlashes_nested (depth : Nat) : withoutSlashes (nested depth) = nested depth := by
  rw [withoutSlashes, dropSlashes_nested, ite_self]

theorem splitLast_nested (depth : Nat) : splitLast (nested (depth + 1)) = (nested depth, "a") := by
  have dropped : dropSlashes (String.ofList ((nested depth).toList ++ ['/'])) = nested depth := by
    rw [← String.toList_inj, toList_dropSlashes, String.toList_ofList,
      List.rdropWhile_concat_pos _ _ _ (by decide), ← toList_dropSlashes, dropSlashes_nested]
  rw [splitLast_eq, toList_nested, List.rdropWhile_concat_pos _ _ _ (by decide),
    List.rdropWhile_concat_neg _ _ _ (by decide), List.rtakeWhile_concat_pos _ _ _ (by decide),
    List.rtakeWhile_concat_neg _ _ _ (by decide), withoutSlashes, dropped,
    if_neg (nested_ne_empty depth)]
  rfl

theorem parentAndName_nested (depth : Nat) :
    parentAndName (nested (depth + 1)) = (nested depth, "a") := by
  rw [parentAndName_of_trimmed (withoutSlashes_nested _), splitLast_nested]

/-- Where the first directory is missing, so are all the others. -/
theorem find?_nested
    {tree : Tree}
    {directory : List String}
    (missing : find? tree directory "a" = none)
    (depth : Nat) :
    find? tree directory (nested depth) = none := by
  induction depth with
  | zero => exact missing
  | succ depth inductionHypothesis =>
      have split := parentAndName_nested depth
      refine find?_of_lost_parent (withoutSlashes_nested _) ?_ ?_ <;> rw [split]
      · exact nested_ne_empty depth
      · exact inductionHypothesis

/-- Each of the directories but the first one lacks the one above it. -/
theorem lacksParent_nested
    {tree : Tree}
    {directory : List String}
    (missing : find? tree directory "a" = none)
    (depth : Nat) :
    LacksParent tree directory (nested (depth + 1)) := by
  rw [LacksParent, parentAndName_nested depth]
  exact ⟨nested_ne_empty depth, (by decide : "a" ≠ ""), by simp [find?_nested missing depth]⟩

/-- More missing directories than the bound are not made. -/
theorem runFrom_makeDirectoriesWithin_nested
    {tree : Tree}
    {directory : List String}
    (missing : find? tree directory "a" = none)
    {bound depth : Nat}
    (deep : bound ≤ depth) :
    (makeDirectoriesWithin directory bound (nested depth)).runFrom tree =
      (.error ⟨.tooDeep, nested (depth - bound)⟩, tree) := by
  induction bound generalizing depth with
  | zero => rfl
  | succ bound inductionHypothesis =>
      cases depth with
      | zero => omega
      | succ depth =>
          rw [runFrom_makeDirectoriesWithin_of_lacksParent (lacksParent_nested missing depth),
            parentAndName_nested depth, inductionHypothesis (by omega), Nat.add_sub_add_right]
          rfl

end Files
end TableQuery
