import RecordQuery.Files.Tree

/-!
# What operations do to a tree of files

A path that leads to a file leads to the location that its parts spell. Making directories keeps every
file, writing replaces the one file that the path spells, and no directory is ever lost. So a path that
has led to a file once leads there as long as the file is kept.
-/

namespace RecordQuery.FileTree

/-! ## Files and directories -/

section Contents

variable {tree : FileTree} {location other : Location} {content : FileContent}

theorem lookup_filter_ne (distinct : other ≠ location)
    (files : List (Location × FileContent)) :
    (files.filter fun file => file.1 ≠ location).lookup other =
      files.lookup other := by
  induction files with
  | nil => rfl
  | cons file rest inductionHypothesis =>
      obtain ⟨held, content⟩ := file
      by_cases same : held = location
      · have passed : (other == held) = false := by
          simp [same, distinct]
        rw [List.filter_cons_of_neg (by simp [same]), inductionHypothesis,
          List.lookup_cons, passed]
      · rw [List.filter_cons_of_pos (by simp [same]), List.lookup_cons,
          List.lookup_cons, inductionHypothesis]

@[simp]
theorem fileAt?_put_self :
    (tree.put location content).fileAt? location = some content := by
  simp [fileAt?, put]

theorem fileAt?_put_of_ne (distinct : other ≠ location) :
    (tree.put location content).fileAt? other = tree.fileAt? other := by
  have passed : (other == location) = false := by
    simp [distinct]
  rw [fileAt?, put, List.lookup_cons, passed]
  exact lookup_filter_ne distinct tree.files

theorem isDirectory_iff :
    tree.isDirectory location = true ↔
      location <+: tree.workingDirectory ∨
        (∃ directory ∈ tree.directories, location <+: directory) ∨
          ∃ file ∈ tree.files,
            location <+: file.1 ∧ location.length < file.1.length := by
  simp [isDirectory, or_assoc]

theorem isDirectory_of_prefix (above : other <+: location)
    (directory : tree.isDirectory location = true) :
    tree.isDirectory other = true := by
  rw [isDirectory_iff] at directory ⊢
  rcases directory with within | ⟨made, member, within⟩ |
    ⟨file, member, within, shorter⟩
  · exact Or.inl (above.trans within)
  · exact Or.inr (Or.inl ⟨made, member, above.trans within⟩)
  · have notLonger : other.length ≤ location.length := above.length_le
    exact Or.inr (Or.inr ⟨file, member, above.trans within, by omega⟩)

/-- A file implies the directory it lies in. -/
theorem isDirectory_dropLast_of_fileAt? (notRoot : location ≠ [])
    (there : tree.fileAt? location = some content) :
    tree.isDirectory location.dropLast = true := by
  obtain ⟨front, rest, split, _⟩ := List.lookup_eq_some_iff.mp there
  have positive : 0 < location.length := List.length_pos_iff.mpr notRoot
  rw [isDirectory_iff]
  refine Or.inr (Or.inr ⟨(location, content), by simp [split], ?_, ?_⟩)
  · exact List.dropLast_prefix location
  · simp only [List.length_dropLast]
    omega

theorem isDirectory_put (directory : tree.isDirectory other = true) :
    (tree.put location content).isDirectory other = true := by
  rw [isDirectory_iff] at directory ⊢
  rcases directory with within | made | ⟨file, member, within, shorter⟩
  · exact Or.inl within
  · exact Or.inr (Or.inl made)
  · apply Or.inr
    apply Or.inr
    by_cases same : file.1 = location
    · rw [same] at within shorter
      exact ⟨(location, content), List.mem_cons_self, within, shorter⟩
    · refine ⟨file, List.mem_cons_of_mem _ ?_, within, shorter⟩
      simp [member, same]

theorem isDirectory_addDirectory (directory : tree.isDirectory other = true) :
    (tree.addDirectory location).isDirectory other = true := by
  rw [isDirectory_iff] at directory ⊢
  rcases directory with within | ⟨made, member, within⟩ | lying
  · exact Or.inl within
  · exact Or.inr (Or.inl ⟨made, List.mem_cons_of_mem _ member, within⟩)
  · exact Or.inr (Or.inr lying)

end Contents

/-! ## Paths part by part -/

/-- Where some parts of a path end when each name goes one step down. -/
def destination (here : Location) : Location → Location
  | [] => here
  | part :: rest =>
      if part = upward then destination here.dropLast rest
      else destination (here ++ [part]) rest

/-- The location that a path spells. -/
def target (tree : FileTree) (path : String) : Location :=
  destination (tree.start path) (steps path)

section Parts

variable {tree : FileTree} {here parts rest : Location} {part : List Char}
  {content : FileContent} {anyMade : Bool}

theorem destination_upward :
    destination here (upward :: rest) = destination here.dropLast rest :=
  if_pos rfl

theorem destination_name (name : part ≠ upward) :
    destination here (part :: rest) = destination (here ++ [part]) rest :=
  if_neg name

theorem destination_eq_append (names : upward ∉ parts) :
    destination here parts = here ++ parts := by
  induction parts generalizing here with
  | nil => simp [destination]
  | cons part rest inductionHypothesis =>
      simp only [List.mem_cons, not_or] at names
      rw [destination_name (Ne.symm names.1), inductionHypothesis names.2]
      simp

theorem follow_upward :
    tree.follow here (upward :: rest) = tree.follow here.dropLast rest :=
  if_pos rfl

theorem follow_file (name : part ≠ upward)
    (there : tree.fileAt? (here ++ [part]) = some content) :
    tree.follow here (part :: rest) =
      if rest.isEmpty then .ok (.file (here ++ [part]) content)
      else .error .notDirectory := by
  simp [follow, name, there]

theorem follow_directory (name : part ≠ upward)
    (absent : tree.fileAt? (here ++ [part]) = none)
    (directory : tree.isDirectory (here ++ [part]) = true) :
    tree.follow here (part :: rest) = tree.follow (here ++ [part]) rest := by
  simp [follow, name, absent, directory]

theorem follow_missing (name : part ≠ upward)
    (absent : tree.fileAt? (here ++ [part]) = none)
    (missing : tree.isDirectory (here ++ [part]) = false) :
    tree.follow here (part :: rest) =
      if rest.isEmpty then .ok (.vacant (here ++ [part]))
      else .error .notFound := by
  simp [follow, name, absent, missing]

theorem makeDirectories_upward :
    tree.makeDirectories here anyMade (upward :: rest) =
      tree.makeDirectories here.dropLast anyMade rest :=
  if_pos rfl

theorem makeDirectories_file (name : part ≠ upward)
    (there : tree.fileAt? (here ++ [part]) = some content) :
    (tree.makeDirectories here anyMade (part :: rest)).2 = tree := by
  simp [makeDirectories, name, there]

theorem makeDirectories_directory (name : part ≠ upward)
    (absent : tree.fileAt? (here ++ [part]) = none)
    (directory : tree.isDirectory (here ++ [part]) = true) :
    tree.makeDirectories here anyMade (part :: rest) =
      tree.makeDirectories (here ++ [part]) anyMade rest := by
  simp [makeDirectories, name, absent, directory]

theorem makeDirectories_missing (name : part ≠ upward)
    (absent : tree.fileAt? (here ++ [part]) = none)
    (missing : tree.isDirectory (here ++ [part]) = false) :
    tree.makeDirectories here anyMade (part :: rest) =
      if tree.closed.contains here then (.error .permissionDenied, tree)
      else
        (tree.addDirectory (here ++ [part])).makeDirectories (here ++ [part])
          true rest := by
  simp [makeDirectories, name, absent, missing]

end Parts

/-! ## Changes -/

/-- From one tree to another nothing was lost, and at most a text was written to the file at a place.
There may be new directories. -/
structure ChangesOnly (place : Location) (text : String)
    (before after : FileTree) : Prop where
  workingDirectory : after.workingDirectory = before.workingDirectory
  directories (location : Location) :
    before.isDirectory location = true → after.isDirectory location = true
  elsewhere (location : Location) :
    location ≠ place → after.fileAt? location = before.fileAt? location
  there : after.fileAt? place = before.fileAt? place ∨
    after.fileAt? place = some (.text text)

section Changes

variable {place : Location} {text : String} {tree : FileTree}

theorem ChangesOnly.refl (tree : FileTree) : ChangesOnly place text tree tree where
  workingDirectory := rfl
  directories _ := id
  elsewhere _ _ := rfl
  there := Or.inl rfl

theorem ChangesOnly.trans {before between after : FileTree}
    (first : ChangesOnly place text before between)
    (second : ChangesOnly place text between after) :
    ChangesOnly place text before after where
  workingDirectory := second.workingDirectory.trans first.workingDirectory
  directories location directory :=
    second.directories location (first.directories location directory)
  elsewhere location distinct :=
    (second.elsewhere location distinct).trans
      (first.elsewhere location distinct)
  there := by
    rcases second.there with kept | written
    · rw [kept]
      exact first.there
    · exact Or.inr written

theorem ChangesOnly.start_eq {before after : FileTree}
    (changes : ChangesOnly place text before after) (path : String) :
    after.start path = before.start path := by
  rw [FileTree.start, FileTree.start, changes.workingDirectory]

theorem ChangesOnly.target_eq {before after : FileTree}
    (changes : ChangesOnly place text before after) (path : String) :
    after.target path = before.target path := by
  rw [target, target, changes.start_eq]

theorem changesOnly_put :
    ChangesOnly place text tree (tree.put place (.text text)) where
  workingDirectory := rfl
  directories _ := isDirectory_put
  elsewhere _ := fileAt?_put_of_ne
  there := Or.inr fileAt?_put_self

theorem changesOnly_addDirectory (location : Location) :
    ChangesOnly place text tree (tree.addDirectory location) where
  workingDirectory := rfl
  directories _ := isDirectory_addDirectory
  elsewhere _ _ := rfl
  there := Or.inl rfl

theorem changesOnly_makeDirectories (tree : FileTree) (here : Location)
    (anyMade : Bool) (parts : Location) :
    ChangesOnly place text tree
      (tree.makeDirectories here anyMade parts).2 := by
  induction parts generalizing tree here anyMade with
  | nil => exact .refl tree
  | cons part rest inductionHypothesis =>
      by_cases up : part = upward
      · rw [up, makeDirectories_upward]
        apply inductionHypothesis
      cases absent : tree.fileAt? (here ++ [part]) with
      | some content =>
          rw [makeDirectories_file up absent]
          exact .refl tree
      | none =>
          cases directory : tree.isDirectory (here ++ [part]) with
          | true =>
              rw [makeDirectories_directory up absent directory]
              apply inductionHypothesis
          | false =>
              rw [makeDirectories_missing up absent directory]
              by_cases closed : tree.closed.contains here = true
              · rw [if_pos closed]
                exact .refl tree
              · rw [if_neg closed]
                apply (changesOnly_addDirectory (here ++ [part])).trans
                apply inductionHypothesis

/-- Along directories that exist nothing is made, even if a file is in the way. -/
theorem makeDirectories_of_isDirectory {here parts : Location} {anyMade : Bool}
    (names : upward ∉ parts)
    (directory : tree.isDirectory (here ++ parts) = true) :
    (tree.makeDirectories here anyMade parts).2 = tree := by
  induction parts generalizing here with
  | nil => rfl
  | cons part rest inductionHypothesis =>
      simp only [List.mem_cons, not_or] at names
      have name : part ≠ upward := Ne.symm names.1
      rw [List.append_cons] at directory
      cases absent : tree.fileAt? (here ++ [part]) with
      | some content => exact makeDirectories_file name absent
      | none =>
          have above : tree.isDirectory (here ++ [part]) = true :=
            isDirectory_of_prefix (List.prefix_append _ _) directory
          rw [makeDirectories_directory name absent above]
          exact inductionHypothesis names.2 directory

end Changes

/-! ## Places that were found -/

/-- What it means that a place was found when a location was looked for. -/
def Finds (tree : FileTree) (sought : Location) : Place → Prop
  | .file location content =>
      location = sought ∧ tree.fileAt? sought = some content
  | .directory => True
  | .vacant location =>
      location = sought ∧ tree.fileAt? sought = none ∧
        tree.isDirectory sought = false

section Finding

variable {tree before after : FileTree} {here parts : Location} {path text : String}
  {place : Place} {content : FileContent}

theorem finds_of_follow (found : tree.follow here parts = .ok place) :
    tree.Finds (destination here parts) place := by
  induction parts generalizing here with
  | nil =>
      cases found
      trivial
  | cons part rest inductionHypothesis =>
      by_cases up : part = upward
      · rw [up, follow_upward] at found
        rw [up, destination_upward]
        exact inductionHypothesis found
      rw [destination_name up]
      cases there : tree.fileAt? (here ++ [part]) with
      | some content =>
          rw [follow_file up there] at found
          cases rest with
          | nil =>
              cases found
              exact ⟨rfl, there⟩
          | cons next others => cases found
      | none =>
          cases directory : tree.isDirectory (here ++ [part]) with
          | true =>
              rw [follow_directory up there directory] at found
              exact inductionHypothesis found
          | false =>
              rw [follow_missing up there directory] at found
              cases rest with
              | nil =>
                  cases found
                  exact ⟨rfl, there, directory⟩
              | cons next others => cases found

/-- A directory on the way to a file or to a free location is not at this location itself. -/
theorem ne_of_isDirectory {location sought : Location}
    (finds : tree.Finds sought place) (notDirectory : place ≠ .directory)
    (absent : tree.fileAt? location = none)
    (directory : tree.isDirectory location = true) :
    location ≠ sought := by
  intro same
  subst same
  cases place with
  | file _ content =>
      rw [finds.2] at absent
      cases absent
  | directory => exact notDirectory rfl
  | vacant _ =>
      rw [finds.2.2] at directory
      cases directory

/-- Parts of a path that lead to a file or to a free location lead to the file there after changes at
this location only. -/
theorem follow_of_changesOnly
    (changes : ChangesOnly (destination here parts) text before after)
    (there : after.fileAt? (destination here parts) = some content)
    (found : before.follow here parts = .ok place)
    (notDirectory : place ≠ .directory) :
    after.follow here parts =
      .ok (.file (destination here parts) content) := by
  -- The directories on the way are still there, and they are not the location that changes.
  induction parts generalizing here with
  | nil =>
      cases found
      exact absurd rfl notDirectory
  | cons part rest inductionHypothesis =>
      by_cases up : part = upward
      · rw [up, follow_upward] at found ⊢
        rw [up, destination_upward] at changes there
        rw [destination_upward]
        exact inductionHypothesis changes there found
      rw [destination_name up] at changes there ⊢
      by_cases last : rest = []
      · rw [last, destination] at there ⊢
        rw [follow_file up there]
        rfl
      have goesOn : before.fileAt? (here ++ [part]) = none ∧
          before.isDirectory (here ++ [part]) = true := by
        cases held : before.fileAt? (here ++ [part]) with
        | some old => simp [follow_file up held, last] at found
        | none =>
            cases directory : before.isDirectory (here ++ [part]) with
            | true => exact ⟨rfl, rfl⟩
            | false => simp [follow_missing up held directory, last] at found
      obtain ⟨absent, directory⟩ := goesOn
      rw [follow_directory up absent directory] at found
      have passed : here ++ [part] ≠ destination (here ++ [part]) rest :=
        ne_of_isDirectory (finds_of_follow found) notDirectory absent directory
      rw [← changes.elsewhere _ passed] at absent
      rw [follow_directory up absent (changes.directories _ directory)]
      exact inductionHypothesis changes there found

theorem find_eq_ok (found : tree.find path = .ok place) :
    path.isEmpty = false ∧
      tree.follow (tree.start path) (steps path) = .ok place := by
  unfold find at found
  cases empty : path.isEmpty with
  | true => simp [empty] at found
  | false =>
      simp only [empty, Bool.false_eq_true, if_false] at found
      refine ⟨rfl, ?_⟩
      split at found
      · next location content followed =>
          split at found
          · cases found
          · rw [followed, found]
      · exact found

theorem find_of_follow (notEmpty : path.isEmpty = false)
    (named : Path.namesDirectory path.toList = false)
    (followed : tree.follow (tree.start path) (steps path) = .ok place) :
    tree.find path = .ok place := by
  cases place <;> simp [find, notEmpty, named, followed]

theorem namesDirectory_of_find {location : Location}
    (found : tree.find path = .ok (.file location content)) :
    Path.namesDirectory path.toList = false := by
  obtain ⟨notEmpty, followed⟩ := find_eq_ok found
  cases named : Path.namesDirectory path.toList with
  | true => simp [find, notEmpty, followed, named] at found
  | false => rfl

theorem finds_of_find (found : tree.find path = .ok place) :
    tree.Finds (tree.target path) place :=
  finds_of_follow (find_eq_ok found).2

end Finding

/-! ## Writing -/

section Writing

variable {tree before changed after : FileTree} {path text : String}
  {content : FileContent}

/-- What is written goes to the location that the path spells, where a file is or could be. -/
theorem write_eq_ok (written : tree.write path text = .ok changed) :
    changed = tree.put (tree.target path) (.text text) ∧
      Path.namesDirectory path.toList = false ∧
      ∃ place, tree.find path = .ok place ∧ place ≠ .directory := by
  unfold write at written
  cases found : tree.find path with
  | error error =>
      rw [found] at written
      cases written
  | ok place =>
      have finds := finds_of_find found
      rw [found] at written
      cases place with
      | file location content =>
          have named := namesDirectory_of_find found
          dsimp only at written
          split at written
          · cases written
          · cases written
            rw [finds.1]
            exact ⟨rfl, named, _, rfl, by simp⟩
      | directory => cases written
      | vacant location =>
          dsimp only at written
          split at written
          · cases written
          · next named =>
              split at written
              · cases written
              · cases written
                rw [finds.1]
                exact ⟨rfl, by simpa using named, _, rfl, by simp⟩

/-- A path that was written to leads somewhere as long as only this file is changed. -/
theorem isPresent_of_write (written : before.write path text = .ok changed)
    (changes : ChangesOnly (before.target path) text changed after) :
    after.isPresent path = true := by
  obtain ⟨rfl, named, place, found, notDirectory⟩ := write_eq_ok written
  obtain ⟨notEmpty, followed⟩ := find_eq_ok found
  have there : after.fileAt? (before.target path) = some (.text text) := by
    rcases changes.there with kept | written
    · rw [kept, fileAt?_put_self]
    · exact written
  have start : after.start path = before.start path :=
    changes.start_eq path
  have leads : after.find path =
      .ok (.file (before.target path) (.text text)) := by
    apply find_of_follow notEmpty named
    rw [start]
    exact follow_of_changesOnly (changesOnly_put.trans changes) there followed
      notDirectory
  rw [isPresent, leads]

/-- A file that its path does not lead to cannot be written. -/
theorem write_ne_ok (there : tree.fileAt? (tree.target path) = some content)
    (absent : tree.isPresent path = false) :
    tree.write path text ≠ .ok changed := by
  intro written
  obtain ⟨_, _, place, found, notDirectory⟩ := write_eq_ok written
  have finds := finds_of_find found
  rw [isPresent, found] at absent
  cases place with
  | file _ _ => cases absent
  | directory => cases absent
  | vacant _ =>
      rw [finds.2.1] at there
      cases there

theorem changesOnly_makeParents {place : Location} (tree : FileTree) (path : String) :
    ChangesOnly place text tree (tree.makeParents path).2 :=
  changesOnly_makeDirectories ..

theorem target_makeParents (tree : FileTree) (path : String) :
    (tree.makeParents path).2.target path = tree.target path := by
  have made : ChangesOnly [] "" tree (tree.makeParents path).2 :=
    changesOnly_makeParents tree path
  exact made.target_eq path

/-- The directories that a file lies in need not be made. -/
theorem makeParents_of_fileAt? (names : upward ∉ steps path)
    (there : tree.fileAt? (tree.target path) = some content) :
    (tree.makeParents path).2 = tree := by
  by_cases noSteps : steps path = []
  · rw [makeParents, noSteps]
    rfl
  · rw [target, destination_eq_append names] at there
    have directory := isDirectory_dropLast_of_fileAt? (by simp [noSteps]) there
    rw [List.dropLast_append_of_ne_nil noSteps] at directory
    exact makeDirectories_of_isDirectory
      (fun member => names (List.dropLast_subset _ member)) directory

end Writing

end RecordQuery.FileTree
