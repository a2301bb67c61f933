import EmbeddingLatency.Files.Tree
import EmbeddingLatency.Settings.Directories

/-!
# Walks through a tree of files

Where a path leads does not depend on what stands in the tree; the tree only says whether one gets
there. Creating directories puts directories where nothing stood and changes nothing else, and
behind it every plain name in the directory can be reached (`follow_of_makeFrom`). So a file that is
written below a directory that has been created is written at a place that is known beforehand.
-/

set_option autoImplicit false

namespace EmbeddingLatency

/-- A name that can be that of a file: one name, not too long, and no dots for a directory. -/
structure FileName (name : String) : Prop where
  noSlash : ∀ c ∈ name.toList, (decide (c = '/')) = false
  nonempty : name ≠ ""
  notHere : name ≠ "."
  notUp : name ≠ ".."
  short : ¬FileTree.maxNameBytes < name.utf8ByteSize

namespace FileTree

theorem at?_put (t : FileTree) (place p : Place) (node : FileNode) :
    (t.put place node).at? p = if p = place then some node else t.at? p := by
  by_cases same : p = place
  · rw [if_pos same, same, at?_put_self]
  · rw [if_neg same, at?_put_of_ne t node same]

/-- The content of the file at a place. -/
def file? (t : FileTree) (place : Place) : Option String :=
  match t.at? place with
  | some (.file content) => some content
  | _ => none

section Trees

variable {t t' t'' : FileTree}

/-- The directories of a tree are directories of the other one, and one works in the same place. -/
structure Keeps (t t' : FileTree) : Prop where
  workingDirectory : t'.workingDirectory = t.workingDirectory
  directory : ∀ place, t.at? place = some .directory → t'.at? place = some .directory

theorem Keeps.refl (t : FileTree) : Keeps t t := ⟨rfl, fun _ there => there⟩

theorem Keeps.trans (first : Keeps t t') (second : Keeps t' t'') : Keeps t t'' where
  workingDirectory := second.workingDirectory.trans first.workingDirectory
  directory := fun place there => second.directory place (first.directory place there)

/-- The other tree has more directories, where nothing stood, and is the same everywhere else. -/
structure Grown (t t' : FileTree) : Prop where
  workingDirectory : t'.workingDirectory = t.workingDirectory
  at? : ∀ place, t'.at? place = t.at? place ∨ t.at? place = none ∧ t'.at? place = some .directory

theorem Grown.refl (t : FileTree) : Grown t t := ⟨rfl, fun _ => .inl rfl⟩

theorem Grown.trans (first : Grown t t') (second : Grown t' t'') : Grown t t'' where
  workingDirectory := second.workingDirectory.trans first.workingDirectory
  at? := by
    intro place
    rcases second.at? place with same | ⟨free, made⟩
    · rw [same]
      exact first.at? place
    · rcases first.at? place with same | ⟨_, there⟩
      · exact .inr ⟨same ▸ free, made⟩
      · exact absurd (there.symm.trans free) (by simp)

theorem Grown.keeps (grown : Grown t t') : Keeps t t' where
  workingDirectory := grown.workingDirectory
  directory := by
    intro place there
    rcases grown.at? place with same | ⟨free, _⟩
    · rw [same, there]
    · exact absurd (there.symm.trans free) (by simp)

theorem Grown.file?_eq (grown : Grown t t') (place : Place) : t'.file? place = t.file? place := by
  rcases grown.at? place with same | ⟨free, made⟩
  · rw [file?, file?, same]
  · simp [file?, free, made]

theorem grown_put {place : Place} (free : t.at? place = none) :
    Grown t (t.put place .directory) where
  workingDirectory := rfl
  at? := by
    intro p
    rw [at?_put]
    split
    · rename_i same
      exact .inr ⟨same ▸ free, rfl⟩
    · exact .inl rfl

end Trees

/-- The place that names lead to from a place, whatever stands there. -/
def led (place : Place) : List String → Place
  | [] => place
  | name :: rest =>
    if name = "." then led place rest
    else if name = ".." then led place.dropLast rest
    else led (place ++ [name]) rest

section Walks

variable {t t' : FileTree} {created : Bool} {place place' : Place} {names : List String}

/-- What the creation of directories does with one name. -/
inductive Makes (t : FileTree) (created : Bool) (place : Place) (name : String)
    (rest : List String) : Except FileFault Place × FileTree → Prop
  | here : name = "." → Makes t created place name rest (t.makeFrom created place rest)
  | up : name = ".." → Makes t created place name rest (t.makeFrom created place.dropLast rest)
  | refused (fault : FileFault) : Makes t created place name rest (.error fault, t)
  | enters : name ≠ "." → name ≠ ".." → ¬maxNameBytes < name.utf8ByteSize →
      t.at? (place ++ [name]) = some .directory →
      Makes t created place name rest (t.makeFrom created (place ++ [name]) rest)
  | creates : name ≠ "." → name ≠ ".." → ¬maxNameBytes < name.utf8ByteSize →
      t.at? (place ++ [name]) = none →
      Makes t created place name rest
        ((t.put (place ++ [name]) .directory).makeFrom true (place ++ [name]) rest)

theorem makes_makeFrom (t : FileTree) (created : Bool) (place : Place) (name : String)
    (rest : List String) :
    Makes t created place name rest (t.makeFrom created place (name :: rest)) := by
  rw [makeFrom]
  by_cases here : name = "."
  · rw [if_pos here]
    exact .here here
  rw [if_neg here]
  by_cases up : name = ".."
  · rw [if_pos up]
    exact .up up
  rw [if_neg up]
  by_cases long : maxNameBytes < name.utf8ByteSize
  · rw [if_pos long]
    exact .refused _
  rw [if_neg long]
  cases stands : t.at? (place ++ [name]) with
  | none =>
    by_cases dots : rest ≠ [] ∧ rest.all (· = ".")
    · simp only [if_pos dots]
      exact .refused _
    · simp only [if_neg dots]
      exact .creates here up long stands
  | some node =>
    cases node with
    | file content => exact .refused _
    | directory => exact .enters here up long stands

theorem grown_makeFrom : Grown t (t.makeFrom created place names).2 := by
  induction names generalizing t created place with
  | nil => exact .refl t
  | cons name rest ih =>
    have step := makes_makeFrom t created place name rest
    generalize t.makeFrom created place (name :: rest) = result at step ⊢
    cases step with
    | here => exact ih
    | up => exact ih
    | refused => exact .refl t
    | enters => exact ih
    | creates _ _ _ free => exact (grown_put free).trans ih

theorem follow_here {rest : List String} : t.follow place ("." :: rest) = t.follow place rest := by
  rw [follow.eq_def]
  simp

theorem follow_up {rest : List String} :
    t.follow place (".." :: rest) = t.follow place.dropLast rest := by
  rw [follow.eq_def]
  simp

/-- A plain name that is followed by others has to be that of a directory. -/
theorem follow_directory {name : String} {rest : List String} (here : name ≠ ".") (up : name ≠ "..")
    (short : ¬maxNameBytes < name.utf8ByteSize) (more : rest ≠ [])
    (there : t.at? (place ++ [name]) = some .directory) :
    t.follow place (name :: rest) = t.follow (place ++ [name]) rest := by
  obtain ⟨next, others, rfl⟩ := List.exists_cons_of_ne_nil more
  rw [follow.eq_def]
  simp [here, up, short, there]

/-- Once the directories on the way have been created, every name behind them can be reached. -/
theorem follow_of_makeFrom (made : (t.makeFrom created place names).1 = .ok place')
    (keeps : Keeps (t.makeFrom created place names).2 t') {name : String} (plain : FileName name) :
    t'.follow place (names ++ [name]) = .ok (led place names ++ [name]) := by
  induction names generalizing t created place with
  | nil => simp [follow, led, plain.notHere, plain.notUp, plain.short]
  | cons step rest ih =>
    have more : rest ++ [name] ≠ [] := by simp
    have step' := makes_makeFrom t created place step rest
    generalize t.makeFrom created place (step :: rest) = result at step' made keeps
    rw [List.cons_append, led]
    cases step' with
    | here here =>
      rw [here, follow_here, if_pos rfl]
      exact ih made keeps
    | up up =>
      rw [up, follow_up, if_neg (by decide), if_pos rfl]
      exact ih made keeps
    | refused => cases made
    | enters here up short there =>
      rw [follow_directory here up short more
        (keeps.directory _ (grown_makeFrom.keeps.directory _ there)), if_neg here, if_neg up]
      exact ih made keeps
    | creates here up short free =>
      rw [follow_directory here up short more (keeps.directory _
        (grown_makeFrom.keeps.directory _ (at?_put_self t _ _))), if_neg here, if_neg up]
      exact ih made keeps

end Walks

section Paths

theorem endsWith_slash_iff (path : String) :
    path.endsWith "/" = true ↔ ∃ front, path.toList = front ++ ['/'] := by
  rw [String.endsWith, String.Slice.endsWith_string_iff, String.copy_toSlice]
  exact ⟨fun ⟨front, same⟩ => ⟨front, same.symm⟩, fun ⟨front, same⟩ => ⟨front, same.symm⟩⟩

theorem startsWith_slash_iff (path : String) :
    path.startsWith "/" = true ↔ path.toList.head? = some '/' := by
  rw [String.startsWith_string_iff]
  cases path.toList <;> simp [eq_comm]

variable {name : String} (plain : FileName name)

include plain

theorem not_startsWith_of_fileName : name.startsWith "/" = false := by
  rw [← Bool.not_eq_true, startsWith_slash_iff]
  intro slash
  simpa using plain.noSlash '/' (List.mem_of_head? slash)

/-- What stands in front of a name in a directory: nothing, or the directory and one slash. -/
theorem exists_joinPath (directory : String) :
    (directory = "" ∧ joinPath directory name = name) ∨
      ∃ front, (directory.toList = front ++ ['/'] ∨ directory.toList = front ∧ front ≠ []) ∧
        (joinPath directory name).toList = front ++ '/' :: name.toList := by
  rw [joinPath, not_startsWith_of_fileName plain]
  by_cases empty : directory = ""
  · exact .inl ⟨empty, by simp [empty]⟩
  · refine .inr ?_
    by_cases slash : directory.endsWith "/" = true
    · obtain ⟨front, split⟩ := (endsWith_slash_iff directory).mp slash
      exact ⟨front, .inl split, by simp [empty, slash, split]⟩
    · exact ⟨directory.toList, .inr ⟨rfl, by simpa using empty⟩, by simp [empty, slash]⟩

/-- A name in a directory comes behind the names of the directory. -/
theorem names_joinPath (directory : String) :
    names (joinPath directory name) = names directory ++ [name] := by
  have own : Text.splitBy (· = '/') name.toList = [name.toList] :=
    Text.splitBy_of_free plain.noSlash
  rcases exists_joinPath plain directory with ⟨rfl, joined⟩ | ⟨front, ends, joined⟩
  · simp [names, joined, own, plain.nonempty, Text.splitBy]
  · have parts : Text.splitBy (· = '/') (front ++ '/' :: name.toList) =
        Text.splitBy (· = '/') front ++ [name.toList] :=
      (Text.splitBy_append (by decide) front name.toList).trans (by rw [own])
    rcases ends with slash | ⟨none, _⟩
    · have empty : Text.splitBy (· = '/') (front ++ ['/']) =
          Text.splitBy (· = '/') front ++ [[]] := Text.splitBy_append (by decide) front []
      simp [names, joined, slash, parts, empty, plain.nonempty]
    · simp [names, joined, none, parts, plain.nonempty]

/-- A name in a directory is looked for from where the directory is. -/
theorem start_joinPath (t : FileTree) (directory : String) :
    t.start (joinPath directory name) = t.start directory := by
  have same : (joinPath directory name).startsWith "/" = directory.startsWith "/" := by
    rw [Bool.eq_iff_iff, startsWith_slash_iff, startsWith_slash_iff]
    rcases exists_joinPath plain directory with ⟨rfl, joined⟩ | ⟨front, ends, joined⟩
    · rw [joined, ← startsWith_slash_iff, not_startsWith_of_fileName plain]
      simp
    · rcases ends with slash | ⟨none, filled⟩
      · rw [joined, slash]
        cases front <;> rfl
      · obtain ⟨c, rest, rfl⟩ := List.exists_cons_of_ne_nil filled
        rw [joined, none]
        rfl
  rw [start, start, same]

theorem resolve_joinPath (t : FileTree) (directory : String)
    (accepted : refusal? (joinPath directory name) = none) :
    t.resolve (joinPath directory name) =
      t.follow (t.start directory) (names directory ++ [name]) := by
  have filled : joinPath directory name ≠ "" := by
    intro empty
    have none := names_joinPath plain directory
    rw [empty] at none
    simp [names, Text.splitBy] at none
  have unslashed : (joinPath directory name).endsWith "/" = false := by
    rw [← Bool.not_eq_true, endsWith_slash_iff]
    rintro ⟨start, slash⟩
    have last : '/' ∈ name.toList := by
      rcases exists_joinPath plain directory with ⟨rfl, joined⟩ | ⟨front, _, joined⟩
      · rw [← joined, slash]
        simp
      · obtain ⟨before, c, split⟩ := (List.eq_nil_or_concat name.toList).resolve_left
          (by simpa using plain.nonempty)
        have ends := congrArg List.getLast? (joined.symm.trans slash)
        simp only [split, List.concat_eq_append, ← List.cons_append, ← List.append_assoc,
          List.getLast?_concat, Option.some.injEq] at ends
        simp [split, ends]
    simpa using plain.noSlash '/' last
  rw [resolve, accepted, if_neg filled, unslashed, names_joinPath plain, start_joinPath plain]
  simp

end Paths

section Requests

variable {t t' : FileTree} {directory path : String}

theorem grown_createDirectories (directory : String) (t : FileTree) :
    Grown t (createDirectories directory t).2 := by
  unfold createDirectories
  split
  · exact .refl t
  · exact grown_makeFrom

/-- In a directory that has been created every plain name leads to one place, as long as the
    directories are kept and the path is not too long. -/
theorem resolve_of_created (created : (createDirectories directory t).1 = .ok ())
    (keeps : Keeps (createDirectories directory t).2 t') {name : String} (plain : FileName name)
    (accepted : refusal? (joinPath directory name) = none) :
    t'.resolve (joinPath directory name) =
      .ok (led (t.start directory) (names directory) ++ [name]) := by
  have start : t'.start directory = t.start directory := by
    rw [FileTree.start, FileTree.start, keeps.workingDirectory,
      (grown_createDirectories directory t).workingDirectory]
  rw [resolve_joinPath plain t' directory accepted, start]
  unfold createDirectories at created keeps
  split at created
  · cases created
  · rename_i unrefused
    simp only [unrefused] at keeps
    cases made : (t.makeFrom false (t.start directory) (names directory)).1 with
    | error fault => simp [made, Except.map] at created
    | ok place => exact follow_of_makeFrom made keeps plain

/-- A path leads to a place where a file can be written. -/
def Writable (t : FileTree) (path : String) : Prop :=
  ∃ place, t.resolve path = .ok place ∧ t.at? place ≠ some .directory

theorem write_eq_of_resolve {place : Place} (leads : t.resolve path = .ok place)
    (free : t.at? place ≠ some .directory) (content : String) :
    write path content t = (.ok (), t.put place (.file content)) := by
  rw [write, leads]
  dsimp only
  split
  · contradiction
  · rfl

/-- What a write may leave behind that has been refused: the file that the path leads to may have
    changed, and everything else is as before. -/
structure Spoiled (path : String) (t t' : FileTree) : Prop where
  keeps : Keeps t t'
  elsewhere : ∀ place, t.resolve path ≠ .ok place → t'.at? place = t.at? place

theorem Spoiled.refl (path : String) (t : FileTree) : Spoiled path t t := ⟨.refl t, fun _ _ => rfl⟩

/-- A file may have been begun and left like that. -/
theorem spoiled_put {place : Place} (leads : t.resolve path = .ok place)
    (free : t.at? place ≠ some .directory) (content : String) :
    Spoiled path t (t.put place (.file content)) where
  keeps :=
    { workingDirectory := rfl
      directory := by
        intro p there
        rw [at?_put_of_ne t _ (by rintro rfl; exact free there), there] }
  elsewhere := by
    intro p other
    exact at?_put_of_ne t _ (by rintro rfl; exact other leads)

theorem exists_write_eq_of_not_writable (refused : ¬t.Writable path) :
    ∃ fault, ∀ content, write path content t = (.error fault, t) := by
  cases leads : t.resolve path with
  | error fault => exact ⟨fault, fun content => by rw [write, leads]⟩
  | ok place =>
    have stands : t.at? place = some .directory :=
      Decidable.of_not_not fun free => refused ⟨place, leads, free⟩
    exact ⟨.isDirectory, fun content => by simp [write, leads, stands]⟩

end Requests

end FileTree

end EmbeddingLatency
