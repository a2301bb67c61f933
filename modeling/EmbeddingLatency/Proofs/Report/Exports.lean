import EmbeddingLatency.Proofs.Files.Walks
import EmbeddingLatency.Rehearsal.Machine
import EmbeddingLatency.Report.Export

/-!
# Exported reports

An export creates its directory and then writes one file for each format that is named. All of that
is requests to a file system, which may be part of a larger world. Each request does to a tree in it
what it would do to the tree by itself, or it is refused for a reason of which the tree knows
nothing, such as rights or space that are missing (`ActsOn`). The first refusal ends the run.

A run is followed by the formats that have been written (`writeAll_run`): a format is written when
its path takes a file, and whether it does is settled once the directory exists. What stands at a
place afterwards depends on the set of these formats only, because two formats have different
places. What a refused write leaves behind is confined to the place of its own format.
-/

set_option autoImplicit false

namespace EmbeddingLatency.Report

open FileTree (Grown Keeps Spoiled Writable refusal? led names)

/-- A request is answered as the tree answers it, or it is refused for a reason that is the store's
    own. A refusal leaves a tree that is harmless. -/
inductive Answered (own : FileFault → Prop) (harmless : FileTree → Prop)
    (ofTree : Except FileFault Unit × FileTree) : Except FileFault Unit × FileTree → Prop
  | asTree : Answered own harmless ofTree ofTree
  | refused (fault : FileFault) (left : FileTree) : own fault → harmless left →
      Answered own harmless ofTree (.error fault, left)

/-- In each world the requests of a store act on a tree in it, unless they are refused for a reason
    of the store's own. Directories may have been created by then, and the file that is written may
    be spoiled. The log leaves the tree alone. -/
structure ActsOn {σ : Type} (files : FileStore (StateM σ)) (log : LogEvent → StateM σ Unit)
    (tree : σ → FileTree) (own : FileFault → Prop) : Prop where
  createDirectories : ∀ path world,
    Answered own (Grown (tree world)) (FileTree.createDirectories path (tree world))
      (((files.createDirectories path).run world).1,
        tree ((files.createDirectories path).run world).2)
  write : ∀ path content world,
    Answered own (Spoiled path (tree world)) (FileTree.write path content (tree world))
      (((files.write path content).run world).1, tree ((files.write path content).run world).2)
  log : ∀ event world, tree ((log event).run world).2 = tree world

theorem fileName_fileName (f : ReportFormat) : FileName f.fileName where
  noSlash := by
    have plain : '/' ∉ f.fileName.toList := by cases f <;> decide +kernel
    exact fun c member => decide_eq_false fun slash => plain (slash ▸ member)
  nonempty := by cases f <;> decide +kernel
  notHere := by cases f <;> decide +kernel
  notUp := by cases f <;> decide +kernel
  short := by cases f <;> decide +kernel

theorem fileName_injective : Function.Injective ReportFormat.fileName := by
  intro f g same
  cases f <;> cases g <;> first | rfl | exact absurd same (by decide +kernel)

theorem append_fileName_inj {home : Place} {f g : ReportFormat} :
    home ++ [f.fileName] = home ++ [g.fileName] ↔ f = g := by
  simp [fileName_injective.eq_iff]

section Trees

variable (d : Dataset) (home : Place)

/-- A tree with the reports of some formats at a place. -/
def withReports (formats : List ReportFormat) (t : FileTree) : FileTree :=
  formats.foldl (fun t f => t.put (home ++ [f.fileName]) (.file (render d f))) t

variable {d home} {t : FileTree} {formats : List ReportFormat}

/-- Every other place is as before. -/
theorem at?_withReports_of_free {place : Place}
    (free : ∀ f ∈ formats, place ≠ home ++ [f.fileName]) :
    (withReports d home formats t).at? place = t.at? place := by
  induction formats generalizing t with
  | nil => rfl
  | cons f rest ih =>
    rw [withReports, List.foldl_cons, ← withReports,
      ih fun g later => free g (List.mem_cons_of_mem _ later),
      FileTree.at?_put_of_ne t _ (free f List.mem_cons_self)]

theorem at?_withReports_of_not_mem {f : ReportFormat} (other : f ∉ formats) :
    (withReports d home formats t).at? (home ++ [f.fileName]) = t.at? (home ++ [f.fileName]) := by
  refine at?_withReports_of_free ?_
  intro g member same
  exact other (append_fileName_inj.mp same ▸ member)

/-- What is written later leaves the report of a format what it is, because it is the same report or
    goes to another place. -/
theorem at?_withReports_of_mem {f : ReportFormat} (listed : f ∈ formats) :
    (withReports d home formats t).at? (home ++ [f.fileName]) = some (.file (render d f)) := by
  induction formats generalizing t with
  | nil => cases listed
  | cons g rest ih =>
    rw [withReports, List.foldl_cons, ← withReports]
    by_cases later : f ∈ rest
    · exact ih later
    · obtain rfl : f = g := (List.mem_cons.mp listed).resolve_right later
      rw [at?_withReports_of_not_mem later, FileTree.at?_put_self]

/-- Only the set of formats matters. -/
theorem at?_withReports_congr {formats' : List ReportFormat}
    (same : ∀ f, f ∈ formats' ↔ f ∈ formats) (place : Place) :
    (withReports d home formats' t).at? place = (withReports d home formats t).at? place := by
  by_cases filled : ∃ f ∈ formats, place = home ++ [f.fileName]
  · obtain ⟨f, listed, rfl⟩ := filled
    rw [at?_withReports_of_mem listed, at?_withReports_of_mem ((same f).mpr listed)]
  · have free : ∀ f ∈ formats, place ≠ home ++ [f.fileName] :=
      fun f member here => filled ⟨f, member, here⟩
    rw [at?_withReports_of_free free,
      at?_withReports_of_free fun f member => free f ((same f).mp member)]

theorem workingDirectory_withReports (formats : List ReportFormat) (t : FileTree) :
    (withReports d home formats t).workingDirectory = t.workingDirectory := by
  induction formats generalizing t with
  | nil => rfl
  | cons f rest ih => exact ih _

end Trees

/-- The tree when the directory has been asked for. -/
def prepared (directory : String) (t : FileTree) : FileTree :=
  (FileTree.createDirectories directory t).2

/-- The place that a directory is created at. -/
def homeOf (directory : String) (t : FileTree) : Place := led (t.start directory) (names directory)

section Created

variable {d : Dataset} {directory : String} {t t' : FileTree} {done : List ReportFormat}
  (created : (FileTree.createDirectories directory t).1 = .ok ())

include created

/-- The path of a format, if it is not too long, leads to a place of its own in the directory. -/
theorem resolve_artifactPath (keeps : Keeps (prepared directory t) t') (f : ReportFormat) :
    t'.resolve (artifactPath directory f) =
      match refusal? (artifactPath directory f) with
      | some fault => .error fault
      | none => .ok (homeOf directory t ++ [f.fileName]) := by
  cases refused : refusal? (artifactPath directory f) with
  | some fault => simp only [FileTree.resolve, refused]
  | none => exact FileTree.resolve_of_created created keeps (fileName_fileName f) refused

theorem place_of_resolve (keeps : Keeps (prepared directory t) t') {f : ReportFormat}
    {place : Place} (leads : t'.resolve (artifactPath directory f) = .ok place) :
    place = homeOf directory t ++ [f.fileName] := by
  rw [resolve_artifactPath created keeps] at leads
  split at leads
  · cases leads
  · exact (Except.ok.inj leads).symm

theorem writable_iff (keeps : Keeps (prepared directory t) t') (f : ReportFormat) :
    Writable t' (artifactPath directory f) ↔ refusal? (artifactPath directory f) = none ∧
      t'.at? (homeOf directory t ++ [f.fileName]) ≠ some .directory := by
  rw [Writable, resolve_artifactPath created keeps]
  cases refusal? (artifactPath directory f) <;> simp

/-- Reports are in nobody's way if their paths take files. -/
theorem keeps_withReports
    (taken : ∀ f ∈ done, Writable (prepared directory t) (artifactPath directory f)) :
    Keeps (prepared directory t)
      (withReports d (homeOf directory t) done (prepared directory t)) where
  workingDirectory := workingDirectory_withReports done _
  directory := by
    intro place there
    rw [at?_withReports_of_free, there]
    rintro f member rfl
    exact ((writable_iff created (.refl _) f).mp (taken f member)).2 there

/-- Whether a path takes a file does not depend on the reports that have been written. -/
theorem writable_withReports
    (taken : ∀ f ∈ done, Writable (prepared directory t) (artifactPath directory f))
    (f : ReportFormat) :
    Writable (withReports d (homeOf directory t) done (prepared directory t))
        (artifactPath directory f) ↔
      Writable (prepared directory t) (artifactPath directory f) := by
  by_cases before : f ∈ done
  · rw [writable_iff created (keeps_withReports created taken), at?_withReports_of_mem before]
    simp [taken f before, ((writable_iff created (.refl _) f).mp (taken f before)).1]
  · rw [writable_iff created (keeps_withReports created taken), writable_iff created (.refl _),
      at?_withReports_of_not_mem before]

end Created

/-- The directory can be created and takes a file of each format. -/
def Receives (directory : String) (formats : List ReportFormat) (t : FileTree) : Prop :=
  (FileTree.createDirectories directory t).1 = .ok () ∧
    ∀ f ∈ formats, Writable (prepared directory t) (artifactPath directory f)

/-- How the writing of reports ends behind those that are done: with all of them, or at
    the first one that is refused, because its path does not take a file or for a reason
    of the store's own. -/
inductive WrittenUpTo (own : FileFault → Prop) (d : Dataset) (directory : String) (t : FileTree)
    (done formats : List ReportFormat) : Except Fault (List String) → FileTree → Prop
  | all : (∀ f ∈ formats, Writable (prepared directory t) (artifactPath directory f)) →
      WrittenUpTo own d directory t done formats (.ok (formats.map (artifactPath directory)))
        (withReports d (homeOf directory t) (done ++ formats) (prepared directory t))
  | refused {before rest : List ReportFormat} {f : ReportFormat} (fault : FileFault)
      (left : FileTree) :
      formats = before ++ f :: rest →
      (∀ g ∈ before, Writable (prepared directory t) (artifactPath directory g)) →
      own fault ∨ ¬Writable (prepared directory t) (artifactPath directory f) →
      Spoiled (artifactPath directory f)
        (withReports d (homeOf directory t) (done ++ before) (prepared directory t)) left →
      WrittenUpTo own d directory t done formats (.error fault.fault) left

theorem WrittenUpTo.cons {own : FileFault → Prop} {d : Dataset} {directory : String}
    {t left : FileTree} {f : ReportFormat} {done formats : List ReportFormat}
    {outcome : Except Fault (List String)}
    (takes : Writable (prepared directory t) (artifactPath directory f))
    (written : WrittenUpTo own d directory t (done ++ [f]) formats outcome left) :
    WrittenUpTo own d directory t done (f :: formats)
      (outcome.map fun paths => artifactPath directory f :: paths) left := by
  cases written with
  | all others =>
    rw [List.append_assoc]
    exact .all (List.forall_mem_cons.mpr ⟨takes, others⟩)
  | refused fault left split others refuses spoiled =>
    rw [List.append_assoc] at spoiled
    exact .refused fault left (congrArg (f :: ·) split)
      (List.forall_mem_cons.mpr ⟨takes, others⟩) refuses spoiled

/-- When all has been written, all reports are there. -/
theorem WrittenUpTo.left_eq {own : FileFault → Prop} {d : Dataset} {directory : String}
    {t left : FileTree} {done formats : List ReportFormat} {outcome : Except Fault (List String)}
    (written : WrittenUpTo own d directory t done formats outcome left)
    (succeeded : ∃ paths, outcome = .ok paths) :
    left = withReports d (homeOf directory t) (done ++ formats) (prepared directory t) := by
  obtain ⟨paths, rfl⟩ := succeeded
  cases written with
  | all => rfl

section Runs

variable {σ : Type} {files : FileStore (StateM σ)} {log : LogEvent → StateM σ Unit}
  {tree : σ → FileTree} {d : Dataset} {directory : String}

/-- The world after one report has been written, which is logged. -/
def afterReport (files : FileStore (StateM σ)) (log : LogEvent → StateM σ Unit) (d : Dataset)
    (directory : String) (f : ReportFormat) (world : σ) : σ :=
  ((log ⟨.info, "embed_bench::report", "wrote " ++ artifactPath directory f⟩).run
    ((files.write (artifactPath directory f) (render d f)).run world).2).2

theorem run_bind_eq {α β : Type} (x : StateM σ α) (f : α → StateM σ β) (world : σ) :
    (x >>= f).run world = (f (x.run world).1).run (x.run world).2 := rfl

theorem run_writeAll_of_refused {f : ReportFormat} {rest : List ReportFormat} {world : σ}
    {fault : FileFault}
    (refused : ((files.write (artifactPath directory f) (render d f)).run world).1 = .error fault) :
    (writeAll files log d directory (f :: rest)).run world =
      (.error fault.fault,
        ((files.write (artifactPath directory f) (render d f)).run world).2) := by
  cases run : (files.write (artifactPath directory f) (render d f)).run world with
  | mk answer after =>
    simp only [run] at refused
    subst refused
    rw [writeAll, run_bind_eq, run]
    rfl

theorem run_writeAll_of_written {f : ReportFormat} {rest : List ReportFormat} {world : σ}
    (written : ((files.write (artifactPath directory f) (render d f)).run world).1 = .ok ()) :
    (writeAll files log d directory (f :: rest)).run world =
      (((writeAll files log d directory rest).run (afterReport files log d directory f world)).1.map
          fun paths => artifactPath directory f :: paths,
        ((writeAll files log d directory rest).run
          (afterReport files log d directory f world)).2) := by
  cases run : (files.write (artifactPath directory f) (render d f)).run world with
  | mk answer after =>
    simp only [run] at written
    subst written
    rw [writeAll, run_bind_eq, afterReport, run]
    dsimp only
    rw [run_bind_eq, run_bind_eq]
    cases others : (writeAll files log d directory rest).run
        ((log ⟨.info, "embed_bench::report", "wrote " ++ artifactPath directory f⟩).run
          after).2 with
    | mk answer last => cases answer <;> rfl

theorem run_exportFiles_of_created {formats : List ReportFormat} {world : σ}
    (created : ((files.createDirectories directory).run world).1 = .ok ()) :
    (exportFiles files log d formats directory).run world =
      (writeAll files log d directory formats).run
        ((files.createDirectories directory).run world).2 := by
  cases run : (files.createDirectories directory).run world with
  | mk answer after =>
    simp only [run] at created
    subst created
    rw [exportFiles, run_bind_eq, run]

theorem run_exportFiles_of_refused {formats : List ReportFormat} {world : σ} {fault : FileFault}
    (refused : ((files.createDirectories directory).run world).1 = .error fault) :
    (exportFiles files log d formats directory).run world =
      (.error fault.fault, ((files.createDirectories directory).run world).2) := by
  cases run : (files.createDirectories directory).run world with
  | mk answer after =>
    simp only [run] at refused
    subst refused
    rw [exportFiles, run_bind_eq, run]
    rfl

variable {own : FileFault → Prop} (acts : ActsOn files log tree own)

include acts

/-- One report is written: it joins those that are done, or its path does not take a file, or the
    store has a reason of its own. -/
theorem write_run {t : FileTree} (created : (FileTree.createDirectories directory t).1 = .ok ())
    {done : List ReportFormat}
    (taken : ∀ f ∈ done, Writable (prepared directory t) (artifactPath directory f))
    (f : ReportFormat) {world : σ}
    (now : tree world = withReports d (homeOf directory t) done (prepared directory t)) :
    ((files.write (artifactPath directory f) (render d f)).run world).1 = .ok () ∧
        Writable (prepared directory t) (artifactPath directory f) ∧
        tree (afterReport files log d directory f world) =
          withReports d (homeOf directory t) (done ++ [f]) (prepared directory t) ∨
      ∃ fault, ((files.write (artifactPath directory f) (render d f)).run world).1 = .error fault ∧
        (own fault ∨ ¬Writable (prepared directory t) (artifactPath directory f)) ∧
        Spoiled (artifactPath directory f)
          (withReports d (homeOf directory t) done (prepared directory t))
          (tree ((files.write (artifactPath directory f) (render d f)).run world).2) := by
  have request := acts.write (artifactPath directory f) (render d f) world
  rw [now] at request
  generalize answered : (((files.write (artifactPath directory f) (render d f)).run world).1,
    tree ((files.write (artifactPath directory f) (render d f)).run world).2) = answer at request
  cases request with
  | refused fault left ownFault spoiled =>
    obtain ⟨refused, rfl⟩ := Prod.mk.inj answered
    exact .inr ⟨fault, refused, .inl ownFault, spoiled⟩
  | asTree =>
    by_cases takes : Writable (prepared directory t) (artifactPath directory f)
    · obtain ⟨place, leads, free⟩ := (writable_withReports (d := d) created taken f).mpr takes
      obtain rfl := place_of_resolve created (keeps_withReports created taken) leads
      rw [FileTree.write_eq_of_resolve leads free, Prod.mk.injEq] at answered
      refine .inl ⟨answered.1, takes, ?_⟩
      rw [afterReport, acts.log, answered.2, withReports, withReports, List.foldl_append]
      rfl
    · obtain ⟨fault, refused⟩ := FileTree.exists_write_eq_of_not_writable
        (mt (writable_withReports (d := d) created taken f).mp takes)
      rw [refused, Prod.mk.injEq] at answered
      refine .inr ⟨fault, answered.1, .inr takes, ?_⟩
      rw [answered.2]
      exact .refl _ _

/-- How the writing of reports goes, after some have been written. -/
theorem writeAll_run {t : FileTree} (created : (FileTree.createDirectories directory t).1 = .ok ())
    (done formats : List ReportFormat)
    (taken : ∀ f ∈ done, Writable (prepared directory t) (artifactPath directory f)) {world : σ}
    (now : tree world = withReports d (homeOf directory t) done (prepared directory t)) :
    WrittenUpTo own d directory t done formats
      ((writeAll files log d directory formats).run world).1
      (tree ((writeAll files log d directory formats).run world).2) := by
  induction formats generalizing done world with
  | nil =>
    have all : WrittenUpTo own d directory t done [] (.ok []) _ := .all (by simp)
    rw [List.append_nil, ← now] at all
    exact all
  | cons f rest ih =>
    obtain ⟨written, takes, next⟩ | ⟨fault, refused, reason, spoiled⟩ :=
      write_run acts created taken f now
    · have taken' : ∀ g ∈ done ++ [f],
          Writable (prepared directory t) (artifactPath directory g) :=
        List.forall_mem_append.mpr ⟨taken, List.forall_mem_singleton.mpr takes⟩
      rw [run_writeAll_of_written written]
      exact (ih (done ++ [f]) taken' next).cons takes
    · rw [run_writeAll_of_refused refused]
      rw [← List.append_nil done] at spoiled
      exact .refused fault _ rfl (by simp) reason spoiled

/-- Without its directory nothing is written. -/
theorem exportFiles_refused (formats : List ReportFormat) {world : σ} {fault : FileFault}
    (refused : ((files.createDirectories directory).run world).1 = .error fault) :
    ((exportFiles files log d formats directory).run world).1 = .error fault.fault ∧
      Grown (tree world) (tree ((exportFiles files log d formats directory).run world).2) ∧
      (own fault ∨ (FileTree.createDirectories directory (tree world)).1 = .error fault) := by
  have request := acts.createDirectories directory world
  rw [run_exportFiles_of_refused refused]
  refine ⟨rfl, ?_⟩
  rw [refused] at request
  generalize answered : ((Except.error fault : Except FileFault Unit),
    tree ((files.createDirectories directory).run world).2) = answer at request
  cases request with
  | asTree =>
    have grown := FileTree.grown_createDirectories directory (tree world)
    rw [← answered] at grown ⊢
    exact ⟨grown, .inr rfl⟩
  | refused fault' left ownFault grown =>
    cases answered
    exact ⟨grown, .inl ownFault⟩

theorem exportFiles_created (formats : List ReportFormat) {world : σ}
    (created : ((files.createDirectories directory).run world).1 = .ok ()) :
    (FileTree.createDirectories directory (tree world)).1 = .ok () ∧
      WrittenUpTo own d directory (tree world) [] formats
        ((exportFiles files log d formats directory).run world).1
        (tree ((exportFiles files log d formats directory).run world).2) := by
  have request := acts.createDirectories directory world
  rw [run_exportFiles_of_created created]
  rw [created] at request
  generalize answered : ((Except.ok () : Except FileFault Unit),
    tree ((files.createDirectories directory).run world).2) = answer at request
  cases request with
  | asTree =>
    have created : (FileTree.createDirectories directory (tree world)).1 = .ok () := by
      rw [← answered]
    exact ⟨created, writeAll_run acts created [] formats (by simp) (congrArg Prod.snd answered)⟩
  | refused => cases answered

end Runs

/-- What an export in a tree comes to, when its directory has been asked for and all is done. -/
structure Exported (own : FileFault → Prop) (d : Dataset) (directory : String)
    (formats : List ReportFormat) (t t' : FileTree) (asked : Except FileFault Unit)
    (outcome : Except Fault (List String)) : Prop where
  /-- Without its directory nothing is written. -/
  refused : ∀ fault, asked = .error fault →
    outcome = .error (.io fault.message) ∧ ∀ place, t'.file? place = t.file? place
  /-- It fails for a reason of the store's own, or because the tree does not take the reports. -/
  fails : ∀ fault, outcome = .error fault → ∃ reason : FileFault, fault = .io reason.message ∧
    (own reason ∨ ¬Receives directory formats t)
  takes : (∃ paths, outcome = .ok paths) → asked = .ok () ∧ Receives directory formats t
  paths : ∀ paths, outcome = .ok paths → paths = formats.map (artifactPath directory)
  listed : (∃ paths, outcome = .ok paths) → ∀ f ∈ formats,
    t'.read? (artifactPath directory f) = .ok (render d f)
  unlisted : ∀ f, f ∉ formats → ∀ place, t'.resolve (artifactPath directory f) = .ok place →
    t'.file? place = t.file? place
  others : ∀ place, (∀ f ∈ formats, t'.resolve (artifactPath directory f) ≠ .ok place) →
    t'.file? place = t.file? place
  directories : asked = .ok () → Keeps (prepared directory t) t'

section

variable {own : FileFault → Prop} {d : Dataset} {directory : String} {formats : List ReportFormat}
  {t t' : FileTree} {outcome : Except Fault (List String)}

/-- Whatever the tree takes is written by a store without reasons of its own. -/
theorem Exported.succeeds {asked : Except FileFault Unit}
    (exported : Exported own d directory formats t t' asked outcome) (none : ∀ fault, ¬own fault)
    (takes : Receives directory formats t) : ∃ paths, outcome = .ok paths := by
  cases outcome with
  | ok paths => exact ⟨paths, rfl⟩
  | error fault =>
    obtain ⟨reason, -, ownReason | untaken⟩ := exported.fails fault rfl
    · exact absurd ownReason (none reason)
    · exact absurd takes untaken

theorem exported_of_refused {fault : FileFault} (grown : Grown t t')
    (reason : own fault ∨ (FileTree.createDirectories directory t).1 = .error fault) :
    Exported own d directory formats t t' (.error fault) (.error fault.fault) := by
  have same := grown.file?_eq
  have untaken : own fault ∨ ¬Receives directory formats t := by
    refine reason.imp_right fun refused takes => ?_
    rw [takes.1] at refused
    cases refused
  exact
    { refused := by
        intro fault' again
        cases again
        exact ⟨rfl, same⟩
      fails := by
        intro fault' again
        cases again
        exact ⟨fault, rfl, untaken⟩
      takes := by simp
      paths := by simp
      listed := by simp
      unlisted := fun _ _ place _ => same place
      others := fun place _ => same place
      directories := nofun }

/-- A place to which no report has gone is one that the directories leave as it was. -/
theorem file?_withReports_of_unled (created : (FileTree.createDirectories directory t).1 = .ok ())
    (keeps : Keeps (prepared directory t) t') {done : List ReportFormat}
    (taken : ∀ f ∈ done, Writable (prepared directory t) (artifactPath directory f)) {place : Place}
    (unled : ∀ f ∈ done, t'.resolve (artifactPath directory f) ≠ .ok place) :
    (withReports d (homeOf directory t) done (prepared directory t)).file? place =
      t.file? place := by
  have free : ∀ f ∈ done, place ≠ homeOf directory t ++ [f.fileName] := by
    rintro f member rfl
    have accepted := ((writable_iff created (.refl _) f).mp (taken f member)).1
    refine unled f member ?_
    rw [resolve_artifactPath created keeps, accepted]
  rw [← (FileTree.grown_createDirectories directory t).file?_eq place, FileTree.file?,
    FileTree.file?, at?_withReports_of_free free, prepared]

/-- Files to which no format that is named leads are as before. -/
theorem WrittenUpTo.others (created : (FileTree.createDirectories directory t).1 = .ok ())
    (written : WrittenUpTo own d directory t [] formats outcome t') :
    Keeps (prepared directory t) t' ∧
      ∀ place, (∀ f ∈ formats, t'.resolve (artifactPath directory f) ≠ .ok place) →
        t'.file? place = t.file? place := by
  cases written with
  | all takes =>
    have keeps := keeps_withReports (d := d) created takes
    exact ⟨keeps, fun place unled => file?_withReports_of_unled created keeps takes unled⟩
  | @refused before rest f fault _ split takes _ spoiled =>
    have kept := keeps_withReports (d := d) created takes
    have keeps := kept.trans spoiled.keeps
    refine ⟨keeps, fun place unled => ?_⟩
    have apart := unled f (by simp [split])
    rw [resolve_artifactPath created keeps, ← resolve_artifactPath created kept] at apart
    rw [FileTree.file?, spoiled.elsewhere place apart]
    exact file?_withReports_of_unled created keeps takes fun g member =>
      unled g (by simp [split, member])

theorem exported_of_created (created : (FileTree.createDirectories directory t).1 = .ok ())
    (written : WrittenUpTo own d directory t [] formats outcome t') :
    Exported own d directory formats t t' (.ok ()) outcome := by
  obtain ⟨keeps, others⟩ := written.others created
  have unlisted : ∀ f, f ∉ formats → ∀ place, t'.resolve (artifactPath directory f) = .ok place →
      t'.file? place = t.file? place := by
    intro f other place leads
    refine others place fun g member leads' => other ?_
    have same :=
      (place_of_resolve created keeps leads').symm.trans (place_of_resolve created keeps leads)
    exact append_fileName_inj.mp same ▸ member
  cases written with
  | all takes =>
    exact
      { refused := nofun
        fails := nofun
        takes := fun _ => ⟨rfl, created, takes⟩
        paths := fun _ same => (Except.ok.inj same).symm
        listed := by
          rintro - f member
          obtain ⟨place, leads, -⟩ :=
            (writable_withReports (d := d) created takes f).mpr (takes f member)
          have stands : (withReports d (homeOf directory t) formats (prepared directory t)).at?
              (homeOf directory t ++ [f.fileName]) = some (.file (render d f)) :=
            at?_withReports_of_mem member
          rw [← place_of_resolve created keeps leads] at stands
          rw [List.nil_append, FileTree.read?, leads]
          simp [stands]
        unlisted
        others
        directories := fun _ => keeps }
  | @refused before rest f fault _ split takes reason spoiled =>
    have untaken : own fault ∨ ¬Receives directory formats t :=
      reason.imp_right fun refuses takes => refuses (takes.2 f (by simp [split]))
    exact
      { refused := nofun
        fails := by
          intro fault' again
          cases again
          exact ⟨fault, rfl, untaken⟩
        takes := by simp
        paths := by simp
        listed := by simp
        unlisted
        others
        directories := fun _ => keeps }

/-- What any export comes to. -/
theorem exported_run {σ : Type} {files : FileStore (StateM σ)} {log : LogEvent → StateM σ Unit}
    {tree : σ → FileTree} (acts : ActsOn files log tree own) (d : Dataset) (directory : String)
    (formats : List ReportFormat) (world : σ) :
    Exported own d directory formats (tree world)
      (tree ((exportFiles files log d formats directory).run world).2)
      ((files.createDirectories directory).run world).1
      ((exportFiles files log d formats directory).run world).1 := by
  cases asked : ((files.createDirectories directory).run world).1 with
  | error fault =>
    obtain ⟨outcome, grown, reason⟩ := exportFiles_refused (d := d) acts formats asked
    rw [outcome]
    exact exported_of_refused grown reason
  | ok =>
    obtain ⟨created, written⟩ := exportFiles_created (d := d) acts formats asked
    exact exported_of_created created written

end

/-- **Exported reports.** Whatever stands in a tree, an export creates its directory or writes
    nothing. If it succeeds, each format that is named has its report in the file of its own, whose
    paths are answered in the order in which they were asked for. No other file is touched, those of
    the other formats included. Another list with the same formats leaves the same tree in a world
    with the same tree, unless the store refuses it for a reason of its own. -/
theorem export_writes_named_formats {σ : Type} {files : FileStore (StateM σ)}
    {log : LogEvent → StateM σ Unit} {tree : σ → FileTree} {own : FileFault → Prop}
    (acts : ActsOn files log tree own) (d : Dataset) (directory : String)
    (formats : List ReportFormat) (world : σ) :
    Exported own d directory formats (tree world)
        (tree ((exportFiles files log d formats directory).run world).2)
        ((files.createDirectories directory).run world).1
        ((exportFiles files log d formats directory).run world).1 ∧
      ∀ formats' world', (∀ f, f ∈ formats' ↔ f ∈ formats) → tree world' = tree world →
        (∃ paths, ((exportFiles files log d formats directory).run world).1 = .ok paths) →
        ((∃ paths, ((exportFiles files log d formats' directory).run world').1 = .ok paths) ∧
          ∀ place, (tree ((exportFiles files log d formats' directory).run world').2).at? place =
            (tree ((exportFiles files log d formats directory).run world).2).at? place) ∨
        ∃ fault, own fault ∧
          ((exportFiles files log d formats' directory).run world').1 =
            .error (.io fault.message) := by
  have exported := exported_run acts d directory
  refine ⟨exported formats world, ?_⟩
  intro formats' world' same sameTree succeeded
  obtain ⟨asked, takes⟩ := (exported formats world).takes succeeded
  have takes' : Receives directory formats' (tree world') := by
    rw [sameTree]
    exact ⟨takes.1, fun f member => takes.2 f ((same f).mp member)⟩
  cases outcome : ((exportFiles files log d formats' directory).run world').1 with
  | error fault =>
    obtain ⟨reason, rfl, ownReason | untaken⟩ := (exported formats' world').fails fault outcome
    · exact .inr ⟨reason, ownReason, rfl⟩
    · exact absurd takes' untaken
  | ok paths =>
    refine .inl ⟨⟨paths, rfl⟩, fun place => ?_⟩
    have left := (exportFiles_created (d := d) acts formats asked).2.left_eq succeeded
    have asked' := ((exported formats' world').takes ⟨paths, outcome⟩).1
    have left' := (exportFiles_created (d := d) acts formats' asked').2.left_eq ⟨paths, outcome⟩
    rw [left, left', sameTree, List.nil_append, List.nil_append, at?_withReports_congr same]

/-- A machine on which no model is kept. -/
def bareHost : Program.Host Rehearsal.OnMachine Rehearsal.PlannedGraph :=
  Rehearsal.host .empty none fun _ => .missing

/-- What is said where there is no room for a file. -/
def noSpace : FileFault := .other "No space left on device (os error 28)"

/-- The files of a machine whose device is full: a file is opened, and nothing can be
    written to it. -/
def fullDevice : FileStore Rehearsal.OnMachine where
  createDirectories := bareHost.files.createDirectories
  write path _ := do
    match ← bareHost.files.write path "" with
    | .error fault => pure (.error fault)
    | .ok () => pure (.error noSpace)

theorem tree_log_bareHost (event : LogEvent) (machine : Rehearsal.Machine) :
    ((bareHost.log event).run machine).2.tree = machine.tree := by
  rw [Program.Host.log]
  split <;> rfl

theorem actsOn_bareHost : ActsOn bareHost.files bareHost.log (·.tree) fun _ => False where
  createDirectories := fun _ _ => .asTree
  write := fun _ _ _ => .asTree
  log := tree_log_bareHost

/-- No file is written to a full device. -/
theorem run_write_fullDevice (path content : String) (machine : Rehearsal.Machine) :
    (fullDevice.write path content).run machine =
      match FileTree.write path "" machine.tree with
      | (.error fault, tree) => (.error fault, { machine with tree })
      | (.ok (), tree) => (.error noSpace, { machine with tree }) := by
  have opened : (bareHost.files.write path "").run machine =
      ((FileTree.write path "" machine.tree).1,
        { machine with tree := (FileTree.write path "" machine.tree).2 }) := rfl
  show (bareHost.files.write path "" >>= _).run machine = _
  rw [run_bind_eq, opened]
  cases FileTree.write path "" machine.tree with
  | mk answer tree => cases answer <;> rfl

theorem actsOn_fullDevice : ActsOn fullDevice bareHost.log (·.tree) (· = noSpace) where
  createDirectories := fun _ _ => .asTree
  write := by
    intro path content machine
    rw [run_write_fullDevice]
    by_cases takes : Writable machine.tree path
    · obtain ⟨place, leads, free⟩ := takes
      rw [FileTree.write_eq_of_resolve leads free "",
        FileTree.write_eq_of_resolve leads free content]
      exact .refused noSpace _ rfl (FileTree.spoiled_put leads free "")
    · obtain ⟨fault, refused⟩ := FileTree.exists_write_eq_of_not_writable takes
      rw [refused "", refused content]
      exact .asTree
  log := tree_log_bareHost

/-- A machine with two reports of an earlier run. -/
def staleMachine : Rehearsal.Machine where
  tree := ((Rehearsal.freshTree.put ["tmp", "rehearsals", "out"] .directory).put
    ["tmp", "rehearsals", "out", "embed_bench.csv"] (.file "earlier rows")).put
    ["tmp", "rehearsals", "out", "embed_bench.md"] (.file "an earlier report")
  output := ""
  complaints := ""

theorem homeOf_staleMachine : homeOf "out" staleMachine.tree = ["tmp", "rehearsals", "out"] := by
  decide +kernel

theorem createDirectories_staleMachine :
    FileTree.createDirectories "out" staleMachine.tree = (.ok (), staleMachine.tree) := by
  have accepted : refusal? "out" = none := by decide +kernel
  have start : staleMachine.tree.start "out" = ["tmp", "rehearsals"] := by decide +kernel
  have steps : names "out" = ["out"] := by decide +kernel
  have short : ¬FileTree.maxNameBytes < "out".utf8ByteSize := by decide +kernel
  have stands : staleMachine.tree.at? ["tmp", "rehearsals", "out"] = some .directory := by
    simp [staleMachine, FileTree.at?_put]
  rw [FileTree.createDirectories, accepted]
  simp [start, steps, stands, FileTree.makeFrom, short, Except.map]

/-- The directory holds no directories, so it takes reports of all formats. -/
theorem writable_staleMachine (f : ReportFormat) :
    Writable (prepared "out" staleMachine.tree) (artifactPath "out" f) := by
  have free : staleMachine.tree.at? ["tmp", "rehearsals", "out", "embed_bench.json"] = none := by
    simp [staleMachine, Rehearsal.freshTree, FileTree.at?, FileTree.put, FileTree.empty,
      Rehearsal.scratch]
  refine (writable_iff (by rw [createDirectories_staleMachine]) (.refl _) f).mpr
    ⟨by cases f <;> decide +kernel, ?_⟩
  rw [prepared, createDirectories_staleMachine, homeOf_staleMachine]
  cases f
  · simp [ReportFormat.fileName, ReportFormat.name, free]
  · simp [staleMachine, FileTree.at?_put, ReportFormat.fileName, ReportFormat.name]
  · simp [staleMachine, ReportFormat.fileName, ReportFormat.name]

/-- A data set without rows. -/
def emptyDataset : Dataset := .ofRows ⟨Settings.default.plan, false, .unknown, ⟨0, 0⟩, 0.0⟩ []

/-- What a machine comes to when two formats are exported, one of them twice. -/
def afterExport (files : FileStore Rehearsal.OnMachine) :
    Except Fault (List String) × Rehearsal.Machine :=
  (exportFiles files bareHost.log emptyDataset [.csv, .json, .csv] "out").run staleMachine

/-- A report that nobody asks for stays where it is. -/
theorem unlisted_staleMachine {own : FileFault → Prop} {outcome : Except Fault (List String)}
    {t : FileTree} (exported :
      Exported own emptyDataset "out" [.csv, .json, .csv] staleMachine.tree t (.ok ()) outcome) :
    t.file? ["tmp", "rehearsals", "out", "embed_bench.md"] = some "an earlier report" := by
  have created : (FileTree.createDirectories "out" staleMachine.tree).1 = .ok () := by
    rw [createDirectories_staleMachine]
  rw [exported.others]
  · simp [FileTree.file?, staleMachine]
  · intro f listed leads
    have place := place_of_resolve created (exported.directories rfl) leads
    rw [homeOf_staleMachine] at place
    cases f with
    | json => exact absurd place (by decide +kernel)
    | csv => exact absurd place (by decide +kernel)
    | md => simp at listed

/-- A format that is named replaces its earlier report, and the earlier report of a format that is
    not named stays. It stays on a full device, too, where the export fails. -/
theorem stale_reports_replaced :
    (ActsOn bareHost.files bareHost.log (·.tree) (fun _ => False) ∧
      (afterExport bareHost.files).1 =
        .ok ["out/embed_bench.csv", "out/embed_bench.json", "out/embed_bench.csv"] ∧
      (afterExport bareHost.files).2.tree.read? "out/embed_bench.csv" = .ok (csv emptyDataset) ∧
      (afterExport bareHost.files).2.tree.file? ["tmp", "rehearsals", "out", "embed_bench.md"] =
        some "an earlier report") ∧
    ActsOn fullDevice bareHost.log (·.tree) (· = noSpace) ∧
      (afterExport fullDevice).1 = .error (.io noSpace.message) ∧
      (afterExport fullDevice).2.tree.file? ["tmp", "rehearsals", "out", "embed_bench.md"] =
        some "an earlier report" := by
  have takes : Receives "out" [.csv, .json, .csv] staleMachine.tree :=
    ⟨by rw [createDirectories_staleMachine], fun f _ => writable_staleMachine f⟩
  have asked : ((bareHost.files.createDirectories "out").run staleMachine).1 = .ok () := takes.1
  refine ⟨⟨actsOn_bareHost, ?_⟩, actsOn_fullDevice, ?_⟩
  · have exported := (export_writes_named_formats actsOn_bareHost emptyDataset "out"
      [.csv, .json, .csv] staleMachine).1
    rw [asked] at exported
    have paths : [.csv, .json, .csv].map (artifactPath "out") =
        ["out/embed_bench.csv", "out/embed_bench.json", "out/embed_bench.csv"] := by decide +kernel
    have succeeded := exported.succeeds (fun _ => id) takes
    refine ⟨?_, ?_, unlisted_staleMachine exported⟩
    · obtain ⟨answered, answer⟩ := succeeded
      rw [afterExport, answer, exported.paths answered answer, paths]
    · have read := exported.listed succeeded .csv (by simp)
      rwa [(List.cons.inj paths).1] at read
  · have exported := (export_writes_named_formats actsOn_fullDevice emptyDataset "out"
      [.csv, .json, .csv] staleMachine).1
    have asked : ((fullDevice.createDirectories "out").run staleMachine).1 = .ok () := asked
    rw [asked] at exported
    refine ⟨?_, unlisted_staleMachine exported⟩
    obtain ⟨fault, refused⟩ : ∃ fault,
        ((fullDevice.write (artifactPath "out" .csv) (render emptyDataset .csv)).run
          ((fullDevice.createDirectories "out").run staleMachine).2).1 = .error fault := by
      rw [run_write_fullDevice]
      split <;> exact ⟨_, rfl⟩
    have ended : (afterExport fullDevice).1 = .error fault.fault := by
      rw [afterExport, run_exportFiles_of_created asked, run_writeAll_of_refused refused]
    obtain ⟨reason, same, rfl | untaken⟩ := exported.fails _ ended
    · rw [ended, same]
    · exact absurd takes untaken

end EmbeddingLatency.Report
