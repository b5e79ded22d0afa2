import Scratchpad.Execution.Service
import Scratchpad.Machine.Host
import Scratchpad.Proofs.Interpreter.Search
import Scratchpad.Proofs.Text.Utf8

/-!
# The file that is looked at, and the one that is started

Before a candidate is run, its path is looked at from the working directory. Running it means more: a
name without a slash is looked for in the directories of the search path. `checkedPlace?` and
`startedPlace?` say for a machine where the two lead to; what a launch runs is the program that it has
loaded from the second one (`startedPlace?_eq_some_iff`).

Where a path with a slash leads does not depend on the files, so as long as the working directory stays
the same it is the same file that is looked at, asked for its version, and run later. A name without
one is looked at in one place and started in another. The main statement is `located_file`.
-/

namespace Scratchpad.Machine

open Scratchpad.Text

namespace FileTree

variable {t t' : FileTree} {cwd place place' : Place} {path : Bytes}

/-- Where the parts of a path lead from a directory, if all of them are there. -/
def spelled : Place → List Bytes → Place
  | here, [] => here
  | here, part :: rest =>
    if part = ['.'] then spelled here rest
    else if part = ['.', '.'] then spelled here.dropLast rest
    else spelled (here ++ [part]) rest

theorem eq_spelled_of_walk {toDirectory : Bool} {here : Place} {parts : List Bytes}
    (h : t.walk toDirectory here parts = .ok place) : place = spelled here parts := by
  induction parts generalizing here with
  | nil => exact (Except.ok.inj h).symm
  | cons part rest ih =>
    rw [walk] at h
    rw [spelled]
    split at h
    · next hdot => rw [if_pos hdot, ih h]
    · next hdot =>
      rw [if_neg hdot]
      split at h
      · next hdots => rw [if_pos hdots, ih h]
      · next hdots =>
        rw [if_neg hdots]
        split at h
        · cases h
        · dsimp only at h
          split at h
          · cases h
          · exact ih h
          · split at h
            · next hlast =>
              obtain ⟨hnil, -⟩ := Bool.and_eq_true_iff.1 hlast
              rw [List.isEmpty_iff.1 hnil]
              exact (Except.ok.inj h).symm
            · cases h

/-- Where a path leads depends on the working directory alone. -/
theorem resolve_unique (h : t.resolve cwd path = .ok place) (h' : t'.resolve cwd path = .ok place') :
    place = place' := by
  have hspelled : ∀ {t : FileTree} {place : Place}, t.resolve cwd path = .ok place →
      place = spelled (if path.head? = some '/' then [] else cwd) (partsOf path) := by
    intro t place h
    rw [resolve] at h
    split at h
    · cases h
    · split at h
      · cases h
      · split at h
        · cases h
        · exact eq_spelled_of_walk h
  rw [hspelled h, hspelled h']

theorem resolve_of_toOption (h : (t.resolve cwd path).toOption = some place) :
    t.resolve cwd path = .ok place := by
  cases hresolve : t.resolve cwd path with
  | error f =>
    rw [hresolve] at h
    cases h
  | ok p =>
    rw [hresolve] at h
    rw [Option.some.inj h]

theorem lookUp_eq_ok_iff {node : Node} :
    t.lookUp cwd path = .ok node ↔
      ∃ place, t.resolve cwd path = .ok place ∧ t.node? place = some node := by
  rw [lookUp]
  cases hplace : t.resolve cwd path with
  | error f => simp [bind, Except.bind]
  | ok place => cases hnode : t.node? place <;> simp [bind, Except.bind, hnode]

end FileTree

namespace Loader

variable {t : FileTree} {cwd : Place} {path name : Bytes} {arguments : List Bytes} {image : Image}

/-- Only a file that can be executed is loaded. -/
theorem exists_node_of_load {depth : Nat} (h : load t cwd depth path name arguments = .ok image) :
    ∃ place node, t.resolve cwd path = .ok place ∧ t.node? place = some node ∧
      node.isExecutable = true := by
  rw [load.eq_def] at h
  dsimp only at h
  cases hnode : t.lookUp cwd path with
  | error f =>
    rw [hnode] at h
    cases h
  | ok node =>
    obtain ⟨place, hplace, hat⟩ := FileTree.lookUp_eq_ok_iff.1 hnode
    refine ⟨place, node, hplace, hat, ?_⟩
    rw [hnode] at h
    cases node with
    | utility u => rfl
    | file content executable =>
      cases executable with
      | true => rfl
      | false => cases h
    | directory => cases h
    | device d => cases h
    | pipe => cases h

/-- The path at which a directory of the search path has a program. -/
def pathIn (name directory : Bytes) : Bytes :=
  if directory.isEmpty then name else directory ++ '/' :: name

/-- Whether a path can be loaded under a name. -/
def loads (t : FileTree) (cwd : Place) (name : Bytes) (arguments : List Bytes) (path : Bytes) : Bool :=
  (load t cwd deepest path name arguments).toBool

/-- The path under which a program name is loaded: the name itself if it has a slash, and else that
in the first directory of the search path where it can be loaded. -/
def chosen? (t : FileTree) (cwd : Place) (searchPath name : Bytes) (arguments : List Bytes) :
    Option Bytes :=
  if name.contains '/' then some name
  else ((searchPath.splitOn ':').map (pathIn name)).find? (loads t cwd name arguments)

theorem exists_of_search {denied : Bool} {directories : List Bytes}
    (h : search t cwd name arguments denied directories = .ok image) :
    ∃ path, (directories.map (pathIn name)).find? (loads t cwd name arguments) = some path ∧
      load t cwd deepest path name arguments = .ok image := by
  induction directories generalizing denied with
  | nil => cases h
  | cons d ds ih =>
    rw [search] at h
    rw [← pathIn] at h
    rw [List.map_cons, List.find?_cons]
    cases hload : load t cwd deepest (pathIn name d) name arguments with
    | ok found =>
      rw [hload] at h
      have hloads : loads t cwd name arguments (pathIn name d) = true := by rw [loads, hload]; rfl
      rw [hloads]
      exact ⟨pathIn name d, rfl, hload.trans h⟩
    | error f =>
      -- whatever the fault is, the search finds nothing here, and ends unless it passes over it
      have hloads : loads t cwd name arguments (pathIn name d) = false := by rw [loads, hload]; rfl
      rw [hloads]
      rw [hload] at h
      cases f with
      | noEntry => exact ih h
      | notDirectory => exact ih h
      | denied => exact ih h
      | _ => cases h

/-- A program that is found was loaded from the chosen path. -/
theorem exists_of_find {searchPath : Bytes}
    (h : find t cwd searchPath name arguments = .ok image) :
    ∃ path, chosen? t cwd searchPath name arguments = some path ∧
      load t cwd deepest path name arguments = .ok image := by
  rw [find] at h
  split at h
  · cases h
  · split at h
    · cases h
    · split at h
      · cases h
      · rw [chosen?]
        split at h
        · next hslash => exact ⟨name, if_pos hslash, h⟩
        · next hslash =>
          rw [if_neg hslash]
          exact exists_of_search h

end Loader

/-! ### Starting programs -/

open Scratchpad.Execution

variable {m : Machine} {program : String} {arguments : List String} {place : Place}

theorem slash_mem_ofText_iff : '/' ∈ Bytes.ofText program ↔ '/' ∈ program.toList := by
  have hslash : '/' = oneByte 0x2F := rfl
  rw [Bytes.ofText, Bytes.ofList, hslash, ← @mem_encode_iff 0x2F (by decide) program.toList,
    List.mem_map]
  simp only [oneByte_inj, exists_eq_right]

/-- The place that is looked at for a path. -/
def checkedPlace? (m : Machine) (path : String) : Option Place :=
  (m.files.resolve m.cwd (Bytes.ofText path)).toOption

/-- The place of the file that is started for a program name; absent if none can be started. -/
def startedPlace? (m : Machine) (program : String) (arguments : List String) : Option Place :=
  let name := Bytes.ofText program
  let arguments := arguments.map Bytes.ofText
  match Loader.find m.files m.cwd m.searchPath name arguments with
  | .ok _ =>
    (Loader.chosen? m.files m.cwd m.searchPath name arguments).bind fun path =>
      (m.files.resolve m.cwd path).toOption
  | .error _ => none

/-- A launch loads a program from a place, at the end of the chosen path, and runs what was loaded. -/
def Starts (m : Machine) (program : String) (arguments : List String) (place : Place) : Prop :=
  ∃ path image,
    Loader.chosen? m.files m.cwd m.searchPath (Bytes.ofText program)
        (arguments.map Bytes.ofText) = some path ∧
      m.files.resolve m.cwd path = .ok place ∧
      Loader.load m.files m.cwd Loader.deepest path (Bytes.ofText program)
        (arguments.map Bytes.ofText) = .ok image ∧
      m.launch program arguments = m.run image

/-- A directory of the search path has a file at a place under a program name. -/
def HoldsInSearchPath (m : Machine) (program : String) (place : Place) : Prop :=
  ∃ d ∈ m.searchPath.splitOn ':',
    m.files.resolve m.cwd (Loader.pathIn (Bytes.ofText program) d) = .ok place

/-- What is started is a file that can be executed, at the end of the chosen path. -/
theorem exists_of_startedPlace? (h : m.startedPlace? program arguments = some place) :
    ∃ path node, Loader.chosen? m.files m.cwd m.searchPath (Bytes.ofText program)
        (arguments.map Bytes.ofText) = some path ∧
      m.files.resolve m.cwd path = .ok place ∧ m.files.node? place = some node ∧
      node.isExecutable = true := by
  rw [startedPlace?] at h
  split at h
  · next image hfind =>
    obtain ⟨path, hchosen, hload⟩ := Loader.exists_of_find hfind
    obtain ⟨place', node, hplace', hnode, hexecutable⟩ := Loader.exists_node_of_load hload
    rw [hchosen, Option.bind_some, hplace'] at h
    obtain rfl : place' = place := Option.some.inj h
    exact ⟨path, node, hchosen, hplace', hnode, hexecutable⟩
  · cases h

theorem starts_of_find {image : Image}
    (hfind : Loader.find m.files m.cwd m.searchPath (Bytes.ofText program)
      (arguments.map Bytes.ofText) = .ok image) :
    ∃ place, m.startedPlace? program arguments = some place ∧ m.Starts program arguments place := by
  obtain ⟨path, hchosen, hload⟩ := Loader.exists_of_find hfind
  obtain ⟨place, -, hplace, -⟩ := Loader.exists_node_of_load hload
  refine ⟨place, ?_, path, image, hchosen, hplace, hload, ?_⟩
  · rw [startedPlace?, hfind]
    simp only [hchosen, Option.bind_some, hplace]
    rfl
  · rw [launch, hfind]

/-- What a launch runs is the program that it has loaded from the started place; where nothing is
started it runs nothing. -/
theorem startedPlace?_eq_some_iff :
    m.startedPlace? program arguments = some place ↔ m.Starts program arguments place := by
  cases hfind : Loader.find m.files m.cwd m.searchPath (Bytes.ofText program)
      (arguments.map Bytes.ofText) with
  | error f =>
    constructor
    · intro h
      rw [startedPlace?, hfind] at h
      cases h
    · rintro ⟨path, image, -, -, -, hlaunch⟩
      rw [launch, hfind] at hlaunch
      cases congrArg Prod.fst hlaunch
  | ok image =>
    obtain ⟨started, hstarted, hstarts⟩ := starts_of_find hfind
    constructor
    · intro h
      obtain rfl := Option.some.inj (hstarted.symm.trans h)
      exact hstarts
    · rintro ⟨path, -, hchosen, hplace, -⟩
      obtain ⟨path', -, hchosen', hplace', -⟩ := hstarts
      obtain rfl := Option.some.inj (hchosen.symm.trans hchosen')
      rw [hstarted, Except.ok.inj (hplace'.symm.trans hplace)]

/-- A program runs if and only if there is a file that is started for it. -/
theorem isSome_startedPlace?_iff :
    (m.startedPlace? program arguments).isSome ↔
      ∃ writes ending, (m.launch program arguments).1 = .finished writes ending := by
  constructor
  · intro h
    obtain ⟨place, hplace⟩ := Option.isSome_iff_exists.1 h
    obtain ⟨path, image, -, -, -, hlaunch⟩ := startedPlace?_eq_some_iff.1 hplace
    exact ⟨_, _, congrArg Prod.fst hlaunch⟩
  · rintro ⟨writes, ending, hfinished⟩
    cases hfind : Loader.find m.files m.cwd m.searchPath (Bytes.ofText program)
        (arguments.map Bytes.ofText) with
    | error f =>
      rw [launch, hfind] at hfinished
      cases hfinished
    | ok image =>
      obtain ⟨place, hplace, -⟩ := starts_of_find hfind
      rw [hplace]
      rfl

/-- A program name with a slash is started where it is looked at. -/
theorem checkedPlace?_of_startedPlace? (h : m.startedPlace? program arguments = some place)
    (hslash : '/' ∈ program.toList) : m.checkedPlace? program = some place := by
  rw [← slash_mem_ofText_iff] at hslash
  obtain ⟨path, -, hchosen, hplace, -⟩ := exists_of_startedPlace? h
  rw [Loader.chosen?, if_pos (List.contains_iff_mem.2 hslash)] at hchosen
  rw [checkedPlace?, Option.some.inj hchosen, hplace]
  rfl

/-- As long as the working directory is the same, a path is looked at in the same place. -/
theorem checkedPlace?_unique {n : Machine} {path : String} {place' : Place} (hcwd : n.cwd = m.cwd)
    (h : m.checkedPlace? path = some place) (h' : n.checkedPlace? path = some place') :
    place' = place := by
  rw [checkedPlace?, hcwd] at h'
  exact FileTree.resolve_unique (FileTree.resolve_of_toOption h') (FileTree.resolve_of_toOption h)

theorem holdsInSearchPath_of_startedPlace? (h : m.startedPlace? program arguments = some place)
    (hbare : '/' ∉ program.toList) : m.HoldsInSearchPath program place := by
  rw [← slash_mem_ofText_iff] at hbare
  obtain ⟨path, -, hchosen, hplace, -⟩ := exists_of_startedPlace? h
  rw [Loader.chosen?, if_neg (mt List.contains_iff_mem.1 hbare)] at hchosen
  obtain ⟨d, hd, rfl⟩ := List.mem_map.1 (List.mem_of_find?_eq_some hchosen)
  exact ⟨d, hd, hplace⟩

theorem exists_checkedPlace? {path : String} (h : host.hasEntry m path = true) :
    ∃ place, m.checkedPlace? path = some place := by
  cases hnode : m.lookUp path with
  | error f =>
    have hentry : (m.lookUp path).toBool = true := h
    rw [hnode] at hentry
    cases hentry
  | ok node =>
    obtain ⟨place, hplace, -⟩ := FileTree.lookUp_eq_ok_iff.1 hnode
    exact ⟨place, by rw [checkedPlace?, hplace]; rfl⟩

/-! ### What programs change -/

/-- The second machine is the first one with other files. -/
def SameButFiles (m n : Machine) : Prop := ∃ files, n = { m with files }

theorem SameButFiles.refl (m : Machine) : m.SameButFiles m := ⟨m.files, rfl⟩

theorem SameButFiles.trans {m n o : Machine} (h : m.SameButFiles n) (h' : n.SameButFiles o) :
    m.SameButFiles o := by
  obtain ⟨files, rfl⟩ := h
  obtain ⟨files', rfl⟩ := h'
  exact ⟨files', rfl⟩

theorem SameButFiles.cwd_eq {m n : Machine} (h : m.SameButFiles n) : n.cwd = m.cwd := by
  obtain ⟨files, rfl⟩ := h
  rfl

theorem sameButFiles_launch (m : Machine) (program : String) (arguments : List String) :
    m.SameButFiles (m.launch program arguments).2 := by
  rw [launch]
  split
  · exact .refl m
  · exact ⟨_, rfl⟩

theorem sameButFiles_triedAll (m : Machine) (paths : List String) :
    m.SameButFiles (Interpreter.triedAll host m paths) := by
  induction paths generalizing m with
  | nil => exact .refl m
  | cons path paths ih =>
    refine .trans ?_ (ih (Interpreter.tried host m path))
    rw [Interpreter.tried]
    split
    · exact sameButFiles_launch m path ["--version"]
    · exact .refl m

theorem sameButFiles_executeAll (m : Machine) (service : Service) (sources : List String) :
    m.SameButFiles (service.executeAll host sources m).2 := by
  induction sources generalizing m with
  | nil => exact .refl m
  | cons source sources ih =>
    refine .trans ?_ (ih (service.execute host source m).2)
    rw [Service.execute]
    split
    · exact .refl m
    · exact sameButFiles_launch m _ _

end Scratchpad.Machine

namespace Scratchpad.Interpreter

open Scratchpad.Execution Scratchpad.Machine

/-- When a search on a machine finds an interpreter, one of the candidates was there when its turn
came; what ran for it was loaded from a file that can be executed, and exited with status zero.
Neither the search nor later runs change anything but the files. As long as the working directory is
the same, whatever becomes of the files, every run of a candidate with a slash starts the file that
was looked at, and a run of one without starts a file of the search path. -/
theorem located_file {m m' : Machine} {paths : List String} {handle : Handle}
    (h : locate Machine.host paths m = (some handle, m')) :
    ∃ before after writes checked started,
      paths = before ++ handle.path :: after ∧
        Answers Machine.host (triedAll Machine.host m before) handle.path writes ∧
        (triedAll Machine.host m before).checkedPlace? handle.path = some checked ∧
        (triedAll Machine.host m before).startedPlace? handle.path ["--version"] = some started ∧
        (triedAll Machine.host m before).Starts handle.path ["--version"] started ∧
        (∃ node, (triedAll Machine.host m before).files.node? started = some node ∧
          node.isExecutable = true) ∧
        ('/' ∈ handle.path.toList → started = checked) ∧
        (∀ sources, m.SameButFiles
          (Service.executeAll Machine.host ⟨some handle⟩ sources m').2) ∧
        ∀ (n : Machine) arguments place, n.cwd = m.cwd →
          n.startedPlace? handle.path arguments = some place →
            ('/' ∈ handle.path.toList → place = checked) ∧
              ('/' ∉ handle.path.toList → n.HoldsInSearchPath handle.path place) := by
  obtain ⟨found, calls, t, -, hlocate, hends⟩ := @exists_ends _ Machine.host m [] paths
  rw [h] at hlocate
  obtain ⟨rfl, rfl⟩ := Prod.mk.inj hlocate
  cases hends with
  | @found before after path version writes split first answers told =>
    have hcwd : (triedAll Machine.host m before).cwd = m.cwd :=
      (sameButFiles_triedAll m before).cwd_eq
    obtain ⟨checked, hchecked⟩ := exists_checkedPlace? answers.1
    obtain ⟨started, hstarted⟩ : ∃ started,
        (triedAll Machine.host m before).startedPlace? path ["--version"] = some started :=
      Option.isSome_iff_exists.1 (isSome_startedPlace?_iff.2 ⟨writes, _, answers.2⟩)
    have hsame : ∀ (n : Machine) arguments place, n.cwd = m.cwd →
        n.startedPlace? path arguments = some place → '/' ∈ path.toList → place = checked := by
      intro n arguments place hn hplace hslash
      exact checkedPlace?_unique (hn.trans hcwd.symm) hchecked
        (checkedPlace?_of_startedPlace? hplace hslash)
    obtain ⟨-, node, -, -, hnode⟩ := exists_of_startedPlace? hstarted
    refine ⟨before, after, writes, checked, started, split, answers, hchecked, hstarted,
      startedPlace?_eq_some_iff.1 hstarted, ⟨node, hnode⟩, hsame _ _ started hcwd hstarted, ?_, ?_⟩
    · intro sources
      exact (sameButFiles_triedAll m _).trans (sameButFiles_executeAll _ _ sources)
    · intro n arguments place hn hplace
      exact ⟨hsame n arguments place hn hplace, holdsInSearchPath_of_startedPlace? hplace⟩

/-- A machine whose working directory holds an empty file that has the name of a program. -/
def shadowing : Machine where
  files := ⟨[(["bin".toList], .directory), (["bin".toList, "test".toList], .utility "test".toList),
    (["work".toList], .directory), (["work".toList, "test".toList], .file [] false)]⟩
  cwd := ["work".toList]
  environment := [("PATH", "/bin")]
  input := []

/-- The second candidate is found. The file in the directory of programs is the one that is looked at
for it, and that a run of it starts, now and after any change of the files. -/
theorem located_file_in_bin :
    ∃ m', locate Machine.host ["./test", "/bin/test"] shadowing = (some ⟨"/bin/test", ""⟩, m') ∧
      shadowing.checkedPlace? "/bin/test" = some ["bin".toList, "test".toList] ∧
      shadowing.startedPlace? "/bin/test" ["-r", "1;"] = some ["bin".toList, "test".toList] ∧
      ∀ (n : Machine) arguments place, n.cwd = shadowing.cwd →
        n.startedPlace? "/bin/test" arguments = some place →
          place = ["bin".toList, "test".toList] := by
  have hfound : (locate Machine.host ["./test", "/bin/test"] shadowing).1 =
      some ⟨"/bin/test", ""⟩ := by decide +kernel
  have hlocate : locate Machine.host ["./test", "/bin/test"] shadowing =
      (some ⟨"/bin/test", ""⟩, (locate Machine.host ["./test", "/bin/test"] shadowing).2) :=
    Prod.ext hfound rfl
  have hstarted : shadowing.startedPlace? "/bin/test" ["-r", "1;"] =
      some ["bin".toList, "test".toList] := by decide +kernel
  obtain ⟨-, -, -, checked, -, -, -, -, -, -, -, -, -, hruns⟩ := located_file hlocate
  have hchecked : ["bin".toList, "test".toList] = checked :=
    (hruns shadowing _ _ rfl hstarted).1 (by decide)
  refine ⟨_, hlocate, checkedPlace?_of_startedPlace? hstarted (by decide), hstarted,
    fun n arguments place hn hplace => ?_⟩
  rw [hchecked]
  exact (hruns n arguments place hn hplace).1 (by decide)

/-- The empty file lets the program be found under its bare name, and is itself no interpreter: what
was looked at is one file, and what was asked for its version another. -/
theorem located_elsewhere :
    (locate Machine.host ["test"] shadowing).1 = some ⟨"test", ""⟩ ∧
      shadowing.checkedPlace? "test" = some ["work".toList, "test".toList] ∧
      shadowing.startedPlace? "test" ["--version"] = some ["bin".toList, "test".toList] ∧
      (locate Machine.host ["./test"] shadowing).1 = none := by
  decide +kernel

end Scratchpad.Interpreter
