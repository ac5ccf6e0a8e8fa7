import Conductor.Proofs.Independence

/-!
# Trouble with a removal is logged and changes nothing else

When a scratch file is to be removed, the result of the dispatch is already decided. Three statements say
that nothing comes of the removal but a log record. A program that also deletes the file that it is handed
makes the removal fail, and the dispatch ends with the same result all the same, and with the same files
unless the removal of a file that is there is refused (`Dispatcher.dispatch_deleting`). The log of a
dispatch with program text is known record by record, and its last record is the removal's
(`DispatchRecords`). And the removal's record is the only one that can be seen without asking for more, so
a line of the log means that a removal failed (`ShowsRemovalFailures`).

The log does not say more than the process learns. A program that was started has no record of its end if
waiting for it fails, and the record of a failed removal does not mean that the file was gone: the system may
have refused to remove it (`unlearned_end_and_refused_removal`).
-/

namespace Conductor

variable {τ : Type}

/-! ## Programs that delete their source -/

namespace FileTree

theorem isFile_iff {t : FileTree τ} {cwd : Option Place} {p : Path} :
    t.isFile cwd p = true ↔
      ∃ place content use, t.locate cwd p = .ok place ∧ t.node? place = some (.file content use) := by
  have hfind : t.isFile cwd p = true ↔ ∃ content use, t.find cwd p = .ok (.file content use) := by
    unfold isFile
    cases t.find cwd p with
    | error e => simp
    | ok node =>
      cases node with
      | directory => simp
      | file content use => simp
  rw [hfind]
  constructor
  · rintro ⟨content, use, h⟩
    obtain ⟨place, hl, hn⟩ := find_eq_ok.1 h
    exact ⟨place, content, use, hl, hn⟩
  · rintro ⟨place, content, use, hl, hn⟩
    exact ⟨content, use, find_eq_ok.2 ⟨place, hl, hn⟩⟩

/-- A removal succeeds if a file is there and the removal is not refused. -/
theorem exists_remove_eq_ok_iff {t : FileTree τ} {cwd : Option Place} {p : Path} :
    (∃ u, t.remove cwd p = .ok u) ↔ t.isFile cwd p = true ∧ ¬ t.Refuses cwd p := by
  constructor
  · rintro ⟨u, h⟩
    obtain ⟨place, content, use, hl, hn, hopen, -⟩ := remove_eq_ok.1 h
    refine ⟨isFile_iff.2 ⟨place, content, use, hl, hn⟩, ?_⟩
    rintro ⟨there, hthere, hrefused⟩
    have hplace : place = there := by simpa [hl, Except.toOption] using hthere
    exact hrefused (hplace ▸ hopen)
  · rintro ⟨hfile, hopen⟩
    obtain ⟨place, content, use, hl, hn⟩ := isFile_iff.1 hfile
    exact ⟨_, remove_eq_ok.2
      ⟨place, content, use, hl, hn, refusal?_eq_none_of_not_refuses hopen hl, rfl⟩⟩

/-- The files without the file that a path leads to. It can have gone before its directory was closed, so
nothing is asked about that. -/
def discard (t : FileTree τ) (cwd : Option Place) (p : Path) : FileTree τ :=
  match t.isFile cwd p, t.locate cwd p with
  | true, .ok place => t.erase place
  | _, _ => t

/-- Where no file is, or one whose removal is not refused, an attempt to remove it does the same. -/
theorem without_eq_discard {t : FileTree τ} {cwd : Option Place} {p : Path}
    (h : t.isFile cwd p = true → ¬ t.Refuses cwd p) : t.without cwd p = t.discard cwd p := by
  unfold discard
  cases hfile : t.isFile cwd p with
  | true =>
    obtain ⟨u, hu⟩ := exists_remove_eq_ok_iff.2 ⟨hfile, h hfile⟩
    obtain ⟨place, content, use, hl, -, -, rfl⟩ := remove_eq_ok.1 hu
    rw [without_of_ok hu, hl]
  | false =>
    cases hu : t.remove cwd p with
    | error e => exact without_of_error hu
    | ok u =>
      have hthere := (exists_remove_eq_ok_iff.1 ⟨u, hu⟩).1
      simp [hfile] at hthere

/-- Of a file that is gone, nothing is left to remove. -/
theorem isFile_discard (t : FileTree τ) (cwd : Option Place) (p : Path) :
    (t.discard cwd p).isFile cwd p = false := by
  cases hfile : t.isFile cwd p with
  | false => simp [discard, hfile]
  | true =>
    obtain ⟨place, content, use, hl, hn⟩ := isFile_iff.1 hfile
    have hdiscard : t.discard cwd p = t.erase place := by simp [discard, hfile, hl]
    rw [hdiscard, ← Bool.not_eq_true, isFile_iff]
    rintro ⟨place', content', use', hl', hn'⟩
    -- The path still leads to the place, where nothing is left.
    obtain rfl := locate_unique hl hl'
    rw [node?_erase t (ne_nil_of_node?_eq_file hn), if_pos rfl] at hn'
    cases hn'

theorem without_discard (t : FileTree τ) (cwd : Option Place) (p : Path) :
    (t.discard cwd p).without cwd p = t.discard cwd p := by
  have hgone := t.isFile_discard cwd p
  cases hu : (t.discard cwd p).remove cwd p with
  | error e => exact without_of_error hu
  | ok u =>
    have hthere := (exists_remove_eq_ok_iff.1 ⟨u, hu⟩).1
    simp [hgone] at hthere

end FileTree

/-- Where programs left a file at the path, its removal is not refused. -/
def LeavesRemovable (behave : τ → Launch → FileTree τ → Conduct τ) (events : List (Event τ))
    (cwd : Option Place) (p : Path) : Prop :=
  ∀ left ∈ filesLeft behave events, left.isFile cwd p = true → ¬ left.Refuses cwd p

theorem LeavesRemovable.mono {behave : τ → Launch → FileTree τ → Conduct τ}
    {events events' : List (Event τ)} {cwd : Option Place} {p : Path}
    (h : LeavesRemovable behave events' cwd p) (hsub : events ⊆ events') :
    LeavesRemovable behave events cwd p := by
  intro left hleft
  obtain ⟨e, he, hmade⟩ := List.mem_filterMap.1 hleft
  exact h left (List.mem_filterMap.2 ⟨e, hsub he, hmade⟩)

namespace World

/-- The world in which programs do what they do and also delete the file that their last argument
names. -/
def deleting (w : World τ) : World τ :=
  { w with
    behave := fun p launch files =>
      let conduct := w.behave p launch files
      match launch.args.getLast? with
      | some source => { conduct with files := conduct.files.discard launch.cwd source }
      | none => conduct }

theorem behave_deleting (w : World τ) {launch : Launch} {source : Path}
    (h : launch.args.getLast? = some source) (p : τ) (files : FileTree τ) :
    w.deleting.behave p launch files =
      { w.behave p launch files with
        files := (w.behave p launch files).files.discard launch.cwd source } := by
  simp only [deleting, h]

theorem createScratch_deleting (w : World τ) (dir : Path) (content : Bytes) :
    w.deleting.createScratch dir content =
      ((w.createScratch dir content).1, (w.createScratch dir content).2.deleting) := by
  have hrelease : ∀ (v : World τ) p, v.deleting.release p = (v.release p).deleting := by
    intro v p
    rw [release_eq_after, release_eq_after]
    rfl
  cases h : w.openNew (w.scratchPath dir) with
  | error e =>
    rw [createScratch_of_error h, createScratch_of_error (w := w.deleting) h]
    rfl
  | ok place =>
    rw [createScratch_of_ok h, createScratch_of_ok (w := w.deleting) h]
    have hlimit : w.deleting.sizeLimit = w.sizeLimit := rfl
    rw [hlimit]
    cases (Scratch.Writing.ofLimit w.sizeLimit content).error with
    | some e =>
      exact congrArg (Prod.mk _) (hrelease (w.created dir place _ []) (w.scratchPath dir))
    | none => rfl

theorem eq_scratchPath_of_createScratch {w v : World τ} {dir p : Path} {content : Bytes}
    (h : w.createScratch dir content = (.ok p, v)) : p = w.scratchPath dir := by
  cases ho : w.openNew (w.scratchPath dir) with
  | error e =>
    rw [createScratch_of_error ho] at h
    cases (Prod.mk.inj h).1
  | ok place =>
    rw [createScratch_of_ok ho] at h
    cases he : (Scratch.Writing.ofLimit w.sizeLimit content).error with
    | some e =>
      rw [he] at h
      cases (Prod.mk.inj h).1
    | none =>
      rw [he] at h
      exact (Except.ok.inj (Prod.mk.inj h).1).symm

end World

/-- Both worlds come to the same result, and to the same files once the file that was handed over is
removed, if its removal is not refused. -/
theorem Toolchain.invoke_deleting (program : String) (args : List Bytes) (p : Path)
    (vars : List (String × String)) (w : World τ) :
    (invoke program (args ++ [p]) vars w.deleting).1 = (invoke program (args ++ [p]) vars w).1 ∧
      (LeavesRemovable w.behave (w.since (invoke program (args ++ [p]) vars w).2) w.cwd p →
        ((invoke program (args ++ [p]) vars w.deleting).2.release p).files =
          ((invoke program (args ++ [p]) vars w).2.release p).files) := by
  rw [World.release_eq_after, World.release_eq_after, World.after_files, World.after_files]
  cases hopen : w.canOpen 3 with
  | false =>
    have hopen' : w.deleting.canOpen 3 = false := hopen
    rw [invoke_of_unpiped hopen, invoke_of_unpiped hopen']
    exact ⟨rfl, fun _ => rfl⟩
  | true =>
    have hopen' : w.deleting.canOpen 3 = true := hopen
    cases hr : resolve w program (args ++ [p]) vars with
    | error e =>
      have hr' : resolve w.deleting program (args ++ [p]) vars = .error e := hr
      rw [invoke_of_resolve_error hopen hr, invoke_of_resolve_error hopen' hr']
      exact ⟨rfl, fun _ => rfl⟩
    | ok program' =>
      have hr' : resolve w.deleting program (args ++ [p]) vars = .ok program' := hr
      generalize hc : w.behave program' (launchFrom w program (args ++ [p]) vars) w.files = conduct
      have hc' : w.deleting.behave program' (launchFrom w.deleting program (args ++ [p]) vars)
          w.deleting.files = { conduct with files := conduct.files.discard w.cwd p } := by
        have hlast : (launchFrom w program (args ++ [p]) vars).args.getLast? = some p :=
          List.getLast?_concat
        rw [← hc]
        exact w.behave_deleting hlast ..
      rw [invoke_of_resolve_ok hopen hr hc.symm, invoke_of_resolve_ok hopen' hr' hc'.symm]
      refine ⟨rfl, fun hleft => ?_⟩
      have hremovable : conduct.files.isFile w.cwd p = true → ¬ conduct.files.Refuses w.cwd p := by
        rw [World.since_eq (World.after_trace ..)] at hleft
        exact hleft _ (mem_filesLeft (List.mem_cons_of_mem _ List.mem_cons_self) hc.symm)
      rw [World.after_files, World.after_files]
      exact (conduct.files.without_discard w.cwd p).trans (FileTree.without_eq_discard hremovable).symm

namespace Dispatcher

theorem compile_deleting (d : Dispatcher) (mode : Mode) (flags : List String)
    (vars : List (String × String)) (w : World τ) :
    (d.compile mode flags vars w.deleting).1 = (d.compile mode flags vars w).1 ∧
      (LeavesRemovable w.behave (w.since (d.compile mode flags vars w).2) w.cwd
          (w.scratchPath d.scratchDir) →
        (d.compile mode flags vars w.deleting).2.files = (d.compile mode flags vars w).2.files) := by
  cases hs : d.synthesizer mode none with
  | error e =>
    have hrefused : ∀ v : World τ, d.compile mode flags vars v =
        (.error (.synthesis e), v.record (.synthesized mode none)) := by
      intro v
      rw [compile, hs]
    rw [hrefused, hrefused]
    exact ⟨rfl, fun _ => rfl⟩
  | ok source =>
    have hcreate := (w.record (.synthesized mode none)).createScratch_deleting d.scratchDir source.bytes
    rw [compile_of_text hs, compile_of_text hs, World.withScratch, World.withScratch]
    rw [show w.deleting.record (.synthesized mode none) = (w.record (.synthesized mode none)).deleting
      from rfl, hcreate]
    obtain ⟨files, drawn, events, hworld⟩ :=
      (w.record (.synthesized mode none)).createScratch_eq_after d.scratchDir source.bytes
    generalize hmade : (w.record (.synthesized mode none)).createScratch d.scratchDir source.bytes = made
      at hworld
    rcases made with ⟨_ | path, v⟩
    · exact ⟨rfl, fun _ => rfl⟩
    · obtain rfl := World.eq_scratchPath_of_createScratch hmade
      obtain rfl : v = w.after files drawn (.synthesized mode none :: events) := by
        rw [World.record_eq_after, World.after_after] at hworld
        exact hworld
      obtain ⟨hresult, hfiles⟩ := Toolchain.invoke_deleting d.program (flags.map Utf8.encode)
        (w.scratchPath d.scratchDir) vars (w.after files drawn (.synthesized mode none :: events))
      refine ⟨congrArg (Except.map Toolchain.Outcome.output) hresult, fun hleft => hfiles ?_⟩
      exact hleft.mono fun e he =>
        World.since_subset_release w _ _ (World.since_after_subset w _ _ _ _ he)

/-- A command that needs program text hands it over in its mode and prints what it prints. -/
theorem dispatch_of_mode {command : Command} {mode : Mode} (h : command.mode? = some mode)
    (d : Dispatcher) (w : World τ) :
    d.dispatch command w =
      let r := d.compile mode command.flags command.target.settings
        (w.after w.files w.drawn [startRecord command])
      (r.1.map command.printed, r.2) := by
  cases command with
  | build t =>
    cases h
    exact dispatch_build d t w
  | run =>
    cases h
    exact Prod.ext (map_printed_of_ne_build (by simp) _).symm rfl
  | test =>
    cases h
    exact Prod.ext (map_printed_of_ne_build (by simp) _).symm rfl
  | _ => cases h

/-- Whether the program deletes its source makes no difference to the result, and none to the files if
the removal is not refused. -/
theorem dispatch_deleting {command : Command} {mode : Mode} (h : command.mode? = some mode)
    (d : Dispatcher) (w : World τ) :
    (d.dispatch command w.deleting).1 = (d.dispatch command w).1 ∧
      (LeavesRemovable w.behave (w.since (d.dispatch command w).2) w.cwd (w.scratchPath d.scratchDir) →
        (d.dispatch command w.deleting).2.files = (d.dispatch command w).2.files) := by
  obtain ⟨hresult, hfiles⟩ := d.compile_deleting mode command.flags command.target.settings
    (w.after w.files w.drawn [startRecord command])
  rw [dispatch_of_mode h, dispatch_of_mode h]
  refine ⟨congrArg (Except.map command.printed) hresult, fun hleft => hfiles ?_⟩
  exact hleft.mono (World.since_after_subset w ..)

end Dispatcher

/-! ## The log of a dispatch -/

namespace Log.Record

def dispatching (command : Command) : Record :=
  ⟨.info, "driver::command", "dispatching `" ++ command.name ++ "`"⟩

def created (p : Path) (size : Nat) : Record :=
  ⟨.debug, "driver::scratch", "created scratch source " ++ p.text ++ " (" ++ size.repr ++ " bytes)"⟩

def spawning (launch : Launch) (vars : List (String × String)) : Record :=
  ⟨.debug, "driver::toolchain", "spawning " ++ Toolchain.showStart launch.program launch.args vars⟩

def finished (launch : Launch) (conduct : Conduct τ) : Record :=
  ⟨.debug, "driver::toolchain",
    "`" ++ launch.program ++ "` finished with " ++ conduct.ending.text ++ " (" ++
      (Utf8.decodeLossy conduct.output).utf8ByteSize.repr ++ " bytes of output)"⟩

/-- What is logged of the end of a program: nothing if the end is not learned. -/
def ends (launch : Launch) (conduct : Conduct τ) : List Record :=
  if conduct.unlearned? = none then [finished launch conduct] else []

def removed (p : Path) : Record :=
  ⟨.debug, "driver::scratch", "removed scratch source " ++ p.text⟩

def notRemoved (p : Path) (e : SystemError) : Record :=
  ⟨.warn, "driver::scratch", "failed removing scratch source " ++ p.text ++ ": " ++ e.message⟩

end Log.Record

/-- The record of an attempt to remove a file, from the files that were there: it was removed if it was
there and the removal was not refused, and otherwise the record says why it was not. -/
structure IsRemovalRecord (files : FileTree τ) (cwd : Option Place) (p : Path) (r : Log.Record) : Prop where
  removed : files.isFile cwd p = true → ¬ files.Refuses cwd p → r = .removed p
  failed : files.isFile cwd p = false ∨ files.Refuses cwd p →
    ∃ e, files.remove cwd p = .error e ∧ r = .notRemoved p e

/-- The log of a dispatch with program text, of which `events` happened: each stage that is reached has its
record, in order, and the last record is that of the removal. -/
structure DispatchRecords (d : Dispatcher) (command : Command) (content : Bytes) (w : World τ)
    (events : List (Event τ)) : Prop where
  /-- Without a scratch file there is only the record of the dispatch. -/
  uncreated : ∀ e, w.openNew (w.scratchPath d.scratchDir) = .error e →
    World.records events = [.dispatching command]
  /-- Without a program to start, the file is removed as it was written. -/
  unstarted : ∀ place e launch, launch = launchFor d command w [w.scratchPath d.scratchDir] →
    w.openNew (w.scratchPath d.scratchDir) = .ok place →
    Toolchain.resolve (w.created d.scratchDir place content []) d.program launch.args
      command.target.settings = .error e →
    starts events = [] ∧ World.records events =
      [.dispatching command, .created (w.scratchPath d.scratchDir) content.length,
        .spawning launch command.target.settings, .removed (w.scratchPath d.scratchDir)]
  /-- A program that is started comes to its end, which has a record if it is learned. The last record
  depends on what the program left. -/
  started : ∀ place p launch conduct, launch = launchFor d command w [w.scratchPath d.scratchDir] →
    w.openNew (w.scratchPath d.scratchDir) = .ok place →
    Toolchain.resolve (w.created d.scratchDir place content []) d.program launch.args
      command.target.settings = .ok p →
    conduct = w.behave p launch (w.files.put place (.file content .data)) →
    starts events = [launch] ∧ ∃ last, World.records events =
      [.dispatching command, .created (w.scratchPath d.scratchDir) content.length,
        .spawning launch command.target.settings] ++ Log.Record.ends launch conduct ++ [last] ∧
      IsRemovalRecord conduct.files w.cwd (w.scratchPath d.scratchDir) last

/-- A removal adds one record, which says whether it succeeded, and starts nothing. -/
theorem World.since_release (w : World τ) (files : FileTree τ) (drawn : Nat)
    (events : List (Event τ)) (p : Path) :
    let events' := w.since ((w.after files drawn events).release p)
    starts events' = starts events ∧ ∃ last, records events' = records events ++ [last] ∧
      IsRemovalRecord files w.cwd p last := by
  rw [release_eq_after, after_after, since_eq (after_trace ..)]
  refine ⟨by rw [starts_append, starts_removal, List.append_nil], ?_⟩
  rw [records, List.filterMap_append, removal, after_files, after_cwd]
  cases h : files.remove w.cwd p with
  | ok left =>
    have hthere := FileTree.exists_remove_eq_ok_iff.1 ⟨left, h⟩
    exact ⟨_, rfl, fun _ _ => rfl, fun hno => absurd hthere (not_and_or.2 (hno.imp (by simp) not_not.2))⟩
  | error e =>
    refine ⟨_, rfl, fun hfile hopen => ?_, fun _ => ⟨e, h, rfl⟩⟩
    obtain ⟨u, hu⟩ := FileTree.exists_remove_eq_ok_iff.2 ⟨hfile, hopen⟩
    cases h.symm.trans hu

namespace Dispatcher

variable {d : Dispatcher} {command : Command} {mode : Mode} {source : Source} {w : World τ}

theorem world_dispatch_uncreated (h : command.mode? = some mode)
    (hs : d.synthesizer mode none = .ok source) {e : SystemError}
    (ho : w.openNew (w.scratchPath d.scratchDir) = .error e) :
    (d.dispatch command w).2 = w.after w.files (w.drawn + 1)
      [startRecord command, .synthesized mode none, .notCreated (w.scratchPath d.scratchDir) e] := by
  rw [dispatch_of_mode h]
  dsimp only
  rw [compile_of_text hs, World.withScratch, World.createScratch_of_error
    (w := (w.after w.files w.drawn [startRecord command]).record (.synthesized mode none)) ho]
  simp [World.record_eq_after]

/-- The world in which the toolchain is asked, with the scratch file at its place. -/
def ready (d : Dispatcher) (command : Command) (mode : Mode) (content : Bytes) (place : Place)
    (w : World τ) : World τ :=
  w.after (w.files.put place (.file content .data)) (w.drawn + 1)
    [startRecord command, .synthesized mode none, .created (w.scratchPath d.scratchDir),
      World.creationRecord (w.scratchPath d.scratchDir) content]

/-- The scratch file is removed from the world that the toolchain leaves. -/
theorem world_dispatch_created (h : command.mode? = some mode)
    (hs : d.synthesizer mode none = .ok source) {place : Place}
    (ho : w.openNew (w.scratchPath d.scratchDir) = .ok place)
    (he : (Scratch.Writing.ofLimit w.sizeLimit source.bytes).error = none) :
    (d.dispatch command w).2 =
      (Toolchain.invoke d.program (launchFor d command w [w.scratchPath d.scratchDir]).args
        command.target.settings (d.ready command mode source.bytes place w)).2.release
        (w.scratchPath d.scratchDir) := by
  have hready : ((w.after w.files w.drawn [startRecord command]).record
      (.synthesized mode none)).created d.scratchDir place source.bytes
        [World.creationRecord (w.scratchPath d.scratchDir) source.bytes] =
      d.ready command mode source.bytes place w := by
    simp [World.record_eq_after, World.created, ready]
  have hlimit : (Scratch.Writing.ofLimit ((w.after w.files w.drawn [startRecord command]).record
      (.synthesized mode none)).sizeLimit source.bytes).error = none := he
  rw [dispatch_of_mode h, ← hready]
  dsimp only
  rw [compile_of_text hs, World.withScratch, World.createScratch_of_ok
    (w := (w.after w.files w.drawn [startRecord command]).record (.synthesized mode none)) ho, hlimit]
  rfl

/-- The log of a dispatch whose text is written and whose output has a pipe. -/
theorem dispatch_records (h : command.mode? = some mode) (hs : d.synthesizer mode none = .ok source)
    (he : (Scratch.Writing.ofLimit w.sizeLimit source.bytes).error = none)
    (hpipe : w.canOpen 3 = true) :
    DispatchRecords d command source.bytes w (w.since (d.dispatch command w).2) where
  uncreated := by
    intro e ho
    rw [world_dispatch_uncreated h hs ho, World.since_eq (World.after_trace ..)]
    rfl
  unstarted := by
    rintro place e launch rfl ho hr
    -- Nobody has touched the file and its directory, so it can be removed.
    obtain ⟨hfile, hopen⟩ := FileTree.exists_remove_eq_ok_iff.1
      ⟨_, FileTree.remove_put (World.openNew_eq_ok.1 ho).2 source.bytes .data⟩
    rw [world_dispatch_created h hs ho he,
      Toolchain.invoke_of_resolve_error (w := d.ready command mode source.bytes place w) hpipe hr,
      ready, World.after_after]
    obtain ⟨hstarts, last, hrecords, hlast⟩ := World.since_release w _ _ _ _
    exact ⟨hstarts, hrecords.trans (hlast.removed hfile hopen ▸ rfl)⟩
  started := by
    rintro place p launch conduct rfl ho hr hc
    rw [world_dispatch_created h hs ho he,
      Toolchain.invoke_of_resolve_ok (w := d.ready command mode source.bytes place w) hpipe hr hc,
      ready, World.after_after]
    obtain ⟨hstarts, last, hrecords, hlast⟩ := World.since_release w _ _ _ _
    refine ⟨hstarts.trans ?_, last, hrecords.trans ?_, hlast⟩
    · rw [starts_append, Toolchain.starts_ended]
      rfl
    · unfold Toolchain.endRecords Log.Record.ends
      cases conduct.unlearned? with
      | some e => rfl
      | none => rfl

end Dispatcher

/-! ## What is seen of the log -/

/-- A process that is not asked for more shows warnings and errors. -/
theorem Log.Filter.shows_ofProcess {e : Environment} (h : e.text? variableName = none) (r : Record) :
    (ofProcess e false).shows r = decide (r.level.rank ≤ Level.warn.rank) := by
  simp [ofProcess, h, shows, best, Directive.beginning]

/-- Of the events between two worlds, a record is shown if and only if a removal failed. -/
structure ShowsRemovalFailures (filter : Log.Filter) (events : List (Event τ)) : Prop where
  shown_iff : (∃ r ∈ World.records events, filter.shows r = true) ↔ ∃ p e, Event.notRemoved p e ∈ events

/-- An event that is no failed removal, and no record that is shown. -/
def Event.IsQuiet (filter : Log.Filter) : Event τ → Prop
  | .logged r => filter.shows r = false
  | .notRemoved .. => False
  | _ => True

theorem World.mem_records {r : Log.Record} {events : List (Event τ)} :
    r ∈ records events ↔ .logged r ∈ events := by
  simp only [records, List.mem_filterMap]
  constructor
  · rintro ⟨e, he, hr⟩
    cases e with
    | logged r' => exact Option.some.inj hr ▸ he
    | _ => cases hr
  · exact fun h => ⟨_, h, rfl⟩

namespace ShowsRemovalFailures

variable {filter : Log.Filter}

theorem of_quiet {events : List (Event τ)} (h : ∀ e ∈ events, e.IsQuiet filter) :
    ShowsRemovalFailures filter events where
  shown_iff := by
    constructor
    · rintro ⟨r, hr, hshown⟩
      have hquiet : filter.shows r = false := h _ (World.mem_records.1 hr)
      rw [hquiet] at hshown
      cases hshown
    · rintro ⟨p, e, he⟩
      exact (h _ he).elim

theorem append {events events' : List (Event τ)} (h : ShowsRemovalFailures filter events)
    (h' : ShowsRemovalFailures filter events') : ShowsRemovalFailures filter (events ++ events') where
  shown_iff := by
    have hshown := h.shown_iff
    have hshown' := h'.shown_iff
    simp only [World.mem_records] at hshown hshown' ⊢
    simp only [List.mem_append, or_and_right, exists_or, hshown, hshown']

end ShowsRemovalFailures

/-- One world comes from the other, and of what happened between them a record is shown if and only if a
removal failed. -/
def World.ExtendsShowing (filter : Log.Filter) (w w' : World τ) : Prop :=
  ∃ events, w'.trace = w.trace ++ events ∧ ShowsRemovalFailures filter events

section ExtendsShowing

variable {filter : Log.Filter} {w v w' : World τ}

theorem World.ExtendsShowing.trans (h : w.ExtendsShowing filter v) (h' : v.ExtendsShowing filter w') :
    w.ExtendsShowing filter w' := by
  obtain ⟨events, htrace, hshows⟩ := h
  obtain ⟨events', htrace', hshows'⟩ := h'
  exact ⟨events ++ events', by rw [htrace', htrace, List.append_assoc], hshows.append hshows'⟩

theorem World.ExtendsShowing.after (files : FileTree τ) (drawn : Nat) {events : List (Event τ)}
    (h : ∀ e ∈ events, e.IsQuiet filter) : w.ExtendsShowing filter (w.after files drawn events) :=
  ⟨events, rfl, .of_quiet h⟩

theorem World.ExtendsShowing.showsRemovalFailures (h : w.ExtendsShowing filter w') :
    ShowsRemovalFailures filter (w.since w') := by
  obtain ⟨events, htrace, hshows⟩ := h
  rwa [since_eq htrace]

-- The filter of a process that is not asked for more.
variable (hfilter : ∀ r, filter.shows r = decide (r.level.rank ≤ Log.Level.warn.rank))

include hfilter

/-- This is where trouble shows. -/
theorem World.ExtendsShowing.release (w : World τ) (p : Path) : w.ExtendsShowing filter (w.release p) := by
  refine ⟨w.removal p, by rw [release_eq_after, after_trace], ?_⟩
  unfold removal
  cases w.files.remove w.cwd p with
  | ok files => exact .of_quiet (by simp [Event.IsQuiet, hfilter, Log.Level.rank])
  | error e => exact ⟨by simp [mem_records, hfilter, Log.Level.rank]⟩

theorem Toolchain.Invocation.extendsShowing {program : String} {args : List Bytes}
    {vars : List (String × String)} {r : Except Failure Toolchain.Outcome}
    (h : Invocation program args vars w r w') : w.ExtendsShowing filter w' := by
  cases h with
  | unpiped h => exact ⟨[], (List.append_nil _).symm, .of_quiet (by simp)⟩
  | unstarted e h hr => exact .after _ _ (by simp [Event.IsQuiet, spawnRecord, hfilter, Log.Level.rank])
  | ended p conduct h hr hc =>
    refine .after _ _ ?_
    unfold endRecords
    cases conduct.unlearned? with
    | some e => simp [Event.IsQuiet, spawnRecord, hfilter, Log.Level.rank]
    | none => simp [Event.IsQuiet, spawnRecord, endRecord, hfilter, Log.Level.rank]

theorem Dispatcher.CompileOutcome.extendsShowing {d : Dispatcher} {mode : Mode} {flags : List String}
    {vars : List (String × String)} {r : Except Failure String} (h : d.CompileOutcome mode flags vars w r w') :
    w.ExtendsShowing filter w' := by
  have hsynthesized : w.ExtendsShowing filter (w.record (.synthesized mode none)) :=
    .after _ _ (by simp [Event.IsQuiet])
  cases h with
  | refused e hs => exact hsynthesized
  | uncreated source e hs ho => exact hsynthesized.trans (.after _ _ (by simp [Event.IsQuiet]))
  | unwritten source place e hs ho he =>
    exact hsynthesized.trans (.trans (.after _ _ (by simp [Event.IsQuiet])) (.release hfilter _ _))
  | used source place r v hs ho he hi =>
    have hcreated : (w.record (.synthesized mode none)).ExtendsShowing filter
        ((w.record (.synthesized mode none)).created d.scratchDir place source.bytes
          [World.creationRecord (w.scratchPath d.scratchDir) source.bytes]) :=
      .after _ _ (by simp [Event.IsQuiet, World.creationRecord, hfilter, Log.Level.rank])
    exact hsynthesized.trans (hcreated.trans ((hi.extendsShowing hfilter).trans (.release hfilter _ _)))

theorem Dispatcher.dispatch_extendsShowing (d : Dispatcher) (command : Command) (w : World τ) :
    w.ExtendsShowing filter (d.dispatch command w).2 := by
  have hstart : w.ExtendsShowing filter (w.after w.files w.drawn [startRecord command]) :=
    .after _ _ (by simp [Event.IsQuiet, startRecord, hfilter, Log.Level.rank])
  have h := d.dispatch_outcome command w
  generalize (d.dispatch command w).1 = r, (d.dispatch command w).2 = w' at h ⊢
  cases h with
  | answered output h => exact hstart
  | asked h r w' hi => exact hstart.trans (hi.extendsShowing hfilter)
  | compiled mode h r w' hc => exact hstart.trans (hc.extendsShowing hfilter)

theorem CommandLine.perform_extendsShowing (command : Command) (w : World τ) :
    w.ExtendsShowing filter (perform command w).2 := by
  have hnothing : w.ExtendsShowing filter w := ⟨[], (List.append_nil _).symm, .of_quiet (by simp)⟩
  cases hlocal : command.localOutput? with
  | some output =>
    rw [perform_of_localOutput? hlocal]
    exact hnothing
  | none =>
    rw [perform_eq hlocal]
    cases configured w with
    | error t => exact hnothing
    | ok c =>
      have hconfig : w.ExtendsShowing filter (w.after w.files w.drawn [configRecord c w]) :=
        .after _ _ (by simp [Event.IsQuiet, configRecord, hfilter, Log.Level.rank])
      exact hconfig.trans (Dispatcher.dispatch_extendsShowing hfilter _ command _)

end ExtendsShowing

namespace CommandLine

/-- A run that is not asked for more shows a line of the log if and only if a removal failed. -/
theorem exists_isLog_iff {args : List String} {w : World τ} (hargs : verboseFlag ∉ args)
    (henv : w.environment.text? Log.Filter.variableName = none) :
    (∃ line ∈ (run args w).1.stderr, line.isLog = true) ↔
      ∃ p e, Event.notRemoved p e ∈ w.since (run args w).2 := by
  have hverbose : args.contains verboseFlag = false := by simpa using hargs
  have hlines : ∀ w', logLines args w w' = ((World.records (w.since w')).filter
      (Log.Filter.ofProcess w.environment false).shows).map .record := by
    intro w'
    rw [logLines, hverbose]
    simp [Log.Filter.ofProcess, henv]
  have hshows := (perform_extendsShowing (Log.Filter.shows_ofProcess henv)
    (Command.parse (words args)) w).showsRemovalFailures
  rw [run_eq]
  dsimp only
  rw [← hshows.shown_iff, hlines]
  constructor
  · rintro ⟨line, hline, hlog⟩
    rcases List.mem_append.1 hline with hrecord | hcomplaint
    · obtain ⟨r, hr, -⟩ := List.mem_map.1 hrecord
      exact ⟨r, List.mem_filter.1 hr⟩
    · rw [isLog_of_mem_complaintOf hcomplaint] at hlog
      cases hlog
  · rintro ⟨r, hr, hshown⟩
    exact ⟨.record r, List.mem_append_left _ (List.mem_map_of_mem (List.mem_filter.2 ⟨hr, hshown⟩)), rfl⟩

end CommandLine

/-- **Trouble with the removal of a scratch file is logged and changes nothing else**, for every command
that needs program text, every dispatcher, all files and whatever programs do. Whether the program also
deletes its source makes no difference to the result, and none to the files if the removal of what it
leaves is not refused. With the fixed programs the log is known record by record, if a new file can be
written and there is a pipe for the output. What is shown of it without asking for more is a failed
removal, and so it is with whole runs. -/
theorem removal_trouble_only_logged {command : Command} {mode : Mode} (h : command.mode? = some mode)
    (d : Dispatcher) (w : World τ) :
    ((d.dispatch command w.deleting).1 = (d.dispatch command w).1 ∧
      (LeavesRemovable w.behave (w.since (d.dispatch command w).2) w.cwd (w.scratchPath d.scratchDir) →
        (d.dispatch command w.deleting).2.files = (d.dispatch command w).2.files)) ∧
    (d.synthesizer = .template →
      (Scratch.Writing.ofLimit w.sizeLimit (Source.ofMode mode).bytes).error = none →
      w.canOpen 3 = true →
      DispatchRecords d command (Source.ofMode mode).bytes w (w.since (d.dispatch command w).2)) ∧
    (∀ e : Environment, e.text? Log.Filter.variableName = none →
      ShowsRemovalFailures (Log.Filter.ofProcess e false) (w.since (d.dispatch command w).2)) ∧
    (∀ args, CommandLine.verboseFlag ∉ args →
      w.environment.text? Log.Filter.variableName = none →
      ((∃ line ∈ (CommandLine.run args w).1.stderr, line.isLog = true) ↔
        ∃ p e, Event.notRemoved p e ∈ w.since (CommandLine.run args w).2)) := by
  refine ⟨d.dispatch_deleting h w, fun hs he hpipe => ?_, fun e he => ?_, fun args hargs henv => ?_⟩
  · exact Dispatcher.dispatch_records h (by rw [hs]; rfl) he hpipe
  · exact (Dispatcher.dispatch_extendsShowing (Log.Filter.shows_ofProcess he) d command w).showsRemovalFailures
  · exact CommandLine.exists_isLog_iff hargs henv

namespace Sample

/-- A system whose program succeeds and leaves its source alone. -/
def sparing : World Unit :=
  { world with behave := fun _ _ files => ⟨[(.output, Utf8.encode "hello")], .exited 0, files, none, none⟩ }

/-- A system whose program closes the directory for scratch files. -/
def barred : World Unit :=
  { world with behave := fun _ _ files => ⟨[], .exited 0, closing files, none, none⟩ }

end Sample

/-- If that program also deletes its source, the result and the files are the same and the last record is
another. -/
theorem sample_removal_trouble_only_logged :
    let d := Sample.dispatcher
    let events := fun w : World Unit => w.since (d.dispatch .run w).2
    let levels := fun w : World Unit => (World.records (events w)).map Log.Record.level
    Command.run.mode? = some .normal ∧
      (levels Sample.sparing = [.info, .debug, .debug, .debug, .debug] ∧
        levels Sample.sparing.deleting = [.info, .debug, .debug, .debug, .warn]) ∧
      ((d.dispatch .run Sample.sparing).1.toOption = some "hello" ∧
        (d.dispatch .run Sample.sparing.deleting).1.toOption = some "hello") ∧
      (d.dispatch .run Sample.sparing.deleting).2.files = (d.dispatch .run Sample.sparing).2.files ∧
      DispatchRecords d .run (Source.ofMode .normal).bytes Sample.sparing (events Sample.sparing) ∧
      ShowsRemovalFailures (Log.Filter.ofProcess .empty false) (events Sample.sparing) ∧
      ∃ line ∈ (CommandLine.run ["run"] Sample.sparing.deleting).1.stderr, line.isLog = true := by
  obtain ⟨⟨hresult, hfiles⟩, hrecords, hshows, -⟩ := removal_trouble_only_logged
    (rfl : Command.run.mode? = some .normal) Sample.dispatcher Sample.sparing
  have hello : (Sample.dispatcher.dispatch .run Sample.sparing).1.toOption =
      some "hello" := by
    decide +kernel
  have hleft : LeavesRemovable Sample.sparing.behave (Sample.sparing.since
      (Sample.dispatcher.dispatch .run Sample.sparing).2) (some []) Sample.source := by
    unfold LeavesRemovable
    decide +kernel
  exact ⟨rfl, ⟨by decide +kernel, by decide +kernel⟩, ⟨hello, hresult ▸ hello⟩, hfiles hleft,
    hrecords rfl rfl rfl, hshows .empty rfl, by decide +kernel⟩

/-- Two ways in which the log of a dispatch is another one than the fate of the program and of its source
suggests. If waiting fails, a program that was started has no record of its end. If the program closes the
directory, the removal fails though the file is there, and then the file stays, which a program that also
deletes it does not leave behind. -/
theorem unlearned_end_and_refused_removal :
    let d := Sample.dispatcher
    let events := fun w : World Unit => w.since (d.dispatch .run w).2
    let levels := fun w : World Unit => (World.records (events w)).map Log.Record.level
    let launch := launchFor d .run Sample.reaped [Sample.source]
    (starts (events Sample.reaped) = [launch] ∧
      World.records (events Sample.reaped) =
        [.dispatching .run, .created Sample.source (Source.ofMode .normal).bytes.length,
          .spawning launch [], .removed Sample.source]) ∧
    ((∀ left ∈ filesLeft Sample.barred.behave (events Sample.barred),
        left.isFile (some []) Sample.source = true) ∧
      levels Sample.barred = [.info, .debug, .debug, .debug, .warn] ∧
      (d.dispatch .run Sample.barred).2.files.Present (some []) Sample.source ∧
      ¬ (d.dispatch .run Sample.barred.deleting).2.files.Present (some []) Sample.source) := by
  refine ⟨⟨rfl, ?_⟩, ?_, ?_, ?_, ?_⟩
  all_goals decide +kernel

end Conductor
