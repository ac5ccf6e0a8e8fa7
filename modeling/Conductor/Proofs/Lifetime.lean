import Mathlib.Data.List.Induction
import Conductor.Proofs.Order
import Conductor.Proofs.ScratchName

/-!
# The lifetime of scratch files

A process may dispatch any number of commands. Between two dispatches everything may change that does not
belong to the process itself: the configuration, the environment, the limits of the system, and what
programs do. `runCalls` is the list of what came of each dispatch, and `scratch_files_released_once` says of
every such list that scratch files are created and released exactly once: one attempt to create for each
text, and one attempt to remove for each creation, made by the dispatch that created (`ReleasedOnce`). That
holds whatever programs do.

Whether nothing is left behind depends on the programs that are started, and there are two ways in which
they can see to it that something is. A program may leave a directory in place of its source, or see to it
that the removal is refused; and a program of a later dispatch may put something where an earlier scratch file
was, which nobody would remove again. Both happen (`released_path_reappears`), and nothing else does:
after every dispatch of a run in which neither happens (`SparesScratch`), nothing is at the paths of the
scratch files created so far.
-/

namespace Conductor

variable {τ : Type}

/-! ## Runs of dispatches -/

/-- One dispatch of a process, with all that may differ from one dispatch to the next. -/
structure Call (τ : Type) where
  dispatcher : Dispatcher
  command : Command
  environment : Environment
  /-- What programs do when they are started during the dispatch. -/
  behave : τ → Launch → FileTree τ → Conduct τ
  sizeLimit : Option Nat
  openLimit : Option Nat

/-- What came of a call: the world that it found, its result, and the world that it left. -/
structure CallRun (τ : Type) where
  call : Call τ
  initial : World τ
  result : Except Failure String
  final : World τ

namespace Call

/-- The world of a process in the circumstances of a call. -/
def enter (c : Call τ) (w : World τ) : World τ :=
  { w with
    environment := c.environment, behave := c.behave, sizeLimit := c.sizeLimit, openLimit := c.openLimit }

def run (c : Call τ) (w : World τ) : CallRun τ where
  call := c
  initial := c.enter w
  result := (c.dispatcher.dispatch c.command (c.enter w)).1
  final := (c.dispatcher.dispatch c.command (c.enter w)).2

/-- The command needs program text, and there is one. -/
def HasText (c : Call τ) : Prop :=
  ∃ mode source, c.command.mode? = some mode ∧ c.dispatcher.synthesizer mode none = .ok source

end Call

/-- What comes of the calls of a process, one after the other. -/
def runCalls : List (Call τ) → World τ → List (CallRun τ)
  | [], _ => []
  | c :: calls, w => c.run w :: runCalls calls (c.run w).final

namespace CallRun

/-- What happened during a call, log records aside. -/
def actions (t : CallRun τ) : List (Event τ) :=
  Conductor.actions (t.initial.since t.final)

/-- The path of the scratch file that a call may create. -/
def path (t : CallRun τ) : Path :=
  t.initial.scratchPath t.call.dispatcher.scratchDir

end CallRun

theorem Call.run_actions (c : Call τ) (w : World τ) :
    DispatchActions c.dispatcher c.command (c.enter w) (c.run w).actions (c.run w).final.files :=
  dispatch_actions c.dispatcher c.command (c.enter w)

theorem Call.run_final_cwd (c : Call τ) (w : World τ) : (c.run w).final.cwd = w.cwd := by
  have hafter := dispatch_eq_after c.dispatcher c.command (c.enter w)
  rw [Call.run, hafter]
  rfl

/-- Everything in the list came of one of the calls, in some world. -/
theorem eq_run_of_mem_runCalls {calls : List (Call τ)} {w : World τ} {t : CallRun τ}
    (h : t ∈ runCalls calls w) : ∃ c ∈ calls, ∃ w₀, t = c.run w₀ := by
  induction calls generalizing w with
  | nil => simp [runCalls] at h
  | cons c calls ih =>
    rcases List.mem_cons.1 h with rfl | hrest
    · exact ⟨c, List.mem_cons_self, w, rfl⟩
    · obtain ⟨c', hc', w₀, rfl⟩ := ih hrest
      exact ⟨c', List.mem_cons_of_mem c hc', w₀, rfl⟩

/-- The working directory is the same throughout. -/
theorem cwd_of_mem_runCalls {calls : List (Call τ)} {w : World τ} {t : CallRun τ}
    (h : t ∈ runCalls calls w) : t.initial.cwd = w.cwd ∧ t.final.cwd = w.cwd := by
  induction calls generalizing w with
  | nil => simp [runCalls] at h
  | cons c calls ih =>
    rcases List.mem_cons.1 h with rfl | hrest
    · exact ⟨rfl, c.run_final_cwd w⟩
    · obtain ⟨hinitial, hfinal⟩ := ih hrest
      exact ⟨hinitial.trans (c.run_final_cwd w), hfinal.trans (c.run_final_cwd w)⟩

/-- A call finds the files that the call before it left. -/
theorem files_of_split {calls : List (Call τ)} {w : World τ} {before after : List (CallRun τ)}
    {s t : CallRun τ} (h : runCalls calls w = before ++ s :: t :: after) :
    t.initial.files = s.final.files := by
  induction calls generalizing w before with
  | nil => simp [runCalls] at h
  | cons c calls ih =>
    cases before with
    | cons first before => exact ih (List.cons.inj h).2
    | nil =>
      obtain ⟨rfl, hrest⟩ := List.cons.inj h
      cases calls with
      | nil => cases hrest
      | cons c' calls =>
        obtain ⟨rfl, -⟩ := List.cons.inj hrest
        rfl

/-! ## One call -/

namespace DispatchActions

variable {d : Dispatcher} {command : Command} {w : World τ} {l : List (Event τ)} {files : FileTree τ}

theorem attempts_of_text (h : DispatchActions d command w l files) {mode : Mode} {source : Source}
    (hm : command.mode? = some mode) (hs : d.synthesizer mode none = .ok source) :
    attempts l = [w.scratchPath d.scratchDir] := by
  cases h with
  | nothing hm' => simp [hm] at hm'
  | asked hm' => simp [hm', Command.mode?] at hm
  | refused mode' hm' e hs' =>
    obtain rfl : mode = mode' := Option.some.inj (hm.symm.trans hm')
    simp [hs] at hs'
  | uncreated => rfl
  | unused => rfl
  | used =>
    simp only [attempts, List.filterMap_cons, attempt?_removalEvent]
    rfl

theorem attempts_without_text (h : DispatchActions d command w l files)
    (hno : ∀ mode source, command.mode? = some mode → d.synthesizer mode none ≠ .ok source) :
    attempts l = [] := by
  cases h with
  | nothing => rfl
  | asked => rfl
  | refused => rfl
  | uncreated mode hm source hs | unused mode hm source hs | used mode hm source hs =>
    exact absurd hs (hno mode source hm)

theorem removals_eq_creations (h : DispatchActions d command w l files) : removals l = creations l := by
  cases h with
  | used =>
    simp only [removals, creations, List.filterMap_cons, removal?_removalEvent, creation?_removalEvent]
    rfl
  | _ => rfl

theorem eq_of_mem_creations (h : DispatchActions d command w l files) {p : Path} (hp : p ∈ creations l) :
    p = w.scratchPath d.scratchDir := by
  cases h with
  | unused => exact List.mem_singleton.1 hp
  | used =>
    simp only [creations, List.filterMap_cons, creation?_removalEvent] at hp
    exact List.mem_singleton.1 hp
  | _ => exact absurd hp List.not_mem_nil

/-- A scratch file that was created is to be removed once, and later than it was created. -/
theorem removed_after_created (h : DispatchActions d command w l files) {p : Path} (hp : p ∈ creations l) :
    ∃ before after, l = before ++ .created p :: after ∧ removals before = [] ∧ removals after = [p] := by
  obtain rfl := h.eq_of_mem_creations hp
  cases h with
  | unused mode => exact ⟨[.synthesized mode none], _, rfl, rfl, rfl⟩
  | used mode =>
    refine ⟨[.synthesized mode none], _, rfl, rfl, ?_⟩
    simp only [removals, List.filterMap_cons, removal?_removalEvent]
    rfl
  | _ => exact absurd hp List.not_mem_nil

end DispatchActions

/-! ## What programs leave -/

/-- The files that programs left, for each start among the events. -/
def filesLeft (behave : τ → Launch → FileTree τ → Conduct τ) (events : List (Event τ)) :
    List (FileTree τ) :=
  events.filterMap fun
    | .started launch p _ files => some (behave p launch files).files
    | _ => none

theorem mem_filesLeft {behave : τ → Launch → FileTree τ → Conduct τ} {events : List (Event τ)}
    {launch : Launch} {p : τ} {source : Option Bytes} {files : FileTree τ}
    (h : .started launch p source files ∈ events) {conduct : Conduct τ}
    (hc : conduct = behave p launch files) : conduct.files ∈ filesLeft behave events :=
  List.mem_filterMap.2 ⟨_, h, by rw [hc]⟩

namespace DispatchActions

variable {d : Dispatcher} {command : Command} {w : World τ} {l : List (Event τ)} {files : FileTree τ}

/-- What is still at the path of a scratch file after the dispatch that created it is a directory that the
program left there, or the program saw to it that the removal was refused. -/
theorem leaves_of_present_created (h : DispatchActions d command w l files) {q : Path}
    (hq : q ∈ creations l) (hpresent : files.Present w.cwd q) :
    ∃ left ∈ filesLeft w.behave l, left.DirectoryAt w.cwd q ∨ left.Refuses w.cwd q := by
  obtain rfl := h.eq_of_mem_creations hq
  cases h with
  | unused mode hm source hs place ho =>
    exact absurd hpresent (FileTree.not_present_of_vacancy (World.openNew_eq_ok.1 ho).2)
  | used mode hm source hs place ho he p conduct hc =>
    refine ⟨conduct.files,
      mem_filesLeft (List.mem_cons_of_mem _ (List.mem_cons_of_mem _ List.mem_cons_self)) hc, ?_⟩
    by_cases hdir : conduct.files.DirectoryAt w.cwd (w.scratchPath d.scratchDir)
    · exact Or.inl hdir
    · exact Or.inr (not_imp_not.1 (FileTree.not_present_without_self hdir) hpresent)
  | _ => exact absurd hq List.not_mem_nil

/-- What is at a path after a dispatch was there before, or the program left it there. -/
theorem leaves_of_present (h : DispatchActions d command w l files) {q : Path}
    (hpresent : files.Present w.cwd q) :
    w.files.Present w.cwd q ∨ ∃ left ∈ filesLeft w.behave l, left.Present w.cwd q := by
  cases h with
  | asked hm p source conduct hc =>
    exact Or.inr ⟨conduct.files, mem_filesLeft List.mem_cons_self hc, hpresent⟩
  | used mode hm source hs place ho he p conduct hc =>
    refine Or.inr ⟨conduct.files,
      mem_filesLeft (List.mem_cons_of_mem _ (List.mem_cons_of_mem _ List.mem_cons_self)) hc, ?_⟩
    exact not_imp_not.1 (fun habsent => FileTree.not_present_without habsent _) hpresent
  | _ => exact Or.inl hpresent

end DispatchActions

/-! ## Whole runs -/

/-- The scratch files of a run of dispatches are created and released exactly once, and what is at their
paths later on is known by its origin. -/
structure ReleasedOnce (calls : List (Call τ)) (w : World τ) : Prop where
  /-- A dispatch for which there is program text tries to create exactly one scratch file. -/
  attempted : ∀ t ∈ runCalls calls w, t.call.HasText → attempts t.actions = [t.path]
  /-- Every other dispatch tries none. -/
  unattempted : ∀ t ∈ runCalls calls w, ¬ t.call.HasText → attempts t.actions = []
  /-- A scratch file that is created is to be removed once, later in the same dispatch. -/
  removed : ∀ t ∈ runCalls calls w, ∀ p ∈ creations t.actions, ∃ before after,
    t.actions = before ++ .created p :: after ∧ removals before = [] ∧ removals after = [p]
  /-- Nothing else is to be removed. -/
  balanced : ∀ t ∈ runCalls calls w, removals t.actions = creations t.actions
  /-- If something is left at the path by the dispatch that created the file, the program left a directory
  there or saw to it that the removal was refused. -/
  leftover : ∀ t ∈ runCalls calls w, ∀ p ∈ creations t.actions, t.final.files.Present w.cwd p →
    ∃ left ∈ filesLeft t.call.behave t.actions, left.DirectoryAt w.cwd p ∨ left.Refuses w.cwd p
  /-- If something appears at a path during a dispatch, the program left it there. -/
  appeared : ∀ t ∈ runCalls calls w, ∀ p, t.final.files.Present w.cwd p →
    t.initial.files.Present w.cwd p ∨
      ∃ left ∈ filesLeft t.call.behave t.actions, left.Present w.cwd p

theorem releasedOnce (calls : List (Call τ)) (w : World τ) : ReleasedOnce calls w where
  attempted := by
    rintro t ht ⟨mode, source, hm, hs⟩
    obtain ⟨c, -, w₀, rfl⟩ := eq_run_of_mem_runCalls ht
    exact (c.run_actions w₀).attempts_of_text hm hs
  unattempted := by
    intro t ht hno
    obtain ⟨c, -, w₀, rfl⟩ := eq_run_of_mem_runCalls ht
    refine (c.run_actions w₀).attempts_without_text fun mode source hm hs => ?_
    exact hno ⟨mode, source, hm, hs⟩
  removed := by
    intro t ht p hp
    obtain ⟨c, -, w₀, rfl⟩ := eq_run_of_mem_runCalls ht
    exact (c.run_actions w₀).removed_after_created hp
  balanced := by
    intro t ht
    obtain ⟨c, -, w₀, rfl⟩ := eq_run_of_mem_runCalls ht
    exact (c.run_actions w₀).removals_eq_creations
  leftover := by
    intro t ht p hp hpresent
    have hcwd := (cwd_of_mem_runCalls ht).1
    obtain ⟨c, -, w₀, rfl⟩ := eq_run_of_mem_runCalls ht
    rw [← hcwd] at hpresent ⊢
    exact (c.run_actions w₀).leaves_of_present_created hp hpresent
  appeared := by
    intro t ht p hpresent
    have hcwd := (cwd_of_mem_runCalls ht).1
    obtain ⟨c, -, w₀, rfl⟩ := eq_run_of_mem_runCalls ht
    rw [← hcwd] at hpresent ⊢
    exact (c.run_actions w₀).leaves_of_present hpresent

/-- The programs that are started in a run of dispatches spare its scratch files. -/
structure SparesScratch (calls : List (Call τ)) (w : World τ) : Prop where
  /-- The program of a dispatch leaves no directory at the path that it is handed, and it leaves it to the
  process to remove what is there. -/
  own : ∀ t ∈ runCalls calls w, ∀ p ∈ creations t.actions,
    ∀ left ∈ filesLeft t.call.behave t.actions, ¬ left.DirectoryAt w.cwd p ∧ ¬ left.Refuses w.cwd p
  /-- The program of a later dispatch leaves nothing at the path. -/
  other : (runCalls calls w).Pairwise fun s t =>
    ∀ p ∈ creations s.actions, p ∉ creations t.actions →
      ∀ left ∈ filesLeft t.call.behave t.actions, ¬ left.Present w.cwd p

/-- The step, for the dispatch that created a scratch file. -/
theorem SparesScratch.not_present_created {calls : List (Call τ)} {w : World τ}
    (h : SparesScratch calls w) {t : CallRun τ} (ht : t ∈ runCalls calls w) {p : Path}
    (hp : p ∈ creations t.actions) : ¬ t.final.files.Present w.cwd p := by
  intro hpresent
  obtain ⟨left, hleaves, hleft⟩ := (releasedOnce calls w).leftover t ht p hp hpresent
  obtain ⟨hdir, hopen⟩ := h.own t ht p hp left hleaves
  rcases hleft with hfind | hrefuses
  · exact hdir hfind
  · exact hopen hrefuses

/-- The run, from the dispatch that created a scratch file to any later one. -/
theorem SparesScratch.not_present {calls : List (Call τ)} {w : World τ} (h : SparesScratch calls w)
    {before after : List (CallRun τ)} {t : CallRun τ}
    (hsplit : runCalls calls w = before ++ t :: after) {s : CallRun τ} (hs : s ∈ before ++ [t])
    {p : Path} (hp : p ∈ creations s.actions) : ¬ t.final.files.Present w.cwd p := by
  -- From one dispatch to the next: the induction takes dispatches off the end of `before`.
  induction before using List.reverseRecOn generalizing t after with
  | nil =>
    obtain rfl := List.mem_singleton.1 hs
    exact h.not_present_created (hsplit ▸ List.mem_cons_self) hp
  | append_singleton before r ih =>
    have ht : t ∈ runCalls calls w := hsplit ▸ List.mem_append_right _ List.mem_cons_self
    by_cases hown : p ∈ creations t.actions
    · exact h.not_present_created ht hown
    have hearlier : s ∈ before ++ [r] := by
      rcases List.mem_append.1 hs with hin | hlast
      · exact hin
      · obtain rfl := List.mem_singleton.1 hlast
        exact absurd hp hown
    have hchain : runCalls calls w = before ++ r :: t :: after := by
      rw [hsplit, List.append_assoc, List.singleton_append]
    have habsent := ih hchain hearlier
    rw [← files_of_split hchain] at habsent
    intro hpresent
    rcases (releasedOnce calls w).appeared t ht p hpresent with hbefore | ⟨left, hleaves, hleft⟩
    · exact habsent hbefore
    · have hother := h.other
      rw [hsplit, List.pairwise_append] at hother
      exact hother.2.2 s hearlier t List.mem_cons_self p hp hown left hleaves hleft

/-- **Scratch files are created and released exactly once over whole runs**, whatever is dispatched with
whatever configuration, synthesizer, files and limits, and whatever the programs do. If the programs that
are started spare the scratch files of the run, nothing is at the paths of the scratch files created so far
after every dispatch. -/
theorem scratch_files_released_once (calls : List (Call τ)) (w : World τ) :
    ReleasedOnce calls w ∧
    (SparesScratch calls w → ∀ before t after, runCalls calls w = before ++ t :: after →
      ∀ s ∈ before ++ [t], ∀ p ∈ creations s.actions, ¬ t.final.files.Present t.final.cwd p) := by
  refine ⟨releasedOnce calls w, ?_⟩
  intro hspares before t after hsplit s hs p hp
  have ht : t ∈ runCalls calls w := hsplit ▸ List.mem_append_right _ List.mem_cons_self
  rw [(cwd_of_mem_runCalls ht).2]
  exact hspares.not_present hsplit hs hp

namespace Sample

/-- A call with a limit for the size of files. -/
def call (command : Command) (sizeLimit : Option Nat) : Call Unit where
  dispatcher := dispatcher
  command := command
  environment := .empty
  behave := failing
  sizeLimit := sizeLimit
  openLimit := none

/-- A failing run, a test whose text is too long for the system, and a question for the version. -/
def calls : List (Call Unit) := [call .run none, call .test (some 3), call .goVersion none]

end Sample

/-- Two scratch files are created in that run, one of which the program deletes itself. -/
theorem sample_scratch_files_released_once :
    SparesScratch Sample.calls Sample.world ∧
    (runCalls Sample.calls Sample.world).map (fun t => (creations t.actions).length) = [1, 1, 0] ∧
    ReleasedOnce Sample.calls Sample.world ∧
    ∀ before t after, runCalls Sample.calls Sample.world = before ++ t :: after →
      ∀ s ∈ before ++ [t], ∀ p ∈ creations s.actions, ¬ t.final.files.Present t.final.cwd p := by
  have hspares : SparesScratch Sample.calls Sample.world := ⟨by decide +kernel, by decide +kernel⟩
  obtain ⟨hreleased, habsent⟩ := scratch_files_released_once Sample.calls Sample.world
  exact ⟨hspares, by decide +kernel, hreleased, habsent hspares⟩

namespace Sample

/-- A program that writes an empty file at that path and does nothing else. -/
def writing (p : Path) : Unit → Launch → FileTree Unit → Conduct Unit :=
  fun _ _ files => ⟨[], .exited 0, (files.write (some []) p [] .data).toOption.getD files, none, none⟩

/-- The files, with the directory for scratch files closed. -/
def closing (files : FileTree Unit) : FileTree Unit :=
  ⟨files.entries.map fun n =>
    if n.place = [Utf8.encode "tmp"] then { n with closed := some .accessDenied } else n⟩

/-- Two runs, of which the second has a program that writes where the first scratch file was. -/
def rewritten : List (Call Unit) :=
  [call .run none, { call .run none with behave := writing (Utf8.encode "/tmp/main-7-5-1.go") }]

/-- A run whose program makes the directory for scratch files one that cannot be written. -/
def closed : List (Call Unit) :=
  [{ call .run none with behave := fun _ _ files => ⟨[], .exited 0, closing files, none, none⟩ }]

end Sample

/-- Two ways in which a scratch file comes to be at its path after it was to be removed, though no program
puts a directory at the path of any: a later program writes a file there, or the program that was handed
the path sees to it that the removal is refused. -/
theorem released_path_reappears :
    (let runs := runCalls Sample.rewritten Sample.world
     runs.map (fun t => creations t.actions) =
       [[Utf8.encode "/tmp/main-7-5-1.go"], [Utf8.encode "/tmp/main-7-5-2.go"]] ∧
     (∀ t ∈ runs, ∀ s ∈ runs, ∀ p ∈ creations s.actions,
       ∀ left ∈ filesLeft t.call.behave t.actions, ¬ left.DirectoryAt (some []) p) ∧
     runs.map (fun t => decide (t.final.files.Present (some []) (Utf8.encode "/tmp/main-7-5-1.go"))) =
       [false, true]) ∧
    (let runs := runCalls Sample.closed Sample.world
     runs.map (fun t => creations t.actions) = [[Utf8.encode "/tmp/main-7-5-1.go"]] ∧
     (∀ t ∈ runs, ∀ p ∈ creations t.actions,
       ∀ left ∈ filesLeft t.call.behave t.actions, ¬ left.DirectoryAt (some []) p) ∧
     runs.map (fun t => decide (t.final.files.Present (some []) (Utf8.encode "/tmp/main-7-5-1.go"))) =
       [true]) := by
  refine ⟨⟨?_, ?_, ?_⟩, ?_, ?_, ?_⟩
  all_goals decide +kernel

end Conductor
