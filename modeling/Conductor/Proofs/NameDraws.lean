import Mathlib.Data.List.Nodup
import Conductor.Proofs.Lifetime

/-!
# Drawing names

A process numbers its scratch files, and the number is part of the name, so what the clock shows does not
matter: the names that are drawn from a world are those of consecutive numbers (`drawNames_eq`), and the
counter repeats a number only after it has gone through all of its values (`nameAt_injOn`). Dispatches draw
from the same counter whatever directory they put their files into, one name for each attempt to create a
file and none otherwise (`Call.run_drawn`), so the names that a run of dispatches tries are consecutive too
(`triedNames_eq`).

A name is one name and no path, and the path of a name in a directory leads to an entry right in that
directory (`isChild_join`).
-/

namespace Conductor

variable {τ : Type}

/-! ## Consecutive names -/

namespace World

/-- The name that a process draws when it has drawn that many before. -/
def nameAt (w : World τ) (k : Nat) : String :=
  Scratch.name w.pid (w.clock k) (UInt64.ofNat (k + 1))

/-- The names that are drawn one after the other. -/
def drawNames : World τ → Nat → List String
  | _, 0 => []
  | w, n + 1 => w.drawName.1 :: w.drawName.2.drawNames n

theorem drawNames_eq (w : World τ) (n : Nat) : w.drawNames n = (List.range' w.drawn n).map w.nameAt := by
  induction n generalizing w with
  | zero => rfl
  | succ n ih =>
    have hrest : w.drawName.2.drawNames n = (List.range' (w.drawn + 1) n).map w.nameAt := ih _
    rw [drawNames, hrest, List.range'_succ, List.map_cons]
    rfl

/-- Within one round of the counter no name comes twice, whatever the clock shows. -/
theorem nameAt_injOn {w : World τ} {start n : Nat} (hn : n ≤ UInt64.size) {i j : Nat}
    (hi : i ∈ List.range' start n) (hj : j ∈ List.range' start n) (h : w.nameAt i = w.nameAt j) : i = j := by
  obtain ⟨-, -, hcounter⟩ := Scratch.name_inj.1 h
  have hmod : (i + 1) % UInt64.size = (j + 1) % UInt64.size := by
    simpa using congrArg UInt64.toNat hcounter
  have hsize : UInt64.size = 18446744073709551616 := rfl
  rw [hsize] at hn hmod
  rw [List.mem_range'_1] at hi hj
  omega

theorem nodup_drawNames (w : World τ) {n : Nat} (hn : n ≤ UInt64.size) : (w.drawNames n).Nodup := by
  rw [drawNames_eq]
  apply List.Nodup.map_on
  · intro i hi j hj h
    exact nameAt_injOn hn hi hj h
  · exact List.nodup_range'

/-- Processes with different numbers have no name in common. -/
theorem disjoint_drawNames {w w' : World τ} (h : w.pid ≠ w'.pid) (m n : Nat) :
    List.Disjoint (w.drawNames m) (w'.drawNames n) := by
  rw [drawNames_eq, drawNames_eq]
  intro name hi hj
  obtain ⟨i, -, rfl⟩ := List.mem_map.1 hi
  obtain ⟨j, -, heq⟩ := List.mem_map.1 hj
  exact h (Scratch.name_inj.1 heq.symm).1

end World

/-! ## Names of dispatches -/

/-- A call draws one name if there is a text for it, and none otherwise. -/
theorem Dispatcher.CompileOutcome.drawn {d : Dispatcher} {mode : Mode} {flags : List String}
    {vars : List (String × String)} {w w' : World τ} {r : Except Failure String}
    (h : d.CompileOutcome mode flags vars w r w') :
    w'.drawn = match d.synthesizer mode none with
      | .error _ => w.drawn
      | .ok _ => w.drawn + 1 := by
  cases h with
  | refused e hs => rw [hs]; rfl
  | uncreated source e hs => rw [hs]; rfl
  | unwritten source place e hs => rw [hs, World.release_eq_after]; rfl
  | used source place r w' hs ho he hi =>
    obtain ⟨files, events, rfl, -⟩ := hi.actions
    rw [hs, World.release_eq_after]
    rfl

theorem Dispatcher.DispatchOutcome.drawn_of_text {d : Dispatcher} {command : Command} {w w' : World τ}
    {r : Except Failure String} (h : d.DispatchOutcome command w r w') {mode : Mode} {source : Source}
    (hm : command.mode? = some mode) (hs : d.synthesizer mode none = .ok source) :
    w'.drawn = w.drawn + 1 := by
  cases h with
  | answered output hlocal => simp [Command.mode?_of_localOutput? hlocal] at hm
  | asked hversion => simp [hversion, Command.mode?] at hm
  | compiled mode' hm' r w' hc =>
    obtain rfl : mode = mode' := Option.some.inj (hm.symm.trans hm')
    have hdrawn := hc.drawn
    rw [hs] at hdrawn
    exact hdrawn

theorem Dispatcher.DispatchOutcome.drawn_without_text {d : Dispatcher} {command : Command} {w w' : World τ}
    {r : Except Failure String} (h : d.DispatchOutcome command w r w')
    (hno : ∀ mode source, command.mode? = some mode → d.synthesizer mode none ≠ .ok source) :
    w'.drawn = w.drawn := by
  cases h with
  | answered => rfl
  | asked hversion r w' hi =>
    obtain ⟨files, events, rfl, -⟩ := hi.actions
    rfl
  | compiled mode hm r w' hc =>
    have hdrawn := hc.drawn
    cases hs : d.synthesizer mode none with
    | error e =>
      rw [hs] at hdrawn
      exact hdrawn
    | ok source => exact absurd hs (hno mode source hm)

/-- The step: a call draws as many names as it makes attempts to create a file, and each attempt is at the
next name. -/
theorem Call.run_drawn (c : Call τ) (w : World τ) :
    (attempts (c.run w).actions = [] ∧ (c.run w).final.drawn = w.drawn) ∨
      (attempts (c.run w).actions = [(c.run w).path] ∧ (c.run w).final.drawn = w.drawn + 1) := by
  have houtcome := c.dispatcher.dispatch_outcome c.command (c.enter w)
  by_cases htext : c.HasText
  · obtain ⟨mode, source, hm, hs⟩ := htext
    exact Or.inr ⟨(c.run_actions w).attempts_of_text hm hs, houtcome.drawn_of_text hm hs⟩
  · have hno : ∀ mode source, c.command.mode? = some mode →
        c.dispatcher.synthesizer mode none ≠ .ok source :=
      fun mode source hm hs => htext ⟨mode, source, hm, hs⟩
    exact Or.inl ⟨(c.run_actions w).attempts_without_text hno, houtcome.drawn_without_text hno⟩

/-- A call leaves the process as it is, and so the names that it may still draw. -/
theorem Call.run_final_nameAt (c : Call τ) (w : World τ) : (c.run w).final.nameAt = w.nameAt := by
  have hafter := dispatch_eq_after c.dispatcher c.command (c.enter w)
  rw [Call.run, hafter]
  rfl

/-- The name that a path ends in. -/
def Path.lastName (p : Path) : Bytes :=
  (names p).getLast?.getD []

theorem Path.lastName_join {name : String} (h : IsPlain (Utf8.encode name)) (dir : Path) :
    lastName (join dir name) = Utf8.encode name := by
  rw [lastName, names_join h, List.getLast?_concat, Option.getD_some]

/-- The names at which the calls of a process try to create scratch files, in order. -/
def triedNames (calls : List (Call τ)) (w : World τ) : List Bytes :=
  ((runCalls calls w).flatMap fun t => attempts t.actions).map Path.lastName

/-- The run: the names that calls try are the next names of the process. -/
theorem triedNames_eq (calls : List (Call τ)) (w : World τ) :
    ∃ n, triedNames calls w = (w.drawNames n).map Utf8.encode := by
  induction calls generalizing w with
  | nil => exact ⟨0, rfl⟩
  | cons c calls ih =>
    have hsplit : triedNames (c :: calls) w =
        (attempts (c.run w).actions).map Path.lastName ++ triedNames calls (c.run w).final := by
      simp [triedNames, runCalls]
    obtain ⟨n, hrest⟩ := ih (c.run w).final
    rw [World.drawNames_eq, c.run_final_nameAt w] at hrest
    rcases c.run_drawn w with ⟨hnone, hdrawn⟩ | ⟨hone, hdrawn⟩
    · refine ⟨n, ?_⟩
      rw [hsplit, hnone, hrest, hdrawn, World.drawNames_eq]
      rfl
    · have hname : (c.run w).path.lastName = Utf8.encode (w.nameAt w.drawn) :=
        Path.lastName_join (Scratch.isPlain_encode_name ..) _
      refine ⟨n + 1, ?_⟩
      rw [hsplit, hone, hrest, hdrawn, World.drawNames_eq, List.range'_succ, List.map_cons, hname]
      rfl

/-! ## Entries of a directory -/

/-- A path leads to the entry of a name right in a directory. -/
structure Path.IsChild (dir : Path) (name : Bytes) (p : Path) : Prop where
  /-- It is spelled as the directory and the name, with one slash between them. -/
  spelled : p = dir ++ slash :: name ∨ dir.getLast? = some slash ∧ p = dir ++ name
  /-- It goes the way to the directory, and then one name further. -/
  names : p.names = dir.dirNames ++ [name]
  absolute : p.isAbsolute = dir.isAbsolute
  /-- Where the directory is, the entry is right below it, if the system takes names and paths of that
  length. -/
  located : ∀ {τ : Type} (t : FileTree τ) (cwd : Option Place) (place : Place),
    t.locate cwd dir = .ok place → t.node? place = some .directory →
    name.length ≤ nameLimit → p.check = .ok () → t.locate cwd p = .ok (place ++ [name])

/-- A directory is found as the host of what is in it. -/
theorem FileTree.host_of_locate {t : FileTree τ} {cwd : Option Place} {dir : Path} {place : Place}
    (h : t.locate cwd dir = .ok place) (hdir : t.node? place = some .directory) :
    t.host cwd dir = .ok place := by
  obtain ⟨-, begin, hstart, hway⟩ := locate_eq_ok.1 h
  rw [host, hstart]
  show (Path.dirNames dir ++ [Path.here]).foldlM t.step begin = .ok place
  by_cases hslash : (pieces Path.slash dir).getLast? = some []
  · have hnames : Path.names dir = Path.dirNames dir ++ [Path.here] := by
      simp [Path.names, Path.dirNames, hslash]
    rw [← hnames, hway]
  · have hnames : Path.names dir = Path.dirNames dir := by
      simp [Path.names, Path.dirNames, hslash]
    -- One more step stays where it is.
    rw [List.foldlM_append, ← hnames, hway]
    simp [bind, Except.bind, pure, Except.pure, step, hdir]

theorem Path.isChild_join {name : String} (h : IsPlain (Utf8.encode name)) {dir : Path} (hdir : dir ≠ []) :
    IsChild dir (Utf8.encode name) (join dir name) where
  spelled := by
    rw [join, if_neg hdir]
    split
    · next hslash => exact Or.inr ⟨hslash, rfl⟩
    · exact Or.inl rfl
  names := names_join h dir
  absolute := isAbsolute_join h dir
  located := by
    intro τ t cwd place hlocate hnode hshort hcheck
    rw [FileTree.locate_join_eq h hcheck, FileTree.host_of_locate hlocate hnode]
    show FileTree.spot (Utf8.encode name) place = _
    rw [FileTree.spot, if_neg (by omega)]

theorem Path.suffix_join (dir : Path) (name : String) : Utf8.encode name <:+ join dir name := by
  unfold join
  split
  · exact List.suffix_rfl
  · split
    · exact List.suffix_append ..
    · exact (List.suffix_cons ..).trans (List.suffix_append ..)

theorem Scratch.suffix_encode_name (pid nanos : Nat) (counter : UInt64) :
    Utf8.encode ".go" <:+ Utf8.encode (name pid nanos counter) := by
  rw [name, Utf8.encode_append]
  exact List.suffix_append ..

/-- **Names of scratch files are unique.** A name tells the number of the process, the time and the counter.
Hence, whatever the clock shows,

* up to 2^64 draws of a process give names no two of which are alike, from wherever the counter starts;
* the same holds of the names that a run of dispatches tries, whatever directories they use;
* two processes with different numbers never draw the same name.

No name holds a slash. The path of a name in a directory that is not the empty path therefore leads to an
entry right in that directory, and it ends in `.go`. -/
theorem scratch_names_unique (τ : Type) :
    (∀ pid pid' nanos nanos' counter counter',
      Scratch.name pid nanos counter = Scratch.name pid' nanos' counter' ↔
        (pid, nanos, counter) = (pid', nanos', counter')) ∧
    (∀ (w : World τ) n, n ≤ UInt64.size → (w.drawNames n).Nodup) ∧
    (∀ (calls : List (Call τ)) w, (triedNames calls w).length ≤ UInt64.size → (triedNames calls w).Nodup) ∧
    (∀ w w' : World τ, w.pid ≠ w'.pid →
      (∀ m n, List.Disjoint (w.drawNames m) (w'.drawNames n)) ∧
      ∀ calls calls', List.Disjoint (triedNames calls w) (triedNames calls' w')) ∧
    ∀ pid nanos counter,
      Path.slash ∉ Utf8.encode (Scratch.name pid nanos counter) ∧
      ∀ dir, dir ≠ [] →
        Path.IsChild dir (Utf8.encode (Scratch.name pid nanos counter))
          (Path.join dir (Scratch.name pid nanos counter)) ∧
        Utf8.encode ".go" <:+ Path.join dir (Scratch.name pid nanos counter) := by
  refine ⟨?_, fun w n hn => w.nodup_drawNames hn, ?_, ?_, ?_⟩
  · intro pid pid' nanos nanos' counter counter'
    simp [Scratch.name_inj]
  · intro calls w hlength
    obtain ⟨n, htried⟩ := triedNames_eq calls w
    have hn : (triedNames calls w).length = n := by
      simp [htried, World.drawNames_eq]
    rw [htried]
    exact (w.nodup_drawNames (hn ▸ hlength)).map Utf8.encode_injective
  · intro w w' hpid
    refine ⟨World.disjoint_drawNames hpid, fun calls calls' => ?_⟩
    obtain ⟨m, htried⟩ := triedNames_eq calls w
    obtain ⟨n, htried'⟩ := triedNames_eq calls' w'
    rw [htried, htried']
    exact List.disjoint_map Utf8.encode_injective (World.disjoint_drawNames hpid m n)
  · intro pid nanos counter
    refine ⟨Scratch.slash_not_mem_encode_name pid nanos counter, fun dir hdir => ⟨?_, ?_⟩⟩
    · exact Path.isChild_join (Scratch.isPlain_encode_name pid nanos counter) hdir
    · exact (Scratch.suffix_encode_name pid nanos counter).trans (Path.suffix_join dir _)

namespace Sample

/-- A process whose counter is about to start again, with a clock that stands still. -/
def worn : World Unit :=
  { world with drawn := 18446744073709551614 }

/-- Two calls that put their files into different directories. -/
def scattered : List (Call Unit) :=
  [call .run none, { call .test none with dispatcher := ⟨"go", Utf8.encode "elsewhere/", .template⟩ }]

end Sample

/-- The last number of a round and the first of the next one. -/
theorem sample_scratch_names_unique :
    triedNames Sample.scattered Sample.worn =
      ["main-7-5-18446744073709551615.go", "main-7-5-0.go"].map Utf8.encode ∧
    (triedNames Sample.scattered Sample.worn).Nodup ∧
    (Sample.worn.drawNames UInt64.size).Nodup ∧
    (Sample.worn.pid ≠ 8 ∧
      List.Disjoint (Sample.worn.drawNames 3) ({ Sample.worn with pid := 8 }.drawNames 3)) ∧
    Path.IsChild (Utf8.encode "elsewhere/") (Utf8.encode "main-7-5-0.go")
      (Utf8.encode "elsewhere/main-7-5-0.go") := by
  obtain ⟨-, hdraws, htries, hpids, hchild⟩ := scratch_names_unique Unit
  have htried : triedNames Sample.scattered Sample.worn =
      ["main-7-5-18446744073709551615.go", "main-7-5-0.go"].map Utf8.encode := by
    decide +kernel
  have hpid : Sample.worn.pid ≠ 8 := by decide
  refine ⟨htried, htries _ _ ?_, hdraws _ _ (Nat.le_refl _), ⟨hpid, (hpids _ _ hpid).1 3 3⟩, ?_⟩
  · rw [htried]
    decide
  · exact ((hchild 7 5 0).2 (Utf8.encode "elsewhere/") (by decide)).1

end Conductor
