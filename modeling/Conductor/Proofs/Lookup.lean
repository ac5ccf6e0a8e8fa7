import Conductor.World.FileTree

/-!
# What lookups depend on

Where a path leads is a matter of words: the names are followed one after the other, and the files are
asked only whether each place on the way is a directory. Three facts follow, and everything about scratch
files rests on them. A path that leads somewhere in two file trees leads to the same place in both
(`locate_unique`); it keeps leading there as long as no directory is lost (`locate_mono`); and what it finds
depends on the places on its way alone (`find_congr`).

File trees are compared by `Same`, place by place; the order of the list of nodes is not part of what a
tree means. Nothing here assumes that a tree is well-formed, i.e. that what is below a place is below a
directory.

An attempt to remove a file (`without`) may fail, and then everything stays as it is. That nothing is left
at a path after the attempt therefore takes two things: no directory is there, and the removal is not
refused (`Refuses`).
-/

namespace Conductor

namespace FileTree

variable {τ : Type}

/-! ## Trees with the same content -/

/-- The same is at every place, and the same places are closed. -/
structure Same (t u : FileTree τ) : Prop where
  node : ∀ place, t.node? place = u.node? place
  closed : ∀ place, t.closed? place = u.closed? place

theorem Same.refl (t : FileTree τ) : Same t t := ⟨fun _ => rfl, fun _ => rfl⟩

theorem Same.symm {t u : FileTree τ} (h : Same t u) : Same u t :=
  ⟨fun place => (h.node place).symm, fun place => (h.closed place).symm⟩

theorem Same.trans {t u v : FileTree τ} (h : Same t u) (h' : Same u v) : Same t v :=
  ⟨fun place => (h.node place).trans (h'.node place),
    fun place => (h.closed place).trans (h'.closed place)⟩

theorem ne_nil_of_node?_eq_none {t : FileTree τ} {place : Place} (h : t.node? place = none) :
    place ≠ [] := by
  rintro rfl
  simp [node?] at h

/-- Where nothing is, nothing is closed. -/
theorem closed?_eq_none {t : FileTree τ} {place : Place} (h : t.node? place = none) :
    t.closed? place = none := by
  rw [node?, if_neg (ne_nil_of_node?_eq_none h), Option.map_eq_none_iff] at h
  rw [closed?, h]
  rfl

theorem ne_nil_of_node?_eq_file {t : FileTree τ} {place : Place} {content : Bytes} {use : Use τ}
    (h : t.node? place = some (.file content use)) : place ≠ [] := by
  rintro rfl
  simp [node?] at h

theorem Same.put {t u : FileTree τ} (h : Same t u) {place : Place} (hne : place ≠ [])
    (node : Node τ) : Same (t.put place node) (u.put place node) where
  node other := by rw [node?_put t hne, node?_put u hne, h.node other]
  closed other := by rw [closed?_put, closed?_put, h.closed other]

theorem Same.erase {t u : FileTree τ} (h : Same t u) {place : Place} (hne : place ≠ []) :
    Same (t.erase place) (u.erase place) where
  node other := by rw [node?_erase t hne, node?_erase u hne, h.node other]
  closed other := by rw [closed?_erase, closed?_erase, h.closed other]

/-- The last of two nodes put at one place counts. -/
theorem put_put (t : FileTree τ) (place : Place) (first last : Node τ) :
    (t.put place first).put place last = t.put place last := by
  have hclosed := t.closed?_put place first place
  simp only [FileTree.put] at hclosed ⊢
  simp [hclosed, List.filter_append, List.filter_filter]

/-! ## Where a path leads -/

/-- The place that a name leads to, as far as words go. -/
def next (place : Place) (name : Bytes) : Place :=
  if name = Path.here then place
  else if name = Path.parent then place.dropLast
  else place ++ [name]

/-- A step succeeds from a directory, and then it leads where the name says. -/
theorem step_eq_ok {t : FileTree τ} {place there : Place} {name : Bytes} :
    t.step place name = .ok there ↔
      t.node? place = some .directory ∧
        (name = Path.here ∨ name = Path.parent ∨ name.length ≤ Path.nameLimit) ∧
          there = next place name := by
  unfold step next
  cases hn : t.node? place with
  | none => simp
  | some node =>
    cases node with
    | file content use => simp
    | directory =>
      dsimp only
      split
      · next h => simp [h, eq_comm]
      · split
        · next h => simp [h, eq_comm]
        · next h h' =>
          split
          · next hlong => simp [h, h', Nat.not_le.2 hlong]
          · next hshort => simp [h, h', Nat.not_lt.1 hshort, eq_comm]

theorem step_mono {t u : FileTree τ}
    (h : ∀ place, t.node? place = some .directory → u.node? place = some .directory)
    {place there : Place} {name : Bytes} (hs : t.step place name = .ok there) :
    u.step place name = .ok there := by
  rw [step_eq_ok] at hs ⊢
  exact ⟨h place hs.1, hs.2⟩

/-- Peels the first name off a walk. -/
theorem foldlM_step_cons {t : FileTree τ} {place there : Place} {name : Bytes} {names : List Bytes} :
    (name :: names).foldlM t.step place = .ok there ↔
      ∃ mid, t.step place name = .ok mid ∧ names.foldlM t.step mid = .ok there := by
  rw [List.foldlM_cons]
  cases hs : t.step place name with
  | error e => simp [bind, Except.bind]
  | ok mid => simp [bind, Except.bind]

theorem foldlM_step_mono {t u : FileTree τ}
    (h : ∀ place, t.node? place = some .directory → u.node? place = some .directory)
    {names : List Bytes} {place there : Place} (hw : names.foldlM t.step place = .ok there) :
    names.foldlM u.step place = .ok there := by
  induction names generalizing place with
  | nil => exact hw
  | cons name names ih =>
    obtain ⟨mid, hstep, hrest⟩ := foldlM_step_cons.1 hw
    exact foldlM_step_cons.2 ⟨mid, step_mono h hstep, ih hrest⟩

theorem foldlM_step_unique {t u : FileTree τ} {names : List Bytes} {place a b : Place}
    (ha : names.foldlM t.step place = .ok a) (hb : names.foldlM u.step place = .ok b) : a = b := by
  induction names generalizing place with
  | nil =>
    cases ha
    cases hb
    rfl
  | cons name names ih =>
    obtain ⟨mid, hstep, hrest⟩ := foldlM_step_cons.1 ha
    obtain ⟨mid', hstep', hrest'⟩ := foldlM_step_cons.1 hb
    -- Both walks leave `place` by the same name, and words alone say where that leads.
    obtain rfl : mid = mid' := (step_eq_ok.1 hstep).2.2.trans (step_eq_ok.1 hstep').2.2.symm
    exact ih hrest hrest'

/-- The three stages of a lookup: the path is usable, there is a place to start from, and every name
leads on. -/
theorem locate_eq_ok {t : FileTree τ} {cwd : Option Place} {p : Path} {place : Place} :
    t.locate cwd p = .ok place ↔
      Path.check p = .ok () ∧
        ∃ begin, start cwd p = .ok begin ∧ (Path.names p).foldlM t.step begin = .ok place := by
  unfold locate
  cases Path.check p with
  | error e => simp [bind, Except.bind]
  | ok _ =>
    cases start cwd p with
    | error e => simp [bind, Except.bind]
    | ok begin => simp [bind, Except.bind]

/-- A path leads where it led as long as no directory is lost. -/
theorem locate_mono {t u : FileTree τ}
    (h : ∀ place, t.node? place = some .directory → u.node? place = some .directory)
    {cwd : Option Place} {p : Path} {place : Place} (hl : t.locate cwd p = .ok place) :
    u.locate cwd p = .ok place := by
  rw [locate_eq_ok] at hl ⊢
  obtain ⟨hcheck, begin, hstart, hwalk⟩ := hl
  exact ⟨hcheck, begin, hstart, foldlM_step_mono h hwalk⟩

/-- Whatever the files are, a path leads to one place only. -/
theorem locate_unique {t u : FileTree τ} {cwd : Option Place} {p : Path} {a b : Place}
    (ha : t.locate cwd p = .ok a) (hb : u.locate cwd p = .ok b) : a = b := by
  obtain ⟨-, begin, hstart, hwalk⟩ := locate_eq_ok.1 ha
  obtain ⟨-, begin', hstart', hwalk'⟩ := locate_eq_ok.1 hb
  obtain rfl : begin = begin' := Except.ok.inj (hstart.symm.trans hstart')
  exact foldlM_step_unique hwalk hwalk'

/-- The places that names lead through, as far as words go, up to the one that they lead to. -/
def way (begin : Place) : List Bytes → List Place
  | [] => [begin]
  | name :: names => begin :: way (next begin name) names

theorem mem_way_of_foldlM {t : FileTree τ} {names : List Bytes} {begin place : Place}
    (h : names.foldlM t.step begin = .ok place) : place ∈ way begin names := by
  induction names generalizing begin with
  | nil => exact List.mem_singleton.2 (Except.ok.inj h).symm
  | cons name names ih =>
    obtain ⟨mid, hstep, hrest⟩ := foldlM_step_cons.1 h
    rw [(step_eq_ok.1 hstep).2.2] at hrest
    exact List.mem_cons_of_mem _ (ih hrest)

/-- A walk asks for nothing but the places on its way. -/
theorem foldlM_step_congr {t u : FileTree τ} {names : List Bytes} {begin : Place}
    (h : ∀ place ∈ way begin names, t.node? place = u.node? place) :
    names.foldlM t.step begin = names.foldlM u.step begin := by
  induction names generalizing begin with
  | nil => rfl
  | cons name names ih =>
    have hstep : t.step begin name = u.step begin name := by
      unfold step
      rw [h begin List.mem_cons_self]
    rw [List.foldlM_cons, List.foldlM_cons, ← hstep]
    cases hmid : t.step begin name with
    | error e => rfl
    | ok mid =>
      obtain rfl := (step_eq_ok.1 hmid).2.2
      -- The way of the rest is the way from the next place on.
      exact ih fun place hplace => h place (List.mem_cons_of_mem _ hplace)

/-- The places that a path leads through. -/
def trail (cwd : Option Place) (p : Path) : List Place :=
  match start cwd p with
  | .ok begin => way begin (Path.names p)
  | .error _ => []

theorem locate_congr {t u : FileTree τ} {cwd : Option Place} {p : Path}
    (h : ∀ place ∈ trail cwd p, t.node? place = u.node? place) :
    t.locate cwd p = u.locate cwd p := by
  unfold trail at h
  unfold locate
  cases hs : start cwd p with
  | error e => rfl
  | ok begin =>
    rw [hs] at h
    simp only [bind, Except.bind]
    rw [foldlM_step_congr h]

theorem mem_trail_of_locate {t : FileTree τ} {cwd : Option Place} {p : Path} {place : Place}
    (h : t.locate cwd p = .ok place) : place ∈ trail cwd p := by
  obtain ⟨-, begin, hstart, hwalk⟩ := locate_eq_ok.1 h
  rw [trail, hstart]
  exact mem_way_of_foldlM hwalk

/-- What a path finds depends on the places that it leads through, and on no other. -/
theorem find_congr {t u : FileTree τ} {cwd : Option Place} {p : Path}
    (h : ∀ place ∈ trail cwd p, t.node? place = u.node? place) : t.find cwd p = u.find cwd p := by
  unfold find
  rw [← locate_congr h]
  cases hl : t.locate cwd p with
  | error e => rfl
  | ok place =>
    simp only [bind, Except.bind]
    rw [h place (mem_trail_of_locate hl)]

theorem Same.locate {t u : FileTree τ} (h : Same t u) (cwd : Option Place) (p : Path) :
    t.locate cwd p = u.locate cwd p :=
  locate_congr fun place _ => h.node place

theorem Same.refusal? {t u : FileTree τ} (h : Same t u) (place : Place) :
    t.refusal? place = u.refusal? place :=
  h.closed place.dropLast

theorem Same.vacancy {t u : FileTree τ} (h : Same t u) (cwd : Option Place) (p : Path) :
    t.vacancy cwd p = u.vacancy cwd p := by
  unfold FileTree.vacancy
  rw [h.locate cwd p]
  congr 1
  funext place
  rw [h.node place, h.refusal? place]

/-! ## Putting and taking away files -/

/-- Putting something at a vacant place loses no directory. -/
theorem directory_put {t : FileTree τ} {place : Place} (h : t.node? place = none) (node : Node τ) :
    ∀ other, t.node? other = some .directory → (t.put place node).node? other = some .directory := by
  intro other hother
  have hne : other ≠ place := by
    rintro rfl
    simp [h] at hother
  rw [node?_put t (ne_nil_of_node?_eq_none h), if_neg hne, hother]

/-- Taking away a file loses no directory. -/
theorem directory_erase {t : FileTree τ} {place : Place} {content : Bytes} {use : Use τ}
    (h : t.node? place = some (.file content use)) :
    ∀ other, t.node? other = some .directory → (t.erase place).node? other = some .directory := by
  intro other hother
  have hne : other ≠ place := by
    rintro rfl
    simp [h] at hother
  rw [node?_erase t (ne_nil_of_node?_eq_file h), if_neg hne, hother]

/-! ## What the operations on files find -/

/-- A new file goes where nothing is, in a directory that is not closed. -/
theorem vacancy_eq_ok {t : FileTree τ} {cwd : Option Place} {p : Path} {place : Place} :
    t.vacancy cwd p = .ok place ↔
      t.locate cwd p = .ok place ∧ t.node? place = none ∧ t.refusal? place = none := by
  unfold vacancy
  cases t.locate cwd p with
  | error e => simp [bind, Except.bind]
  | ok there =>
    simp only [bind, Except.bind, Except.ok.injEq]
    constructor
    · intro h
      split at h
      · cases h
      · cases h
      · next hn hr =>
        obtain rfl := Except.ok.inj h
        exact ⟨rfl, hn, hr⟩
    · rintro ⟨rfl, hn, hr⟩
      rw [hn, hr]
      rfl

theorem find_eq_ok {t : FileTree τ} {cwd : Option Place} {p : Path} {node : Node τ} :
    t.find cwd p = .ok node ↔ ∃ place, t.locate cwd p = .ok place ∧ t.node? place = some node := by
  unfold find
  cases t.locate cwd p with
  | error e => simp [bind, Except.bind]
  | ok there =>
    cases hn : t.node? there with
    | none => simp [bind, Except.bind, hn]
    | some found => simp [bind, Except.bind, hn, pure, Except.pure]

/-- A file is removed from a directory that is not closed. -/
theorem remove_eq_ok {t u : FileTree τ} {cwd : Option Place} {p : Path} :
    t.remove cwd p = .ok u ↔
      ∃ place content use, t.locate cwd p = .ok place ∧
        t.node? place = some (.file content use) ∧ t.refusal? place = none ∧ u = t.erase place := by
  unfold remove
  cases t.locate cwd p with
  | error e => simp [bind, Except.bind]
  | ok there =>
    simp only [bind, Except.bind, Except.ok.injEq]
    constructor
    · intro h
      split at h
      · cases h
      · cases h
      · cases h
      · next content use hn hr => exact ⟨there, content, use, rfl, hn, hr, (Except.ok.inj h).symm⟩
    · rintro ⟨place, content, use, rfl, hn, hr, rfl⟩
      rw [hn, hr]
      rfl

/-- A file that was put at a vacant place is found under the path that led there. -/
theorem find_put {t : FileTree τ} {cwd : Option Place} {p : Path} {place : Place}
    (h : t.vacancy cwd p = .ok place) (node : Node τ) :
    (t.put place node).locate cwd p = .ok place ∧ (t.put place node).find cwd p = .ok node := by
  obtain ⟨hl, hn, -⟩ := vacancy_eq_ok.1 h
  -- The new file is no directory on the way to itself, because nothing was there.
  have hl' := locate_mono (directory_put hn node) hl
  refine ⟨hl', find_eq_ok.2 ⟨place, hl', ?_⟩⟩
  rw [node?_put t (ne_nil_of_node?_eq_none hn), if_pos rfl]

/-- Removing a new file leaves everything as it was. -/
theorem remove_put {t : FileTree τ} {cwd : Option Place} {p : Path} {place : Place}
    (h : t.vacancy cwd p = .ok place) (content : Bytes) (use : Use τ) :
    (t.put place (.file content use)).remove cwd p = .ok t := by
  obtain ⟨-, hn, hr⟩ := vacancy_eq_ok.1 h
  refine remove_eq_ok.2 ⟨place, content, use, (find_put h _).1, ?_, ?_, (erase_put t hn _).symm⟩
  · rw [node?_put t (ne_nil_of_node?_eq_none hn), if_pos rfl]
  · rw [refusal?, closed?_put]
    exact hr

theorem read_of_find {t : FileTree τ} {cwd : Option Place} {p : Path} {content : Bytes} {use : Use τ}
    (h : t.find cwd p = .ok (.file content use)) : t.read cwd p = .ok content := by
  unfold read
  rw [h]

/-! ## Presence -/

/-- Something is at the place that a path leads to. -/
def Present (t : FileTree τ) (cwd : Option Place) (p : Path) : Prop :=
  ∃ node, t.find cwd p = .ok node

instance (t : FileTree τ) (cwd : Option Place) (p : Path) : Decidable (t.Present cwd p) :=
  match h : t.find cwd p with
  | .ok node => isTrue ⟨node, h⟩
  | .error _ => isFalse (by
      rintro ⟨node, hnode⟩
      rw [h] at hnode
      cases hnode)

theorem present_iff {t : FileTree τ} {cwd : Option Place} {p : Path} :
    t.Present cwd p ↔ ∃ place node, t.locate cwd p = .ok place ∧ t.node? place = some node := by
  unfold Present
  constructor
  · rintro ⟨node, h⟩
    obtain ⟨place, hl, hn⟩ := find_eq_ok.1 h
    exact ⟨place, node, hl, hn⟩
  · rintro ⟨place, node, hl, hn⟩
    exact ⟨node, find_eq_ok.2 ⟨place, hl, hn⟩⟩

theorem not_present_of_vacancy {t : FileTree τ} {cwd : Option Place} {p : Path} {place : Place}
    (h : t.vacancy cwd p = .ok place) : ¬ t.Present cwd p := by
  obtain ⟨hl, hn, -⟩ := vacancy_eq_ok.1 h
  rw [present_iff]
  rintro ⟨there, node, hl', hn'⟩
  obtain rfl := locate_unique hl hl'
  simp [hn] at hn'

/-- The files after an attempt to remove a file: a failure changes nothing. -/
def without (t : FileTree τ) (cwd : Option Place) (p : Path) : FileTree τ :=
  (t.remove cwd p).toOption.getD t

theorem without_of_ok {t u : FileTree τ} {cwd : Option Place} {p : Path}
    (h : t.remove cwd p = .ok u) : t.without cwd p = u := by
  simp [without, h, Except.toOption]

theorem without_of_error {t : FileTree τ} {cwd : Option Place} {p : Path} {e : SystemError}
    (h : t.remove cwd p = .error e) : t.without cwd p = t := by
  simp [without, h, Except.toOption]

theorem Same.without {t u : FileTree τ} (h : Same t u) (cwd : Option Place) (p : Path) :
    Same (t.without cwd p) (u.without cwd p) := by
  cases hr : t.remove cwd p with
  | ok t' =>
    obtain ⟨place, content, use, hl, hn, hopen, rfl⟩ := remove_eq_ok.1 hr
    rw [h.locate] at hl
    rw [h.node place] at hn
    rw [h.refusal?] at hopen
    -- The same path leads to the same file in both trees, so both lose it.
    rw [without_of_ok hr, without_of_ok (remove_eq_ok.2 ⟨place, content, use, hl, hn, hopen, rfl⟩)]
    exact h.erase (ne_nil_of_node?_eq_file hn)
  | error e =>
    cases hr' : u.remove cwd p with
    | error e' =>
      rw [without_of_error hr, without_of_error hr']
      exact h
    | ok u' =>
      obtain ⟨place, content, use, hl, hn, hopen, -⟩ := remove_eq_ok.1 hr'
      rw [← h.locate] at hl
      rw [← h.node place] at hn
      rw [← h.refusal?] at hopen
      rw [remove_eq_ok.2 ⟨place, content, use, hl, hn, hopen, rfl⟩] at hr
      cases hr

/-- An attempt to remove a file changes at most the place that the path leads to, and only by taking
away what is there. -/
theorem node?_without (t : FileTree τ) (cwd : Option Place) (p : Path) (place : Place) :
    (t.without cwd p).node? place = t.node? place ∨
      t.locate cwd p = .ok place ∧ (t.without cwd p).node? place = none := by
  cases h : t.remove cwd p with
  | error e =>
    left
    rw [without_of_error h]
  | ok u =>
    obtain ⟨there, content, use, hl, hn, -, rfl⟩ := remove_eq_ok.1 h
    rw [without_of_ok h, node?_erase t (ne_nil_of_node?_eq_file hn)]
    by_cases hp : place = there
    · subst hp
      exact Or.inr ⟨hl, if_pos rfl⟩
    · exact Or.inl (if_neg hp)

theorem directory_without (t : FileTree τ) (cwd : Option Place) (p : Path) :
    ∀ other, t.node? other = some .directory → (t.without cwd p).node? other = some .directory := by
  cases h : t.remove cwd p with
  | error e =>
    rw [without_of_error h]
    exact fun _ => id
  | ok u =>
    obtain ⟨place, content, use, -, hn, -, rfl⟩ := remove_eq_ok.1 h
    rw [without_of_ok h]
    exact directory_erase hn

theorem directory_of_without (t : FileTree τ) (cwd : Option Place) (p : Path) {other : Place}
    (h : (t.without cwd p).node? other = some .directory) : t.node? other = some .directory := by
  rcases node?_without t cwd p other with hsame | ⟨-, hnone⟩
  · rw [← hsame, h]
  · simp [hnone] at h

/-- An attempt to remove a file makes nothing appear. -/
theorem not_present_without {t : FileTree τ} {cwd : Option Place} {q : Path}
    (h : ¬ t.Present cwd q) (p : Path) : ¬ (t.without cwd p).Present cwd q := by
  intro hq
  apply h
  obtain ⟨place, node, hl, hn⟩ := present_iff.1 hq
  -- What is a directory after the removal was one before, so the walk is the same.
  refine present_iff.2 ⟨place, node, locate_mono (fun _ => directory_of_without t cwd p) hl, ?_⟩
  rcases node?_without t cwd p place with hsame | ⟨-, hnone⟩
  · rw [← hsame, hn]
  · simp [hnone] at hn

/-- An attempt to remove a file closes and opens no other. -/
theorem closed?_without (t : FileTree τ) (cwd : Option Place) (p : Path) {place : Place}
    (h : t.locate cwd p ≠ .ok place) : (t.without cwd p).closed? place = t.closed? place := by
  cases hr : t.remove cwd p with
  | error e => rw [without_of_error hr]
  | ok u =>
    obtain ⟨there, content, use, hl, -, -, rfl⟩ := remove_eq_ok.1 hr
    have hne : place ≠ there := by
      rintro rfl
      exact h hl
    rw [without_of_ok hr, closed?_erase, if_neg hne]

/-- An attempt to remove what is not a directory leaves nothing in its place, unless it is refused. -/
theorem node?_without_self {t : FileTree τ} {cwd : Option Place} {p : Path} {place : Place}
    (hl : t.locate cwd p = .ok place) (hn : t.node? place ≠ some .directory)
    (hopen : t.refusal? place = none) : (t.without cwd p).node? place = none := by
  cases hnode : t.node? place with
  | none =>
    rcases node?_without t cwd p place with hsame | ⟨-, hgone⟩
    · rw [hsame, hnode]
    · exact hgone
  | some node =>
    cases node with
    | directory => exact absurd hnode hn
    | file content use =>
      have hremove := remove_eq_ok.2 ⟨place, content, use, hl, hnode, hopen, rfl⟩
      rw [without_of_ok hremove, node?_erase t (ne_nil_of_node?_eq_file hnode), if_pos rfl]

/-- A path leads to a directory. -/
def DirectoryAt (t : FileTree τ) (cwd : Option Place) (p : Path) : Prop :=
  t.find cwd p = .ok .directory

instance (t : FileTree τ) (cwd : Option Place) (p : Path) : Decidable (t.DirectoryAt cwd p) :=
  match h : t.find cwd p with
  | .ok .directory => isTrue h
  | .ok (.file ..) | .error _ => isFalse (by simp [DirectoryAt, h])

/-- The system refuses to remove what a path leads to. -/
def Refuses (t : FileTree τ) (cwd : Option Place) (p : Path) : Prop :=
  ∃ place ∈ (t.locate cwd p).toOption, t.refusal? place ≠ none

instance (t : FileTree τ) (cwd : Option Place) (p : Path) : Decidable (t.Refuses cwd p) :=
  inferInstanceAs (Decidable (∃ place ∈ (t.locate cwd p).toOption, t.refusal? place ≠ none))

theorem refusal?_eq_none_of_not_refuses {t : FileTree τ} {cwd : Option Place} {p : Path} {place : Place}
    (h : ¬ t.Refuses cwd p) (hl : t.locate cwd p = .ok place) : t.refusal? place = none := by
  cases hr : t.refusal? place with
  | none => rfl
  | some e => exact absurd ⟨place, by simp [hl, Except.toOption], by simp [hr]⟩ h

/-- After an attempt to remove it nothing is left at a path, unless a directory was there or the removal
is refused. -/
theorem not_present_without_self {t : FileTree τ} {cwd : Option Place} {p : Path}
    (h : ¬ t.DirectoryAt cwd p) (hopen : ¬ t.Refuses cwd p) :
    ¬ (t.without cwd p).Present cwd p := by
  intro hpresent
  obtain ⟨place, node, hl, hn⟩ := present_iff.1 hpresent
  by_cases hbefore : t.locate cwd p = .ok place
  · have hdir : t.node? place ≠ some .directory := fun hd => h (find_eq_ok.2 ⟨place, hbefore, hd⟩)
    rw [node?_without_self hbefore hdir (refusal?_eq_none_of_not_refuses hopen hbefore)] at hn
    cases hn
  · exact hbefore (locate_mono (fun _ => directory_of_without t cwd p) hl)

end FileTree

end Conductor
