import UsbDisplay.Files.Tree

/-!
Files, read after they were written. A file that is put into a tree takes no directory away, and no
other place either, so every way through the tree is still open, and the path by which the file was
written leads to it (`FileTree.read_write`).
-/

namespace UsbDisplay.FileTree

variable {t t' : FileTree} {path name : String} {p q : Place}

/-- A sequence that succeeds has succeeded in both its parts. -/
theorem exists_of_bind_eq_ok {α β : Type} {x : Except FileFault α} {f : α → Except FileFault β}
    {b : β} (h : (x >>= f) = .ok b) : ∃ a, x = .ok a ∧ f a = .ok b := by
  cases x with
  | error fault => cases h
  | ok a => exact ⟨a, rfl, h⟩

/-- All directories and places of a tree are in another one that is worked in at the same place. -/
structure Extends (t t' : FileTree) : Prop where
  work : t'.work = t.work
  directory : ∀ p, t.node? p = some .directory → t'.node? p = some .directory
  present : ∀ p, (t.node? p).isSome → (t'.node? p).isSome

theorem extends_put (hp : p ≠ []) (hother : t.node? p ≠ some .directory) (n : FileNode) :
    t.Extends (t.put p n) where
  work := rfl
  directory q hq := by
    have hne : q ≠ p := fun heq => hother (heq ▸ hq)
    rw [node?_put n hp, if_neg hne, hq]
  present q hq := by
    rw [node?_put n hp]
    split
    · rfl
    · exact hq

theorem expectDirectory_eq_ok_iff : t.expectDirectory p = .ok () ↔ t.node? p = some .directory := by
  rw [expectDirectory]
  split <;> simp_all

namespace Extends

theorem expectDirectory (h : t.Extends t') (hok : t.expectDirectory p = .ok ()) :
    t'.expectDirectory p = .ok () :=
  expectDirectory_eq_ok_iff.2 (h.directory p (expectDirectory_eq_ok_iff.1 hok))

theorem enter (h : t.Extends t') (hok : t.enter p name = .ok q) : t'.enter p name = .ok q := by
  rw [FileTree.enter] at hok ⊢
  obtain ⟨⟨⟩, hdirectory, hok⟩ := exists_of_bind_eq_ok hok
  rw [h.expectDirectory hdirectory]
  refine Eq.trans (?_ : _ = _) hok
  have hpresent := h.present (name :: p)
  simp only [bind, Except.bind]
  split
  · rfl
  split
  · rfl
  split
  · rfl
  next hstay hup hlong =>
    rw [if_neg hstay, if_neg hup, if_neg hlong] at hok
    split at hok
    next hthere => rw [if_pos (hpresent hthere), if_pos hthere]
    · cases hok

theorem walk (h : t.Extends t') {names : List String} (hok : t.walk p names = .ok q) :
    t'.walk p names = .ok q := by
  induction names generalizing p with
  | nil => exact hok
  | cons name rest ih =>
    rw [FileTree.walk, List.foldlM_cons] at hok ⊢
    obtain ⟨r, henter, hrest⟩ := exists_of_bind_eq_ok hok
    rw [h.enter henter]
    exact ih hrest

end Extends

/-- A name that is no step leads to what is there. -/
theorem enter_of_isStep_eq_false (hdirectory : t.expectDirectory p = .ok ())
    (hname : isStep name = false) (hlong : ¬ maxName < name.utf8ByteSize)
    (hthere : (t.node? (name :: p)).isSome) : t.enter p name = .ok (name :: p) := by
  obtain ⟨hstay, hup⟩ := Bool.or_eq_false_iff.1 hname
  rw [enter, hdirectory]
  simp only [bind, Except.bind]
  rw [if_neg (ne_of_beq_false hstay), if_neg (ne_of_beq_false hup), if_neg hlong, if_pos hthere]
  rfl

/-- The place of a file to which a path leads is in a directory to which the rest of it leads. -/
theorem of_target (h : t.target path = .ok p) : ∃ front name dir,
    checkLength path = .ok () ∧ names path = front ++ [name] ∧
      t.walk (t.start path) front = .ok dir ∧ t.expectDirectory dir = .ok () ∧
      isStep name = false ∧ endsInSlash path = false ∧ ¬ maxName < name.utf8ByteSize ∧
      p = name :: dir := by
  rw [target] at h
  obtain ⟨⟨⟩, hlength, h⟩ := exists_of_bind_eq_ok h
  split at h
  · cases h
  next name hlast =>
    obtain ⟨dir, hwalk, h⟩ := exists_of_bind_eq_ok h
    obtain ⟨⟨⟩, hdirectory, h⟩ := exists_of_bind_eq_ok h
    obtain ⟨front, hnames⟩ := List.getLast?_eq_some_iff.1 hlast
    rw [hnames, List.dropLast_concat] at hwalk
    cases hstep : isStep name || endsInSlash path with
    | true =>
      rw [hstep] at h
      cases h
    | false =>
      rw [hstep] at h
      obtain ⟨hname, hslash⟩ := Bool.or_eq_false_iff.1 hstep
      by_cases hlong : maxName < name.utf8ByteSize
      · rw [if_pos hlong] at h
        cases h
      · rw [if_neg hlong] at h
        cases h
        exact ⟨front, name, dir, hlength, hnames, hwalk, hdirectory, hname, hslash, hlong, rfl⟩

/-- A path leads to a file, or to a place in a directory where there is none yet. -/
def TakesFile (t : FileTree) (path : String) : Prop :=
  ∃ p, t.target path = .ok p ∧ (t.node? p = none ∨ ∃ contents, t.node? p = some (.file contents))

/-- What is written to a file is read from it by the same path. -/
theorem read_write (h : t.TakesFile path) (contents : ByteArray) : ∃ t',
    t.write path contents = (.ok (), t') ∧ t'.read path = .ok contents := by
  obtain ⟨p, htarget, hplace⟩ := h
  obtain ⟨front, name, dir, hlength, hnames, hwalk, hdirectory, hname, hslash, hlong, rfl⟩ :=
    of_target htarget
  have hroot : name :: dir ≠ [] := List.cons_ne_nil _ _
  have hextends : t.Extends (t.put (name :: dir) (.file contents)) :=
    extends_put hroot (by rcases hplace with hnone | ⟨_, hfile⟩ <;> simp [*]) _
  have hnode : (t.put (name :: dir) (.file contents)).node? (name :: dir) =
      some (.file contents) := by
    rw [node?_put _ hroot, if_pos rfl]
  have hstart : (t.put (name :: dir) (.file contents)).start path = t.start path := rfl
  refine ⟨t.put (name :: dir) (.file contents), ?_, ?_⟩
  · rw [write, htarget]
    rcases hplace with hnone | ⟨_, hfile⟩ <;> simp only [*]
  · generalize t.put (name :: dir) (.file contents) = t' at *
    have henter : t'.enter dir name = .ok (name :: dir) :=
      enter_of_isStep_eq_false (hextends.expectDirectory hdirectory) hname hlong
        (by rw [hnode]; rfl)
    have hway : t'.walk (t'.start path) (names path) = .ok (name :: dir) := by
      rw [hstart, hnames, walk, List.foldlM_append]
      have hfront := hextends.walk hwalk
      rw [walk] at hfront
      rw [hfront]
      exact congrArg (· >>= pure) henter
    rw [read, hlength, hway, hslash]
    simp only [bind, Except.bind]
    rw [if_neg Bool.false_ne_true, hnode]
    rfl

end UsbDisplay.FileTree
