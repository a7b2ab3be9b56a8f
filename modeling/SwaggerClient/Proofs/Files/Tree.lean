import SwaggerClient.Files.Tree
import SwaggerClient.Proofs.Entries
import SwaggerClient.Proofs.Outcome

namespace SwaggerClient

/-- How a program ends that starts with some files, and the files that it leaves. -/
def runOn {σ ε α : Type} (program : ExceptT ε (StateM σ) α) (files : σ) : Except ε α × σ :=
  (program.run.run files).run

section Steps

variable {σ ε ε' α β : Type}

theorem runOn_lift (x : Except ε α) (files : σ) :
    runOn (liftM x : ExceptT ε (StateM σ) α) files = (x, files) := rfl

theorem runOn_adapt (program : ExceptT ε (StateM σ) α) (f : ε → ε') (files : σ) :
    runOn (ExceptT.adapt f program) files =
      ((runOn program files).1.mapError f, (runOn program files).2) := rfl

theorem runOn_adapt_eq_ok {program : ExceptT ε (StateM σ) α} {f : ε → ε'} {files left : σ} {a : α} :
    runOn (ExceptT.adapt f program) files = (.ok a, left) ↔ runOn program files = (.ok a, left) := by
  simp only [runOn_adapt, Prod.ext_iff, mapError_eq_ok]

theorem runOn_bind (program : ExceptT ε (StateM σ) α) (next : α → ExceptT ε (StateM σ) β) (files : σ) :
    runOn (program >>= next) files =
      match runOn program files with
      | (.ok a, left) => runOn (next a) left
      | (.error e, left) => (.error e, left) := by
  rcases h : runOn program files with ⟨e | a, left⟩ <;>
    simp_all [runOn, ExceptT.run_bind, StateT.run_bind]

/-- A program that only looks at the files ends as `x` does, with the files as they are. -/
theorem runOn_bind_of_eq {program : ExceptT ε (StateM σ) α} {next : α → ExceptT ε (StateM σ) β}
    {files : σ} {x : Except ε α} {f : α → Except ε β} (h : runOn program files = (x, files))
    (hf : ∀ a, runOn (next a) files = (f a, files)) :
    runOn (program >>= next) files = (x >>= f, files) := by
  rw [runOn_bind, h]
  cases x with
  | error e => rfl
  | ok a => exact hf a

theorem runOn_bind_eq_ok {program : ExceptT ε (StateM σ) α} {next : α → ExceptT ε (StateM σ) β}
    {files left : σ} {b : β} (h : runOn (program >>= next) files = (.ok b, left)) :
    ∃ a between, runOn program files = (.ok a, between) ∧ runOn (next a) between = (.ok b, left) := by
  rw [runOn_bind] at h
  split at h
  · next a between hp => exact ⟨a, between, hp, h⟩
  · cases h

end Steps

section Laws

variable {σ : Type} [FileAccess (StateM σ)]

/-- The text of the file at a path. -/
def textAt (files : σ) (path : String) : Except FileError String :=
  (runOn (FileAccess.read path) files).1

variable (σ) in
/-- Reading changes nothing, and a text that is written is there until another one takes its place. -/
class LawfulFiles : Prop where
  read_keeps (files : σ) (path : String) :
    runOn (FileAccess.read path) files = (textAt files path, files)
  textAt_written {files left : σ} {path text : String} :
    runOn (FileAccess.write path text) files = (.ok (), left) → textAt left path = .ok text
  textAt_kept {files left : σ} {path text other old : String} :
    runOn (FileAccess.write path text) files = (.ok (), left) → textAt files other = .ok old →
      textAt left other = .ok old ∨ textAt left other = .ok text

end Laws

namespace FileTree

variable {tree left : FileTree} {place other : Place} {node : FileNode} {path text : String}

theorem node?_put (hp : tree.node? place ≠ some .directory) :
    (tree.put place node).node? other = if place = other then some node else tree.node? other := by
  cases other with
  | nil =>
    have hroot : place ≠ [] := by
      rintro rfl
      exact hp rfl
    simp [node?, hroot]
  | cons name names => exact Entries.get?_set place (name :: names) node tree.nodes

theorem enter_put (hp : tree.node? place ≠ some .directory) (here : Place) (name : String) :
    Gives (tree.enter here name) ((tree.put place node).enter here name) := by
  refine (Gives.stepwise.refl _).bind fun there next h => ?_
  split at h
  · next hthere =>
    have hne : place ≠ there := by
      rintro rfl
      exact hp hthere
    rw [node?_put hp, if_neg hne, hthere]
    exact h
  · cases h
  · cases h

theorem foldlM_enter_put (hp : tree.node? place ≠ some .directory) (names : List String) (start : Place) :
    Gives (names.foldlM tree.enter start) (names.foldlM (tree.put place node).enter start) := by
  induction names generalizing start with
  | nil => exact Gives.stepwise.refl _
  | cons name names ih =>
    rw [List.foldlM_cons, List.foldlM_cons]
    exact (enter_put hp start name).bind ih

theorem locate_put (hp : tree.node? place ≠ some .directory) (path : String) :
    Gives (tree.locate path) ((tree.put place node).locate path) := by
  unfold locate
  refine Gives.ite (Gives.of_error FileError.nulInPath _) ?_
  refine Gives.ite (Gives.of_error FileError.nameTooLong _) ?_
  refine Gives.ite (Gives.of_error FileError.noSuchFile _) ?_
  exact (foldlM_enter_put hp _ _).bind fun _ => Gives.stepwise.refl _

theorem read_eq_ok :
    tree.read path = .ok text ↔
      ∃ place, tree.locate path = .ok place ∧ tree.node? place = some (.file text) ∧
        Path.endsInSlash path = false := by
  unfold read
  rw [bind_eq_ok]
  refine exists_congr fun place => and_congr_right fun _ => ?_
  rcases tree.node? place with _ | _ | old
  · simp [throw_eq_error]
  · simp [throw_eq_error]
  · cases Path.endsInSlash path <;> simp [throw_eq_error, pure, Except.pure]

theorem write_eq_ok :
    tree.write path text = .ok left ↔
      ∃ place, tree.locate path = .ok place ∧ Path.endsInSlash path = false ∧
        tree.node? place ≠ some .directory ∧ left = tree.put place (.file text) := by
  unfold write
  rw [bind_eq_ok]
  refine exists_congr fun place => and_congr_right fun _ => ?_
  cases Path.endsInSlash path <;> by_cases h : tree.node? place = some .directory <;>
    simp [h, throw_eq_error, pure, Except.pure, bind, Except.bind, eq_comm]

theorem write_of_runOn
    (h : runOn (FileAccess.write (m := Session) path text) tree = (.ok (), left)) :
    tree.write path text = .ok left := by
  dsimp only [runOn, FileAccess.write, ExceptT.run, ExceptT.mk, StateT.run, Id.run] at h
  cases hw : tree.write path text with
  | ok changed =>
    rw [hw] at h
    exact congrArg Except.ok (Prod.mk.inj h).2
  | error e =>
    rw [hw] at h
    cases h

/-- A file is found where it was, and what is written stands there. -/
theorem read_put {other old : String} (hp : tree.node? place ≠ some .directory)
    (h : tree.read other = .ok old) :
    (tree.put place (.file text)).read other = .ok old ∨
      (tree.put place (.file text)).read other = .ok text := by
  obtain ⟨found, hfound, hnode, hslash⟩ := read_eq_ok.mp h
  have hlocate : (tree.put place (.file text)).locate other = .ok found :=
    locate_put hp other found hfound
  by_cases hsame : place = found
  · exact .inr (read_eq_ok.mpr ⟨found, hlocate, by rw [node?_put hp, if_pos hsame], hslash⟩)
  · exact .inl (read_eq_ok.mpr ⟨found, hlocate, by rw [node?_put hp, if_neg hsame, hnode], hslash⟩)

instance : LawfulFiles FileTree where
  read_keeps _ _ := rfl
  textAt_written h := by
    obtain ⟨place, hplace, hslash, hp, rfl⟩ := write_eq_ok.mp (write_of_runOn h)
    exact read_eq_ok.mpr ⟨place, locate_put hp _ place hplace, by rw [node?_put hp, if_pos rfl], hslash⟩
  textAt_kept h hold := by
    obtain ⟨place, _, _, hp, rfl⟩ := write_eq_ok.mp (write_of_runOn h)
    exact read_put hp hold

end FileTree

end SwaggerClient
