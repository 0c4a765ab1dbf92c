import Mathlib.Tactic.SplitIfs
import ServiceWatch.Files.Disk
import ServiceWatch.Proofs.Text.Utf8

/-! A file holds what was written last: the law that users of a file system rely on, and that the disk
as a value keeps it. -/
namespace ServiceWatch.Files

theorem run_bind_of_run {σ α β : Type} {x : StateM σ α} {f : α → StateM σ β} {a : α} {w w' : σ}
    (h : x.run w = (a, w')) : (x >>= f).run w = (f a).run w' := by
  rw [StateT.run_bind, h]
  rfl

/-- Looking at files changes nothing, and a file that was written is there with the bytes written. -/
structure FileSystem.Faithful {σ : Type} (fs : FileSystem (StateM σ)) : Prop where
  contains_world (p : FilePath) (w : σ) : ((fs.contains p).run w).2 = w
  read_world (p : FilePath) (w : σ) : ((fs.read p).run w).2 = w
  contains_written {p : FilePath} {bytes : List UInt8} {w w' : σ}
    (h : (fs.write p bytes).run w = (.ok (), w')) : (fs.contains p).run w' = (true, w')
  read_written {p : FilePath} {bytes : List UInt8} {w w' : σ}
    (h : (fs.write p bytes).run w = (.ok (), w')) : (fs.read p).run w' = (.ok bytes, w')

section Faithful

variable {σ : Type} {fs : FileSystem (StateM σ)} {p : FilePath} {w w' : σ}

theorem FileSystem.Faithful.readText_world (hfs : fs.Faithful) (p : FilePath) (w : σ) :
    ((fs.readText p).run w).2 = w := by
  obtain ⟨bytes, w', hread⟩ : ∃ r w', (fs.read p).run w = (r, w') := ⟨_, _, rfl⟩
  have hw : w' = w := (congrArg Prod.snd hread).symm.trans (hfs.read_world p w)
  unfold FileSystem.readText
  rw [run_bind_of_run hread]
  cases bytes with
  | error fault => exact hw
  | ok bytes =>
    dsimp only
    split <;> exact hw

theorem FileSystem.Faithful.readText_written (hfs : fs.Faithful) {s : String}
    (h : (fs.write p s.toUTF8.toList).run w = (.ok (), w')) :
    (fs.readText p).run w' = (.ok s.toList, w') := by
  unfold FileSystem.readText
  rw [run_bind_of_run (hfs.read_written h)]
  dsimp only
  rw [Text.Utf8.decode_toUTF8]
  rfl

end Faithful

namespace Disk

variable {d d' : Disk} {p : FilePath} {bytes : List UInt8} {place goal : String}

def put (d : Disk) (place : String) (bytes : List UInt8) : Disk :=
  { d with nodes := d.nodes.insert place (.file bytes) }

theorem node?_put_self (h : place ≠ "") : (d.put place bytes).node? place = some (.file bytes) := by
  simp [node?, put, h, Table.get?_insert]

theorem node?_put_of_ne (h : goal ≠ place) : (d.put place bytes).node? goal = d.node? goal := by
  simp [node?, put, h, Table.get?_insert]

/-- A path that leads somewhere goes through directories only, so a file does not stand in its way. -/
theorem follow_put (hplace : d.node? place ≠ some .directory) {names : List String} {start : String}
    (h : d.follow start names = .ok goal) : (d.put place bytes).follow start names = .ok goal := by
  induction names generalizing start with
  | nil => exact h
  | cons name rest ih =>
    rw [follow] at h ⊢
    split_ifs at h ⊢ with hskip hup hlong hlast
    · exact ih h
    · exact ih h
    · exact h
    · cases hnode : d.node? (child start name) with
      | none => simp [hnode] at h
      | some node =>
        cases node with
        | file _ => simp [hnode] at h
        | directory =>
          have hne : child start name ≠ place := fun heq => hplace (heq ▸ hnode)
          rw [node?_put_of_ne hne]
          simp only [hnode] at h ⊢
          exact ih h

theorem resolve_put (hplace : d.node? place ≠ some .directory) (h : d.resolve p = .ok goal) :
    (d.put place bytes).resolve p = .ok goal := by
  unfold resolve at h ⊢
  have hstart : (d.put place bytes).start p = d.start p := rfl
  rw [hstart]
  cases hs : d.start p with
  | error fault => simp [hs, bind, Except.bind] at h
  | ok start =>
    rw [hs] at h
    exact follow_put hplace h

theorem write_eq_ok_iff : d.write p bytes = .ok d' ↔ ∃ place, d.resolve p = .ok place ∧
    d.node? place ≠ some .directory ∧ p.asksForDirectory = false ∧ d' = d.put place bytes := by
  cases hr : d.resolve p with
  | error fault => simp [write, hr, bind, Except.bind]
  | ok place =>
    have hput : d.put place bytes = { d with nodes := d.nodes.insert place (.file bytes) } := rfl
    cases hask : p.asksForDirectory <;> rcases hnode : d.node? place with _ | (_ | _) <;>
      simp [write, hr, hnode, hask, hput, bind, Except.bind, pure, Except.pure, eq_comm]

theorem find_of_write (h : d.write p bytes = .ok d') : d'.find p = .ok (.file bytes) := by
  obtain ⟨place, hresolve, hplace, hask, rfl⟩ := write_eq_ok_iff.1 h
  have hroot : place ≠ "" := by
    rintro rfl
    exact hplace rfl
  simp [find, resolve_put hplace hresolve, node?_put_self hroot, hask, bind, Except.bind, pure, Except.pure]

theorem writeStep_eq_ok_iff : writeStep p bytes d = (.ok (), d') ↔ d.write p bytes = .ok d' := by
  unfold writeStep
  cases d.write p bytes <;> simp

theorem faithful_fileSystem : fileSystem.Faithful where
  contains_world _ _ := rfl
  read_world _ _ := rfl
  contains_written {p bytes w w'} h := by
    have hfind := find_of_write (writeStep_eq_ok_iff.1 h)
    change (w'.contains p, w') = (true, w')
    rw [contains, hfind]
    rfl
  read_written {p bytes w w'} h := by
    have hfind := find_of_write (writeStep_eq_ok_iff.1 h)
    change (w'.read p, w') = (.ok bytes, w')
    rw [read, hfind]
    rfl

end Disk

end ServiceWatch.Files
