import DragonflyClient.Library.Table
import DragonflyClient.Library.Transition
import DragonflyClient.Storage.LruCache

/-!
The cache of file descriptors (`fs/fd.rs`) and the deletion of a task's file
(`content_linux.rs`).

An open that misses the cache looks it up, opens the file and inserts the descriptor in three
steps; a deletion drops the cached descriptors and removes the file after that.  A descriptor is
the inode that it was opened on.

The two caches are the `lru` crate's.  That `get`, `put` and `pop` of the crate do what they do
in `LruCache` is an assumption here.
-/

namespace DragonflyClient.Storage

open Library List LruCache

/-- `open` or `open_write`, which have a cache each. -/
inductive OpenMode where
  | read
  | write
  deriving DecidableEq, Repr

inductive OpenPhase where
  | begun
  | missed
  | opened (inode : Nat)
  | returned (inode : Nat)
  | failed
  deriving DecidableEq, Repr

structure OpenCall where
  mode : OpenMode
  path : String
  phase : OpenPhase
  deriving DecidableEq, Repr

/-- How far a deletion is: `fd_cache.remove` takes one cache after the other. -/
inductive DeletePhase where
  | begun
  | readDropped
  | dropped
  deriving DecidableEq, Repr

structure DeleteCall where
  path : String
  phase : DeletePhase
  deriving DecidableEq, Repr

def DeleteCall.past (delete : DeleteCall) : OpenMode → Bool
  | .read => delete.phase ≠ .begun
  | .write => delete.phase = .dropped

/-- The files by path, the two caches, and the calls that run.  A file that is created gets an
inode of its own. -/
structure FdSystem where
  files : Table String Nat
  nextInode : Nat
  readFds : LruCache String Nat
  writeFds : LruCache String Nat
  opens : List OpenCall
  deletes : List DeleteCall

inductive FdEvent where
  | create (path : String)
  | beginOpen (mode : OpenMode) (path : String)
  | lookup (call : Nat)
  | openFile (call : Nat)
  | insert (call : Nat)
  | beginDelete (path : String)
  | dropRead (call : Nat)
  | dropWrite (call : Nat)
  | removeFile (call : Nat) (succeeds : Bool)
  deriving DecidableEq, Repr

namespace FdSystem

/-- `FDCache::new`: at least one descriptor. -/
def new (capacity : Nat) : FdSystem :=
  ⟨∅, 0, LruCache.new (max capacity 1), LruCache.new (max capacity 1), [], []⟩

def fds (system : FdSystem) : OpenMode → LruCache String Nat
  | .read => system.readFds
  | .write => system.writeFds

def setFds (system : FdSystem) (cache : LruCache String Nat) : OpenMode → FdSystem
  | .read => { system with readFds := cache }
  | .write => { system with writeFds := cache }

def setOpen (system : FdSystem) (call : Nat) (running : OpenCall) (phase : OpenPhase) : FdSystem :=
  { system with opens := system.opens.set call { running with phase } }

def act (system : FdSystem) : FdEvent → Option FdSystem
  | .create path =>
    -- `File::create` of a file that is there keeps its inode
    match system.files.lookup path with
    | some _ => some system
    | none =>
      some { system with
        files := system.files.insert path system.nextInode
        nextInode := system.nextInode + 1 }
  | .beginOpen mode path => some { system with opens := system.opens ++ [⟨mode, path, .begun⟩] }
  | .lookup call =>
    match system.opens[call]? with
    | some ⟨mode, path, .begun⟩ =>
      match (system.fds mode).get path with
      | (some inode, cache) =>
        some ((system.setFds cache mode).setOpen call ⟨mode, path, .begun⟩ (.returned inode))
      | (none, cache) =>
        some ((system.setFds cache mode).setOpen call ⟨mode, path, .begun⟩ .missed)
    | _ => none
  | .openFile call =>
    match system.opens[call]? with
    | some ⟨mode, path, .missed⟩ =>
      match system.files.lookup path with
      | some inode => some (system.setOpen call ⟨mode, path, .missed⟩ (.opened inode))
      | none => some (system.setOpen call ⟨mode, path, .missed⟩ .failed)
    | _ => none
  | .insert call =>
    match system.opens[call]? with
    | some ⟨mode, path, .opened inode⟩ =>
      some ((system.setFds ((system.fds mode).put path inode).2 mode).setOpen call
        ⟨mode, path, .opened inode⟩ (.returned inode))
    | _ => none
  | .beginDelete path => some { system with deletes := system.deletes ++ [⟨path, .begun⟩] }
  | .dropRead call =>
    match system.deletes[call]? with
    | some ⟨path, .begun⟩ =>
      some { system with
        readFds := (system.readFds.pop path).2
        deletes := system.deletes.set call ⟨path, .readDropped⟩ }
    | _ => none
  | .dropWrite call =>
    match system.deletes[call]? with
    | some ⟨path, .readDropped⟩ =>
      some { system with
        writeFds := (system.writeFds.pop path).2
        deletes := system.deletes.set call ⟨path, .dropped⟩ }
    | _ => none
  | .removeFile call succeeds =>
    match system.deletes[call]? with
    | some ⟨path, .dropped⟩ =>
      some { system with
        files := if succeeds then system.files.erase path else system.files
        deletes := system.deletes.eraseIdx call }
    | _ => none

def returns (system : FdSystem) : FdEvent → Option (String × Nat)
  | .lookup call =>
    match system.opens[call]? with
    | some ⟨mode, path, .begun⟩ => ((system.fds mode).get path).1.map (path, ·)
    | _ => none
  | .insert call =>
    match system.opens[call]? with
    | some ⟨_, path, .opened inode⟩ => some (path, inode)
    | _ => none
  | _ => none

/-- From `File::open` until its descriptor is inserted, an open overlaps no deletion of the path
from where it drops this cache until it removes the file. -/
def Apart (system : FdSystem) : FdEvent → Prop
  | .openFile call => ∀ running, system.opens[call]? = some running →
      ∀ delete ∈ system.deletes, delete.path = running.path → delete.past running.mode = false
  | .dropRead call => ∀ delete, system.deletes[call]? = some delete →
      ∀ inode, ⟨.read, delete.path, .opened inode⟩ ∉ system.opens
  | .dropWrite call => ∀ delete, system.deletes[call]? = some delete →
      ∀ inode, ⟨.write, delete.path, .opened inode⟩ ∉ system.opens
  | _ => True

/-- The states from an empty disk, with opens and deletions apart. -/
def Reached (capacity : Nat) : FdSystem → Prop :=
  Reachable (· = new capacity)
    (Guarded (fun system event target => act system event = some target) Apart)

/-- The inode is at the path, and no deletion of it is past the cache of the mode. -/
structure Held (system : FdSystem) (mode : OpenMode) (path : String) (inode : Nat) : Prop where
  present : system.files.lookup path = some inode
  kept : ∀ delete ∈ system.deletes, delete.path = path → delete.past mode = false

/-- Every cached descriptor, and every one that an open is about to cache, is held. -/
structure Fresh (system : FdSystem) : Prop where
  cached : ∀ mode, ∀ entry ∈ (system.fds mode).entries, system.Held mode entry.1 entry.2
  opened : ∀ mode path inode, ⟨mode, path, .opened inode⟩ ∈ system.opens →
    system.Held mode path inode

section Held

variable {system : FdSystem} {mode : OpenMode} {path other : String} {inode fresh call : Nat}

section

variable (held : system.Held mode path inode)
include held

theorem Held.congr {target : FdSystem}
    (files : target.files = system.files) (deletes : target.deletes = system.deletes) :
    target.Held mode path inode :=
  ⟨files ▸ held.present, deletes ▸ held.kept⟩

theorem Held.create (absent : system.files.lookup other = none) :
    Held { system with
      files := system.files.insert other fresh
      nextInode := system.nextInode + 1 } mode path inode := by
  refine ⟨?_, held.kept⟩
  rw [Table.lookup_insert_eq, if_neg]
  · exact held.present
  · rintro rfl
    cases absent.symm.trans held.present

theorem Held.beginDelete :
    Held { system with deletes := system.deletes ++ [⟨other, .begun⟩] } mode path inode := by
  refine ⟨held.present, fun delete member same => ?_⟩
  rcases mem_append.mp member with before | new
  · exact held.kept delete before same
  · cases mem_singleton.mp new
    cases mode <;> rfl

theorem Held.drop {phase readFds writeFds}
    (apart : other = path → DeleteCall.past ⟨other, phase⟩ mode = false) :
    Held { system with
      readFds, writeFds, deletes := system.deletes.set call ⟨other, phase⟩ } mode path inode := by
  refine ⟨held.present, fun delete deleting same => ?_⟩
  rcases mem_or_eq_of_mem_set deleting with before | rfl
  · exact held.kept delete before same
  · exact apart same

theorem Held.removeFile (found : system.deletes[call]? = some ⟨other, .dropped⟩) (succeeds : Bool) :
    Held { system with
      files := if succeeds then system.files.erase other else system.files
      deletes := system.deletes.eraseIdx call } mode path inode := by
  refine ⟨?_, fun delete deleting => held.kept delete (mem_of_mem_eraseIdx deleting)⟩
  split
  next =>
    rw [Table.lookup_erase_eq, if_neg]
    · exact held.present
    · intro same
      have past := held.kept _ (mem_of_getElem? found) same.symm
      cases mode <;> cases past
  next => exact held.present

end

end Held

section Runs

variable {system target : FdSystem} {event : FdEvent} {path : String} {inode call : Nat}

section

variable (fresh : system.Fresh)
include fresh

theorem Fresh.of_held
    (cached : ∀ mode, ∀ entry ∈ (target.fds mode).entries, entry ∈ (system.fds mode).entries)
    (opens : target.opens = system.opens)
    (held : ∀ mode path inode, system.Held mode path inode → target.Held mode path inode) :
    target.Fresh where
  cached mode entry listed := held _ _ _ (fresh.cached mode entry (cached mode entry listed))
  opened mode path inode listed := held _ _ _ (fresh.opened mode path inode (opens ▸ listed))

theorem Fresh.setOpen (running : OpenCall) (phase : OpenPhase)
    (holds : ∀ inode, phase = .opened inode → system.Held running.mode running.path inode) :
    (system.setOpen call running phase).Fresh where
  cached mode entry listed :=
    (fresh.cached mode entry (by cases mode <;> exact listed)).congr rfl rfl
  opened mode path inode listed := by
    rcases mem_or_eq_of_mem_set listed with before | same
    · exact (fresh.opened mode path inode before).congr rfl rfl
    · cases same
      exact (holds inode rfl).congr rfl rfl

theorem Fresh.setFds {cache : LruCache String Nat} {mode}
    (entries : ∀ entry ∈ cache.entries, system.Held mode entry.1 entry.2) :
    (system.setFds cache mode).Fresh := by
  refine ⟨fun other entry listed => ?_, fun _ _ _ listed => ?_⟩
  · have held : system.Held other entry.1 entry.2 := by
      cases mode <;> cases other
      · exact entries entry listed
      · exact fresh.cached .write entry listed
      · exact fresh.cached .read entry listed
      · exact entries entry listed
    cases mode <;> exact held.congr rfl rfl
  · cases mode <;> exact (fresh.opened _ _ _ listed).congr rfl rfl

theorem Fresh.get (mode : OpenMode) (path : String) :
    (system.setFds ((system.fds mode).get path).2 mode).Fresh :=
  fresh.setFds fun entry listed => fresh.cached mode entry (mem_get listed)

theorem Fresh.put {mode} (held : system.Held mode path inode) :
    (system.setFds ((system.fds mode).put path inode).2 mode).Fresh := by
  refine fresh.setFds fun entry listed => ?_
  rcases mem_put listed with rfl | before
  · exact held
  · exact fresh.cached mode entry before

theorem Fresh.dropRead (none : ∀ inode, ⟨.read, path, .opened inode⟩ ∉ system.opens) :
    Fresh { system with
      readFds := (system.readFds.pop path).2
      deletes := system.deletes.set call ⟨path, .readDropped⟩ } := by
  refine ⟨fun mode entry listed => ?_, fun mode other inode listed => ?_⟩
  · cases mode with
    | read =>
      have ⟨member, different⟩ := mem_pop listed
      exact (fresh.cached .read entry member).drop fun same => absurd same.symm different
    | write => exact (fresh.cached .write entry listed).drop fun _ => rfl
  · refine (fresh.opened mode other inode listed).drop fun same => ?_
    cases mode with
    | read => exact absurd (same ▸ listed) (none inode)
    | write => rfl

theorem Fresh.dropWrite (none : ∀ inode, ⟨.write, path, .opened inode⟩ ∉ system.opens)
    (found : system.deletes[call]? = some ⟨path, .readDropped⟩) :
    Fresh { system with
      writeFds := (system.writeFds.pop path).2
      deletes := system.deletes.set call ⟨path, .dropped⟩ } := by
  -- nothing of the path has been held for reading since the drop before
  have reading {other : String} {inode : Nat} (held : system.Held .read other inode) :
      path ≠ other := by
    rintro rfl
    cases held.kept _ (mem_of_getElem? found) rfl
  refine ⟨fun mode entry listed => ?_, fun mode other inode listed => ?_⟩
  · cases mode with
    | read =>
      have held := fresh.cached .read entry listed
      exact held.drop fun same => absurd same (reading held)
    | write =>
      have ⟨member, different⟩ := mem_pop listed
      exact (fresh.cached .write entry member).drop fun same => absurd same.symm different
  · have held := fresh.opened mode other inode listed
    refine held.drop fun same => ?_
    cases mode with
    | read => exact absurd same (reading held)
    | write => exact absurd (same ▸ listed) (none inode)

theorem Fresh.act (moved : system.act event = some target)
    (apart : system.Apart event) : target.Fresh := by
  unfold FdSystem.act at moved
  split at moved
  next path =>
    split at moved
    next =>
      cases moved
      exact fresh
    next absent =>
      cases moved
      exact fresh.of_held (fun mode _ listed => by cases mode <;> exact listed) rfl
        fun _ _ _ held => held.create absent
  next mode path =>
    cases moved
    refine ⟨fun mode entry listed => ?_, fun mode path inode listed => ?_⟩
    · exact (fresh.cached mode entry (by cases mode <;> exact listed)).congr rfl rfl
    · rcases mem_append.mp listed with before | new
      · exact (fresh.opened mode path inode before).congr rfl rfl
      · cases mem_singleton.mp new
  next call =>
    split at moved
    next mode path found =>
      have kept := fresh.get mode path
      split at moved
      next got =>
        rw [got] at kept
        cases moved
        exact kept.setOpen _ _ fun _ same => by cases same
      next got =>
        rw [got] at kept
        cases moved
        exact kept.setOpen _ _ fun _ same => by cases same
    next => cases moved
  next call =>
    split at moved
    next mode path found =>
      split at moved
      next inode present =>
        cases moved
        refine fresh.setOpen _ _ fun _ same => ?_
        cases same
        exact ⟨present, apart _ found⟩
      next =>
        cases moved
        exact fresh.setOpen _ _ fun _ same => by cases same
    next => cases moved
  next call =>
    split at moved
    next mode path inode found =>
      cases moved
      have held := fresh.opened mode path inode (mem_of_getElem? found)
      exact (fresh.put held).setOpen _ _ fun _ same => by cases same
    next => cases moved
  next path =>
    cases moved
    exact fresh.of_held (fun mode _ listed => by cases mode <;> exact listed) rfl
      fun _ _ _ held => held.beginDelete
  next call =>
    split at moved
    next found =>
      cases moved
      exact fresh.dropRead (apart _ found)
    next => cases moved
  next call =>
    split at moved
    next found =>
      cases moved
      exact fresh.dropWrite (apart _ found) found
    next => cases moved
  next call succeeds =>
    split at moved
    next found =>
      cases moved
      exact fresh.of_held (fun mode _ listed => by cases mode <;> exact listed) rfl
        fun _ _ _ held => held.removeFile found succeeds
    next => cases moved

end

theorem Reached.fresh {capacity} (reached : Reached capacity system) : system.Fresh := by
  refine Reachable.invariant Fresh ?_ ?_ reached
  · rintro _ rfl
    refine ⟨fun mode entry listed => ?_, fun _ _ _ listed => ?_⟩
    · cases mode <;> cases listed
    · cases listed
  · exact fun _ _ _ fresh moved => fresh.act moved.1 moved.2

theorem Fresh.of_returns (fresh : system.Fresh)
    (returned : system.returns event = some (path, inode)) :
    system.files.lookup path = some inode := by
  unfold returns at returned
  split at returned
  next =>
    split at returned
    next mode opening found =>
      obtain ⟨cached, got, same⟩ := Option.map_eq_some_iff.mp returned
      cases same
      rw [get_fst] at got
      exact (fresh.cached mode _ (mem_of_peek got)).present
    next => cases returned
  next =>
    split at returned
    next mode opening inode found =>
      cases returned
      exact (fresh.opened mode _ _ (mem_of_getElem? found)).present
    next => cases returned
  next => cases returned

end Runs

/-- With opens and deletions apart, the descriptor of every open that returns is of the file that
is then at the path. -/
theorem returned_file_present {capacity : Nat} {system : FdSystem}
    (reached : Reached capacity system) (event : FdEvent) {path : String} {inode : Nat}
    (returned : system.returns event = some (path, inode)) :
    system.files.lookup path = some inode :=
  reached.fresh.of_returns returned

/-- A file is opened, deleted and created again; the third open finds the descriptor of the second
one, and it is of the new file. -/
theorem returned_file_present_of_hit :
    ∃ system, Reached 8 system ∧ system.returns (.lookup 2) = some ("path", 1) ∧
      system.files.lookup "path" = some 1 := by
  have empty : Reached 8 (new 8) := .start rfl
  have created := empty.act (FdEvent.create "path") rfl trivial
  have begun := created.act (FdEvent.beginOpen .read "path") rfl trivial
  have missed := begun.act (FdEvent.lookup 0) rfl trivial
  have opened := missed.act (FdEvent.openFile 0) rfl fun _ _ _ listed => by cases listed
  have inserted := opened.act (FdEvent.insert 0) rfl trivial
  have deleting := inserted.act (FdEvent.beginDelete "path") rfl trivial
  have dropped := deleting.act (FdEvent.dropRead 0) rfl fun _ _ _ listed => by
    cases (OpenCall.mk.inj (mem_singleton.mp listed)).2.2
  have bothDropped := dropped.act (FdEvent.dropWrite 0) rfl fun _ _ _ listed => by
    cases mem_singleton.mp listed
  have removed := bothDropped.act (FdEvent.removeFile 0 true) rfl trivial
  have anew := removed.act (FdEvent.create "path") rfl trivial
  have second := anew.act (FdEvent.beginOpen .read "path") rfl trivial
  have missedAgain := second.act (FdEvent.lookup 1) rfl trivial
  have reopened := missedAgain.act (FdEvent.openFile 1) rfl fun _ _ _ listed => by cases listed
  have cached := reopened.act (FdEvent.insert 1) rfl trivial
  have third := cached.act (FdEvent.beginOpen .read "path") rfl trivial
  exact ⟨_, third, rfl, returned_file_present third (.lookup 2) rfl⟩

/-- An open that has its descriptor before the deletion inserts it after the deletion; the next
open of the file created again gets the inode that was removed. -/
theorem returned_file_removed :
    ∃ system,
      perform act (new 8) [.create "path", .beginOpen .read "path", .lookup 0, .openFile 0,
        .beginDelete "path", .dropRead 0, .dropWrite 0, .removeFile 0 true, .insert 0,
        .create "path", .beginOpen .read "path"] = some system ∧
      system.returns (.lookup 1) = some ("path", 0) ∧ system.files.lookup "path" = some 1 :=
  ⟨_, rfl, rfl, rfl⟩

end FdSystem

end DragonflyClient.Storage
