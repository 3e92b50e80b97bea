import ScriptScan.Report

/-!
# Workers

Files may be scanned by several workers who share one catalog. The files are cut into chunks, at
most one for each worker and all of one size except perhaps the last, and a worker scans the files
of one chunk from first to last. The workers take their turns in any order. What came of the files
is told in the order of the files, whoever was first.
-/

namespace ScriptScan

/-- A list in chunks of the given size, of which the last may be shorter. No chunk is empty. -/
def chunksOf {α : Type} (size : Nat) : List α → List (List α)
  | [] => []
  | a :: as => (a :: as.take (size - 1)) :: chunksOf size (as.drop (size - 1))
termination_by as => as.length

/-- The size of the chunks that some files are cut into for a number of workers. -/
def chunkSize (files workers : Nat) : Nat :=
  let workers := min workers files
  (files + workers - 1) / workers

/-- A worker: the files that are still to be scanned, and what came of the others. -/
structure Worker where
  todo : List Path
  done : List Report.Outcome := []

/-- Some workers with the catalog that they share. -/
structure Pool where
  catalog : Catalog
  workers : List Worker

namespace Pool

/-- The pool before the first turn. -/
def start (c : Catalog) (workers : Nat) (files : List Path) : Pool :=
  { catalog := c
    workers := (chunksOf (chunkSize files.length workers) files).map ({ todo := · }) }

/-- The pool after one worker has scanned its next file. A worker with no file left does nothing. -/
def turn (setup : Setup) (fs : FileSystem) (pool : Pool) (i : Nat) : Pool :=
  match pool.workers[i]? with
  | some ⟨p :: ps, done⟩ =>
    let (c, r) := pool.catalog.scan setup fs .unknown p.text false
    ⟨c, pool.workers.set i ⟨ps, done ++ [(p, r)]⟩⟩
  | _ => pool

/-- The pool after some turns. -/
def run (setup : Setup) (fs : FileSystem) (pool : Pool) (turns : List Nat) : Pool :=
  turns.foldl (turn setup fs) pool

/-- Whether no file is left. -/
def isDone (pool : Pool) : Bool :=
  pool.workers.all (·.todo.isEmpty)

/-- What came of the files, chunk by chunk. -/
def outcomes (pool : Pool) : List Report.Outcome :=
  pool.workers.flatMap (·.done)

end Pool

end ScriptScan
