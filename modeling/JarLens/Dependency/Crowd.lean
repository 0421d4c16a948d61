import JarLens.Dependency.Scan

/-!
# Scans at the same time

Scans that are asked for together go on in turns: each makes one step, then the next one does. A
scan that found nothing gets the lock of its key from the cache, waits until no other scan has that
lock, and looks at the cache again when it has got it. So there is at most one build of a key at a
time, and a scan that waited for a build that succeeded uses its result.
-/

namespace JarLens.Dependency

/-- How far a scan has come. -/
inductive Stage where
  | asked (path : Text) (options : ScanOptions)
  /-- Its project is known, and the cache is looked at next. -/
  | located (r : ScanRequest)
  /-- No result was stored; the lock that the cache gave it for its key is taken next. -/
  | missed (r : ScanRequest) (lock : Nat)
  /-- It has the lock, and looks at the cache once more. -/
  | holding (r : ScanRequest) (lock : Nat)
  /-- It has the lock and found nothing again; its build is started next. -/
  | clear (r : ScanRequest) (lock : Nat)
  /-- It has the lock, and its build is running. -/
  | building (b : Build) (lock : Nat)
  /-- It has the lock and the result of its build, which is stored next. -/
  | built (r : ScanRequest) (lock : Nat) (result : ScanResult)
  /-- It is over. There is no request if no project was found. -/
  | done (r : Option ScanRequest) (answer : Except Failure ScanResult)

/-- The lock that the cache has for a request's key, from then on at the latest. -/
def lockFor (r : ScanRequest) : Action Nat := do
  claimLock r
  pure ((← get).cache.lockOf r.key)

namespace Stage

/-- Whether a scan has a lock. -/
def holds (lock : Nat) : Stage → Bool
  | holding _ own | clear _ own | building _ own | built _ own _ => own = lock
  | _ => false

/-- Whether a scan can make a step by itself. -/
def canStep (isFree : Nat → Bool) : Stage → Bool
  | missed _ lock => isFree lock
  | building _ _ | done _ _ => false
  | _ => true

/-- The number of the tool that a scan waits for. -/
def tool? : Stage → Option Nat
  | building b _ => some b.tool.number
  | _ => none

/-- The answer of a scan, once it has one. -/
def answer? : Stage → Option (Except Failure ScanResult)
  | done _ answer => some answer
  | _ => none

/-- A scan that got its answer. -/
def answered (r : ScanRequest) (result : ScanResult) : Stage :=
  done (some r) (.ok result)

/-- Goes on to another stage. A failure is the answer of the scan. -/
def orDone (r : Option ScanRequest) (body : Action Stage) : Action Stage :=
  tryCatch body fun failure => pure (done r (.error failure))

/-- Makes the next step of a scan. It waits while the lock that it needs is not free, and while its
build is running. -/
def step (isFree : Nat → Bool) : Stage → Action Stage
  | asked path options => orDone none (located <$> locateProject path options)
  | located r => answerOr r (answered r) (missed r <$> lockFor r)
  | missed r lock => pure (if isFree lock then holding r lock else missed r lock)
  | holding r lock => answerOr r (answered r) (pure (clear r lock))
  | clear r lock => orDone r ((building · lock) <$> startBuild r)
  | built r _ result => answered r <$> storeResult r result
  | stage => pure stage

/-- Goes on with a scan whose build is finished now. -/
def conclude (finished : Finished) : Stage → Action Stage
  | building b lock => orDone b.request (built b.request lock <$> b.finish finished)
  | stage => pure stage

/-- Makes the next step of a scan. One that is clear to build starts its build at once. -/
def advance (isFree : Nat → Bool) (stage : Stage) : Action Stage := do
  match ← stage.step isFree with
  | clear r lock => (clear r lock).step isFree
  | stage => pure stage

/-- Goes on with a scan that waited for a tool which is finished now. The result is stored at
once. -/
def settle (number : Nat) (finished : Finished) (stage : Stage) : Action Stage := do
  if stage.tool? = some number then
    match ← stage.conclude finished with
    | built r lock result => (built r lock result).step fun _ => false
    | stage => pure stage
  else pure stage

end Stage

/-- Whether none of some scans has a lock. -/
def isFreeOf (stages : List Stage) (lock : Nat) : Bool :=
  !stages.any (·.holds lock)

/-- Lets scans make one step each, in order. Those before them have made theirs. -/
def stepAll (before : List Stage) : List Stage → Action (List Stage)
  | [] => pure before
  | stage :: after => do
    let stage ← stage.advance (isFreeOf (before ++ after))
    stepAll (before ++ [stage]) after

/-- Lets scans go on until all are done. Where none can make a step, the first build that is
finished goes on. -/
def runAll : (rounds : Nat) → List Stage → Action (List Stage)
  | 0, stages => pure stages
  | rounds + 1, stages => do
    if stages.any (·.canStep (isFreeOf stages)) then runAll rounds (← stepAll [] stages)
    else
      match stages.filterMap (·.tool?) with
      | [] => pure stages
      | first :: others => do
        let (number, finished) ← Action.await first others
        runAll rounds (← stages.mapM (·.settle number finished))

/-- How many steps a scan makes at most. -/
def longestScan : Nat := 5

/-- Scans places at the same time, and gives an answer for each of them. -/
def scanAll (asked : List (Text × ScanOptions)) : Action (List (Except Failure ScanResult)) := do
  let stages := asked.map fun (path, options) => Stage.asked path options
  let stages ← runAll (longestScan * asked.length + 1) stages
  pure (stages.filterMap (·.answer?))

end JarLens.Dependency
