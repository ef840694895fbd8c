import VDiagnostics.Files

/-! Watching the folder of a document. A saved source fires once and then no other does until the window
has passed, since some editors report one save several times. -/

namespace VDiagnostics

structure SaveEvent (clock : Type) where
  path : Text
  time : clock
  isFolder : Bool

structure Watch (clock : Type) where
  folder : Text
  /-- The least time between two firings, if the settings give a number for it. -/
  window : Option clock
  last : clock

namespace Watch

variable {clock : Type}

/-- The place of a path that can be looked at, which is any without a null character. -/
def placed (cwd path : Text) : Except Fault Text :=
  if path.elem '\x00' then .error .nullInPath else .ok (Path.place cwd path)

/-- A watch on a folder that has not fired since the given time. -/
def ofFolder (cwd folder : Text) (window : Option clock) (start : clock) : Except Fault (Watch clock) :=
  (placed cwd folder).map fun folder => ⟨folder, window, start⟩

/-- The folder whose changes are asked for, on behalf of a file in it. -/
def observed (cwd path : Text) : Text :=
  Path.folder (Path.place cwd path)

/-- A watch on the folder of a file, which has to exist. -/
def ofFile (files : Files) (cwd path : Text) (window : Option clock) (start : clock) :
    Except Fault (Watch clock) := do
  let file ← placed cwd path
  if files.hasPath file then ofFolder cwd (observed cwd path) window start
  else .error (.cannotWatch path)

variable [Sub clock] [LT clock] [DecidableLT clock]

def covers (watch : Watch clock) (path : Text) : Bool :=
  Path.folder path == watch.folder && Path.isSource path

/-- A change of a file that the watch covers fires, if the window has passed. -/
def fire (watch : Watch clock) (path : Text) (time : clock) : Except Fault (Option Text × Watch clock) :=
  match watch.window with
  | none => .error .unusableSetting
  | some window =>
    if window < time - watch.last then .ok (some path, { watch with last := time })
    else .ok (none, watch)

/-- The path that fires, if any, and the watch afterwards. -/
def notice (watch : Watch clock) (cwd : Text) (event : SaveEvent clock) :
    Except Fault (Option Text × Watch clock) :=
  if event.isFolder then .ok (none, watch)
  else do
    let path ← placed cwd event.path
    if watch.covers path then watch.fire path event.time else .ok (none, watch)

end Watch

end VDiagnostics
