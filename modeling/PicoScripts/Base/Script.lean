import PicoScripts.Base.Bytes

/-!
# Effects of the scripts

A run of `src/script/compute_checksums.py` reads and rewrites one image file and prints
lines to standard output and standard error. `Script` threads that world through Python
code whose exceptions propagate: as in a Python frame, an exception keeps every effect
made before it. The external tools appear as functions of the image's bytes at the
moment they run.
-/

namespace PicoScripts

/-- The image on disk, whether its path exists, and the lines printed so far. -/
structure World where
  file : List UInt8
  present : Bool
  stdout : List (List Char)
  stderr : List (List Char)

/-- Python code over the world, raising uncaught `PyError`s. -/
abbrev Script := EStateM PyError World

/-- `open(path, 'rb').read()`. -/
def readFile : Script (List UInt8) := do return (← get).file

/-- `open(path, 'wb').write(data)`. -/
def writeFile (data : List UInt8) : Script Unit := modify fun w => { w with file := data }

/-- `print(s)`. -/
def printLine (s : List Char) : Script Unit :=
  modify fun w => { w with stdout := w.stdout ++ [s] }

/-- `print(s, file=sys.stderr)`. -/
def printErr (s : List Char) : Script Unit :=
  modify fun w => { w with stderr := w.stderr ++ [s] }

/-- Raise what a pure Python computation raised. -/
def liftExcept {α : Type} : Except PyError α → Script α
  | .ok a => pure a
  | .error e => throw e

section Run

variable {α β : Type} (w : World)

@[simp] theorem run_pure (a : α) : (pure a : Script α).run w = .ok a w := rfl

@[simp] theorem run_bind (x : Script α) (f : α → Script β) :
    (x >>= f).run w =
      match x.run w with
      | .ok a w' => (f a).run w'
      | .error e w' => .error e w' := by
  show EStateM.bind x f w = _
  unfold EStateM.bind EStateM.run
  cases x w <;> rfl

@[simp] theorem run_map (f : α → β) (x : Script α) :
    (f <$> x).run w =
      match x.run w with
      | .ok a w' => .ok (f a) w'
      | .error e w' => .error e w' := by
  show EStateM.map f x w = _
  unfold EStateM.map EStateM.run
  cases x w <;> rfl

@[simp] theorem run_readFile : readFile.run w = .ok w.file w := rfl

@[simp] theorem run_writeFile (d : List UInt8) :
    (writeFile d).run w = .ok () { w with file := d } := rfl

@[simp] theorem run_printLine (s : List Char) :
    (printLine s).run w = .ok () { w with stdout := w.stdout ++ [s] } := rfl

@[simp] theorem run_printErr (s : List Char) :
    (printErr s).run w = .ok () { w with stderr := w.stderr ++ [s] } := rfl

@[simp] theorem run_liftExcept_ok (a : α) : (liftExcept (.ok a : Except PyError α)).run w = .ok a w :=
  rfl

@[simp] theorem run_liftExcept_error (e : PyError) :
    (liftExcept (.error e : Except PyError α)).run w = .error e w := rfl

end Run

end PicoScripts
