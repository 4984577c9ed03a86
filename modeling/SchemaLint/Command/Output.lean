import SchemaLint.Command.Session

/-!
# Output

A command writes what it has to say to its output stream or to a file, which is made empty before
anything else, with the folders that are missing on the way to it.
-/

namespace SchemaLint

/-- Where a command writes. -/
inductive Output where
  | stream
  | file (path : Path)
  deriving DecidableEq, Repr

namespace Session
variable {m : Type → Type} [Monad m] (s : Session m)

/-- Does something with a path that may fail. -/
def attempt (action : m (Except FileFault Unit)) (path : Path) : ExceptT Failure m Unit :=
  ExceptT.adapt (Failure.file · path.text) (.mk action)

/-- A folder could not be made, which does no harm if it is there. -/
def excuse (fault : FileFault) (path : Path) : ExceptT Failure m Unit := do
  if (← s.kind? path) ≠ some .folder then throw (.file fault path.text)

/-- Makes a folder in a folder that is there. -/
def makeFolder (path : Path) : ExceptT Failure m Unit := do
  match ← s.host.makeFolder path with
  | .ok () => return ()
  | .error .notFound => throw (.file .notFound path.text)
  | .error fault => s.excuse fault path

/-- Makes a folder and those above it as far as they are missing, at most `fuel` of these. -/
def makeFolders : Nat → Path → ExceptT Failure m Unit
  | 0, path => s.makeFolder path
  | fuel + 1, path => do
    match ← s.host.makeFolder path with
    | .ok () => return ()
    | .error .notFound =>
      makeFolders fuel path.parent
      s.makeFolder path
    | .error fault => s.excuse fault path

/-- Opens a destination. Without one, or if it is a dash, it is the output stream. -/
def openOutput (destination : Option String) : ExceptT Failure m Output := do
  match destination with
  | none | some "-" => return .stream
  | some named =>
    let path := (← s.expandHome (.ofText named)).resolve (← s.here)
    if path.hasNull then throw .nullInResolvedPath
    s.makeFolders path.parent.parts.length path.parent
    attempt (s.host.truncate path) path
    return .file path

/-- Writes a text. -/
def put (output : Output) (text : String) : ExceptT Failure m Unit :=
  match output with
  | .stream => risk (s.host.write .out text)
  | .file path => risk (s.host.append path text)

end Session
end SchemaLint
