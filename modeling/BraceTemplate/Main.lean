import BraceTemplate.Command.Run

/-!
# The command

Reads the files that the arguments name and writes the document to the standard
output, or a message to the standard error.
-/

namespace BraceTemplate.Command

def readFile? (path : String) : IO (Option String) := do
  try
    return some (← IO.FS.readFile path)
  catch _ =>
    return none

def filesOf (a : Arguments) : List String :=
  [a.config, a.template, a.context].filterMap id

def readSources (a : Arguments) : IO Sources := do
  let files ← (filesOf a).mapM fun path => do return (path, ← readFile? path)
  let standardInput ←
    if a.template = some "-" then do
      let stdin ← IO.getStdin
      let bytes ← readAll stdin .empty
      pure (String.fromUTF8? bytes)
    else pure none
  return ⟨fun path => (files.lookup path).join, standardInput⟩
where
  readAll (stream : IO.FS.Stream) (bytes : ByteArray) : IO ByteArray := do
    let mut gathered := bytes
    repeat
      let chunk ← stream.read 65536
      if chunk.isEmpty then break
      gathered := gathered ++ chunk
    return gathered

end BraceTemplate.Command

open BraceTemplate Command in
def main (arguments : List String) : IO UInt32 := do
  match readArguments arguments with
  | .error .displayHelp =>
      IO.println (Failure.usage .displayHelp).message
      return 0
  | .error cause =>
      IO.eprintln (Failure.usage cause).message
      return 2
  | .ok a =>
      match document (← readSources a) a with
      | .ok text =>
          IO.print text
          return 0
      | .error failure =>
          IO.eprintln ("Error: " ++ failure.message)
          return 1
